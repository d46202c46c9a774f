import Mathlib.Logic.Function.Basic

/-!
# Ip2unix — socket addresses

`SockAddr` of `sockaddr.hh`: the tagged union over IPv4, IPv6 and UNIX endpoints that
`socket.cc` copies, compares and fills in. The file implementing it is not among the
sources, so everything past the constructors is modelled from the spec (§3, §4.B):

* the getters `getPort`, `getSockpath`, `getHost` and `getPortStr` that `bind`,
  `connect`, `rewrite_src` and `format_sockpath` read;
* the setters `setPort`, `setHost`, `setHostCred` and `setRandomHost`, which fail
  (`none`) only on an address that is not an IP one;
* `SockAddr.unix`, refused when the path does not fit `sun_path`;
* `isLoopback`: `127.0.0.0/8` or `::1`.

A host is a number of 32 or 128 bits and a port a number. `SocketType` of `types.hh` sits
here as well, since `format_sockpath` reads it.
-/

namespace Ip2unix

/-- `SocketType` of `types.hh`, derived from the `type` argument of `socket()`. -/
inductive SocketType
  | tcp
  | udp
  | invalid
  deriving DecidableEq, Repr

/-- The families a `Socket` is created for: `AF_INET` and `AF_INET6` (§4.H). -/
inductive Family
  | inet
  | inet6
  deriving DecidableEq, Repr

/-- `struct ucred`: what `SO_PEERCRED` reports, and what `getuid`/`getgid`/`getpid` give. -/
structure Ucred where
  uid : Nat
  gid : Nat
  pid : Nat
  deriving DecidableEq, Repr

/-- `SockAddr`: an IP endpoint, a UNIX path, or an address that is neither (an unnamed
UNIX peer, another family). -/
inductive SockAddr
  | ip (family : Family) (host : Nat) (port : Nat)
  | path (sockpath : String)
  | unnamed
  deriving DecidableEq, Repr

namespace Family

/-- `127.0.0.1` and `::1`. -/
def loopback : Family → Nat
  | inet => 0x7f000001
  | inet6 => 1

/-- How many hosts the family has. -/
def hostSpace : Family → Nat
  | inet => Nat.pow 2 32
  | inet6 => Nat.pow 2 128

/-- Modelled from the spec: the host `set_host(const ucred &)` derives (§4.B). IPv6 packs
the whole tuple into the low 96 bits; IPv4 keeps the low byte of each of `uid`, `gid` and
`pid` under `10.0.0.0/8`. -/
def credHost : Family → Ucred → Nat
  | inet, c =>
    10 * Nat.pow 2 24 + c.uid % Nat.pow 2 8 * Nat.pow 2 16 + c.gid % Nat.pow 2 8 * Nat.pow 2 8 +
      c.pid % Nat.pow 2 8
  | inet6, c =>
    c.uid % Nat.pow 2 32 * Nat.pow 2 64 + c.gid % Nat.pow 2 32 * Nat.pow 2 32 +
      c.pid % Nat.pow 2 32

/-- The dotted quad of the low 32 bits of a host. -/
def dottedQuad (h : Nat) : String :=
  ".".intercalate ([3, 2, 1, 0].map fun i => toString (h / Nat.pow 2 (8 * i) % 256))

/-- The eight 16-bit groups of an IPv6 host, the most significant first. -/
def groups (h : Nat) : List Nat :=
  [7, 6, 5, 4, 3, 2, 1, 0].map fun i => h / Nat.pow 2 (16 * i) % Nat.pow 2 16

/-- The number of zero groups a list of groups starts with. -/
def zeroRun : List Nat → Nat
  | 0 :: ws => zeroRun ws + 1
  | _ => 0

/-- The run of zero groups `inet_ntop` writes as `::`, as its start and length: the longest,
the leftmost of the longest; none when no run has two groups. -/
def longestZeroRun (ws : List Nat) : Option (Nat × Nat) :=
  let best := (List.range ws.length).foldl
    (fun best i => if best.2 < zeroRun (ws.drop i) then (i, zeroRun (ws.drop i)) else best) (0, 0)
  if best.2 < 2 then none else some best

/-- A group in lowercase hexadecimal, without leading zeros. -/
def hexGroup (w : Nat) : String := String.mk (Nat.toDigits 16 w)

/-- Modelled from the spec: `get_host` (whose file is not among the sources) gives the text
`inet_ntop` gives for a host, as glibc writes it. IPv4 is a dotted quad. IPv6 is eight
hexadecimal groups, the longest run of two or more zero groups (the leftmost of equals)
written `::`; an address whose first five groups are zero and whose sixth is zero or
`ffff` ends in the dotted quad of its last 32 bits. -/
def hostText : Family → Nat → String
  | inet, h => dottedQuad h
  | inet6, h =>
    let ws := groups h
    match longestZeroRun ws with
    | none => ":".intercalate (ws.map hexGroup)
    | some (b, l) =>
      if b = 0 ∧ (l = 6 ∨ l = 5 ∧ ws.getD 5 0 = 0xffff) then
        "::" ++ (if l = 5 then "ffff:" else "") ++ dottedQuad h
      else
        ":".intercalate ((ws.take b).map hexGroup) ++ "::" ++
          ":".intercalate ((ws.drop (b + l)).map hexGroup)

example : inet6.hostText 1 = "::1" := by decide
example : inet6.hostText 0 = "::" := by decide
example : inet6.hostText (0x20010db8 * Nat.pow 2 96 + Nat.pow 2 48 + 1) = "2001:db8::1:0:0:1" := by
  decide
example : inet6.hostText (0xffff * Nat.pow 2 32 + 0x7f000001) = "::ffff:127.0.0.1" := by decide
example : inet.hostText 0x7f000001 = "127.0.0.1" := by decide

end Family

namespace SockAddr

/-- `is_loopback`: `127.0.0.0/8` or `::1`. -/
def isLoopback : SockAddr → Bool
  | ip .inet host _ => host / Nat.pow 2 24 % 256 == 127
  | ip .inet6 host _ => host == 1
  | _ => false

/-- `get_port`: present on IP addresses only. -/
def getPort : SockAddr → Option Nat
  | ip _ _ port => some port
  | _ => none

/-- `get_sockpath`: present on UNIX addresses only. -/
def getSockpath : SockAddr → Option String
  | path p => some p
  | _ => none

/-- `get_host`, the text `%a` expands to. -/
def getHost : SockAddr → Option String
  | ip family host _ => some (family.hostText host)
  | _ => none

/-- `get_port_str`, the text `%p` expands to. -/
def getPortStr : SockAddr → Option String
  | ip _ _ port => some (toString port)
  | _ => none

/-- `set_port`. -/
def setPort (a : SockAddr) (port : Nat) : Option SockAddr :=
  match a with
  | ip family host _ => some (ip family host port)
  | _ => none

/-- Modelled from the spec: `set_host(const SockAddr &)` yields a loopback address of the
address's own family, the template's host when the template is of that family. -/
def setHost (a tmpl : SockAddr) : Option SockAddr :=
  match a, tmpl with
  | ip family _ port, ip family' host _ =>
    some (ip family (if family' = family then host else family.loopback) port)
  | ip family _ port, _ => some (ip family family.loopback port)
  | _, _ => none

/-- `set_host(const ucred &)`. -/
def setHostCred (a : SockAddr) (cred : Ucred) : Option SockAddr :=
  match a with
  | ip family _ port => some (ip family (family.credHost cred) port)
  | _ => none

/-- `set_random_host`: the host the random source drew, cut to the family's width. -/
def setRandomHost (a : SockAddr) (drawn : Nat) : Option SockAddr :=
  match a with
  | ip family _ port => some (ip family (drawn % family.hostSpace) port)
  | _ => none

/-- Size of `sun_path`, the terminating NUL included. -/
def sunPathSize : Nat := 108

/-- `SockAddr::unix`: the UNIX address of a path, unless the path does not fit `sun_path`. -/
def unix (p : String) : Option SockAddr :=
  if p.utf8ByteSize < sunPathSize then some (path p) else none

@[simp] theorem getPort_ip (f : Family) (h p : Nat) : (ip f h p).getPort = some p := rfl

@[simp] theorem setPort_ip (f : Family) (h p q : Nat) : (ip f h p).setPort q = some (ip f h q) :=
  rfl

@[simp] theorem setHostCred_ip (f : Family) (h p : Nat) (c : Ucred) :
    (ip f h p).setHostCred c = some (ip f (f.credHost c) p) := rfl

@[simp] theorem setRandomHost_ip (f : Family) (h p d : Nat) :
    (ip f h p).setRandomHost d = some (ip f (d % f.hostSpace) p) := rfl

theorem setHost_ip (f : Family) (h p : Nat) (tmpl : SockAddr) :
    ∃ h', (ip f h p).setHost tmpl = some (ip f h' p) := by
  cases tmpl <;> simp [setHost]

/-- A UNIX address built by `SockAddr::unix` names the path it was built for. -/
theorem unix_eq_some {p : String} {a : SockAddr} (h : unix p = some a) : a = path p := by
  unfold unix at h
  split at h
  · exact (Option.some.inj h).symm
  · cases h

@[simp] theorem getSockpath_path (p : String) : (path p).getSockpath = some p := rfl

end SockAddr

end Ip2unix
