import Ip2unix.SockAddr

/-!
# Ip2unix — descriptors, the real calls and the process state

The `real::` gateway of `realcalls.hh` (§4.A) and the process state it reads and writes.
A descriptor refers to a socket object of the kernel; several descriptors may refer to
one object (after `dup2`), and an object carries its kind (the IP socket the program
asked for, or a UNIX one), the options applied to it and what it is bound and connected
to. The outcome of every real call is an input of the model (`Outcomes`); the kernel
rules kept are only those the code cannot do without: a call on a closed descriptor fails
with `EBADF`, and a socket that is already bound refuses `bind` with `EINVAL`.

`SockOpt` and `replayable` model the option cache of `sockopts.hh`, whose source is not
among the sources: records are appended (§4.E), and replay re-applies every record except
the `setsockopt`s of the IP levels (`IPPROTO_IP`, `IPPROTO_TCP`, `IPPROTO_IPV6`), which a
UNIX socket refuses.
-/

namespace Ip2unix

/-- What a socket object is: still an IP socket, or a UNIX one. -/
inductive Kind
  | ip
  | unix
  deriving DecidableEq, Repr

/-- The `errno` values the model names. -/
inductive Errno
  | efault
  | eaddrnotavail
  | einval
  | ebadf
  | other (n : Nat)
  deriving DecidableEq, Repr

/-- A record of the option cache: a successful `setsockopt` or `ioctl`. -/
inductive SockOpt
  | sockopt (level optname : Nat) (optval : List Nat)
  | ioctl (request : Nat) (arg : List Nat)
  deriving DecidableEq, Repr

/-- Modelled from the spec (§4.E): replay drops the `setsockopt`s of `IPPROTO_IP` (0),
`IPPROTO_TCP` (6) and `IPPROTO_IPV6` (41) and keeps every other record. -/
def SockOpt.replayable : SockOpt → Bool
  | sockopt level _ _ => level ∉ [0, 6, 41]
  | ioctl _ _ => true

/-- A socket object of the kernel, which descriptors refer to. -/
structure SockObj where
  kind : Kind
  opts : List SockOpt
  boundTo : Option SockAddr
  connectedTo : Option SockAddr
  deriving DecidableEq, Repr

/-- Bound and connected to nothing, as a new socket is. -/
def SockObj.Fresh (obj : SockObj) : Prop := obj.boundTo = none ∧ obj.connectedTo = none

instance (obj : SockObj) : Decidable obj.Fresh := inferInstanceAs (Decidable (_ ∧ _))

/-- The outcome of each real call an intercepted call may make: `.ok`, or the `errno` the
call failed with. `socket` carries the descriptor `socket(AF_UNIX, ...)` returned, `call`
what a forwarded `setsockopt` or `ioctl` returned, `blackhole` the path
`BlackHole::get_path` made, and `drawn` the value behind `set_random_host`. -/
structure Outcomes where
  socket : Except Errno Nat
  replay : Except Errno Unit
  dup2 : Except Errno Unit
  bind : Except Errno Unit
  connect : Except Errno Unit
  accept : Except Errno Unit
  close : Except Errno Unit
  call : Except Errno Nat
  blackhole : Option String
  peercred : Except Errno Ucred
  drawn : Nat

/-- Every real call succeeds: `socket` returns `fd`, the forwarded calls return `0`,
`BlackHole` makes `bh`, the peer is `cred` and the random source draws `drawn`. -/
def Outcomes.allOk (fd : Nat) (bh : String) (cred : Ucred) (drawn : Nat) : Outcomes where
  socket := .ok fd
  replay := .ok ()
  dup2 := .ok ()
  bind := .ok ()
  connect := .ok ()
  accept := .ok ()
  close := .ok ()
  call := .ok 0
  blackhole := some bh
  peercred := .ok cred
  drawn := drawn

/-- The process state next to the `Socket`s: `Socket::sockpath_registry`, the descriptor
table (a descriptor names a socket object, several may name one), the socket objects,
`errno`, the socket files unlinked so far, and the process's own credentials. -/
structure Sys where
  sockpathRegistry : String → Bool
  fds : Nat → Option Nat
  objs : Nat → Option SockObj
  nextObj : Nat
  errno : Errno
  unlinked : List String
  cred : Ucred

namespace Sys

/-- Nothing registered, the given descriptors and objects. -/
def init (fds : Nat → Option Nat) (objs : Nat → Option SockObj) (nextObj : Nat) (cred : Ucred) :
    Sys where
  sockpathRegistry := fun _ => false
  fds := fds
  objs := objs
  nextObj := nextObj
  errno := .other 0
  unlinked := []
  cred := cred

/-- The object descriptor `fd` refers to, with its number. -/
def lookup (k : Sys) (fd : Nat) : Option (Nat × SockObj) :=
  match k.fds fd with
  | some id => (k.objs id).map fun obj => (id, obj)
  | none => none

/-- The object descriptor `fd` refers to. -/
def obj (k : Sys) (fd : Nat) : Option SockObj := (k.fds fd).bind k.objs

/-- The address the socket `fd` refers to is bound to. -/
def boundAt (k : Sys) (fd : Nat) : Option SockAddr := (k.obj fd).bind SockObj.boundTo

/-- The address the socket `fd` refers to is connected to. -/
def connectedAt (k : Sys) (fd : Nat) : Option SockAddr := (k.obj fd).bind SockObj.connectedTo

/-- A call failed: `errno` holds its error. -/
def fail (err : Errno) (k : Sys) : Sys := { k with errno := err }

/-- `unlink` of each path, `errno` saved and restored around it: the files are gone. -/
def unlink (paths : List String) (k : Sys) : Sys := { k with unlinked := k.unlinked ++ paths }

@[simp] theorem unlink_fds (ps : List String) (k : Sys) : (k.unlink ps).fds = k.fds := rfl

@[simp] theorem unlink_objs (ps : List String) (k : Sys) : (k.unlink ps).objs = k.objs := rfl

@[simp] theorem unlink_nextObj (ps : List String) (k : Sys) :
    (k.unlink ps).nextObj = k.nextObj := rfl

@[simp] theorem unlink_sockpathRegistry (ps : List String) (k : Sys) :
    (k.unlink ps).sockpathRegistry = k.sockpathRegistry := rfl

@[simp] theorem unlink_errno (ps : List String) (k : Sys) : (k.unlink ps).errno = k.errno := rfl

@[simp] theorem unlink_cred (ps : List String) (k : Sys) : (k.unlink ps).cred = k.cred := rfl

@[simp] theorem unlink_unlinked (ps : List String) (k : Sys) :
    (k.unlink ps).unlinked = k.unlinked ++ ps := rfl

@[simp] theorem obj_unlink (ps : List String) (k : Sys) : (k.unlink ps).obj = k.obj := rfl

@[simp] theorem boundAt_unlink (ps : List String) (k : Sys) :
    (k.unlink ps).boundAt = k.boundAt := rfl

@[simp] theorem connectedAt_unlink (ps : List String) (k : Sys) :
    (k.unlink ps).connectedAt = k.connectedAt := rfl

/-- Descriptor `fd` now refers to object `id` (or is closed). -/
def setFd (fd : Nat) (id : Option Nat) (k : Sys) : Sys :=
  { k with fds := Function.update k.fds fd id }

/-- Object `id` is now in state `obj`. -/
def setObj (id : Nat) (obj : SockObj) (k : Sys) : Sys :=
  { k with objs := Function.update k.objs id (some obj) }

/-- A new socket object of the given kind at `fd`, connected to `peer` if any. -/
def openObj (fd : Nat) (kind : Kind) (peer : Option SockAddr) (k : Sys) : Sys :=
  { k with
    fds := Function.update k.fds fd (some k.nextObj)
    objs := Function.update k.objs k.nextObj (some ⟨kind, [], none, peer⟩)
    nextObj := k.nextObj + 1 }

/-- `has_sockpath`. -/
def hasSockpath (path : String) (k : Sys) : Bool := k.sockpathRegistry path

/-- `real::socket(AF_UNIX, ...)`: the descriptor of a new UNIX socket. -/
def realSocket (o : Outcomes) (k : Sys) : Except Errno (Nat × Sys) :=
  match o.socket with
  | .ok fd => .ok (fd, k.openObj fd .unix none)
  | .error err => .error err

/-- The descriptor `make_unix` works on: the one it was given, or a new UNIX socket. -/
def openUnix (o : Outcomes) (oldfd : Option Nat) (k : Sys) : Except Errno (Nat × Sys) :=
  match oldfd with
  | some fd => .ok (fd, k)
  | none => k.realSocket o

/-- `real::close`: the descriptor is released whatever the call returns. -/
def realClose (fd : Nat) (k : Sys) : Sys := k.setFd fd none

/-- `SockOpts::replay(fd, newfd)`: the replayable records, in order, applied to `newfd`. -/
def replay (o : Outcomes) (opts : List SockOpt) (newfd : Nat) (k : Sys) : Except Errno Sys :=
  match k.lookup newfd, o.replay with
  | some (id, obj), .ok () =>
    .ok (k.setObj id { obj with opts := obj.opts ++ opts.filter SockOpt.replayable })
  | some _, .error err => .error err
  | none, _ => .error .ebadf

/-- `dup2(src, dst)`: `dst` refers to the object `src` refers to. -/
def realDup2 (o : Outcomes) (src dst : Nat) (k : Sys) : Except Errno Sys :=
  match k.fds src, o.dup2 with
  | some id, .ok () => .ok (k.setFd dst (some id))
  | some _, .error err => .error err
  | none, _ => .error .ebadf

/-- `real::bind`; a bound socket refuses it. -/
def realBind (o : Outcomes) (fd : Nat) (addr : SockAddr) (k : Sys) : Except Errno Sys :=
  match k.lookup fd with
  | none => .error .ebadf
  | some (id, obj) =>
    if obj.boundTo.isSome then .error .einval
    else match o.bind with
      | .ok () => .ok (k.setObj id { obj with boundTo := some addr })
      | .error err => .error err

/-- `real::connect`. -/
def realConnect (o : Outcomes) (fd : Nat) (addr : SockAddr) (k : Sys) : Except Errno Sys :=
  match k.lookup fd, o.connect with
  | some (id, obj), .ok () => .ok (k.setObj id { obj with connectedTo := some addr })
  | some _, .error err => .error err
  | none, _ => .error .ebadf

/-- The real `accept` on `listenfd`, which the intercepted call makes before
`Socket::accept`: `newfd` is a new connected socket of the listener's kind. -/
def realAccept (o : Outcomes) (listenfd newfd : Nat) (k : Sys) : Except Errno Sys :=
  match k.obj listenfd, o.accept with
  | some obj, .ok () => .ok (k.openObj newfd obj.kind (some .unnamed))
  | some _, .error err => .error err
  | none, _ => .error .ebadf

/-- A forwarded `real::setsockopt` or `real::ioctl`: what it returned, the option applied. -/
def realCall (o : Outcomes) (fd : Nat) (opt : SockOpt) (k : Sys) : Except Errno (Nat × Sys) :=
  match k.lookup fd, o.call with
  | some (id, obj), .ok n => .ok (n, k.setObj id { obj with opts := obj.opts ++ [opt] })
  | some _, .error err => .error err
  | none, _ => .error .ebadf

@[simp] theorem fail_unlinked (err : Errno) (k : Sys) : (k.fail err).unlinked = k.unlinked := rfl

/-- `k'` differs from `k` in descriptors, socket objects and `errno` only: what every
real call leaves alone. -/
structure FdsOnly (k k' : Sys) : Prop where
  registry : k'.sockpathRegistry = k.sockpathRegistry
  unlinked : k'.unlinked = k.unlinked
  cred : k'.cred = k.cred

theorem FdsOnly.refl (k : Sys) : FdsOnly k k := ⟨rfl, rfl, rfl⟩

theorem FdsOnly.trans {k₁ k₂ k₃ : Sys} (h₁ : FdsOnly k₁ k₂) (h₂ : FdsOnly k₂ k₃) :
    FdsOnly k₁ k₃ :=
  ⟨h₂.registry.trans h₁.registry, h₂.unlinked.trans h₁.unlinked, h₂.cred.trans h₁.cred⟩

theorem fdsOnly_fail (err : Errno) (k : Sys) : FdsOnly k (k.fail err) := ⟨rfl, rfl, rfl⟩

theorem fdsOnly_setFd (fd : Nat) (id : Option Nat) (k : Sys) : FdsOnly k (k.setFd fd id) :=
  ⟨rfl, rfl, rfl⟩

theorem fdsOnly_setObj (id : Nat) (obj : SockObj) (k : Sys) : FdsOnly k (k.setObj id obj) :=
  ⟨rfl, rfl, rfl⟩

theorem fdsOnly_openObj (fd : Nat) (kind : Kind) (peer : Option SockAddr) (k : Sys) :
    FdsOnly k (k.openObj fd kind peer) := ⟨rfl, rfl, rfl⟩

/-! ### One inversion lemma per real call

What a real call that succeeded did; the frame facts follow from them. -/

theorem realSocket_eq {o : Outcomes} {k k' : Sys} {fd : Nat}
    (h : k.realSocket o = .ok (fd, k')) : o.socket = .ok fd ∧ k' = k.openObj fd .unix none := by
  unfold realSocket at h
  split at h <;> cases h
  exact ⟨‹_›, rfl⟩

theorem replay_eq {o : Outcomes} {opts : List SockOpt} {fd : Nat} {k k' : Sys}
    (h : k.replay o opts fd = .ok k') :
    ∃ id obj, k.lookup fd = some (id, obj) ∧ o.replay = .ok () ∧
      k' = k.setObj id { obj with opts := obj.opts ++ opts.filter SockOpt.replayable } := by
  unfold replay at h
  split at h <;> cases h
  exact ⟨_, _, ‹_›, ‹_›, rfl⟩

theorem realDup2_eq {o : Outcomes} {src dst : Nat} {k k' : Sys}
    (h : k.realDup2 o src dst = .ok k') :
    ∃ id, k.fds src = some id ∧ o.dup2 = .ok () ∧ k' = k.setFd dst (some id) := by
  unfold realDup2 at h
  split at h <;> cases h
  exact ⟨_, ‹_›, ‹_›, rfl⟩

theorem realBind_eq {o : Outcomes} {fd : Nat} {addr : SockAddr} {k k' : Sys}
    (h : k.realBind o fd addr = .ok k') :
    ∃ id obj, k.lookup fd = some (id, obj) ∧ obj.boundTo = none ∧ o.bind = .ok () ∧
      k' = k.setObj id { obj with boundTo := some addr } := by
  unfold realBind at h
  split at h
  · cases h
  · rename_i id obj hobj
    split at h
    · cases h
    · split at h <;> cases h
      exact ⟨id, obj, hobj, by simpa using ‹¬obj.boundTo.isSome = true›, ‹_›, rfl⟩

theorem realConnect_eq {o : Outcomes} {fd : Nat} {addr : SockAddr} {k k' : Sys}
    (h : k.realConnect o fd addr = .ok k') :
    ∃ id obj, k.lookup fd = some (id, obj) ∧ o.connect = .ok () ∧
      k' = k.setObj id { obj with connectedTo := some addr } := by
  unfold realConnect at h
  split at h <;> cases h
  exact ⟨_, _, ‹_›, ‹_›, rfl⟩

theorem realAccept_eq {o : Outcomes} {listenfd newfd : Nat} {k k' : Sys}
    (h : k.realAccept o listenfd newfd = .ok k') :
    ∃ obj, k.obj listenfd = some obj ∧ o.accept = .ok () ∧
      k' = k.openObj newfd obj.kind (some .unnamed) := by
  unfold realAccept at h
  split at h <;> cases h
  exact ⟨_, ‹_›, ‹_›, rfl⟩

theorem realCall_eq {o : Outcomes} {fd : Nat} {opt : SockOpt} {k k' : Sys} {n : Nat}
    (h : k.realCall o fd opt = .ok (n, k')) :
    ∃ id obj, k.lookup fd = some (id, obj) ∧ o.call = .ok n ∧
      k' = k.setObj id { obj with opts := obj.opts ++ [opt] } := by
  unfold realCall at h
  split at h <;> cases h
  exact ⟨_, _, ‹_›, ‹_›, rfl⟩

theorem openUnix_fdsOnly {o : Outcomes} {oldfd : Option Nat} {k k' : Sys} {fd : Nat}
    (h : k.openUnix o oldfd = .ok (fd, k')) : FdsOnly k k' := by
  cases oldfd with
  | some fd' => cases h; exact .refl k
  | none => rw [(realSocket_eq h).2]; exact fdsOnly_openObj _ _ _ _

theorem fdsOnly_realClose (fd : Nat) (k : Sys) : FdsOnly k (k.realClose fd) := ⟨rfl, rfl, rfl⟩

theorem replay_fdsOnly {o : Outcomes} {opts : List SockOpt} {fd : Nat} {k k' : Sys}
    (h : k.replay o opts fd = .ok k') : FdsOnly k k' := by
  obtain ⟨_, _, _, _, rfl⟩ := replay_eq h
  exact fdsOnly_setObj _ _ _

theorem realDup2_fdsOnly {o : Outcomes} {src dst : Nat} {k k' : Sys}
    (h : k.realDup2 o src dst = .ok k') : FdsOnly k k' := by
  obtain ⟨_, _, _, rfl⟩ := realDup2_eq h
  exact fdsOnly_setFd _ _ _

theorem realBind_fdsOnly {o : Outcomes} {fd : Nat} {addr : SockAddr} {k k' : Sys}
    (h : k.realBind o fd addr = .ok k') : FdsOnly k k' := by
  obtain ⟨_, _, _, _, _, rfl⟩ := realBind_eq h
  exact fdsOnly_setObj _ _ _

theorem realConnect_fdsOnly {o : Outcomes} {fd : Nat} {addr : SockAddr} {k k' : Sys}
    (h : k.realConnect o fd addr = .ok k') : FdsOnly k k' := by
  obtain ⟨_, _, _, _, rfl⟩ := realConnect_eq h
  exact fdsOnly_setObj _ _ _

theorem realAccept_fdsOnly {o : Outcomes} {listenfd newfd : Nat} {k k' : Sys}
    (h : k.realAccept o listenfd newfd = .ok k') : FdsOnly k k' := by
  obtain ⟨_, _, _, rfl⟩ := realAccept_eq h
  exact fdsOnly_openObj _ _ _ _

theorem realCall_fdsOnly {o : Outcomes} {fd : Nat} {opt : SockOpt} {k k' : Sys} {n : Nat}
    (h : k.realCall o fd opt = .ok (n, k')) : FdsOnly k k' := by
  obtain ⟨_, _, _, _, rfl⟩ := realCall_eq h
  exact fdsOnly_setObj _ _ _

@[simp] theorem setFd_fds (fd : Nat) (id : Option Nat) (k : Sys) :
    (k.setFd fd id).fds = Function.update k.fds fd id := rfl

@[simp] theorem setFd_objs (fd : Nat) (id : Option Nat) (k : Sys) :
    (k.setFd fd id).objs = k.objs := rfl

@[simp] theorem setObj_fds (id : Nat) (obj : SockObj) (k : Sys) : (k.setObj id obj).fds = k.fds :=
  rfl

@[simp] theorem setObj_objs (id : Nat) (obj : SockObj) (k : Sys) :
    (k.setObj id obj).objs = Function.update k.objs id (some obj) := rfl

@[simp] theorem fail_fds (err : Errno) (k : Sys) : (k.fail err).fds = k.fds := rfl

@[simp] theorem fail_objs (err : Errno) (k : Sys) : (k.fail err).objs = k.objs := rfl

@[simp] theorem fail_sockpathRegistry (err : Errno) (k : Sys) :
    (k.fail err).sockpathRegistry = k.sockpathRegistry := rfl

@[simp] theorem fail_errno (err : Errno) (k : Sys) : (k.fail err).errno = err := rfl

theorem lookup_eq_some {k : Sys} {fd id : Nat} {obj : SockObj} :
    k.lookup fd = some (id, obj) ↔ k.fds fd = some id ∧ k.objs id = some obj := by
  unfold lookup
  split
  · rename_i id' hfd
    simp only [hfd, Option.map_eq_some', Prod.mk.injEq, Option.some.injEq]
    constructor
    · rintro ⟨o, ho, rfl, rfl⟩; exact ⟨rfl, ho⟩
    · rintro ⟨rfl, ho⟩; exact ⟨obj, ho, rfl, rfl⟩
  · simp_all

theorem realBind_boundAt {o : Outcomes} {fd : Nat} {addr : SockAddr} {k k' : Sys}
    (h : k.realBind o fd addr = .ok k') : k'.boundAt fd = some addr := by
  obtain ⟨id, obj, hl, -, -, rfl⟩ := realBind_eq h
  simp [boundAt, Sys.obj, (lookup_eq_some.1 hl).1]

/-- `real::bind` connects nothing. -/
theorem realBind_connectedAt {o : Outcomes} {fd : Nat} {addr : SockAddr} {k k' : Sys}
    (h : k.realBind o fd addr = .ok k') : k'.connectedAt = k.connectedAt := by
  obtain ⟨id, obj, hl, -, -, rfl⟩ := realBind_eq h
  funext fd'
  simp only [connectedAt, Sys.obj, setObj_fds, setObj_objs]
  cases k.fds fd' with
  | none => rfl
  | some i =>
    by_cases hi : i = id
    · subst hi; simp [(lookup_eq_some.1 hl).2]
    · simp [Function.update_noteq hi]

theorem realConnect_connectedAt {o : Outcomes} {fd : Nat} {addr : SockAddr} {k k' : Sys}
    (h : k.realConnect o fd addr = .ok k') : k'.connectedAt fd = some addr := by
  obtain ⟨id, obj, hl, -, rfl⟩ := realConnect_eq h
  simp [connectedAt, Sys.obj, (lookup_eq_some.1 hl).1]

/-! ### Nothing newly bound or connected

`OnlyFresh k k'`: every descriptor of `k'` refers to an object in the state it had at that
descriptor in `k`, or to a fresh one. What `make_unix` leaves behind is of this kind. -/

/-- No descriptor of `k'` is bound or connected where it was not in `k`. -/
def OnlyFresh (k k' : Sys) : Prop :=
  ∀ fd obj, k'.obj fd = some obj → k.obj fd = some obj ∨ obj.Fresh

theorem OnlyFresh.refl (k : Sys) : OnlyFresh k k := fun _ _ h => .inl h

theorem OnlyFresh.trans {k₁ k₂ k₃ : Sys} (h₁ : OnlyFresh k₁ k₂) (h₂ : OnlyFresh k₂ k₃) :
    OnlyFresh k₁ k₃ := fun fd obj h =>
  (h₂ fd obj h).elim (h₁ fd obj) .inr

theorem onlyFresh_fail (err : Errno) (k : Sys) : OnlyFresh k (k.fail err) := .refl k

theorem onlyFresh_realClose (fd : Nat) (k : Sys) : OnlyFresh k (k.realClose fd) := by
  intro fd' obj h
  by_cases hfd : fd' = fd <;> simp_all [Sys.obj, realClose, Function.update_apply]

/-- Setting an object to a fresh state binds and connects nothing. -/
theorem onlyFresh_setObj {obj : SockObj} (h : obj.Fresh) (id : Nat) (k : Sys) :
    OnlyFresh k (k.setObj id obj) := by
  intro fd o ho
  simp only [Sys.obj, setObj_fds, setObj_objs, Option.bind_eq_some, Function.update_apply] at ho
  obtain ⟨id', hfd, ho⟩ := ho
  split at ho
  · cases ho; exact .inr h
  · exact .inl (by simp [Sys.obj, hfd, ho])

/-- Pointing a descriptor at a fresh object binds and connects nothing. -/
theorem onlyFresh_setFd {k : Sys} {id : Nat} (h : ∀ obj, k.objs id = some obj → obj.Fresh)
    (fd : Nat) : OnlyFresh k (k.setFd fd (some id)) := by
  intro fd' o ho
  simp only [Sys.obj, setFd_fds, setFd_objs, Function.update_apply] at ho
  split at ho
  · exact .inr (h o ho)
  · exact .inl ho

theorem obj_openObj (fd : Nat) (kind : Kind) (peer : Option SockAddr) (k : Sys) :
    (k.openObj fd kind peer).obj fd = some ⟨kind, [], none, peer⟩ := by
  simp [Sys.obj, openObj]

theorem onlyFresh_openObj (fd : Nat) (kind : Kind) (k : Sys) :
    OnlyFresh k (k.openObj fd kind none) := by
  intro fd' o ho
  simp only [Sys.obj, openObj, Option.bind_eq_some, Function.update_apply] at ho
  obtain ⟨id, hfd, ho⟩ := ho
  split at hfd
  · cases hfd; simp at ho; exact .inr (ho ▸ ⟨rfl, rfl⟩)
  · split at ho
    · cases ho; exact .inr ⟨rfl, rfl⟩
    · exact .inl (by simp [Sys.obj, hfd, ho])

/-- `replay` on a fresh object only adds options: it stays fresh and nothing else changes. -/
theorem replay_onlyFresh {o : Outcomes} {opts : List SockOpt} {fd : Nat} {k k' : Sys}
    {obj : SockObj} (hobj : k.obj fd = some obj) (hfresh : obj.Fresh)
    (h : k.replay o opts fd = .ok k') :
    OnlyFresh k k' ∧ k'.obj fd = some { obj with opts := obj.opts ++ opts.filter SockOpt.replayable } := by
  obtain ⟨id, obj', hl, -, rfl⟩ := replay_eq h
  rw [lookup_eq_some] at hl
  have : obj' = obj := by simpa [Sys.obj, hl.1, hl.2] using hobj
  subst this
  have hfresh' : SockObj.Fresh { obj' with opts := obj'.opts ++ opts.filter SockOpt.replayable } :=
    hfresh
  exact ⟨onlyFresh_setObj hfresh' _ _, by simp [Sys.obj, hl.1]⟩

/-- `dup2` of a fresh object makes `dst` refer to it. -/
theorem realDup2_onlyFresh {o : Outcomes} {src dst : Nat} {k k' : Sys} {obj : SockObj}
    (hobj : k.obj src = some obj) (hfresh : obj.Fresh) (h : k.realDup2 o src dst = .ok k') :
    OnlyFresh k k' ∧ k'.obj dst = some obj := by
  obtain ⟨id, hid, -, rfl⟩ := realDup2_eq h
  have hobj' : k.objs id = some obj := by simpa [Sys.obj, hid] using hobj
  exact ⟨onlyFresh_setFd (fun _ h' => by simp_all) _, by simp [Sys.obj, hobj']⟩

end Sys

end Ip2unix
