import Ip2unix.SocketLemmas
import Ip2unix.WorldLemmas

/-!
# Ip2unix — the names the application sees

ip2unix turns an IP socket into a UNIX one behind the application's back. What the
application can still observe of its socket's addresses are its names: the ones
`getsockname` and `getpeername` report, `Socket.binding` and `Socket.connection`, with the
family the socket was made for. This module states how the names of an IP socket change, as
POSIX describes them, and proves that the model's `Socket` keeps them that way.

* **`Names.Step`**: the abstract semantics of one call on a socket, given what the call
  returned (`ok`) and what it was handed besides its arguments (`Env`: the port the
  socket's pool gives next, the credentials of the process and of the peer). A call that
  succeeded moves the names to `Names.after`: `bind` names the socket the address asked for,
  the pool's port in place of port `0`; `connect` gives it the peer asked for, and names an
  unnamed socket as `create_binding` does (`Names.localFor`); so does a datagram sent;
  `connect_peermap` gives the peer, `activate` the name. A call that failed leaves the names,
  but for a `connect` of an unnamed socket, which may keep the name made up on its way.
* **`View.Step`**: one event on every socket: `socket()` registers an unnamed socket, a call
  moves its socket's names by a `Names.Step`, an `accept` that succeeded registers a socket
  with the listener's name and the peer `accept` makes up (`Names.peerFor`), `close`
  forgets the socket.
* **`World.view_step`**: the refinement. Every event of the model moves the names of the
  registered `Socket`s (`World.view`) by a `View.Step`, from every state, with what the event
  returned (`World.ok`) and was handed (`World.env`) read off the state it was made in.
* **`View.Run.told`**, at the abstract level, and **`World.names_told`**, carried to the model
  by the refinement: every name reported is one an event of the run gave, under what that
  event was handed.
-/

namespace Ip2unix

namespace SockAddr

/-- The name `bind(addr)` gives: `addr`, with `port` in place of port `0`. -/
def fillPort (port : Nat) : SockAddr → SockAddr
  | ip f h 0 => ip f h port
  | a => a

/-- The host `set_host(tmpl)` gives an address of family `fam`: the template's, when it is an
IP address of that family, else the family's loopback. -/
def hostFor (fam : Family) : SockAddr → Nat
  | ip f h _ => if f = fam then h else fam.loopback
  | _ => fam.loopback

theorem setHost_eq (f : Family) (h p : Nat) (tmpl : SockAddr) :
    (ip f h p).setHost tmpl = some (ip f (tmpl.hostFor f) p) := by
  cases tmpl <;> rfl

end SockAddr

/-- What a call is handed besides its arguments: the port the socket's pool gives next, and
the credentials of the process and of the peer. -/
structure Env where
  port : Nat
  cred : Ucred
  peercred : Ucred

/-- What the application sees of a socket: the family it made it for, and the names
`getsockname` and `getpeername` report. -/
structure Names where
  family : Family
  binding : Option SockAddr
  connection : Option SockAddr
  deriving DecidableEq, Repr

namespace Names

/-- The name `create_binding` makes up for a socket of family `fam` that talks to `addr`: a
loopback host when `addr` is one, the host of the process's credentials `cred` otherwise,
and the port the pool gives. -/
def localFor (fam : Family) (cred : Ucred) (port : Nat) (addr : SockAddr) : SockAddr :=
  .ip fam (if addr.isLoopback then addr.hostFor fam else fam.credHost cred) port

/-- The peer `accept` makes up for a listener of family `fam` bound to `binding`: a loopback
host when `binding` is one, the host of the peer's credentials `peercred` otherwise, and the
port the pool gives. -/
def peerFor (fam : Family) (peercred : Ucred) (port : Nat) (binding : SockAddr) : SockAddr :=
  .ip fam (if binding.isLoopback then binding.hostFor fam else fam.credHost peercred) port

/-- The names after a call that succeeded under `env`, as POSIX describes an IP socket. -/
def after (env : Env) (n : Names) : Call → Names
  | .bind addr _ => { n with binding := some (addr.fillPort env.port) }
  | .connect addr _ =>
    { n with
      binding := some (n.binding.getD (localFor n.family env.cred env.port addr))
      connection := some addr }
  | .connectPeermap addr => { n with connection := some addr }
  | .rewriteDest addr _ =>
    { n with binding := some (n.binding.getD (localFor n.family env.cred env.port addr)) }
  | .activate addr _ => { n with binding := some addr }
  | _ => n

/-- How one call on a socket changes its names, given whether it succeeded: to `after` when
it did; not at all when it failed, but that a `connect` of a socket without a name may keep
the name made up on its way. -/
inductive Step (env : Env) : Call → Bool → Names → Names → Prop
  | ok (c : Call) (n : Names) : Step env c true n (n.after env c)
  | fail (c : Call) (n : Names) : Step env c false n n
  | failNamed (addr : SockAddr) (path : String) (n : Names) (hn : n.binding = none) :
      Step env (.connect addr path) false n
        { n with binding := some (localFor n.family env.cred env.port addr) }

/-- A method that moves the names to `after` when it succeeded and leaves them when it
failed takes a step. -/
theorem Step.of_ok {env : Env} {c : Call} {b : Bool} {n n' : Names}
    (hok : b = true → n' = n.after env c) (hfail : b = false → n' = n) : Step env c b n n' := by
  cases b
  · rw [hfail rfl]; exact .fail c n
  · rw [hok rfl]; exact .ok c n

end Names

/-- The addresses a call gives as names when it succeeds under `env` on a socket of family
`fam`: those it was handed, the pool's port filled in for `bind`, and those made up on its
way, the name of an unnamed socket that connects or sends, and the peer of `accept`, made up
from the listener's binding. -/
def Call.Gives (env : Env) (fam : Family) (a : SockAddr) : Call → Prop
  | .bind addr _ => a = addr.fillPort env.port
  | .connect addr _ => a = addr ∨ a = Names.localFor fam env.cred env.port addr
  | .connectPeermap addr => a = addr
  | .rewriteDest addr _ => a = Names.localFor fam env.cred env.port addr
  | .activate addr _ => a = addr
  | .accept _ => ∃ b, a = Names.peerFor fam env.peercred env.port b
  | _ => False

def Event.Gives (env : Env) (fam : Family) (a : SockAddr) : Event → Prop
  | .call _ c _ => c.Gives env fam a
  | .create .. => False

/-- The calls that may name a socket that has a name: `bind`, `activate`, `connect` and
`connect_peermap`. -/
def Call.names : Call → Bool
  | .bind .. | .activate .. | .connect .. | .connectPeermap _ => true
  | _ => false

/-- The calls that change the names of their own socket only: all but `accept`, which may
register a second socket, and `close`, which drops its own. -/
def Call.onOwn : Call → Bool
  | .accept _ | .close => false
  | _ => true

/-- The event may change the names at `fd`: a call there that names the socket or closes it,
or a new socket put there by `socket()` or by `accept`. -/
def Event.renames (fd : Nat) : Event → Bool
  | .create fd₀ .. => fd₀ == fd
  | .call _ (.accept newfd) _ => newfd == fd
  | .call fd₀ .close _ => fd₀ == fd
  | .call fd₀ c _ => c.names && fd₀ == fd

namespace Names

theorem getD_eq {o : Option SockAddr} {d a : SockAddr} (h : o.getD d = a) :
    o = some a ∨ a = d := by
  cases o <;> simp_all

/-- Where a name after a call comes from: it was there, or the call gave it. The family
stays. -/
theorem Step.sources {env : Env} {c : Call} {b : Bool} {n n' : Names} (h : Step env c b n n') :
    n'.family = n.family ∧
    (∀ a, n'.binding = some a → n.binding = some a ∨ c.Gives env n.family a) ∧
    (∀ a, n'.connection = some a → n.connection = some a ∨ c.Gives env n.family a) := by
  cases h with
  | fail => exact ⟨rfl, fun _ h => .inl h, fun _ h => .inl h⟩
  | failNamed addr path n hn =>
    exact ⟨rfl, fun a ha => .inr (.inr (Option.some.inj ha).symm), fun _ h => .inl h⟩
  | ok c n =>
    refine ⟨by cases c <;> rfl, fun a ha => ?_, fun a ha => ?_⟩ <;>
      cases c <;> simp only [after, Call.Gives, Option.some.injEq] at ha ⊢
    all_goals first
      | exact .inl ha
      | exact .inr ha.symm
      | exact .inr (.inl ha.symm)
      | exact (getD_eq ha).imp_right .inr
      | exact getD_eq ha

/-- What the application keeps seeing: the family, and every name already given. -/
structure Keeps (n n' : Names) : Prop where
  family : n'.family = n.family
  binding : ∀ a, n.binding = some a → n'.binding = some a
  connection : ∀ a, n.connection = some a → n'.connection = some a

theorem Keeps.refl (n : Names) : Keeps n n := ⟨rfl, fun _ h => h, fun _ h => h⟩

theorem Keeps.trans {n₁ n₂ n₃ : Names} (h₁ : Keeps n₁ n₂) (h₂ : Keeps n₂ n₃) : Keeps n₁ n₃ :=
  ⟨h₂.family.trans h₁.family, fun a h => h₂.binding a (h₁.binding a h),
    fun a h => h₂.connection a (h₁.connection a h)⟩

/-- A call that names nothing keeps every name: it may only name a socket that had none. -/
theorem Step.keeps {env : Env} {c : Call} {b : Bool} {n n' : Names} (h : Step env c b n n')
    (hc : c.names = false) : Keeps n n' := by
  cases h with
  | fail => exact .refl _
  | failNamed => cases hc
  | ok c n =>
    cases c
    case rewriteDest => exact ⟨rfl, fun a h => by simp [after, h], fun _ h => h⟩
    all_goals first | exact .refl _ | simp [Call.names] at hc

end Names

/-- The names of the sockets at each descriptor. -/
abbrev View := Nat → Option Names

namespace View

/-- How one event changes the names of the registered sockets, given what it was handed and
whether it succeeded. `socket()` registers an unnamed socket of its family at its descriptor;
a call on a registered socket that concerns its own names moves them by a `Names.Step`; an
`accept` that succeeded registers at its new descriptor a socket named as the listener, with
the peer made up from the listener's binding, and one that failed changes nothing; `close`
forgets the socket; a call on a descriptor with no socket changes nothing. -/
inductive Step (env : Env) (ok : Bool) : View → Event → View → Prop
  | create (v : View) (fd : Nat) (domain : Family) (typearg protocol : Nat) :
      Step env ok v (.create fd domain typearg protocol)
        (Function.update v fd (some ⟨domain, none, none⟩))
  | call (v : View) (fd : Nat) (c : Call) (o : Outcomes) (n n' : Names) (hv : v fd = some n)
      (hc : c.onOwn = true) (h : Names.Step env c ok n n') :
      Step env ok v (.call fd c o) (Function.update v fd (some n'))
  | accept (v : View) (fd newfd : Nat) (o : Outcomes) (n : Names) (b : SockAddr)
      (hv : v fd = some n) (hb : n.binding = some b) (hok : ok = true) :
      Step env ok v (.call fd (.accept newfd) o)
        (Function.update v newfd
          (some ⟨n.family, n.binding, some (Names.peerFor n.family env.peercred env.port b)⟩))
  | acceptFail (v : View) (fd newfd : Nat) (o : Outcomes) (hok : ok = false) :
      Step env ok v (.call fd (.accept newfd) o) v
  | close (v : View) (fd : Nat) (o : Outcomes) :
      Step env ok v (.call fd .close o) (Function.update v fd none)
  | skip (v : View) (fd : Nat) (c : Call) (o : Outcomes) (hv : v fd = none) :
      Step env ok v (.call fd c o) v

/-- A run of the abstract semantics: each event with what it was handed and whether it
succeeded. -/
inductive Run : View → List (Env × Bool × Event) → View → Prop
  | nil (v : View) : Run v [] v
  | cons {v v' v'' : View} {env : Env} {ok : Bool} {ev : Event} {evs : List (Env × Bool × Event)}
      (h : Step env ok v ev v') (t : Run v' evs v'') : Run v ((env, ok, ev) :: evs) v''

/-- Every name of every socket satisfies `T` for the socket's family. -/
def Told (T : Family → SockAddr → Prop) (v : View) : Prop :=
  ∀ fd n, v fd = some n →
    (∀ a, n.binding = some a → T n.family a) ∧ (∀ a, n.connection = some a → T n.family a)

theorem Told.mono {T T' : Family → SockAddr → Prop} {v : View} (h : Told T v)
    (hT : ∀ f a, T f a → T' f a) : Told T' v := fun fd n hn =>
  ⟨fun a ha => hT _ a ((h fd n hn).1 a ha), fun a ha => hT _ a ((h fd n hn).2 a ha)⟩

theorem Told.update {T : Family → SockAddr → Prop} {v : View} (h : Told T v) {fd : Nat}
    {x : Option Names} (hx : ∀ n, x = some n → Told T fun _ => some n) :
    Told T (Function.update v fd x) := by
  intro fd₁ n h₁
  rw [Function.update_apply] at h₁
  split at h₁
  · exact hx n h₁ 0 n rfl
  · exact h fd₁ n h₁

/-- **One event keeps the names told**, the names it gives added. -/
theorem Step.told {T : Family → SockAddr → Prop} {env : Env} {ok : Bool} {v v' : View}
    {ev : Event} (h : Step env ok v ev v') (ht : Told T v) :
    Told (fun f a => T f a ∨ ev.Gives env f a) v' := by
  have ht' := ht.mono fun f a h => Or.inl (b := ev.Gives env f a) h
  cases h with
  | create fd domain typearg protocol =>
    refine ht'.update fun m hm _ m' h' => ?_
    cases hm
    cases h'
    exact ⟨fun _ h => (nomatch h), fun _ h => (nomatch h)⟩
  | call fd c o n n' hv _ hs =>
    refine ht'.update fun m hm _ m' h' => ?_
    cases hm
    cases h'
    obtain ⟨hf, hb, hc⟩ := hs.sources
    obtain ⟨hb₀, hc₀⟩ := ht fd n hv
    rw [hf]
    exact ⟨fun a ha => (hb a ha).imp (hb₀ a) id, fun a ha => (hc a ha).imp (hc₀ a) id⟩
  | accept fd newfd o n b hv hb =>
    refine ht'.update fun m hm _ m' h' => ?_
    cases hm
    cases h'
    refine ⟨fun a ha => .inl ((ht fd n hv).1 a ha), fun a ha => .inr ⟨b, ?_⟩⟩
    exact (Option.some.inj ha).symm
  | acceptFail => exact ht'
  | close fd o => exact ht'.update fun _ h => nomatch h
  | skip => exact ht'

/-- **Along every abstract run, every name is one an event of the run gave**, under what
that event was handed, when that held before. -/
theorem Run.told {T : Family → SockAddr → Prop} {v v' : View} {evs : List (Env × Bool × Event)}
    (h : Run v evs v') (ht : Told T v) :
    Told (fun f a => T f a ∨ ∃ l ∈ evs, l.2.2.Gives l.1 f a) v' := by
  induction h generalizing T with
  | nil => exact ht.mono fun _ _ h => .inl h
  | @cons v v₁ v'' env ok ev evs hs _ ih =>
    refine (ih (hs.told ht)).mono fun f a h => ?_
    rcases h with (h | h) | ⟨l, hl, h⟩
    · exact .inl h
    · exact .inr ⟨(env, ok, ev), List.mem_cons_self _ _, h⟩
    · exact .inr ⟨l, List.mem_cons_of_mem _ hl, h⟩

/-- An event that does not rename `fd` keeps the names of the socket there. -/
theorem Step.keeps {env : Env} {ok : Bool} {v v' : View} {ev : Event} (h : Step env ok v ev v')
    {fd : Nat} {n : Names} (hv : v fd = some n) (hev : ev.renames fd = false) :
    ∃ n', v' fd = some n' ∧ n.Keeps n' := by
  cases h with
  | create fd₀ =>
    have hne : fd ≠ fd₀ := fun he => by simp [Event.renames, he] at hev
    exact ⟨n, by rw [Function.update_noteq hne, hv], .refl n⟩
  | call fd₀ c o n₀ n₀' hv₀ hc hs =>
    by_cases he : fd = fd₀
    · subst he
      obtain rfl := Option.some.inj (hv₀.symm.trans hv)
      -- the call names nothing, or the event would rename `fd`
      exact ⟨n₀', by simp, hs.keeps (by cases c <;> simp_all [Event.renames, Call.names])⟩
    · exact ⟨n, by rw [Function.update_noteq he, hv], .refl n⟩
  | accept fd₀ newfd =>
    have hne : fd ≠ newfd := fun he => by simp [Event.renames, he] at hev
    exact ⟨n, by rw [Function.update_noteq hne, hv], .refl n⟩
  | acceptFail => exact ⟨n, hv, .refl n⟩
  | close fd₀ =>
    have hne : fd ≠ fd₀ := fun he => by simp [Event.renames, he] at hev
    exact ⟨n, by rw [Function.update_noteq hne, hv], .refl n⟩
  | skip => exact ⟨n, hv, .refl n⟩

/-- **Along every abstract run that does not rename `fd`, the names there are kept.** -/
theorem Run.keeps {v v' : View} {evs : List (Env × Bool × Event)} (h : Run v evs v') {fd : Nat}
    {n : Names} (hv : v fd = some n) (hevs : ∀ l ∈ evs, l.2.2.renames fd = false) :
    ∃ n', v' fd = some n' ∧ n.Keeps n' := by
  induction h generalizing n with
  | nil => exact ⟨n, hv, .refl n⟩
  | cons hs _ ih =>
    obtain ⟨n₁, h₁, hk₁⟩ := hs.keeps hv (hevs _ (List.mem_cons_self _ _))
    obtain ⟨n', h', hk'⟩ := ih h₁ fun l hl => hevs l (List.mem_cons_of_mem _ hl)
    exact ⟨n', h', hk₁.trans hk'⟩

end View

namespace Socket

/-- The names of a `Socket`: its family, `binding` and `connection`. -/
def names (s : Socket) : Names := ⟨s.domain, s.binding, s.connection⟩

/-- What a call on `s` is handed besides its arguments: the port its pool gives next, the
process's credentials, and the peer's as the outcomes report them. -/
def env (pool : Pool) (o : Outcomes) (s : Socket) (k : Sys) : Env :=
  ⟨pool.pick s.ports.reserved, k.cred, o.peercred.toOption.getD k.cred⟩

/-- Whether a call on `s` succeeded, as what it returns tells the application: `0` from
`bind`, `connect`, `connect_peermap`, `activate`, `listen`, `setsockopt`, `ioctl` and
`close`, a destination from `rewrite_dest`, an address from `rewrite_src`, and from the
intercepted `accept` a new `Socket` (of address `childId`). -/
def callOk (pool : Pool) (o : Outcomes) (childId : Nat) (s : Socket) (k : Sys) : Call → Bool
  | .blackhole => true
  | .setsockopt level optname optval => (s.setsockopt o level optname optval k).1 == 0
  | .ioctl request arg => (s.ioctl o request arg k).1 == 0
  | .listen => (s.listen o k).1 == 0
  | .bind addr path => (s.bind pool o addr path k).1 == 0
  | .connect addr path => (s.connect pool o addr path k).1 == 0
  | .connectPeermap addr => (s.connectPeermap o addr k).1 == some 0
  | .accept newfd =>
    match k.realAccept o s.fd newfd with
    | .error _ => false
    | .ok k => (s.accept pool o newfd childId k).2.2.2.isSome
  | .rewriteSrc realAddr => (s.rewriteSrc pool o realAddr).1
  | .rewriteDest addr path => (s.rewriteDest pool o addr path k).1.isSome
  | .activate addr filedes => (s.activate o addr filedes k).1 == 0
  | .close => (s.close o k).1 == 0

theorem getsockname_eq_ok {s : Socket} {a : SockAddr} :
    s.getsockname = .ok a ↔ s.binding = some a := by
  unfold getsockname
  split <;> simp_all

theorem getpeername_eq_ok {s : Socket} {a : SockAddr} :
    s.getpeername = .ok a ↔ s.connection = some a := by
  unfold getpeername
  split <;> simp_all

end Socket

/-- A failed call keeps the names. -/
theorem Kept.names {s s' : Socket} {k k' : Sys} (h : Kept s k s' k') : s'.names = s.names := by
  rw [h.sock]
  rfl

namespace Socket

variable (pool : Pool) (o : Outcomes) (s : Socket) (k : Sys)

/-! ### The methods that name nothing -/

theorem makeUnix_names (oldfd : Option Nat) : (s.makeUnix o oldfd k).2.1.names = s.names := by
  rw [makeUnix_sock]
  rfl

theorem forwardOpt_names (opt : SockOpt) : (s.forwardOpt o opt k).2.1.names = s.names := by
  rw [forwardOpt_sock]
  split <;> rfl

theorem rewriteSrc_names (realAddr : SockAddr) :
    (s.rewriteSrc pool o realAddr).2.1.names = s.names := by
  rw [rewriteSrc_sock]
  rfl

theorem bindPort_names (addr : SockAddr) : (s.bindPort pool addr).2.2.names = s.names := by
  unfold bindPort
  split <;> rfl

theorem bindBlackhole_names : (s.bindBlackhole o k).2.1.names = s.names := by
  unfold bindBlackhole
  repeat' split
  all_goals rfl

theorem bindPath_names (newpath : String) : (s.bindPath o newpath k).2.1.names = s.names := by
  unfold bindPath
  repeat' split
  all_goals rfl

/-- `Socket::accept` leaves the listener's names. -/
theorem accept_names (sockfd childId : Nat) :
    (s.accept pool o sockfd childId k).2.1.names = s.names := by
  unfold accept
  dsimp only
  repeat' split
  all_goals rfl

/-! ### The methods that name -/

/-- The port `bind` fills in for port `0` is the one the pool gives. -/
theorem bindPort_fst (addr : SockAddr) :
    (s.bindPort pool addr).1 = addr.fillPort (pool.pick s.ports.reserved) := by
  cases addr with
  | ip f h p =>
    cases p <;> simp [bindPort, SockAddr.getPort, SockAddr.setPort, SockAddr.fillPort]
  | path _ | unnamed => rfl

theorem bindFinish_names_ok {newaddr : SockAddr} {port : Option Nat} {ret : Int}
    (h : (bindFinish newaddr port ret s k).1 = 0) :
    (bindFinish newaddr port ret s k).2.1.names = { s.names with binding := some newaddr } := by
  by_cases hr : ret = 0
  · subst hr; rfl
  · simp [bindFinish, hr] at h

/-- A `bind` that returned `0` named the socket the address asked for, the pool's port in
place of port `0`. -/
theorem bind_names_ok (addr : SockAddr) (path : String) (h : (s.bind pool o addr path k).1 = 0) :
    (s.bind pool o addr path k).2.1.names =
      { s.names with binding := some (addr.fillPort (pool.pick s.ports.reserved)) } := by
  have hm := makeUnix_names o s k none
  have hsock := makeUnix_sock o s k none
  rw [bind] at h ⊢
  generalize s.makeUnix o none k = m at hm hsock h ⊢
  rcases m with ⟨_ | _, s₁, k₁⟩ <;> dsimp only at hm hsock h ⊢
  · exact absurd h (by decide)
  have hp := bindPort_names pool s₁ addr
  have hb := bindPort_fst pool s₁ addr
  have hports : s₁.ports = s.ports := by rw [hsock]
  generalize s₁.bindPort pool addr = b at hp hb h ⊢
  rcases b with ⟨newaddr, port, s₂⟩
  dsimp only at hp hb h ⊢
  rw [hports] at hb
  subst hb
  -- both arms name nothing; the end names the socket `newaddr`
  have harm : ∀ r : Int × Socket × Sys, r.2.1.names = s₂.names →
      (bindFinish (addr.fillPort (pool.pick s.ports.reserved)) port r.1 r.2.1 r.2.2).1 = 0 →
      (bindFinish (addr.fillPort (pool.pick s.ports.reserved)) port r.1 r.2.1 r.2.2).2.1.names =
        { s.names with binding := some (addr.fillPort (pool.pick s.ports.reserved)) } := by
    intro r hr h0
    rw [bindFinish_names_ok r.2.1 r.2.2 h0, hr, hp, hm]
  split at h
  · rw [if_pos ‹_›]; exact harm _ (bindBlackhole_names o s₂ k₁) h
  · rw [if_neg ‹_›]; exact harm _ (bindPath_names o s₂ k₁ _) h

theorem bind_namesStep (addr : SockAddr) (path : String) :
    Names.Step (s.env pool o k) (.bind addr path) ((s.bind pool o addr path k).1 == 0) s.names
      (s.bind pool o addr path k).2.1.names :=
  .of_ok (fun h => bind_names_ok pool o s k addr path (beq_iff_eq.1 h))
    fun h => (bind_kept pool o s k addr path (beq_eq_false_iff_ne.1 h)).names

/-- `create_binding` names the socket as `Names.localFor` says. -/
theorem createBinding_names (addr : SockAddr) :
    (s.createBinding pool addr k).2.names = { s.names with
      binding := some (Names.localFor s.domain k.cred (pool.pick s.ports.reserved) addr) } := by
  unfold createBinding Names.localFor
  by_cases hl : addr.isLoopback = true <;> simp [hl, SockAddr.setHost_eq, SockAddr.setHostCred,
    SockAddr.setPort, names]

/-- A `rewrite_dest` that gave a destination left a socket with a binding as it was, and
named one without as `create_binding` does. -/
theorem rewriteDest_names_ok (addr : SockAddr) (path : String) {dest : SockAddr}
    (h : (s.rewriteDest pool o addr path k).1 = some dest) :
    (s.rewriteDest pool o addr path k).2.1.names = { s.names with
      binding := some (s.binding.getD
        (Names.localFor s.domain k.cred (pool.pick s.ports.reserved) addr)) } := by
  have hsock := makeUnix_sock o s k none
  have hfds := makeUnix_fdsOnly o s k none
  obtain ⟨-, -, s₁, k₁, hm, ⟨hb, he⟩ | ⟨hn, bh, bdest, k₂, -, -, hrb, he⟩⟩ :=
    rewriteDest_eq_some pool o s k h <;> simp only [hm] at hsock hfds <;> rw [he] <;> dsimp only
  · obtain ⟨b, hb'⟩ := Option.isSome_iff_exists.1 hb
    have hsb : s.binding = some b := by rw [← hb', hsock]
    rw [hsock, hsb]
    rfl
  · have hsb : s.binding = none := by rw [← hn, hsock]
    have hcred : k₂.cred = k.cred := (Sys.realBind_fdsOnly hrb).cred.trans hfds.cred
    show (s₁.createBinding pool addr k₂).2.names = _
    rw [createBinding_names, hcred, hsb, hsock]
    rfl

theorem rewriteDest_namesStep (addr : SockAddr) (path : String) :
    Names.Step (s.env pool o k) (.rewriteDest addr path)
      (s.rewriteDest pool o addr path k).1.isSome s.names
      (s.rewriteDest pool o addr path k).2.1.names := by
  refine .of_ok (fun h => ?_) fun h => (rewriteDest_kept pool o s k addr path ?_).names
  · obtain ⟨dest, hd⟩ := Option.isSome_iff_exists.1 h
    exact rewriteDest_names_ok pool o s k addr path hd
  · simpa using h

/-- A `connect` that returned `0` gave the socket the peer asked for, and named it as
`create_binding` does if it had no name. -/
theorem connect_names_ok (addr : SockAddr) (path : String)
    (h : (s.connect pool o addr path k).1 = 0) :
    (s.connect pool o addr path k).2.1.names = { s.names with
      binding := some (s.binding.getD
        (Names.localFor s.domain k.cred (pool.pick s.ports.reserved) addr))
      connection := some addr } := by
  rw [connect] at h ⊢
  by_cases hudp : s.type = .udp ∧ s.binding = none
  · -- a datagram socket without binding: `rewrite_dest` names it, then it connects
    rw [if_pos hudp] at h ⊢
    have hr := fun dest => @rewriteDest_names_ok pool o s k addr path dest
    generalize s.rewriteDest pool o addr path k = r at hr h ⊢
    rcases r with ⟨_ | dest, s₁, k₁⟩ <;> dsimp only at hr h ⊢
    · exact absurd h (by decide)
    cases hc : k₁.realConnect o s₁.fd dest with
    | error err => simp [hc] at h
    | ok k₂ =>
      show { s₁ with connection := some addr, sockpath := dest.getSockpath }.names = _
      have := hr dest rfl
      simp only [names, Names.mk.injEq] at this ⊢
      exact ⟨this.1, this.2.1, trivial⟩
  rw [if_neg hudp] at h ⊢
  have hsock := makeUnix_sock o s k none
  have hfds := makeUnix_fdsOnly o s k none
  dsimp only at h ⊢
  cases hdest : SockAddr.unix (formatSockpath s.type path addr) with
  | none => simp [hdest] at h
  | some dest =>
    simp only [hdest] at h ⊢
    generalize s.makeUnix o none k = m at hsock hfds h ⊢
    rcases m with ⟨_ | _, s₁, k₁⟩ <;> dsimp only at hsock hfds h ⊢
    · exact absurd h (by decide)
    cases hp : addr.getPort with
    | none => simp [hp] at h
    | some remotePort =>
      simp only [hp] at h ⊢
      cases hc : k₁.realConnect o s₁.fd dest with
      | error err => simp [hc] at h
      | ok k₂ =>
        simp only [hc] at h ⊢
        have hcred : k₂.cred = k.cred := (Sys.realConnect_fdsOnly hc).cred.trans hfds.cred
        by_cases hn : s₁.binding.isNone = true
        · -- an unnamed socket is named first
          rw [if_pos hn] at h ⊢
          have hcb := createBinding_names pool s₁ k₂ addr
          have hfst := createBinding_fst pool s₁ k₂ addr
          generalize s₁.createBinding pool addr k₂ = cb at hcb hfst h ⊢
          rcases cb with ⟨_ | _, s₂⟩
          · cases hfst
          have hsn : s.binding = none := by rw [hsock] at hn; simpa using hn
          simp only [names, Names.mk.injEq] at hcb ⊢
          rw [hcb.1, hcb.2.1, hcred, hsock, hsn]
          simp
        · rw [if_neg hn]
          obtain ⟨b, hb⟩ := Option.ne_none_iff_exists'.1 (by simpa using hn)
          have hsb : s.binding = some b := by rw [← hb, hsock]
          simp only [names, hsb, hb, Option.getD_some, hsock]

/-- A failed `connect` left the names, or named a socket that had none, as `create_binding`
does. -/
theorem connect_names_fail (addr : SockAddr) (path : String)
    (h : (s.connect pool o addr path k).1 ≠ 0) :
    (s.connect pool o addr path k).2.1.names = s.names ∨
      (s.binding = none ∧ (s.connect pool o addr path k).2.1.names = { s.names with
        binding := some (Names.localFor s.domain k.cred (pool.pick s.ports.reserved) addr) }) := by
  by_cases hu : s.type = .udp ∧ s.binding = none
  · rw [connect, if_pos hu] at h ⊢
    have hr := fun dest => @rewriteDest_names_ok pool o s k addr path dest
    have hk := rewriteDest_kept pool o s k addr path
    generalize s.rewriteDest pool o addr path k = r at hr hk h ⊢
    rcases r with ⟨_ | dest, s₁, k₁⟩ <;> dsimp only at hr hk h ⊢
    · exact .inl (hk rfl).names
    cases hc : k₁.realConnect o s₁.fd dest with
    | ok k₂ => simp [hc] at h
    | error err =>
      refine .inr ⟨hu.2, ?_⟩
      show s₁.names = _
      rw [hr dest rfl, hu.2]
      rfl
  · rcases connect_kept pool o s k addr path h with hk | ⟨hu', hn, -⟩
    · exact .inl hk.names
    · exact absurd ⟨hu', hn⟩ hu

theorem connect_namesStep (addr : SockAddr) (path : String) :
    Names.Step (s.env pool o k) (.connect addr path) ((s.connect pool o addr path k).1 == 0)
      s.names (s.connect pool o addr path k).2.1.names := by
  by_cases h : (s.connect pool o addr path k).1 = 0
  · rw [h, connect_names_ok pool o s k addr path h]
    exact .ok _ _
  · rw [beq_eq_false_iff_ne.2 h]
    rcases connect_names_fail pool o s k addr path h with he | ⟨hn, he⟩ <;> rw [he]
    · exact .fail _ _
    · exact .failNamed addr path s.names hn

theorem connectPeermap_namesStep (addr : SockAddr) :
    Names.Step (s.env pool o k) (.connectPeermap addr) ((s.connectPeermap o addr k).1 == some 0)
      s.names (s.connectPeermap o addr k).2.1.names := by
  unfold connectPeermap
  repeat' split
  all_goals first
    | exact .ok _ _
    | exact .fail _ _

theorem activate_namesStep (addr : SockAddr) (filedes : Nat) :
    Names.Step (s.env pool o k) (.activate addr filedes) ((s.activate o addr filedes k).1 == 0)
      s.names (s.activate o addr filedes k).2.1.names := by
  have hm := makeUnix_names o s k (some filedes)
  unfold activate
  generalize s.makeUnix o (some filedes) k = m at hm ⊢
  rcases m with ⟨_ | _, s₁, k₁⟩ <;> dsimp only at hm ⊢
  · rw [hm]; exact .fail _ _
  · show Names.Step _ _ true _ { s₁.names with binding := some addr }
    rw [hm]
    exact .ok _ _

/-- The child `Socket::accept` builds is named as the listener, with the peer made up from
the listener's binding. -/
theorem accept_child_names {sockfd childId : Nat} {c : Socket}
    (h : (s.accept pool o sockfd childId k).2.2.2 = some c) :
    ∃ b, s.binding = some b ∧ c.names = ⟨s.domain, s.binding,
      some (Names.peerFor s.domain (o.peercred.toOption.getD k.cred)
        (pool.pick s.ports.reserved) b)⟩ := by
  unfold accept at h
  dsimp only at h
  split at h
  · cases h
  rename_i b hb
  split at h
  · cases h
  split at h
  · cases h
  · cases h
  rename_i peer1 hw
  -- the host is the one `Names.peerFor` picks
  have hpeer : peer1 = .ip s.domain (if b.isLoopback then b.hostFor s.domain
      else s.domain.credHost (o.peercred.toOption.getD k.cred)) 0 := by
    split at hw
    · rename_i hl
      rw [SockAddr.setHost_eq] at hw
      simp [hl, (Option.some.inj (Except.ok.inj hw)).symm]
    · rename_i hl
      split at hw
      · cases hw
      · rename_i cred hc
        simp [hl, hc, Except.toOption, ← Option.some.inj (Except.ok.inj hw),
          SockAddr.setHostCred]
  subst hpeer
  simp only [SockAddr.setPort, Ports.acquire_fst, Option.some.injEq] at h
  subst h
  exact ⟨b, hb, by simp [names, Names.peerFor, hb, new]⟩

end Socket

namespace World

/-- The names of every registered `Socket`. -/
def view (w : World) : View := fun fd => (w.registry fd).map Socket.names

/-- What the event is handed besides its arguments: the port the pool of the `Socket` at
its descriptor gives next, and the credentials of the process and of the peer. -/
def env (pool : Pool) (w : World) : Event → Env
  | .create .. => ⟨0, w.sys.cred, w.sys.cred⟩
  | .call fd _ o =>
    match w.registry fd with
    | some s => s.env pool o w.sys
    | none => ⟨0, w.sys.cred, w.sys.cred⟩

/-- Whether the event succeeded, as what it returns tells the application. -/
def ok (pool : Pool) (w : World) : Event → Bool
  | .create .. => true
  | .call fd c o =>
    match w.registry fd with
    | some s => s.callOk pool o w.nextSock w.sys c
    | none => true

/-- What each event of a run was handed and whether it succeeded, as `View.Step` reads it. -/
def labels (pool : Pool) (w : World) (evs : List Event) : List (Env × Bool × Event) :=
  (w.trace pool evs).map fun p => (p.1.env pool p.2, p.1.ok pool p.2, p.2)

theorem view_update (fd : Nat) (s : Socket) (k : Sys) (w : World) :
    (w.update fd s k).view = Function.update w.view fd (some s.names) := by
  funext fd₁
  simp only [view, update_registry, Function.update_apply]
  split <;> rfl

theorem view_register (fd : Nat) (s : Socket) (w : World) :
    (w.register fd s).view = Function.update w.view fd (some s.names) := by
  funext fd₁
  simp only [view, register_registry, Function.update_apply]
  split <;> rfl

variable (pool : Pool)

/-- A method on the `Socket` at `fd` that moves its names by a `Names.Step`. -/
theorem view_call {w : World} {fd : Nat} {s s' : Socket} {c : Call} {env : Env} {ok : Bool}
    (o : Outcomes) (k : Sys) (hs : w.registry fd = some s) (hc : c.onOwn = true)
    (h : Names.Step env c ok s.names s'.names) :
    View.Step env ok w.view (.call fd c o) (w.update fd s' k).view := by
  rw [view_update]
  exact .call _ fd c o _ _ (by simp [view, hs]) hc h

/-- A method on the `Socket` at `fd` that keeps its names, whatever it returned. -/
theorem view_keep {w : World} {fd : Nat} {s s' : Socket} {c : Call} {env : Env} {ok : Bool}
    (o : Outcomes) (k : Sys) (hs : w.registry fd = some s) (hc : c.onOwn = true)
    (hafter : s.names.after env c = s.names) (h : s'.names = s.names) :
    View.Step env ok w.view (.call fd c o) (w.update fd s' k).view :=
  view_call o k hs hc (by rw [h]; exact .of_ok (fun _ => hafter.symm) fun _ => rfl)

/-- `accept`: one that failed changes nothing, one that succeeded registers a child named
after the listener. -/
theorem view_accept {w : World} {fd newfd : Nat} {s : Socket} {o : Outcomes}
    (hs : w.registry fd = some s) :
    View.Step (s.env pool o w.sys) (s.callOk pool o w.nextSock w.sys (.accept newfd)) w.view
      (.call fd (.accept newfd) o) (w.perform pool fd s o (.accept newfd)).view := by
  have hv : w.view fd = some s.names := by simp [view, hs]
  cases hk : w.sys.realAccept o s.fd newfd with
  | error err =>
    simp only [perform, Socket.callOk, hk]
    exact .acceptFail _ fd newfd o rfl
  | ok k =>
    simp only [perform, Socket.callOk, hk, acceptAt]
    cases hc : (s.accept pool o newfd w.nextSock k).2.2.2 with
    | some c =>
      obtain ⟨b, hb, hcn⟩ := Socket.accept_child_names pool o s k hc
      show View.Step _ _ _ _ ((w.update fd _ _).register newfd c).view
      rw [view_register, view_update, Socket.accept_names, ← hv, Function.update_eq_self, hcn,
        (Sys.realAccept_fdsOnly hk).cred]
      exact .accept w.view fd newfd o s.names b hv hb rfl
    | none =>
      show View.Step _ _ _ _ (w.update fd _ _).view
      rw [view_update, Socket.accept_names, ← hv, Function.update_eq_self]
      exact .acceptFail _ fd newfd o rfl

/-- **The shadow state refines the name semantics.** From every state, every event of the
model moves the names of the registered `Socket`s by a step of `View.Step`, with what the
event was handed and whether it succeeded as the state says. -/
theorem view_step (w : World) (ev : Event) :
    View.Step (w.env pool ev) (w.ok pool ev) w.view ev (w.step pool ev).view := by
  cases ev with
  | create fd domain typearg protocol =>
    simp only [World.step]
    rw [view_register]
    exact .create w.view fd domain typearg protocol
  | call fd c o =>
    cases hs : w.registry fd <;> simp only [World.step, World.env, World.ok, hs]
    case none => exact .skip _ fd c o (by simp [view, hs])
    case some s =>
      cases c with
      | blackhole => exact view_keep o _ hs rfl rfl rfl
      | setsockopt | ioctl => exact view_keep o _ hs rfl rfl (Socket.forwardOpt_names o s w.sys _)
      | listen => exact view_keep o _ hs rfl rfl rfl
      | bind addr path =>
        exact view_call o _ hs rfl (Socket.bind_namesStep pool o s w.sys addr path)
      | connect addr path =>
        exact view_call o _ hs rfl (Socket.connect_namesStep pool o s w.sys addr path)
      | connectPeermap addr =>
        exact view_call o _ hs rfl (Socket.connectPeermap_namesStep pool o s w.sys addr)
      | accept newfd => exact view_accept pool hs
      | rewriteSrc realAddr =>
        exact view_keep o _ hs rfl rfl (Socket.rewriteSrc_names pool o s realAddr)
      | rewriteDest addr path =>
        exact view_call o _ hs rfl (Socket.rewriteDest_namesStep pool o s w.sys addr path)
      | activate addr filedes =>
        exact view_call o _ hs rfl (Socket.activate_namesStep pool o s w.sys addr filedes)
      | close =>
        have h : (w.perform pool fd s o .close).view = Function.update w.view fd none := by
          funext fd₁
          simp only [perform, view, Function.update_apply]
          split <;> rfl
        rw [h]
        exact .close _ fd o

theorem view_run (w : World) (evs : List Event) :
    View.Run w.view (w.labels pool evs) (w.run pool evs).view := by
  induction evs generalizing w with
  | nil => exact .nil _
  | cons ev evs ih => exact .cons (view_step pool w ev) (ih _)

/-- **The application sees only the names the run gave.** From empty registries, along every
run, every address `getsockname` or `getpeername` reports for a registered `Socket` was given
by an event of the run, under what that event was handed: the application passed it to
`bind` (port `0` replaced by the port the socket's pool gave then), `connect`,
`connect_peermap` or `activate`; or `create_binding` made it up for a `connect` or a datagram
sent, from the destination's loopback host or the process's credentials and the pool's port;
or `accept` made it up as a peer, from the listener's loopback binding or the peer's
credentials and the pool's port. -/
theorem names_told (fds : Nat → Option Nat) (objs : Nat → Option SockObj) (nextObj : Nat)
    (cred : Ucred) (evs : List Event) (fd : Nat) (s : Socket)
    (hs : ((init fds objs nextObj cred).run pool evs).registry fd = some s) (a : SockAddr)
    (ha : s.getsockname = .ok a ∨ s.getpeername = .ok a) :
    ∃ wev ∈ (init fds objs nextObj cred).trace pool evs,
      wev.2.Gives (wev.1.env pool wev.2) s.domain a := by
  have ht := (view_run pool (init fds objs nextObj cred) evs).told (T := fun _ _ => False)
    fun _ _ h => nomatch h
  have hn := ht fd s.names (by simp [view, hs])
  have hl : ∃ l ∈ (init fds objs nextObj cred).labels pool evs, l.2.2.Gives l.1 s.domain a := by
    rcases ha.imp Socket.getsockname_eq_ok.1 Socket.getpeername_eq_ok.1 with h | h
    · exact (hn.1 a h).resolve_left id
    · exact (hn.2 a h).resolve_left id
  obtain ⟨l, hl, hg⟩ := hl
  obtain ⟨wev, hwev, rfl⟩ := List.mem_map.1 hl
  exact ⟨wev, hwev, hg⟩

/-- A stream socket at `3` connected to `127.0.0.1:80` with a first-fit pool: it is named
`127.0.0.1:32768`, which `create_binding` made up for that `connect`, the pool's first port. -/
theorem connected_socket_named :
    let pool := Pool.firstFit 32768 60999
    let evs : List Event := [.create 3 .inet sockStream 0,
      .call 3 (.connect (.ip .inet 0x7f000001 80) "/tmp/x.sock")
        (Outcomes.allOk 4 "/tmp/bh0" ⟨1000, 1000, 43⟩ 7)]
    let s := { Socket.new 0 3 .inet sockStream 0 with
      isUnix := true
      binding := some (.ip .inet 0x7f000001 32768)
      connection := some (.ip .inet 0x7f000001 80)
      sockpath := some "/tmp/x.sock"
      ports := ⟨[80, 32768]⟩ }
    ((init (fun _ => none) (fun _ => none) 0 ⟨1000, 1000, 42⟩).run pool evs).registry 3 = some s ∧
    s.getsockname = .ok (.ip .inet 0x7f000001 32768) ∧
    ∃ wev ∈ (init (fun _ => none) (fun _ => none) 0 ⟨1000, 1000, 42⟩).trace pool evs,
      wev.2.Gives (wev.1.env pool wev.2) s.domain (.ip .inet 0x7f000001 32768) := by
  refine ⟨?hs, ?ha, names_told _ _ _ _ _ _ 3 _ ?hs _ (.inl ?ha)⟩
  · rfl
  · rfl

/-- **The names stay until the application renames the socket.** From every state, along
every run with no call that names the socket at `fd` (`bind`, `activate`, `connect`,
`connect_peermap`), no `close` of it and no other socket put at `fd`, the `Socket` there keeps
its family, and `getsockname` and `getpeername` go on reporting every address they reported. -/
theorem names_stable (w : World) (evs : List Event) {fd : Nat} {s : Socket}
    (hs : w.registry fd = some s) (hevs : ∀ ev ∈ evs, ev.renames fd = false) :
    ∃ s', (w.run pool evs).registry fd = some s' ∧ s'.domain = s.domain ∧
      (∀ a, s.getsockname = .ok a → s'.getsockname = .ok a) ∧
      (∀ a, s.getpeername = .ok a → s'.getpeername = .ok a) := by
  have hl : ∀ l ∈ w.labels pool evs, l.2.2.renames fd = false := by
    intro l hl
    obtain ⟨wev, hwev, rfl⟩ := List.mem_map.1 hl
    exact hevs _ (trace_map_snd pool w evs ▸ List.mem_map_of_mem Prod.snd hwev)
  obtain ⟨n', h', hk⟩ := (view_run pool w evs).keeps
    (show w.view fd = some s.names by simp [view, hs]) hl
  obtain ⟨s', hs', rfl⟩ := Option.map_eq_some'.1 h'
  refine ⟨s', hs', hk.family, fun a ha => ?_, fun a ha => ?_⟩
  · exact Socket.getsockname_eq_ok.2 (hk.binding a (Socket.getsockname_eq_ok.1 ha))
  · exact Socket.getpeername_eq_ok.2 (hk.connection a (Socket.getpeername_eq_ok.1 ha))

/-- The listener bound at `3` keeps its name through `listen`, an `accept` onto `5` and the
close of `5`. -/
theorem listener_keeps_name :
    let pool := Pool.firstFit 32768 60999
    let o := Outcomes.allOk 4 "/tmp/bh0" ⟨1000, 1000, 43⟩ 7
    let w := (init (fun _ => none) (fun _ => none) 0 ⟨1000, 1000, 42⟩).run pool
      [.create 3 .inet sockStream 0, .call 3 (.bind (.ip .inet 0x7f000001 8080) "/tmp/l.sock") o]
    let s := { Socket.new 0 3 .inet sockStream 0 with
      isUnix := true
      bound := true
      binding := some (.ip .inet 0x7f000001 8080)
      sockpath := some "/tmp/l.sock"
      ports := ⟨[8080]⟩ }
    let evs : List Event := [.call 3 .listen o, .call 3 (.accept 5) o, .call 5 .close o]
    w.registry 3 = some s ∧ (∀ ev ∈ evs, ev.renames 3 = false) ∧
    ∃ s', (w.run pool evs).registry 3 = some s' ∧ s'.domain = s.domain ∧
      (∀ a, s.getsockname = .ok a → s'.getsockname = .ok a) ∧
      (∀ a, s.getpeername = .ok a → s'.getpeername = .ok a) := by
  refine ⟨?hs, ?hevs, names_stable _ _ _ ?hs ?hevs⟩
  · rfl
  · decide

end World

end Ip2unix
