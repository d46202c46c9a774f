import Ip2unix.SocketLemmas

/-!
# Ip2unix — `make_unix` and the descriptor table

`make_unix` works on a descriptor `newfd`: the one it is given (`activate`), or a new UNIX
socket. It replays the option cache onto it and `dup2`s it over the socket's own
descriptor; on failure it closes `newfd`.

* **`makeUnix_descriptors`**: the whole effect on the descriptor table. A failure closes
  `newfd` and changes nothing else; a success points the socket's descriptor at `newfd`'s
  object and leaves `newfd` open on it as well.
* **`makeUnix_obj`**: after the switch the socket's descriptor refers to a UNIX socket,
  bound and connected to nothing, that received the replayable part of the cache;
  `makeUnix_adopt_obj`: after adopting a given descriptor it refers to that socket, bound
  and connected as it was, the replayable part of the cache appended to its options.

The descriptor `make_unix` opens is never closed after a successful `dup2`, so each switch
leaves a second descriptor on the socket (`makeUnix_leaves_newfd_open`); and a failure
while adopting a given descriptor closes that descriptor, which the call did not open.
-/

namespace Ip2unix

namespace Socket

variable (o : Outcomes) (s : Socket) (k : Sys)

/-- Closing the descriptor `openUnix` gave undoes what it did to the table. -/
theorem openUnix_close {oldfd : Option Nat} {newfd : Nat} {k1 : Sys}
    (h : k.openUnix o oldfd = .ok (newfd, k1)) :
    Function.update k1.fds newfd none = Function.update k.fds newfd none := by
  cases oldfd with
  | some fd => cases h; rfl
  | none =>
    obtain ⟨-, rfl⟩ := Sys.realSocket_eq h
    simp [Sys.openObj]

/-- **The descriptors `make_unix` leaves.** On a socket that is not a UNIX one yet, once
`newfd` is open: a failure leaves the table as it was but for `newfd`, now closed; a success
makes the socket's descriptor refer to `newfd`'s object, `newfd` staying open. -/
theorem makeUnix_descriptors (hu : s.isUnix = false) {oldfd : Option Nat} {newfd : Nat}
    {k1 : Sys} (hopen : k.openUnix o oldfd = .ok (newfd, k1)) :
    ((s.makeUnix o oldfd k).1 = false ∧
      (s.makeUnix o oldfd k).2.2.fds = Function.update k.fds newfd none) ∨
    ((s.makeUnix o oldfd k).1 = true ∧
      (s.makeUnix o oldfd k).2.2.fds = Function.update k1.fds s.fd (k1.fds newfd)) := by
  have hclose := openUnix_close o k hopen
  unfold makeUnix
  rw [if_neg (by simp [hu]), hopen]
  dsimp only
  split
  · exact .inl ⟨rfl, hclose⟩
  rename_i k2 hrep
  obtain ⟨id, obj, -, -, rfl⟩ := Sys.replay_eq hrep
  split
  · exact .inl ⟨rfl, hclose⟩
  rename_i k3 hdup
  obtain ⟨id', hid', -, rfl⟩ := Sys.realDup2_eq hdup
  exact .inr ⟨rfl, by simp only [Sys.setFd_fds, Sys.setObj_fds] at hid' ⊢; rw [hid']⟩

/-- Switching the stream socket at descriptor `3`, the real `socket` giving `4`. -/
theorem makeUnix_descriptors_switch :
    let o := Outcomes.allOk 4 "/bh" ⟨0, 0, 0⟩ 0
    let s := Socket.new 0 3 .inet sockStream 0
    let k := Sys.init (fun fd => if fd = 3 then some 0 else none)
      (fun id => if id = 0 then some ⟨.ip, [], none, none⟩ else none) 1 ⟨0, 0, 0⟩
    s.isUnix = false ∧ k.openUnix o none = .ok (4, k.openObj 4 .unix none) ∧
    (((s.makeUnix o none k).1 = false ∧
      (s.makeUnix o none k).2.2.fds = Function.update k.fds 4 none) ∨
    ((s.makeUnix o none k).1 = true ∧
      (s.makeUnix o none k).2.2.fds =
        Function.update (k.openObj 4 .unix none).fds s.fd ((k.openObj 4 .unix none).fds 4))) :=
  ⟨rfl, rfl, makeUnix_descriptors _ _ _ rfl rfl⟩

/-- `make_unix(-1)` leaves a second descriptor on the socket: switching the stream socket
at `3`, the new UNIX socket `4` stays open on the object `3` now refers to. -/
theorem makeUnix_leaves_newfd_open :
    let s : Socket := Socket.new 0 3 .inet sockStream 0
    let k := Sys.init (fun fd => if fd = 3 then some 0 else none)
      (fun id => if id = 0 then some ⟨.ip, [], none, none⟩ else none) 1 ⟨0, 0, 0⟩
    let r := s.makeUnix (Outcomes.allOk 4 "/bh" ⟨0, 0, 0⟩ 0) none k
    r.1 = true ∧ k.fds 4 = none ∧ r.2.2.fds 4 = some 1 ∧ r.2.2.fds 3 = some 1 := by
  decide

/-- When `make_unix` switches a socket, its descriptor refers to the socket `make_unix`
worked on, as it was when opened, with the replayable records of the cache appended to its
options in order. -/
theorem makeUnix_obj_of_open (hu : s.isUnix = false) {oldfd : Option Nat} {newfd : Nat}
    {k₁ : Sys} {obj : SockObj} (hopen : k.openUnix o oldfd = .ok (newfd, k₁))
    (hobj : k₁.obj newfd = some obj) (h : (s.makeUnix o oldfd k).1 = true) :
    (s.makeUnix o oldfd k).2.2.obj s.fd =
      some { obj with opts := obj.opts ++ s.sockopts.filter SockOpt.replayable } := by
  unfold makeUnix at h ⊢
  rw [if_neg (by simp [hu]), hopen] at h ⊢
  dsimp only at h ⊢
  split at h
  · cases h
  rename_i k₂ hrep
  obtain ⟨id, obj', hl, -, rfl⟩ := Sys.replay_eq hrep
  rw [Sys.lookup_eq_some] at hl
  obtain rfl : obj' = obj := by simpa [Sys.obj, hl.1, hl.2] using hobj
  split at h
  · cases h
  rename_i k₃ hdup
  obtain ⟨id', hid', -, rfl⟩ := Sys.realDup2_eq hdup
  rw [Sys.setObj_fds, hl.1, Option.some.injEq] at hid'
  subst hid'
  simp [Sys.obj]

/-- **What the switch replays.** When `make_unix(-1)` switches a socket, its descriptor
refers to a UNIX socket, bound and connected to nothing, holding the replayable records of
the cache in order. -/
theorem makeUnix_obj (hu : s.isUnix = false) (h : (s.makeUnix o none k).1 = true) :
    (s.makeUnix o none k).2.2.obj s.fd =
      some ⟨.unix, s.sockopts.filter SockOpt.replayable, none, none⟩ := by
  unfold makeUnix at h
  rw [if_neg (by simp [hu])] at h
  split at h
  · cases h
  rename_i newfd k₁ hopen
  obtain ⟨-, rfl⟩ := Sys.realSocket_eq hopen
  simpa using makeUnix_obj_of_open o s k hu hopen (Sys.obj_openObj newfd .unix none k)
    (by unfold makeUnix; rw [if_neg (by simp [hu]), hopen]; exact h)

/-- **What adopting replays.** When `make_unix(filedes)` (`activate`) switches a socket, its
descriptor refers to the socket at `filedes`, bound and connected as it was, with the
replayable records of the cache appended to the options it had. -/
theorem makeUnix_adopt_obj (hu : s.isUnix = false) {filedes : Nat} {obj : SockObj}
    (hobj : k.obj filedes = some obj) (h : (s.makeUnix o (some filedes) k).1 = true) :
    (s.makeUnix o (some filedes) k).2.2.obj s.fd =
      some { obj with opts := obj.opts ++ s.sockopts.filter SockOpt.replayable } :=
  makeUnix_obj_of_open o s k hu rfl hobj h

end Socket

end Ip2unix
