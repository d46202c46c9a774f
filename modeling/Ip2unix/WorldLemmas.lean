import Ip2unix.World
import Ip2unix.SocketLemmas

/-!
# Ip2unix — what one intercepted call does to the registry

Proof companions of `World.lean`.

* **`perform_cases`** says once what a method call can do to `Socket::registry`: put at
  its descriptor a `Socket` with the same identity, descriptor, type, family and option
  cache (`Socket.Frame`); for `setsockopt` and `ioctl`, put `forwardOpt`'s result there;
  for `rewrite_src`, put its result there, which differs in the pool and the peer maps
  only; for `close`, erase the descriptor; for `accept`, in addition register at the new
  descriptor a new `Socket` under the next socket address.
* **`WellFormed`** is the first invariant built on it: each registered `Socket` sits at its
  own descriptor, and socket addresses are below `nextSock` and each names at most one
  registered `Socket`. `WellFormed.step` is its step lemma.
* **`run_induction`** turns a step lemma over a state and the trace so far into a statement
  about every run; every run invariant of the development goes through it.
-/

namespace Ip2unix

namespace World

variable (pool : Pool)

@[simp] theorem update_registry (fd : Nat) (s : Socket) (k : Sys) (w : World) :
    (w.update fd s k).registry = Function.update w.registry fd (some s) := rfl

@[simp] theorem update_nextSock (fd : Nat) (s : Socket) (k : Sys) (w : World) :
    (w.update fd s k).nextSock = w.nextSock := rfl

@[simp] theorem update_sys (fd : Nat) (s : Socket) (k : Sys) (w : World) :
    (w.update fd s k).sys = k := rfl

@[simp] theorem register_registry (fd : Nat) (s : Socket) (w : World) :
    (w.register fd s).registry = Function.update w.registry fd (some s) := rfl

@[simp] theorem register_nextSock (fd : Nat) (s : Socket) (w : World) :
    (w.register fd s).nextSock = w.nextSock := rfl

/-! ## The shapes of a method call -/

/-- **What a method call does to the registry.** -/
theorem perform_cases (w : World) (fd : Nat) (s : Socket) (o : Outcomes) (c : Call) :
    (∃ s' k, Socket.Frame s s' ∧ c.sockOpt = none ∧ w.perform pool fd s o c = w.update fd s' k) ∨
    (∃ realAddr, c = .rewriteSrc realAddr ∧
      w.perform pool fd s o c = w.update fd (s.rewriteSrc pool o realAddr).2.1 w.sys) ∨
    (∃ opt, c.sockOpt = some opt ∧ w.perform pool fd s o c =
      w.update fd (s.forwardOpt o opt w.sys).2.1 (s.forwardOpt o opt w.sys).2.2) ∨
    (c = .close ∧ ∃ k, w.perform pool fd s o c =
      { w with registry := Function.update w.registry fd none, sys := k }) ∨
    (∃ newfd, c = .accept newfd ∧ ((∃ k, w.perform pool fd s o c = { w with sys := k }) ∨
      ∃ s' k, Socket.Frame s s' ∧ (w.perform pool fd s o c = w.update fd s' k ∨
        ∃ ports peer, w.perform pool fd s o c =
          { (w.update fd s' k).register newfd
              { Socket.new w.nextSock newfd s.domain s.typearg s.protocol with
                ports := ports
                binding := s.binding
                connection := some peer } with nextSock := w.nextSock + 1 }))) := by
  cases c with
  | blackhole => exact .inl ⟨s.blackhole, w.sys, .of_ports rfl rfl rfl rfl rfl rfl rfl fun _ h => h,
    rfl, rfl⟩
  | setsockopt => exact .inr (.inr (.inl ⟨_, rfl, rfl⟩))
  | ioctl => exact .inr (.inr (.inl ⟨_, rfl, rfl⟩))
  | listen => exact .inl ⟨_, _, .refl s, rfl, rfl⟩
  | bind => exact .inl ⟨_, _, Socket.bind_frame .., rfl, rfl⟩
  | connect => exact .inl ⟨_, _, Socket.connect_frame .., rfl, rfl⟩
  | connectPeermap => exact .inl ⟨_, _, Socket.connectPeermap_frame .., rfl, rfl⟩
  | rewriteSrc realAddr => exact .inr (.inl ⟨realAddr, rfl, rfl⟩)
  | rewriteDest => exact .inl ⟨_, _, Socket.rewriteDest_frame .., rfl, rfl⟩
  | activate => exact .inl ⟨_, _, Socket.activate_frame .., rfl, rfl⟩
  | close => exact .inr (.inr (.inr (.inl ⟨rfl, _, rfl⟩)))
  | accept newfd =>
    refine .inr (.inr (.inr (.inr ⟨newfd, rfl, ?_⟩)))
    simp only [perform]
    split
    · exact .inl ⟨_, rfl⟩
    rename_i k _
    refine .inr ⟨_, (s.accept pool o newfd w.nextSock k).2.2.1,
      Socket.accept_frame pool o s k newfd w.nextSock, ?_⟩
    unfold acceptAt
    dsimp only
    split
    · rename_i child hchild
      obtain ⟨ports, peer, rfl⟩ := Socket.accept_child pool o s k hchild
      exact .inr ⟨ports, peer, rfl⟩
    · exact .inl rfl

/-! ## Well-formed registries -/

/-- Each registered `Socket` sits at its own descriptor; socket addresses are below
`nextSock` and each names at most one registered `Socket`. -/
structure WellFormed (w : World) : Prop where
  fd : ∀ fd s, w.registry fd = some s → s.fd = fd
  id_lt : ∀ fd s, w.registry fd = some s → s.id < w.nextSock
  id_inj : ∀ fd fd' s s', w.registry fd = some s → w.registry fd' = some s' → s.id = s'.id →
    fd = fd'

theorem wellFormed_init (fds : Nat → Option Nat) (objs : Nat → Option SockObj) (nextObj : Nat)
    (cred : Ucred) : WellFormed (init fds objs nextObj cred) :=
  ⟨fun _ _ h => (nomatch h), fun _ _ h => (nomatch h), fun _ _ _ _ h => (nomatch h)⟩

section Shapes

variable {w w' : World} {fd : Nat} {s s' : Socket}

/-- The `Socket` at `fd` replaced by one of the same address and descriptor. -/
theorem WellFormed.replace (h : WellFormed w)
    (hreg : w'.registry = Function.update w.registry fd (some s'))
    (hn : w'.nextSock = w.nextSock) (hs : w.registry fd = some s) (hid : s'.id = s.id)
    (hfd : s'.fd = s.fd) : WellFormed w' := by
  have hat : ∀ fd₁ s₁, w'.registry fd₁ = some s₁ →
      ∃ s₀, w.registry fd₁ = some s₀ ∧ s₁.id = s₀.id ∧ s₁.fd = s₀.fd := by
    intro fd₁ s₁ h₁
    rw [hreg, Function.update_apply] at h₁
    split at h₁
    · cases h₁; subst fd₁; exact ⟨s, hs, hid, hfd⟩
    · exact ⟨s₁, h₁, rfl, rfl⟩
  refine ⟨fun fd₁ s₁ h₁ => ?_, fun fd₁ s₁ h₁ => ?_, fun fd₁ fd₂ s₁ s₂ h₁ h₂ he => ?_⟩
  · obtain ⟨s₀, h₀, -, he⟩ := hat fd₁ s₁ h₁
    rw [he, h.fd fd₁ s₀ h₀]
  · obtain ⟨s₀, h₀, he, -⟩ := hat fd₁ s₁ h₁
    rw [he, hn]; exact h.id_lt fd₁ s₀ h₀
  · obtain ⟨s₀, h₀, he₀, -⟩ := hat fd₁ s₁ h₁
    obtain ⟨s₀', h₀', he₀', -⟩ := hat fd₂ s₂ h₂
    exact h.id_inj fd₁ fd₂ s₀ s₀' h₀ h₀' (by rw [← he₀, ← he₀', he])

/-- The registry as it was. -/
theorem WellFormed.same (h : WellFormed w) (hreg : w'.registry = w.registry)
    (hn : w'.nextSock = w.nextSock) : WellFormed w' :=
  ⟨fun fd₁ s₁ h₁ => h.fd fd₁ s₁ (hreg ▸ h₁), fun fd₁ s₁ h₁ => hn ▸ h.id_lt fd₁ s₁ (hreg ▸ h₁),
    fun fd₁ fd₂ s₁ s₂ h₁ h₂ => h.id_inj fd₁ fd₂ s₁ s₂ (hreg ▸ h₁) (hreg ▸ h₂)⟩

/-- The descriptor `fd` erased. -/
theorem WellFormed.erase (h : WellFormed w) (hreg : w'.registry = Function.update w.registry fd none)
    (hn : w'.nextSock = w.nextSock) : WellFormed w' := by
  have hat : ∀ fd₁ s₁, w'.registry fd₁ = some s₁ → w.registry fd₁ = some s₁ := by
    intro fd₁ s₁ h₁
    rw [hreg, Function.update_apply] at h₁
    split at h₁
    · cases h₁
    · exact h₁
  exact ⟨fun fd₁ s₁ h₁ => h.fd fd₁ s₁ (hat _ _ h₁),
    fun fd₁ s₁ h₁ => hn ▸ h.id_lt fd₁ s₁ (hat _ _ h₁),
    fun fd₁ fd₂ s₁ s₂ h₁ h₂ => h.id_inj fd₁ fd₂ s₁ s₂ (hat _ _ h₁) (hat _ _ h₂)⟩

/-- A new `Socket` under the next address registered at its descriptor. -/
theorem WellFormed.insert (h : WellFormed w)
    (hreg : w'.registry = Function.update w.registry fd (some s))
    (hn : w'.nextSock = w.nextSock + 1) (hid : s.id = w.nextSock) (hfd : s.fd = fd) :
    WellFormed w' := by
  have hat : ∀ fd₁ s₁, w'.registry fd₁ = some s₁ →
      (fd₁ = fd ∧ s₁ = s) ∨ (fd₁ ≠ fd ∧ w.registry fd₁ = some s₁) := by
    intro fd₁ s₁ h₁
    rw [hreg, Function.update_apply] at h₁
    split at h₁
    · cases h₁; exact .inl ⟨‹_›, rfl⟩
    · exact .inr ⟨‹_›, h₁⟩
  refine ⟨fun fd₁ s₁ h₁ => ?_, fun fd₁ s₁ h₁ => ?_, fun fd₁ fd₂ s₁ s₂ h₁ h₂ he => ?_⟩
  · rcases hat fd₁ s₁ h₁ with ⟨rfl, rfl⟩ | ⟨-, h₀⟩
    · exact hfd
    · exact h.fd fd₁ s₁ h₀
  · rw [hn]
    rcases hat fd₁ s₁ h₁ with ⟨-, rfl⟩ | ⟨-, h₀⟩
    · omega
    · exact Nat.lt_succ_of_lt (h.id_lt fd₁ s₁ h₀)
  · rcases hat fd₁ s₁ h₁ with ⟨rfl, rfl⟩ | ⟨hne₁, h₀₁⟩ <;>
      rcases hat fd₂ s₂ h₂ with ⟨rfl, rfl⟩ | ⟨hne₂, h₀₂⟩
    · rfl
    · have := h.id_lt fd₂ s₂ h₀₂; omega
    · have := h.id_lt fd₁ s₁ h₀₁; omega
    · exact h.id_inj fd₁ fd₂ s₁ s₂ h₀₁ h₀₂ he

end Shapes

/-- **Every call keeps the registry well formed.** -/
theorem WellFormed.step {w : World} (h : WellFormed w) (ev : Event) :
    WellFormed (w.step pool ev) := by
  cases ev with
  | create fd domain typearg protocol => exact h.insert rfl rfl rfl rfl
  | call fd c o =>
    simp only [World.step]
    split
    · exact h
    rename_i s hs
    rcases perform_cases pool w fd s o c with
      ⟨s', k, hf, -, he⟩ | ⟨realAddr, -, he⟩ | ⟨opt, -, he⟩ | ⟨-, k, he⟩ |
        ⟨newfd, -, ⟨k, he⟩ | ⟨s', k, hf, he | ⟨ports, peer, he⟩⟩⟩ <;> rw [he]
    · exact h.replace rfl rfl hs hf.id hf.fd
    · exact h.replace rfl rfl hs (by rw [Socket.rewriteSrc_sock]) (by rw [Socket.rewriteSrc_sock])
    · obtain ⟨hid, hfd⟩ := Socket.forwardOpt_frame_id o s w.sys opt
      exact h.replace rfl rfl hs hid hfd
    · exact h.erase rfl rfl
    · exact h.same rfl rfl
    · exact h.replace rfl rfl hs hf.id hf.fd
    · have h' : WellFormed (w.update fd s' k) := h.replace rfl rfl hs hf.id hf.fd
      exact h'.insert rfl rfl rfl rfl

/-! ## Runs -/

/-- **Induction over runs.** A property of a state and the trace that led to it, kept by
every call, holds after every run. -/
theorem run_induction {P : World → List (World × Event) → Prop}
    (hstep : ∀ w tr ev, P w tr → P (w.step pool ev) (tr ++ [(w, ev)])) :
    ∀ (evs : List Event) (w : World) (tr : List (World × Event)), P w tr →
      P (w.run pool evs) (tr ++ w.trace pool evs)
  | [], w, tr, h => by simpa [trace] using h
  | ev :: evs, w, tr, h => by
    simpa [trace] using run_induction hstep evs _ _ (hstep w tr ev h)

theorem run_wellFormed {w : World} (h : WellFormed w) (evs : List Event) :
    WellFormed (w.run pool evs) := by
  simpa using run_induction pool (P := fun w _ => WellFormed w)
    (fun _ _ ev h => h.step pool ev) evs w [] h

/-- **Every run from empty registries keeps the registry well formed.** -/
theorem registry_wellFormed (fds : Nat → Option Nat) (objs : Nat → Option SockObj)
    (nextObj : Nat) (cred : Ucred) (evs : List Event) :
    ((init fds objs nextObj cred).run pool evs).WellFormed :=
  run_wellFormed pool (wellFormed_init fds objs nextObj cred) evs

end World

end Ip2unix
