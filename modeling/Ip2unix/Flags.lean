import Ip2unix.Peers

/-!
# Ip2unix — what a `Socket` never loses

`socket.cc` sets `is_unix`, `bound`, `is_blackhole` and `activated` and clears none of them,
and it sets `activated` only in `activate`, once `make_unix` succeeded and together with
`bound`. No method drops a binding, `rewrite_src` gives an address only to a remote path
that has none, and no method releases a port of the socket's pool.

* **`Socket.Grows`**: what every method does to these fields. `Grows.trans` composes the
  stretches of a method in the order its body runs them.
* **`World.registered_step`**: after a call, a registered `Socket` is the one registered at
  its descriptor before, grown; or a new one, at a descriptor the call reassigns, under an
  address not handed out before and not activated. **`World.grows_along_run`** is the same
  over a run.
* **`World.lookup_until_close`**: the `Socket` created at a descriptor stays there until a
  call closes the descriptor or puts another `Socket` there.
* **`World.flags_never_cleared`**: along every run, a `Socket` stays at its descriptor and
  keeps every flag it has.
* **`World.activated_bound_unix`**: in every state a run from empty registries reaches,
  an activated `Socket` is bound and a UNIX one.
* **`World.rewriteSrc_stable`**: once `rewrite_src` reported an address for a remote path,
  every later `rewrite_src` on that `Socket` for that path reports it again.
* **`World.ports_never_released`**: along every run a `Socket` keeps every port it reserved,
  so a port it acquires from a pool with room left is none it had reserved before.
-/

namespace Ip2unix

namespace Socket

/-- From `s` to `s'` the flags only grow, `activated` is set only together with `bound` and
`is_unix`, a binding stays, a remote path keeps the address it was given, and a reserved port
stays reserved. -/
structure Grows (s s' : Socket) : Prop where
  isUnix : s.isUnix = true → s'.isUnix = true
  bound : s.bound = true → s'.bound = true
  isBlackhole : s.isBlackhole = true → s'.isBlackhole = true
  activated : s'.activated = s.activated ∨
    (s'.activated = true ∧ s'.bound = true ∧ s'.isUnix = true)
  binding : s.binding.isSome = true → s'.binding.isSome = true
  revpeermap : ∀ P A, s.revpeermap P = some A → s'.revpeermap P = some A
  ports : s.ports.reserved ⊆ s'.ports.reserved

namespace Grows

variable {s₁ s₂ s₃ : Socket}

theorem refl (s : Socket) : Grows s s :=
  ⟨fun h => h, fun h => h, fun h => h, .inl rfl, fun h => h, fun _ _ h => h, fun _ h => h⟩

/-- A record update that leaves the flags, the binding and the reports as they were. -/
theorem of_flags (hu : s₂.isUnix = s₁.isUnix) (hb : s₂.bound = s₁.bound)
    (hbh : s₂.isBlackhole = s₁.isBlackhole) (ha : s₂.activated = s₁.activated)
    (hbind : s₂.binding = s₁.binding) (hrev : s₂.revpeermap = s₁.revpeermap)
    (hports : s₁.ports.reserved ⊆ s₂.ports.reserved) : Grows s₁ s₂ :=
  ⟨(hu ▸ ·), (hb ▸ ·), (hbh ▸ ·), .inl ha, (hbind ▸ ·), fun _ _ h => hrev ▸ h, hports⟩

theorem trans (h₁ : Grows s₁ s₂) (h₂ : Grows s₂ s₃) : Grows s₁ s₃ := by
  refine ⟨fun h => h₂.isUnix (h₁.isUnix h), fun h => h₂.bound (h₁.bound h),
    fun h => h₂.isBlackhole (h₁.isBlackhole h), ?_, fun h => h₂.binding (h₁.binding h),
    fun P A h => h₂.revpeermap P A (h₁.revpeermap P A h), fun _ h => h₂.ports (h₁.ports h)⟩
  rcases h₂.activated with h₂a | h₂a
  · rcases h₁.activated with h₁a | ⟨ha, hb, hu⟩
    · exact .inl (h₂a.trans h₁a)
    · exact .inr ⟨h₂a.trans ha, h₂.bound hb, h₂.isUnix hu⟩
  · exact .inr h₂a

/-- An activated `Socket` that grows stays bound and a UNIX one. -/
theorem activated_bound (h : Grows s₁ s₂)
    (h₁ : s₁.activated = true → s₁.bound = true ∧ s₁.isUnix = true) :
    s₂.activated = true → s₂.bound = true ∧ s₂.isUnix = true := fun ha₂ =>
  match h.activated with
  | .inl he =>
    let ⟨hb, hu⟩ := h₁ (he ▸ ha₂)
    ⟨h.bound hb, h.isUnix hu⟩
  | .inr ⟨_, hb, hu⟩ => ⟨hb, hu⟩

theorem activated_mono (h : Grows s₁ s₂) (ha : s₁.activated = true) : s₂.activated = true :=
  h.activated.elim (·.trans ha) (·.1)

end Grows

variable (pool : Pool) (o : Outcomes) (s : Socket) (k : Sys)

/-! ### The methods -/

theorem makeUnix_grows (oldfd : Option Nat) : Grows s (s.makeUnix o oldfd k).2.1 := by
  rw [makeUnix_sock]
  exact ⟨fun h => by simp [h], fun h => h, fun h => h, .inl rfl, fun h => h, fun _ _ h => h,
    fun _ h => h⟩

theorem bindPort_grows (addr : SockAddr) : Grows s (s.bindPort pool addr).2.2 := by
  unfold bindPort
  split
  · exact .of_flags rfl rfl rfl rfl rfl rfl (Ports.reserved_subset_acquire _ _)
  · exact .refl s

theorem bindBlackhole_grows : Grows s (s.bindBlackhole o k).2.1 := by
  unfold bindBlackhole
  repeat' split
  all_goals first
    | exact .refl s
    | exact ⟨fun h => h, fun h => h, fun _ => rfl, .inl rfl, fun h => h, fun _ _ h => h,
        fun _ h => h⟩

theorem bindPath_grows (newpath : String) : Grows s (s.bindPath o newpath k).2.1 := by
  unfold bindPath
  repeat' split
  all_goals exact .of_flags rfl rfl rfl rfl rfl rfl fun _ h => h

theorem bindFinish_grows (newaddr : SockAddr) (port : Option Nat) (ret : Int) :
    Grows s (bindFinish newaddr port ret s k).2.1 := by
  unfold bindFinish
  split
  · refine ⟨fun h => h, fun _ => rfl, fun h => h, .inl rfl, fun _ => rfl, fun _ _ h => h, ?_⟩
    dsimp only
    split
    · exact Ports.reserved_subset_reserve _ _
    · exact fun _ h => h
  · exact .refl s

theorem bind_grows (addr : SockAddr) (path : String) : Grows s (s.bind pool o addr path k).2.1 := by
  have hm := makeUnix_grows o s k none
  rw [bind]
  generalize s.makeUnix o none k = m at hm ⊢
  rcases m with ⟨_ | _, s₁, k₁⟩ <;> dsimp only at hm ⊢
  · exact hm
  have hp := bindPort_grows pool s₁ addr
  generalize s₁.bindPort pool addr = b at hp ⊢
  rcases b with ⟨newaddr, port, s₂⟩
  dsimp only at hp ⊢
  refine hm.trans (hp.trans ?_)
  split
  · exact (bindBlackhole_grows o s₂ k₁).trans (bindFinish_grows _ _ _ _ _)
  · exact (bindPath_grows o s₂ k₁ _).trans (bindFinish_grows _ _ _ _ _)

theorem createBinding_grows (addr : SockAddr) : Grows s (s.createBinding pool addr k).2 := by
  unfold createBinding
  dsimp only
  repeat' split
  all_goals first
    | exact .refl s
    | exact .of_flags rfl rfl rfl rfl rfl rfl (Ports.reserved_subset_acquire _ _)
    | exact ⟨fun h => h, fun h => h, fun h => h, .inl rfl, fun _ => rfl, fun _ _ h => h,
        Ports.reserved_subset_acquire _ _⟩

theorem connectPeermap_grows (addr : SockAddr) : Grows s (s.connectPeermap o addr k).2.1 := by
  unfold connectPeermap
  repeat' split
  all_goals exact .of_flags rfl rfl rfl rfl rfl rfl fun _ h => h

theorem rewriteDest_grows (addr : SockAddr) (path : String) :
    Grows s (s.rewriteDest pool o addr path k).2.1 := by
  have hm := makeUnix_grows o s k none
  rw [rewriteDest]
  split
  · exact .refl s
  generalize SockAddr.unix (formatSockpath s.type path addr) = d
  rcases d with _ | destpath
  · exact .refl s
  dsimp only
  generalize s.makeUnix o none k = m at hm ⊢
  rcases m with ⟨_ | _, s₁, k₁⟩ <;> dsimp only at hm ⊢
  · exact hm
  refine hm.trans ?_
  split
  · exact .refl s₁
  split
  · exact .refl s₁
  split
  · exact .refl s₁
  split
  · exact .refl s₁
  rename_i k₂ _
  have hcb := createBinding_grows pool s₁ k₂ addr
  generalize s₁.createBinding pool addr k₂ = cb at hcb ⊢
  rcases cb with ⟨_ | _, s₂⟩
  · exact hcb
  · exact hcb.trans ⟨fun h => h, fun h => h, fun _ => rfl, .inl rfl, fun h => h, fun _ _ h => h,
      fun _ h => h⟩

theorem connect_grows (addr : SockAddr) (path : String) :
    Grows s (s.connect pool o addr path k).2.1 := by
  rw [connect]
  split
  · have hr := rewriteDest_grows pool o s k addr path
    generalize s.rewriteDest pool o addr path k = r at hr ⊢
    rcases r with ⟨_ | dest, s₁, k₁⟩ <;> dsimp only at hr ⊢
    · exact hr
    split <;> exact hr.trans (.of_flags rfl rfl rfl rfl rfl rfl fun _ h => h)
  have hm := makeUnix_grows o s k none
  dsimp only
  split
  · exact .refl s
  generalize s.makeUnix o none k = m at hm ⊢
  rcases m with ⟨_ | _, s₁, k₁⟩ <;> dsimp only at hm ⊢
  · exact hm
  refine hm.trans ?_
  split
  · exact .refl s₁
  split
  · exact .refl s₁
  rename_i k₂ _
  split
  · have hcb := createBinding_grows pool s₁ k₂ addr
    generalize s₁.createBinding pool addr k₂ = cb at hcb ⊢
    rcases cb with ⟨_ | _, s₂⟩
    · exact hcb
    · exact hcb.trans (.of_flags rfl rfl rfl rfl rfl rfl (Ports.reserved_subset_reserve _ _))
  · exact .of_flags rfl rfl rfl rfl rfl rfl fun _ h => h

/-- `activate` sets `activated` and `bound` on a socket `make_unix` switched. -/
theorem activate_grows (addr : SockAddr) (filedes : Nat) :
    Grows s (s.activate o addr filedes k).2.1 := by
  have hm := makeUnix_grows o s k (some filedes)
  have hu : (s.makeUnix o (some filedes) k).1 = true →
      (s.makeUnix o (some filedes) k).2.1.isUnix = true := fun h => by
    rw [makeUnix_sock, h]; simp
  unfold activate
  generalize s.makeUnix o (some filedes) k = m at hm hu ⊢
  rcases m with ⟨_ | _, s₁, k₁⟩
  · exact hm
  · exact hm.trans ⟨fun h => h, fun _ => rfl, fun h => h, .inr ⟨rfl, rfl, hu rfl⟩,
      fun _ => rfl, fun _ _ h => h, fun _ h => h⟩

theorem forwardOpt_grows (opt : SockOpt) : Grows s (s.forwardOpt o opt k).2.1 := by
  rw [forwardOpt_sock]
  split <;> exact .of_flags rfl rfl rfl rfl rfl rfl fun _ h => h

theorem accept_grows (sockfd childId : Nat) : Grows s (s.accept pool o sockfd childId k).2.1 := by
  unfold accept
  dsimp only
  repeat' split
  all_goals first
    | exact .refl s
    | exact .of_flags rfl rfl rfl rfl rfl rfl (Ports.reserved_subset_acquire _ _)

theorem blackhole_grows : Grows s s.blackhole :=
  ⟨fun h => h, fun h => h, fun _ => rfl, .inl rfl, fun h => h, fun _ _ h => h, fun _ h => h⟩

/-- `rewrite_src` gives an address only to a path that has none. -/
theorem rewriteSrc_grows (realAddr : SockAddr) : Grows s (s.rewriteSrc pool o realAddr).2.1 := by
  rcases rewriteSrc_cases pool o s realAddr with ⟨ports, hports, he⟩ | ⟨P, A, hP, -, he⟩ <;>
    rw [he]
  · exact .of_flags rfl rfl rfl rfl rfl rfl hports
  · refine ⟨fun h => h, fun h => h, fun h => h, .inl rfl, fun h => h, fun Q B hQ => ?_,
      Ports.reserved_subset_acquire _ _⟩
    have hne : Q ≠ P := fun he => by rw [he, hP] at hQ; cases hQ
    exact (Function.update_noteq hne _ _).trans hQ

/-- A report of `rewrite_src` comes from a bound socket, which afterwards maps the remote
path to the address reported. -/
theorem rewriteSrc_reported {realAddr A : SockAddr} (h : (s.rewriteSrc pool o realAddr).2.2 = some A) :
    ∃ P, realAddr.getSockpath = some P ∧ s.binding.isSome = true ∧
      (s.rewriteSrc pool o realAddr).2.1.revpeermap P = some A := by
  unfold rewriteSrc at h ⊢
  dsimp only at h ⊢
  repeat' split at h
  all_goals cases h
  -- the path had an address already, or is given one now
  all_goals refine ⟨_, ‹_›, by simp [*], ?_⟩
  · assumption
  · simp

/-- On a bound socket that gave `A` to the remote path `P`, `rewrite_src` reports `A` for `P`
and changes nothing. -/
theorem rewriteSrc_of_revpeermap {realAddr A : SockAddr} {P : String}
    (hb : s.binding.isSome = true) (hpath : realAddr.getSockpath = some P)
    (hP : s.revpeermap P = some A) : s.rewriteSrc pool o realAddr = (true, s, some A) := by
  obtain ⟨b, hb'⟩ := Option.isSome_iff_exists.1 hb
  simp [rewriteSrc, hb', hpath, hP]

end Socket

/-! ## Runs -/

/-- The call frees `fd` or puts a new `Socket` at it: a new socket at `fd`, a `close` of
`fd`, or an `accept` whose new descriptor is `fd`. -/
def Event.reassigns (fd : Nat) : Event → Bool
  | .create fd₀ .. => fd₀ == fd
  | .call fd₀ .close _ => fd₀ == fd
  | .call _ (.accept newfd) _ => newfd == fd
  | .call .. => false

namespace World

variable (pool : Pool) {w : World}

/-- The `Socket` at `fd₀` replaced by one grown from it, under its address. -/
theorem registered_update {fd₀ fd : Nat} {s₀ s₁ s' : Socket} {k : Sys}
    (hs₀ : w.registry fd₀ = some s₀) (hg : s₀.Grows s₁) (hid : s₁.id = s₀.id)
    (hs' : (w.update fd₀ s₁ k).registry fd = some s') :
    ∃ s, w.registry fd = some s ∧ s'.id = s.id ∧ s.Grows s' := by
  rw [update_registry, Function.update_apply] at hs'
  split at hs'
  · cases hs'
    subst fd
    exact ⟨s₀, hs₀, hid, hg⟩
  · exact ⟨s', hs', rfl, .refl s'⟩

/-- **Who is registered after a call.** The `Socket` registered at its descriptor before,
grown and under its address; or a new one, at a descriptor the call reassigns, under an
address not handed out before and not activated. -/
theorem registered_step (ev : Event) {fd : Nat} {s' : Socket}
    (hs' : (w.step pool ev).registry fd = some s') :
    (∃ s, w.registry fd = some s ∧ s'.id = s.id ∧ s.Grows s') ∨
      (w.nextSock ≤ s'.id ∧ s'.activated = false ∧ ev.reassigns fd = true) := by
  have hsame : w.registry fd = some s' → (∃ s, w.registry fd = some s ∧ s'.id = s.id ∧
      s.Grows s') ∨ (w.nextSock ≤ s'.id ∧ s'.activated = false ∧ ev.reassigns fd = true) :=
    fun h => .inl ⟨s', h, rfl, .refl s'⟩
  cases ev with
  | create fd₀ domain typearg protocol =>
    simp only [World.step, register_registry, Function.update_apply] at hs'
    split at hs'
    · cases hs'
      exact .inr ⟨Nat.le_refl _, rfl, beq_iff_eq.2 ‹fd = fd₀›.symm⟩
    · exact hsame hs'
  | call fd₀ c o =>
    simp only [World.step] at hs'
    split at hs'
    · exact hsame hs'
    rename_i s₀ hs₀
    cases c with
    | blackhole =>
      exact .inl (registered_update hs₀ (Socket.blackhole_grows s₀) rfl hs')
    | setsockopt | ioctl =>
      exact .inl (registered_update hs₀ (Socket.forwardOpt_grows o s₀ w.sys _)
        (Socket.forwardOpt_frame_id o s₀ w.sys _).1 hs')
    | listen => exact .inl (registered_update hs₀ (.refl s₀) rfl hs')
    | bind addr path =>
      exact .inl (registered_update hs₀ (Socket.bind_grows pool o s₀ w.sys addr path)
        (Socket.bind_frame pool o s₀ w.sys addr path).id hs')
    | connect addr path =>
      exact .inl (registered_update hs₀ (Socket.connect_grows pool o s₀ w.sys addr path)
        (Socket.connect_frame pool o s₀ w.sys addr path).id hs')
    | connectPeermap addr =>
      exact .inl (registered_update hs₀ (Socket.connectPeermap_grows o s₀ w.sys addr)
        (Socket.connectPeermap_frame o s₀ w.sys addr).id hs')
    | rewriteSrc realAddr =>
      exact .inl (registered_update hs₀ (Socket.rewriteSrc_grows pool o s₀ realAddr)
        (by rw [Socket.rewriteSrc_sock]) hs')
    | rewriteDest addr path =>
      exact .inl (registered_update hs₀ (Socket.rewriteDest_grows pool o s₀ w.sys addr path)
        (Socket.rewriteDest_frame pool o s₀ w.sys addr path).id hs')
    | activate addr filedes =>
      exact .inl (registered_update hs₀ (Socket.activate_grows o s₀ w.sys addr filedes)
        (Socket.activate_frame o s₀ w.sys addr filedes).id hs')
    | close =>
      simp only [perform, Function.update_apply] at hs'
      split at hs'
      · cases hs'
      · exact hsame hs'
    | accept newfd =>
      simp only [perform] at hs'
      split at hs'
      · exact hsame hs'
      rename_i k _
      have hg := Socket.accept_grows pool o s₀ k newfd w.nextSock
      have hid := (Socket.accept_frame pool o s₀ k newfd w.nextSock).id
      unfold acceptAt at hs'
      dsimp only at hs'
      split at hs'
      · -- the child, registered at `newfd` under the next address
        rename_i c hc
        simp only [register_registry, Function.update_apply] at hs'
        split at hs'
        · cases hs'
          obtain ⟨ports, peer, rfl⟩ := Socket.accept_child pool o s₀ k hc
          exact .inr ⟨Nat.le_refl _, rfl, beq_iff_eq.2 ‹fd = newfd›.symm⟩
        · exact .inl (registered_update hs₀ hg hid hs')
      · exact .inl (registered_update hs₀ hg hid hs')

/-- A call takes the `Socket` at `fd` away only when it closes `fd`. -/
theorem registry_step_isSome (ev : Event) {fd : Nat} (hev : ev.reassigns fd = false)
    (hs : (w.registry fd).isSome = true) : ((w.step pool ev).registry fd).isSome = true := by
  cases ev with
  | create fd₀ domain typearg protocol =>
    simp only [World.step, register_registry, Function.update_apply]
    split <;> simp [hs]
  | call fd₀ c o =>
    simp only [World.step]
    split
    · exact hs
    rename_i s _
    rcases perform_cases pool w fd₀ s o c with ⟨_, _, _, _, he⟩ | ⟨_, _, he⟩ | ⟨_, _, he⟩ |
      ⟨rfl, _, he⟩ | ⟨_, _, ⟨_, he⟩ | ⟨_, _, _, he | ⟨_, _, he⟩⟩⟩ <;>
      simp only [he, update_registry, register_registry, Function.update_apply]
    -- a `close` of another descriptor
    case inr.inr.inr.inl.intro.intro =>
      have hne : fd ≠ fd₀ := fun h => by simp [Event.reassigns, h] at hev
      simp [hne, hs]
    all_goals simp [apply_ite Option.isSome, hs]

/-- **A call that leaves `fd` alone keeps its `Socket` there**, under its address and grown. -/
theorem registered_step_of_keeps (ev : Event) {fd : Nat} {s : Socket}
    (hev : ev.reassigns fd = false) (hs : w.registry fd = some s) :
    ∃ s', (w.step pool ev).registry fd = some s' ∧ s'.id = s.id ∧ s.Grows s' := by
  obtain ⟨s', hs'⟩ := Option.isSome_iff_exists.1
    (registry_step_isSome pool ev hev (by rw [hs]; rfl))
  rcases registered_step pool ev hs' with ⟨s₀, h₀, hid, hg⟩ | ⟨-, -, hre⟩
  · obtain rfl : s₀ = s := Option.some.inj (h₀.symm.trans hs)
    exact ⟨s', hs', hid, hg⟩
  · rw [hev] at hre; cases hre

/-- Along a run that leaves `fd` alone, the `Socket` at `fd` stays, under its address and
grown. -/
theorem registered_run_of_keeps (evs : List Event) {fd : Nat}
    (hevs : ∀ ev ∈ evs, ev.reassigns fd = false) {w : World} {s : Socket}
    (hs : w.registry fd = some s) :
    ∃ s', (w.run pool evs).registry fd = some s' ∧ s'.id = s.id ∧ s.Grows s' := by
  induction evs generalizing w s with
  | nil => exact ⟨s, hs, rfl, .refl s⟩
  | cons ev evs ih =>
    obtain ⟨s₁, h₁, hid₁, hg₁⟩ :=
      registered_step_of_keeps pool ev (hevs ev (List.mem_cons_self ev evs)) hs
    obtain ⟨s', h', hid', hg'⟩ := ih (fun e he => hevs e (List.mem_cons_of_mem ev he)) h₁
    exact ⟨s', h', hid'.trans hid₁, hg₁.trans hg'⟩

/-- `nextSock` only grows. -/
theorem nextSock_le_step (w : World) (ev : Event) : w.nextSock ≤ (w.step pool ev).nextSock := by
  cases ev with
  | create => exact Nat.le_succ _
  | call fd c o =>
    simp only [World.step]
    split
    · exact Nat.le_refl _
    rename_i s _
    rcases perform_cases pool w fd s o c with ⟨_, _, _, _, he⟩ | ⟨_, _, he⟩ | ⟨_, _, he⟩ |
      ⟨_, _, he⟩ | ⟨_, _, ⟨_, he⟩ | ⟨_, _, _, he | ⟨_, _, he⟩⟩⟩ <;> rw [he] <;> simp

/-- **Along a run.** From a well-formed state, a `Socket` registered later under the address
of one registered now sits at the same descriptor and has grown from it. -/
theorem grows_along_run {w : World} (hwf : w.WellFormed) (evs : List Event) {fd fd' : Nat}
    {s s' : Socket} (hs : w.registry fd = some s) (hs' : (w.run pool evs).registry fd' = some s')
    (hid : s'.id = s.id) : fd' = fd ∧ s.Grows s' := by
  -- now: only `s` has its address, and it sits at `fd`
  have hinit : ∀ fd' s', w.registry fd' = some s' → s'.id = s.id → fd' = fd ∧ s.Grows s' :=
    fun fd' s' h' hid' => by
      obtain rfl := hwf.id_inj fd' fd s' s h' hs hid'
      obtain rfl : s' = s := Option.some.inj (h'.symm.trans hs)
      exact ⟨rfl, .refl s'⟩
  have hrun := run_induction pool (P := fun w' _ => w'.WellFormed ∧ s.id < w'.nextSock ∧
      ∀ fd' s', w'.registry fd' = some s' → s'.id = s.id → fd' = fd ∧ s.Grows s')
    (fun w' _ ev ⟨hwf', hlt, ih⟩ => ⟨hwf'.step pool ev,
      Nat.lt_of_lt_of_le hlt (nextSock_le_step pool w' ev), fun fd'' s'' h'' hid'' => by
        rcases registered_step pool ev h'' with ⟨s₀, h₀, hid₀, hg⟩ | ⟨hle, -, -⟩
        · -- the `Socket` at `fd''` before the call had the address too
          obtain ⟨hfd, hg₀⟩ := ih fd'' s₀ h₀ (hid₀.symm.trans hid'')
          exact ⟨hfd, hg₀.trans hg⟩
        · -- a new `Socket` has an address not handed out before
          omega⟩)
    evs w [] ⟨hwf, hwf.id_lt fd s hs, hinit⟩
  exact hrun.2.2 fd' s' hs' hid

/-- **A `Socket`'s flags are never cleared.** Along every run from a well-formed state, a
`Socket` registered under the address of one registered now sits at the same descriptor, and
it has every flag the earlier one had: `is_unix`, `bound`, `is_blackhole` and `activated`. -/
theorem flags_never_cleared {w : World} (hwf : w.WellFormed) (evs : List Event) {fd fd' : Nat}
    {s s' : Socket} (hs : w.registry fd = some s) (hs' : (w.run pool evs).registry fd' = some s')
    (hid : s'.id = s.id) :
    fd' = fd ∧ (s.isUnix = true → s'.isUnix = true) ∧ (s.bound = true → s'.bound = true) ∧
      (s.isBlackhole = true → s'.isBlackhole = true) ∧
      (s.activated = true → s'.activated = true) := by
  obtain ⟨hfd, hg⟩ := grows_along_run pool hwf evs hs hs' hid
  exact ⟨hfd, hg.isUnix, hg.bound, hg.isBlackhole, hg.activated_mono⟩

/-- The listener bound at `3` keeps its flags through `listen` and an `accept`, which takes a
port from its pool. -/
theorem listener_keeps_flags :
    let pool := Pool.firstFit 32768 60999
    let o := Outcomes.allOk 4 "/tmp/bh0" ⟨1000, 1000, 43⟩ 7
    let w := (init (fun _ => none) (fun _ => none) 0 ⟨1000, 1000, 42⟩).run pool
      [.create 3 .inet sockStream 0, .call 3 (.bind (.ip .inet 0x7f000001 8080) "/tmp/l.sock") o]
    let s := { Socket.new 0 3 .inet sockStream 0 with
      isUnix := true
      bound := true
      binding := some (.ip .inet 0x7f000001 8080)
      sockpath := some "/tmp/l.sock"
      ports := ⟨[8080]⟩ }
    let s' := { s with ports := (s.ports.acquire pool).2 }
    let evs : List Event := [.call 3 .listen o, .call 3 (.accept 5) o]
    w.WellFormed ∧ w.registry 3 = some s ∧ (w.run pool evs).registry 3 = some s' ∧
    s'.id = s.id ∧
    (3 = 3 ∧ (s.isUnix = true → s'.isUnix = true) ∧ (s.bound = true → s'.bound = true) ∧
      (s.isBlackhole = true → s'.isBlackhole = true) ∧
      (s.activated = true → s'.activated = true)) := by
  have hwf := run_wellFormed (Pool.firstFit 32768 60999)
    (wellFormed_init (fun _ => none) (fun _ => none) 0 ⟨1000, 1000, 42⟩)
    [.create 3 .inet sockStream 0, .call 3 (.bind (.ip .inet 0x7f000001 8080) "/tmp/l.sock")
      (Outcomes.allOk 4 "/tmp/bh0" ⟨1000, 1000, 43⟩ 7)]
  refine ⟨hwf, ?hs, ?hs', ?hid, flags_never_cleared _ hwf _ ?hs ?hs' ?hid⟩
  · rfl
  · rfl
  · rfl

/-- **Ports are never released.** Along every run from a well-formed state, a `Socket`
registered under the address of one registered now keeps every port the earlier one had
reserved. So under a valid policy, while its pool has a free port left, the port it acquires
next (for a `bind` to port `0`, an implicit binding, an accepted peer or a datagram peer) is
none the earlier one had reserved. -/
theorem ports_never_released (hv : pool.Valid) {w : World} (hwf : w.WellFormed)
    (evs : List Event) {fd fd' : Nat} {s s' : Socket} (hs : w.registry fd = some s)
    (hs' : (w.run pool evs).registry fd' = some s') (hid : s'.id = s.id) :
    s.ports.reserved ⊆ s'.ports.reserved ∧
      ((∃ p, pool.Free s'.ports.reserved p) → (s'.ports.acquire pool).1 ∉ s.ports.reserved) := by
  have hg := (grows_along_run pool hwf evs hs hs' hid).2
  exact ⟨hg.ports, fun hroom hmem => (Ports.acquire_of_free hv hroom).1.2.2 (hg.ports hmem)⟩

/-- The listener bound to port `8080` at `3` keeps that port through `listen` and an
`accept`, which reserves `32768` for the peer; the next port it acquires is neither. -/
theorem listener_keeps_ports :
    let pool := Pool.firstFit 32768 60999
    let o := Outcomes.allOk 4 "/tmp/bh0" ⟨1000, 1000, 43⟩ 7
    let w := (init (fun _ => none) (fun _ => none) 0 ⟨1000, 1000, 42⟩).run pool
      [.create 3 .inet sockStream 0, .call 3 (.bind (.ip .inet 0x7f000001 8080) "/tmp/l.sock") o]
    let s := { Socket.new 0 3 .inet sockStream 0 with
      isUnix := true
      bound := true
      binding := some (.ip .inet 0x7f000001 8080)
      sockpath := some "/tmp/l.sock"
      ports := ⟨[8080]⟩ }
    let s' := { s with ports := ⟨[32768, 8080]⟩ }
    let evs : List Event := [.call 3 .listen o, .call 3 (.accept 5) o]
    pool.Valid ∧ w.WellFormed ∧ w.registry 3 = some s ∧ (w.run pool evs).registry 3 = some s' ∧
    s'.id = s.id ∧
    (s.ports.reserved ⊆ s'.ports.reserved ∧
      ((∃ p, pool.Free s'.ports.reserved p) → (s'.ports.acquire pool).1 ∉ s.ports.reserved)) := by
  have hwf := run_wellFormed (Pool.firstFit 32768 60999)
    (wellFormed_init (fun _ => none) (fun _ => none) 0 ⟨1000, 1000, 42⟩)
    [.create 3 .inet sockStream 0, .call 3 (.bind (.ip .inet 0x7f000001 8080) "/tmp/l.sock")
      (Outcomes.allOk 4 "/tmp/bh0" ⟨1000, 1000, 43⟩ 7)]
  have hv := Pool.firstFit_valid 32768 60999
  refine ⟨hv, hwf, ?hs, ?hs', ?hid, ports_never_released _ hv hwf _ ?hs ?hs' ?hid⟩
  · rfl
  · rfl
  · rfl

/-- **Activated `Socket`s are bound UNIX sockets.** In every state a run from empty
registries reaches, a registered `Socket` that is activated is bound and says `is_unix`. -/
theorem activated_bound_unix (fds : Nat → Option Nat) (objs : Nat → Option SockObj)
    (nextObj : Nat) (cred : Ucred) (evs : List Event) :
    ∀ fd s, ((init fds objs nextObj cred).run pool evs).registry fd = some s →
      s.activated = true → s.bound = true ∧ s.isUnix = true :=
  run_induction pool (P := fun w _ => ∀ fd s, w.registry fd = some s →
      s.activated = true → s.bound = true ∧ s.isUnix = true)
    (fun _ _ ev ih fd s hs ha => by
      rcases registered_step pool ev hs with ⟨s₀, h₀, -, hg⟩ | ⟨-, hna, -⟩
      · exact hg.activated_bound (ih fd s₀ h₀) ha
      · exact nomatch hna.symm.trans ha)
    evs (init fds objs nextObj cred) [] fun _ _ h => (nomatch h)

/-- The stream socket at `3` activated on the UNIX socket the process holds at `7`. -/
theorem activated_on_seven :
    let w := init (fun fd => if fd = 7 then some 0 else none)
      (fun id => if id = 0 then some ⟨.unix, [], none, none⟩ else none) 1 ⟨0, 0, 0⟩
    let evs : List Event := [.create 3 .inet sockStream 0,
      .call 3 (.activate (.ip .inet 0x7f000001 8080) 7) (Outcomes.allOk 4 "/bh" ⟨0, 0, 0⟩ 0)]
    let s := { Socket.new 0 3 .inet sockStream 0 with
      isUnix := true
      bound := true
      binding := some (.ip .inet 0x7f000001 8080)
      activated := true }
    (w.run (Pool.firstFit 32768 60999) evs).registry 3 = some s ∧ s.activated = true ∧
      (s.bound = true ∧ s.isUnix = true) := by
  refine ⟨?h, rfl, activated_bound_unix _ _ _ _ _ _ 3 _ ?h rfl⟩
  rfl

/-- **`Socket::registry` finds the `Socket` created for a descriptor until the descriptor is
closed.** After a new socket at `fd`, along every run in which no call closes `fd` or puts
another `Socket` there (a new socket or an `accept` at `fd`, which a kernel does not hand out
while `fd` is open), the `Socket` at `fd` is the one created, under its address and grown
from it; and a `close` of `fd` removes it. -/
theorem lookup_until_close (w : World) (fd : Nat) (domain : Family) (typearg protocol : Nat)
    (evs : List Event) (hevs : ∀ ev ∈ evs, ev.reassigns fd = false) (o : Outcomes) :
    (∃ s, ((w.step pool (.create fd domain typearg protocol)).run pool evs).registry fd =
        some s ∧ s.id = w.nextSock ∧ (Socket.new w.nextSock fd domain typearg protocol).Grows s) ∧
    (((w.step pool (.create fd domain typearg protocol)).run pool evs).step pool
      (.call fd .close o)).registry fd = none := by
  have hnew : (w.step pool (.create fd domain typearg protocol)).registry fd =
      some (Socket.new w.nextSock fd domain typearg protocol) := by
    simp [World.step]
  refine ⟨registered_run_of_keeps pool evs hevs hnew, ?_⟩
  simp only [World.step]
  split
  · assumption
  · simp [perform]

/-- The stream socket created at `3` is still there after a second socket is created at `4`,
`3` is bound and `4` is closed. -/
theorem socket_stays_at_three :
    let pool := Pool.firstFit 32768 60999
    let w := init (fun _ => none) (fun _ => none) 0 ⟨1000, 1000, 42⟩
    let o := Outcomes.allOk 5 "/tmp/bh0" ⟨1000, 1000, 43⟩ 7
    let evs : List Event := [.create 4 .inet sockStream 0,
      .call 3 (.bind (.ip .inet 0x7f000001 8080) "/tmp/l.sock") o, .call 4 .close o]
    (∀ ev ∈ evs, ev.reassigns 3 = false) ∧
    (∃ s, ((w.step pool (.create 3 .inet sockStream 0)).run pool evs).registry 3 = some s ∧
        s.id = w.nextSock ∧ (Socket.new w.nextSock 3 .inet sockStream 0).Grows s) ∧
    (((w.step pool (.create 3 .inet sockStream 0)).run pool evs).step pool
      (.call 3 .close o)).registry 3 = none :=
  ⟨by decide, lookup_until_close _ _ _ _ _ _ _ (by decide) _⟩

/-- **`rewrite_src` is stable.** Once `rewrite_src` on a registered `Socket` reported the
address `A` for a datagram from a remote path, every later `rewrite_src` on that `Socket`,
after any run, for a datagram from the same path reports `A` again and changes nothing. -/
theorem rewriteSrc_stable {w : World} (hwf : w.WellFormed) {fd : Nat} {s : Socket}
    (hs : w.registry fd = some s) (realAddr : SockAddr) (o : Outcomes) {A : SockAddr}
    (hA : (s.rewriteSrc pool o realAddr).2.2 = some A) (evs : List Event) {fd' : Nat}
    {s' : Socket}
    (hs' : ((w.step pool (.call fd (.rewriteSrc realAddr) o)).run pool evs).registry fd' = some s')
    (hid : s'.id = s.id) (realAddr' : SockAddr)
    (hpath : realAddr'.getSockpath = realAddr.getSockpath) (o' : Outcomes) :
    s'.rewriteSrc pool o' realAddr' = (true, s', some A) := by
  obtain ⟨P, hP, hbind, hrev⟩ := Socket.rewriteSrc_reported pool o s hA
  -- after the call, the `Socket` at `fd` has bound the path `P` to `A`
  have h₁ : (w.step pool (.call fd (.rewriteSrc realAddr) o)).registry fd =
      some (s.rewriteSrc pool o realAddr).2.1 := by
    simp [World.step, hs, perform]
  have hid₁ : (s.rewriteSrc pool o realAddr).2.1.id = s.id := by rw [Socket.rewriteSrc_sock]
  have hb₁ : (s.rewriteSrc pool o realAddr).2.1.binding.isSome = true := by
    rw [Socket.rewriteSrc_sock]; exact hbind
  obtain ⟨-, hg⟩ := grows_along_run pool (hwf.step pool _) evs h₁ hs' (hid.trans hid₁.symm)
  exact Socket.rewriteSrc_of_revpeermap pool o' s' (hg.binding hb₁) (hpath.trans hP)
    (hg.revpeermap P A hrev)

/-- A datagram socket bound to `127.0.0.1:5000` reports the same address for `/tmp/a` after
it has seen `/tmp/b`. -/
theorem remote_path_keeps_address :
    let pool := Pool.firstFit 32768 60999
    let o := Outcomes.allOk 4 "/bh" ⟨0, 0, 0⟩ 0
    let w := (init (fun _ => none) (fun _ => none) 0 ⟨0, 0, 0⟩).run pool
      [.create 3 .inet sockDgram 0, .call 3 (.bind (.ip .inet 0x7f000001 5000) "/tmp/u.sock") o]
    let s := { Socket.new 0 3 .inet sockDgram 0 with
      isUnix := true
      bound := true
      binding := some (.ip .inet 0x7f000001 5000)
      sockpath := some "/tmp/u.sock"
      ports := ⟨[5000]⟩ }
    let s₁ := (s.rewriteSrc pool o (.path "/tmp/a")).2.1
    let s' := (s₁.rewriteSrc pool o (.path "/tmp/b")).2.1
    w.WellFormed ∧ w.registry 3 = some s ∧
    (s.rewriteSrc pool o (.path "/tmp/a")).2.2 = some (.ip .inet 0x7f000001 32768) ∧
    ((w.step pool (.call 3 (.rewriteSrc (.path "/tmp/a")) o)).run pool
      [.call 3 (.rewriteSrc (.path "/tmp/b")) o]).registry 3 = some s' ∧
    s'.id = s.id ∧ (SockAddr.path "/tmp/a").getSockpath = (SockAddr.path "/tmp/a").getSockpath ∧
    s'.rewriteSrc pool o (.path "/tmp/a") = (true, s', some (.ip .inet 0x7f000001 32768)) := by
  have hwf := run_wellFormed (Pool.firstFit 32768 60999)
    (wellFormed_init (fun _ => none) (fun _ => none) 0 ⟨0, 0, 0⟩)
    [.create 3 .inet sockDgram 0, .call 3 (.bind (.ip .inet 0x7f000001 5000) "/tmp/u.sock")
      (Outcomes.allOk 4 "/bh" ⟨0, 0, 0⟩ 0)]
  refine ⟨hwf, ?hs, ?hA, ?hs', ?hid, rfl,
    rewriteSrc_stable _ hwf ?hs _ _ ?hA _ ?hs' ?hid _ rfl _⟩
  · rfl
  · rfl
  · rfl
  · rfl

end World

end Ip2unix
