import Ip2unix.WorldLemmas

/-!
# Ip2unix — `is_unix` is sound

`is_unix` is how a `Socket` knows that its descriptor was switched to a UNIX socket.
`accept` shows it is not complete: a connection accepted on a switched listener is a UNIX
socket whose `Socket` says otherwise (`accepted_connection_not_unix`). It is sound, though,
as long as the kernel behaves as one does: a `Socket` that says `is_unix` has its descriptor
on a UNIX socket.

"As a kernel does" is a condition on the run, `World.freshDescriptors`: a descriptor that
`socket` or `accept` hands out is not one a `Socket` is registered at, and the descriptor
`activate` adopts is an unregistered UNIX socket. The model takes these descriptors as
inputs, so without the condition a call could hand out a registered descriptor.

* **`Sys.KindsKept`**: what a stretch of real calls does to the sockets. Objects keep their
  kind and, once bound, their address, and descriptors outside a given set keep their
  object.
* **`Socket.UnixStep`**: the same, for one method of a `Socket`. Only the descriptors the
  method opens or closes change, and so does the socket's own descriptor while it is not a
  UNIX one yet. A method that makes the socket a UNIX one leaves its descriptor on a UNIX
  socket.
* **`World.isUnix_sound`**: from any process state whose descriptors refer to numbered
  objects, every run under the condition keeps every `Socket` that says `is_unix` on a UNIX
  socket.
-/

namespace Ip2unix

namespace Sys

/-- Every descriptor refers to an object numbered below `nextObj`. -/
def IdsBelow (k : Sys) : Prop := ∀ fd id, k.fds fd = some id → id < k.nextObj

/-- The kind of the socket `fd` refers to. -/
def kindAt (k : Sys) (fd : Nat) : Option Kind := (k.obj fd).map SockObj.kind

/-- From `k` to `k'`: objects keep their kind and, once bound, their address, and numbers are
not reused; descriptors outside `touched` refer to the object they referred to. -/
structure KindsKept (k k' : Sys) (touched : Nat → Prop) : Prop where
  next : k.nextObj ≤ k'.nextObj
  objs : ∀ id, id < k.nextObj → (k'.objs id).map SockObj.kind = (k.objs id).map SockObj.kind
  bound : ∀ id, id < k.nextObj → ∀ a, (k.objs id).bind SockObj.boundTo = some a →
    (k'.objs id).bind SockObj.boundTo = some a
  fds : ∀ fd, ¬ touched fd → k'.fds fd = k.fds fd
  ids : k.IdsBelow → k'.IdsBelow

namespace KindsKept

variable {k₁ k₂ k₃ k k' : Sys} {T T₁ T₂ : Nat → Prop}

theorem refl (k : Sys) (T : Nat → Prop) : KindsKept k k T :=
  ⟨Nat.le_refl _, fun _ _ => rfl, fun _ _ _ h => h, fun _ _ => rfl, id⟩

theorem trans (h₁ : KindsKept k₁ k₂ T₁) (h₂ : KindsKept k₂ k₃ T₂) :
    KindsKept k₁ k₃ fun fd => T₁ fd ∨ T₂ fd :=
  ⟨Nat.le_trans h₁.next h₂.next,
    fun id hid => (h₂.objs id (Nat.lt_of_lt_of_le hid h₁.next)).trans (h₁.objs id hid),
    fun id hid a h => h₂.bound id (Nat.lt_of_lt_of_le hid h₁.next) a (h₁.bound id hid a h),
    fun fd hfd => (h₂.fds fd fun h => hfd (.inr h)).trans (h₁.fds fd fun h => hfd (.inl h)),
    fun hk => h₂.ids (h₁.ids hk)⟩

theorem mono (h : KindsKept k k' T₁) (hT : ∀ fd, T₁ fd → T₂ fd) : KindsKept k k' T₂ :=
  ⟨h.next, h.objs, h.bound, fun fd hfd => h.fds fd fun h' => hfd (hT fd h'), h.ids⟩

/-- **A descriptor left alone keeps its kind.** -/
theorem kindAt_eq (h : KindsKept k k' T) (hk : k.IdsBelow) {fd : Nat} (hfd : ¬ T fd) :
    k'.kindAt fd = k.kindAt fd := by
  simp only [kindAt, obj, h.fds fd hfd]
  cases hid : k.fds fd with
  | none => rfl
  | some id => simpa only [Option.map_bind, Option.some_bind] using h.objs id (hk fd id hid)

/-- **A descriptor left alone stays bound where it was.** -/
theorem boundAt_eq (h : KindsKept k k' T) (hk : k.IdsBelow) {fd : Nat} (hfd : ¬ T fd)
    {a : SockAddr} (ha : k.boundAt fd = some a) : k'.boundAt fd = some a := by
  simp only [boundAt, obj, h.fds fd hfd] at ha ⊢
  cases hid : k.fds fd with
  | none => simp [hid] at ha
  | some id =>
    simp only [hid, Option.some_bind] at ha ⊢
    exact h.bound id (hk fd id hid) a ha

end KindsKept

theorem kindsKept_fail (err : Errno) (k : Sys) (T : Nat → Prop) : KindsKept k (k.fail err) T :=
  ⟨Nat.le_refl _, fun _ _ => rfl, fun _ _ _ h => h, fun _ _ => rfl, id⟩

/-- An object replaced by one of its kind, bound where it was bound. -/
theorem kindsKept_setObj {k : Sys} {id : Nat} {obj obj' : SockObj} (hobj : k.objs id = some obj)
    (hkind : obj'.kind = obj.kind) (hbound : ∀ a, obj.boundTo = some a → obj'.boundTo = some a)
    (T : Nat → Prop) : KindsKept k (k.setObj id obj') T := by
  refine ⟨Nat.le_refl _, fun id' _ => ?_, fun id' _ a h => ?_, fun _ _ => rfl, fun hk => hk⟩
  · simp only [setObj, Function.update_apply]
    split
    · subst id'; simp [hobj, hkind]
    · rfl
  · simp only [setObj, Function.update_apply]
    split
    · subst id'; simp only [hobj, Option.some_bind] at h ⊢; exact hbound a h
    · exact h

/-- A descriptor pointed at a numbered object, or closed. -/
theorem kindsKept_setFd {k : Sys} (fd : Nat) {id : Option Nat}
    (hid : k.IdsBelow → ∀ i, id = some i → i < k.nextObj) :
    KindsKept k (k.setFd fd id) (· = fd) := by
  refine ⟨Nat.le_refl _, fun _ _ => rfl, fun _ _ _ h => h, fun fd' h => by simp [setFd, h],
    fun hk fd' i h => ?_⟩
  simp only [setFd, Function.update_apply] at h
  split at h
  · exact hid hk i h
  · exact hk fd' i h

theorem kindsKept_openObj (fd : Nat) (kind : Kind) (peer : Option SockAddr) (k : Sys) :
    KindsKept k (k.openObj fd kind peer) (· = fd) := by
  refine ⟨Nat.le_succ _, fun id hid => ?_, fun id hid a h => ?_, fun fd' h => by simp [openObj, h],
    fun hk fd' i h => ?_⟩
  · simp [openObj, Function.update_apply, Nat.ne_of_lt hid]
  · simpa [openObj, Function.update_apply, Nat.ne_of_lt hid] using h
  · simp only [openObj, Function.update_apply] at h
    split at h
    · cases h; exact Nat.lt_succ_self _
    · exact Nat.lt_succ_of_lt (hk fd' i h)

theorem kindsKept_realClose (fd : Nat) (k : Sys) : KindsKept k (k.realClose fd) (· = fd) :=
  kindsKept_setFd fd fun _ _ h => nomatch h

/-- A real call that writes one object's state, as `replay`, `bind`, `connect` and the
forwarded calls do. -/
theorem kindsKept_lookup_setObj {k : Sys} {fd id : Nat} {obj obj' : SockObj}
    (hl : k.lookup fd = some (id, obj)) (hkind : obj'.kind = obj.kind)
    (hbound : ∀ a, obj.boundTo = some a → obj'.boundTo = some a) (T : Nat → Prop) :
    KindsKept k (k.setObj id obj') T :=
  kindsKept_setObj (lookup_eq_some.1 hl).2 hkind hbound T

theorem replay_kindsKept {o : Outcomes} {opts : List SockOpt} {fd : Nat} {k k' : Sys}
    (h : k.replay o opts fd = .ok k') (T : Nat → Prop) : KindsKept k k' T := by
  obtain ⟨id, obj, hl, -, rfl⟩ := replay_eq h
  exact kindsKept_lookup_setObj hl (by rfl) (fun _ h => by exact h) T

theorem realBind_kindsKept {o : Outcomes} {fd : Nat} {addr : SockAddr} {k k' : Sys}
    (h : k.realBind o fd addr = .ok k') (T : Nat → Prop) : KindsKept k k' T := by
  obtain ⟨id, obj, hl, hnone, -, rfl⟩ := realBind_eq h
  -- a bound socket refuses `bind`
  exact kindsKept_lookup_setObj hl (by rfl) (fun _ h => nomatch hnone.symm.trans h) T

theorem realConnect_kindsKept {o : Outcomes} {fd : Nat} {addr : SockAddr} {k k' : Sys}
    (h : k.realConnect o fd addr = .ok k') (T : Nat → Prop) : KindsKept k k' T := by
  obtain ⟨id, obj, hl, -, rfl⟩ := realConnect_eq h
  exact kindsKept_lookup_setObj hl (by rfl) (fun _ h => by exact h) T

theorem realCall_kindsKept {o : Outcomes} {fd : Nat} {opt : SockOpt} {k k' : Sys} {n : Nat}
    (h : k.realCall o fd opt = .ok (n, k')) (T : Nat → Prop) : KindsKept k k' T := by
  obtain ⟨id, obj, hl, -, rfl⟩ := realCall_eq h
  exact kindsKept_lookup_setObj hl (by rfl) (fun _ h => by exact h) T

theorem realDup2_kindsKept {o : Outcomes} {src dst : Nat} {k k' : Sys}
    (h : k.realDup2 o src dst = .ok k') : KindsKept k k' (· = dst) := by
  obtain ⟨id, hid, -, rfl⟩ := realDup2_eq h
  exact kindsKept_setFd dst fun hk i h => hk src i (by rw [hid, h])

theorem realAccept_kindsKept {o : Outcomes} {listenfd newfd : Nat} {k k' : Sys}
    (h : k.realAccept o listenfd newfd = .ok k') : KindsKept k k' (· = newfd) := by
  obtain ⟨obj, -, -, rfl⟩ := realAccept_eq h
  exact kindsKept_openObj newfd _ _ k

/-- After `dup2(src, dst)`, `dst` is on the socket `src` is on. -/
theorem realDup2_kindAt {o : Outcomes} {src dst : Nat} {k k' : Sys}
    (h : k.realDup2 o src dst = .ok k') : k'.kindAt dst = k.kindAt src := by
  obtain ⟨id, hid, -, rfl⟩ := realDup2_eq h
  simp [kindAt, obj, hid]

/-- A closed descriptor is on no socket. -/
theorem kindAt_of_fds_none {k : Sys} {fd : Nat} (h : k.fds fd = none) : k.kindAt fd = none := by
  simp [kindAt, obj, h]

end Sys

/-! ## One method

A method of `Socket` either leaves every socket's kind and every descriptor alone and
`isUnix` as it was (`Quiet`), or runs `make_unix`, which may open one descriptor and changes
the socket's own (`UnixStep`). -/

namespace Socket

/-- A stretch of a method that changes no descriptor and no socket's kind, and keeps
`isUnix`. -/
structure Quiet (s : Socket) (k : Sys) (s' : Socket) (k' : Sys) : Prop where
  kinds : k.KindsKept k' fun _ => False
  isUnix : s'.isUnix = s.isUnix

/-- One method on `s`: only the descriptors in `fresh` change, and the socket's own while it
is not a UNIX one; a socket that said `is_unix` on a UNIX socket, or says it now, is on one. -/
structure UnixStep (fresh : Nat → Prop) (s : Socket) (k : Sys) (s' : Socket) (k' : Sys) :
    Prop where
  kinds : k.KindsKept k' fun fd => fresh fd ∨ (fd = s.fd ∧ s.isUnix = false)
  unix : k.IdsBelow → (s.isUnix = true → k.kindAt s.fd = some .unix) → s'.isUnix = true →
    k'.kindAt s.fd = some .unix

variable {F : Nat → Prop} {s₁ s₂ s₃ : Socket} {k₁ k₂ k₃ : Sys}

theorem Quiet.refl (s : Socket) (k : Sys) : Quiet s k s k := ⟨.refl k _, rfl⟩

theorem Quiet.fail (s : Socket) (k : Sys) (err : Errno) : Quiet s k s (k.fail err) :=
  ⟨Sys.kindsKept_fail err k _, rfl⟩

/-- Files unlinked on the way out touch no descriptor. -/
theorem Quiet.unlink (h : Quiet s₁ k₁ s₂ k₂) (ps : List String) : Quiet s₁ k₁ s₂ (k₂.unlink ps) :=
  ⟨⟨h.kinds.next, h.kinds.objs, h.kinds.bound, h.kinds.fds, h.kinds.ids⟩, h.isUnix⟩

theorem Quiet.trans (h₁ : Quiet s₁ k₁ s₂ k₂) (h₂ : Quiet s₂ k₂ s₃ k₃) : Quiet s₁ k₁ s₃ k₃ :=
  ⟨(h₁.kinds.trans h₂.kinds).mono fun _ h => h.resolve_right not_false,
    h₂.isUnix.trans h₁.isUnix⟩

/-- A quiet stretch is a step for any set of descriptors. -/
theorem Quiet.unixStep (h : Quiet s₁ k₁ s₂ k₂) : UnixStep F s₁ k₁ s₂ k₂ :=
  ⟨h.kinds.mono fun _ h => h.elim, fun hk hu hu₂ =>
    (h.kinds.kindAt_eq hk not_false).trans (hu (h.isUnix.symm.trans hu₂))⟩

/-- A method that went on quietly after a step. -/
theorem UnixStep.quiet (h₁ : UnixStep F s₁ k₁ s₂ k₂) (h₂ : Quiet s₂ k₂ s₃ k₃) :
    UnixStep F s₁ k₁ s₃ k₃ :=
  ⟨(h₁.kinds.trans h₂.kinds).mono fun _ h => h.resolve_right not_false, fun hk hu hu₃ =>
    (h₂.kinds.kindAt_eq (h₁.kinds.ids hk) not_false).trans
      (h₁.unix hk hu (h₂.isUnix.symm.trans hu₃))⟩

variable (pool : Pool) (o : Outcomes) (s : Socket) (k : Sys)

/-! ### `make_unix` -/

/-- **`make_unix` on a UNIX descriptor.** If the descriptor `make_unix` works on is in
`fresh` and on a UNIX socket, `make_unix` changes the descriptors in `fresh` and the
socket's own only, and a switched socket's descriptor is on a UNIX socket. -/
theorem makeUnix_unixStep (oldfd : Option Nat)
    (hopen : ∀ newfd k₁, k.openUnix o oldfd = .ok (newfd, k₁) →
      F newfd ∧ k.KindsKept k₁ F ∧ (k.IdsBelow → k₁.kindAt newfd = some .unix)) :
    UnixStep F s k (s.makeUnix o oldfd k).2.1 (s.makeUnix o oldfd k).2.2 := by
  unfold makeUnix
  split
  · exact (Quiet.refl s k).unixStep
  rename_i hu
  split
  · exact (Quiet.fail s k _).unixStep
  rename_i newfd k₁ hopen'
  obtain ⟨hF, h₁, hkind⟩ := hopen newfd k₁ hopen'
  -- a failure closes `newfd` and leaves the socket as it was
  have hclose : ∀ k₂ err, k.KindsKept k₂ F → UnixStep F s k s ((k₂.fail err).realClose newfd) :=
    fun k₂ err h₂ => ⟨((h₂.trans (Sys.kindsKept_fail err k₂ fun _ => False)).trans
      (Sys.kindsKept_realClose newfd _)).mono
        fun _ h => .inl (h.elim (·.resolve_right not_false) (· ▸ hF)),
      fun _ _ hu' => absurd hu' hu⟩
  split
  · exact hclose k₁ _ h₁
  rename_i k₂ hreplay
  have h₂ := Sys.replay_kindsKept hreplay fun _ => False
  split
  · exact hclose k₂ _ ((h₁.trans h₂).mono fun _ h => h.resolve_right not_false)
  rename_i k₃ hdup
  refine ⟨((h₁.trans h₂).trans (Sys.realDup2_kindsKept hdup)).mono
    fun _ h => h.imp (·.resolve_right not_false) (⟨·, Bool.eq_false_iff.2 hu⟩), fun hk _ _ => ?_⟩
  rw [Sys.realDup2_kindAt hdup, h₂.kindAt_eq (h₁.ids hk) not_false, hkind hk]

/-- `make_unix()` opens the descriptor `socket` returns. -/
theorem makeUnix_none_unixStep :
    UnixStep (o.socket = .ok ·) s k (s.makeUnix o none k).2.1 (s.makeUnix o none k).2.2 := by
  refine makeUnix_unixStep o s k none fun newfd k₁ h => ?_
  obtain ⟨hfd, rfl⟩ := Sys.realSocket_eq h
  exact ⟨hfd, (Sys.kindsKept_openObj newfd .unix none k).mono fun _ h => h ▸ hfd,
    fun _ => by simp [Sys.kindAt, Sys.obj_openObj]⟩

/-- `make_unix(filedes)` adopts `filedes`, which is on a UNIX socket. -/
theorem makeUnix_some_unixStep {filedes : Nat} (hkind : k.kindAt filedes = some .unix) :
    UnixStep (· = filedes) s k (s.makeUnix o (some filedes) k).2.1
      (s.makeUnix o (some filedes) k).2.2 :=
  makeUnix_unixStep o s k _ fun _ _ h => by
    cases h; exact ⟨rfl, .refl k _, fun _ => hkind⟩

/-! ### The methods -/

theorem bindPort_quiet (addr : SockAddr) : Quiet s k (s.bindPort pool addr).2.2 k :=
  ⟨.refl k _, by unfold bindPort; split <;> rfl⟩

theorem bindBlackhole_quiet : Quiet s k (s.bindBlackhole o k).2.1 (s.bindBlackhole o k).2.2 := by
  unfold bindBlackhole
  repeat' split
  all_goals first
    | exact .refl s k
    | exact (Quiet.fail s k _).unlink _
    | (refine Quiet.unlink ?_ _; exact ⟨Sys.realBind_kindsKept ‹_› _, rfl⟩)

theorem bindPath_quiet (newpath : String) :
    Quiet s k (s.bindPath o newpath k).2.1 (s.bindPath o newpath k).2.2 := by
  unfold bindPath
  split
  · exact .fail s k _
  split
  · exact .fail s k _
  rename_i k' hb
  -- `KindsKept` does not read the path registry
  have h := Sys.realBind_kindsKept hb fun _ => False
  exact ⟨⟨h.next, h.objs, h.bound, h.fds, h.ids⟩, rfl⟩

theorem bindFinish_quiet (newaddr : SockAddr) (port : Option Nat) (ret : Int) :
    Quiet s k (bindFinish newaddr port ret s k).2.1 (bindFinish newaddr port ret s k).2.2 := by
  unfold bindFinish
  split <;> exact ⟨.refl k _, rfl⟩

theorem createBinding_isUnix (addr : SockAddr) :
    (s.createBinding pool addr k).2.isUnix = s.isUnix := by
  rw [createBinding_sock]

theorem bind_unixStep (addr : SockAddr) (path : String) :
    UnixStep (o.socket = .ok ·) s k (s.bind pool o addr path k).2.1
      (s.bind pool o addr path k).2.2 := by
  have hm := makeUnix_none_unixStep o s k
  rw [bind]
  generalize s.makeUnix o none k = m at hm ⊢
  rcases m with ⟨_ | _, s₁, k₁⟩ <;> dsimp only at hm ⊢
  · exact hm
  refine hm.quiet ?_
  have hp := bindPort_quiet pool s₁ k₁ addr
  generalize s₁.bindPort pool addr = b at hp ⊢
  rcases b with ⟨newaddr, port, s₂⟩
  dsimp only at hp ⊢
  refine hp.trans ?_
  split
  · exact (bindBlackhole_quiet o s₂ k₁).trans (bindFinish_quiet _ _ _ _ _)
  · exact (bindPath_quiet o s₂ k₁ _).trans (bindFinish_quiet _ _ _ _ _)

/-- The arms of `rewrite_dest` past `make_unix` bind to a blackhole at most. -/
theorem rewriteDest_unixStep (addr : SockAddr) (path : String) :
    UnixStep (o.socket = .ok ·) s k (s.rewriteDest pool o addr path k).2.1
      (s.rewriteDest pool o addr path k).2.2 := by
  have hm := makeUnix_none_unixStep o s k
  rw [rewriteDest]
  split
  · exact (Quiet.refl s k).unixStep
  generalize SockAddr.unix (formatSockpath s.type path addr) = d
  rcases d with _ | destpath
  · exact (Quiet.refl s k).unixStep
  dsimp only
  generalize s.makeUnix o none k = m at hm ⊢
  rcases m with ⟨_ | _, s₁, k₁⟩ <;> dsimp only at hm ⊢
  · exact hm
  refine hm.quiet ?_
  split
  · exact .refl s₁ k₁
  split
  · exact .refl s₁ k₁
  split
  · exact (Quiet.refl s₁ k₁).unlink _
  split
  · exact (Quiet.fail s₁ k₁ _).unlink _
  rename_i k₂ hb
  have hcb := createBinding_isUnix pool s₁ k₂ addr
  generalize s₁.createBinding pool addr k₂ = cb at hcb ⊢
  rcases cb with ⟨_ | _, s₂⟩ <;> refine Quiet.unlink ?_ _ <;> exact ⟨Sys.realBind_kindsKept hb _, hcb⟩

theorem connect_unixStep (addr : SockAddr) (path : String) :
    UnixStep (o.socket = .ok ·) s k (s.connect pool o addr path k).2.1
      (s.connect pool o addr path k).2.2 := by
  rw [connect]
  split
  · have hr := rewriteDest_unixStep pool o s k addr path
    generalize s.rewriteDest pool o addr path k = r at hr ⊢
    rcases r with ⟨_ | dest, s₁, k₁⟩ <;> dsimp only at hr ⊢
    · exact hr.quiet (.fail s₁ k₁ _)
    refine hr.quiet ?_
    split
    · exact .fail s₁ k₁ _
    · exact ⟨Sys.realConnect_kindsKept ‹_› _, rfl⟩
  have hm := makeUnix_none_unixStep o s k
  dsimp only
  split
  · exact (Quiet.fail s k _).unixStep
  generalize s.makeUnix o none k = m at hm ⊢
  rcases m with ⟨_ | _, s₁, k₁⟩ <;> dsimp only at hm ⊢
  · exact hm
  refine hm.quiet ?_
  split
  · exact .fail s₁ k₁ _
  split
  · exact .fail s₁ k₁ _
  rename_i k₂ hc
  have hq : Quiet s₁ k₁ s₁ k₂ := ⟨Sys.realConnect_kindsKept hc _, rfl⟩
  split
  · have hcb := createBinding_isUnix pool s₁ k₂ addr
    generalize s₁.createBinding pool addr k₂ = cb at hcb ⊢
    rcases cb with ⟨_ | _, s₂⟩ <;> dsimp only at hcb ⊢
    · exact hq.trans ⟨Sys.kindsKept_fail _ _ _, hcb⟩
    · exact hq.trans ⟨.refl k₂ _, hcb⟩
  · exact ⟨hq.kinds, rfl⟩

/-- `activate` adopts `filedes`. -/
theorem activate_unixStep (addr : SockAddr) {filedes : Nat}
    (hkind : k.kindAt filedes = some .unix) :
    UnixStep (· = filedes) s k (s.activate o addr filedes k).2.1
      (s.activate o addr filedes k).2.2 := by
  have hm := makeUnix_some_unixStep o s k hkind
  unfold activate
  generalize s.makeUnix o (some filedes) k = m at hm ⊢
  rcases m with ⟨_ | _, s₁, k₁⟩ <;> dsimp only at hm ⊢
  · exact hm
  · exact hm.quiet ⟨.refl k₁ _, rfl⟩

theorem connectPeermap_quiet (addr : SockAddr) :
    Quiet s k (s.connectPeermap o addr k).2.1 (s.connectPeermap o addr k).2.2 := by
  unfold connectPeermap
  repeat' split
  all_goals first
    | exact .refl s k
    | exact .fail s k _
    | exact ⟨Sys.realConnect_kindsKept ‹_› _, rfl⟩

theorem forwardOpt_quiet (opt : SockOpt) :
    Quiet s k (s.forwardOpt o opt k).2.1 (s.forwardOpt o opt k).2.2 := by
  unfold forwardOpt
  split
  · exact .fail s k _
  rename_i ret k' hc
  have hk := Sys.realCall_kindsKept hc fun _ => False
  split
  · exact ⟨hk, rfl⟩
  · split <;> exact ⟨hk, rfl⟩

theorem listen_quiet : Quiet s k s (s.listen o k).2 := by
  unfold listen
  split
  · exact .refl s k
  split
  · exact .refl s k
  · exact .fail s k _

theorem accept_quiet (sockfd childId : Nat) :
    Quiet s k (s.accept pool o sockfd childId k).2.1 (s.accept pool o sockfd childId k).2.2.1 := by
  unfold accept
  dsimp only
  repeat' split
  all_goals first
    | exact ⟨.refl k _, rfl⟩
    | exact ⟨Sys.kindsKept_fail _ k _, rfl⟩

theorem rewriteSrc_isUnix (realAddr : SockAddr) :
    (s.rewriteSrc pool o realAddr).2.1.isUnix = s.isUnix := by
  rw [rewriteSrc_sock]

/-- `close` closes the socket's own descriptor at most. -/
theorem close_kindsKept : k.KindsKept (s.close o k).2.2 (· = s.fd) := by
  unfold close
  split
  · exact .refl k _
  split
  rename_i ret k' hc
  have h : k.KindsKept k' (· = s.fd) := by
    split at hc <;> cases hc
    · exact Sys.kindsKept_realClose s.fd k
    · exact ((Sys.kindsKept_realClose s.fd k).trans (Sys.kindsKept_fail _ _ _)).mono
        fun _ h => h.resolve_right not_false
  -- the path's bookkeeping keeps the descriptors
  repeat' split
  all_goals exact ⟨h.next, h.objs, h.bound, h.fds, h.ids⟩

/-- The destructor writes only the list of unlinked files. -/
theorem destroy_kindsKept (T : Nat → Prop) : k.KindsKept (s.destroy k) T := by
  unfold destroy
  repeat' split
  all_goals exact ⟨Nat.le_refl _, fun _ _ => rfl, fun _ _ _ h => h, fun _ _ => rfl, fun hk => hk⟩

end Socket

/-! ## Runs

The invariant `UnixSound` holds of every state a run reaches when the kernel hands out
closed descriptors (`freshDescriptors`). `UnixSound.update` is the step of a method on the
`Socket` at its descriptor; `UnixSound.keep` the step of a call that changes no registered
`Socket` that says `is_unix`. -/

namespace World

/-- The kernel hands out closed descriptors: the one `socket` returns in this call's outcomes
and the one a real `accept` returns are closed, and `activate` adopts a UNIX socket no
`Socket` is registered at. -/
def freshDescriptors : World × Event → Bool
  | (_, .create ..) => true
  | (w, .call _ c o) =>
    (match o.socket with
      | .ok n => (w.sys.fds n).isNone
      | .error _ => true) &&
    match c with
    | .accept newfd => (w.sys.fds newfd).isNone
    | .activate _ filedes =>
      (w.registry filedes).isNone && decide (w.sys.kindAt filedes = some .unix)
    | _ => true

section Fresh

variable {w : World} {fd : Nat} {c : Call} {o : Outcomes}

theorem freshDescriptors_socket (h : freshDescriptors (w, .call fd c o) = true) {n : Nat}
    (hn : o.socket = .ok n) : w.sys.fds n = none := by
  simp only [freshDescriptors, hn, Bool.and_eq_true, Option.isNone_iff_eq_none] at h
  exact h.1

theorem freshDescriptors_accept {newfd : Nat}
    (h : freshDescriptors (w, .call fd (.accept newfd) o) = true) : w.sys.fds newfd = none := by
  simp only [freshDescriptors, Bool.and_eq_true, Option.isNone_iff_eq_none] at h
  exact h.2

theorem freshDescriptors_activate {addr : SockAddr} {filedes : Nat}
    (h : freshDescriptors (w, .call fd (.activate addr filedes) o) = true) :
    w.registry filedes = none ∧ w.sys.kindAt filedes = some .unix := by
  simp only [freshDescriptors, Bool.and_eq_true, Option.isNone_iff_eq_none,
    decide_eq_true_eq] at h
  exact h.2

end Fresh

/-- Registering a `Socket` destroys at most the one it replaces. -/
theorem register_kindsKept (fd : Nat) (s : Socket) (w : World) (T : Nat → Prop) :
    w.sys.KindsKept (w.register fd s).sys T := by
  unfold register
  split
  · exact Socket.destroy_kindsKept _ _ T
  · exact .refl _ T

/-- Descriptors refer to numbered objects, and every registered `Socket` that says
`is_unix` has its descriptor on a UNIX socket. -/
structure UnixSound (w : World) : Prop where
  ids : w.sys.IdsBelow
  unix : ∀ fd s, w.registry fd = some s → s.isUnix = true → w.sys.kindAt s.fd = some .unix

variable (pool : Pool) {w w' : World}

theorem UnixSound.init {fds : Nat → Option Nat} (objs : Nat → Option SockObj) {nextObj : Nat}
    (cred : Ucred) (hids : ∀ fd id, fds fd = some id → id < nextObj) :
    UnixSound (init fds objs nextObj cred) :=
  ⟨hids, fun _ _ h => (nomatch h)⟩

/-- A registered `Socket` that says `is_unix` has an open descriptor. -/
theorem UnixSound.fds_ne_none (h : UnixSound w) {fd : Nat} {s : Socket}
    (hs : w.registry fd = some s) (hu : s.isUnix = true) : w.sys.fds s.fd ≠ none := fun hn => by
  simpa [Sys.kindAt_of_fds_none hn] using h.unix fd s hs hu

/-- Every `Socket` that says `is_unix` afterwards was registered where it is, on a descriptor
the step left alone. -/
theorem UnixSound.keep (h : UnixSound w) {T : Nat → Prop} (hk : w.sys.KindsKept w'.sys T)
    (hreg : ∀ fd s, w'.registry fd = some s → s.isUnix = true →
      w.registry fd = some s ∧ ¬ T s.fd) : UnixSound w' :=
  ⟨hk.ids h.ids, fun fd s hs hu => by
    obtain ⟨h₀, hT⟩ := hreg fd s hs hu
    rw [hk.kindAt_eq h.ids hT, h.unix fd s h₀ hu]⟩

/-- A `Socket` that does not say `is_unix` registered at `fd`, only `fd` changed. -/
theorem UnixSound.insert (h : UnixSound w) (hwf : w.WellFormed) {fd : Nat} {c : Socket}
    (hreg : w'.registry = Function.update w.registry fd (some c)) (hc : c.isUnix = false)
    (hk : w.sys.KindsKept w'.sys (· = fd)) : UnixSound w' :=
  h.keep hk fun fd₁ s₁ h₁ hu => by
    rw [hreg, Function.update_apply] at h₁
    split at h₁
    · cases h₁; simp [hc] at hu
    · exact ⟨h₁, fun he => ‹¬fd₁ = fd› ((hwf.fd fd₁ s₁ h₁).symm.trans he)⟩

/-- The `Socket` at `fd` dropped, only its descriptor changed. -/
theorem UnixSound.erase (h : UnixSound w) (hwf : w.WellFormed) {fd : Nat} {s : Socket}
    (hs : w.registry fd = some s) (hreg : w'.registry = Function.update w.registry fd none)
    (hk : w.sys.KindsKept w'.sys (· = s.fd)) : UnixSound w' :=
  h.keep hk fun fd₁ s₁ h₁ _ => by
    rw [hreg, Function.update_apply] at h₁
    split at h₁
    · cases h₁
    · exact ⟨h₁, fun he => ‹¬fd₁ = fd› ((hwf.fd fd₁ s₁ h₁).symm.trans
        (he.trans (hwf.fd fd s hs)))⟩

/-- **The step of a method.** The `Socket` at `fd` after a method that changed the
descriptors in `F` and its own only, where `F` holds no descriptor of a `Socket` that says
`is_unix`. -/
theorem UnixSound.update (h : UnixSound w) (hwf : w.WellFormed) {fd : Nat} {s s' : Socket}
    {k' : Sys} {F : Nat → Prop} (hs : w.registry fd = some s)
    (hstep : Socket.UnixStep F s w.sys s' k') (hfd : s'.fd = s.fd)
    (hF : ∀ fd s, w.registry fd = some s → s.isUnix = true → ¬ F s.fd) :
    UnixSound (w.update fd s' k') := by
  refine ⟨hstep.kinds.ids h.ids, fun fd₁ s₁ h₁ hu => ?_⟩
  rw [update_registry, Function.update_apply] at h₁
  split at h₁
  · -- the `Socket` the method ran on
    cases h₁
    rw [update_sys, hfd]
    exact hstep.unix h.ids (h.unix fd s hs) hu
  · -- any other sits at another descriptor, which the method did not touch
    rename_i hne
    rw [update_sys, hstep.kinds.kindAt_eq h.ids, h.unix fd₁ s₁ h₁ hu]
    rintro (hF₁ | ⟨he, -⟩)
    · exact hF fd₁ s₁ h₁ hu hF₁
    · exact hne ((hwf.fd fd₁ s₁ h₁).symm.trans (he.trans (hwf.fd fd s hs)))

theorem UnixSound.quiet (h : UnixSound w) (hwf : w.WellFormed) {fd : Nat} {s s' : Socket}
    {k' : Sys} (hs : w.registry fd = some s) (hq : Socket.Quiet s w.sys s' k')
    (hfd : s'.fd = s.fd) : UnixSound (w.update fd s' k') :=
  h.update hwf hs (F := fun _ => False) hq.unixStep hfd fun _ _ _ _ h => h

/-- The real `accept` opens `newfd`, closed before; `Socket::accept` registers there a child
that does not say `is_unix`. -/
theorem UnixSound.accept (h : UnixSound w) (hwf : w.WellFormed) {fd newfd : Nat} {s : Socket}
    {o : Outcomes} (hs : w.registry fd = some s) (hnew : w.sys.fds newfd = none) :
    UnixSound (w.perform pool fd s o (.accept newfd)) := by
  simp only [perform]
  split
  · exact h.keep (T := fun _ => False) (Sys.kindsKept_fail _ _ _) fun _ _ hs _ => ⟨hs, not_false⟩
  rename_i k hacc
  have h₁ : UnixSound { w with sys := k } :=
    h.keep (Sys.realAccept_kindsKept hacc) fun fd' s' h' hu =>
      ⟨h', fun he => h.fds_ne_none h' hu (he ▸ hnew)⟩
  have hf := Socket.accept_frame pool o s k newfd w.nextSock
  have hwf₂ : WellFormed (w.update fd (s.accept pool o newfd w.nextSock k).2.1
      (s.accept pool o newfd w.nextSock k).2.2.1) := hwf.replace rfl rfl hs hf.id hf.fd
  have h₂ : UnixSound (w.update fd (s.accept pool o newfd w.nextSock k).2.1
      (s.accept pool o newfd w.nextSock k).2.2.1) :=
    h₁.quiet (hwf.same rfl rfl) hs (Socket.accept_quiet pool o s k newfd w.nextSock) hf.fd
  unfold acceptAt
  dsimp only
  split
  · rename_i c hc
    obtain ⟨ports, peer, hceq⟩ := Socket.accept_child pool o s k hc
    exact h₂.insert hwf₂ rfl (by rw [hceq]; rfl) (register_kindsKept newfd c _ _)
  · exact h₂

/-- **Every call keeps `UnixSound`**, when the kernel hands out closed descriptors. -/
theorem UnixSound.step (h : UnixSound w) (hwf : w.WellFormed) (ev : Event)
    (hfresh : freshDescriptors (w, ev) = true) : UnixSound (w.step pool ev) := by
  cases ev with
  | create fd domain typearg protocol =>
    simp only [World.step]
    exact h.insert hwf rfl rfl (((Sys.kindsKept_openObj fd .ip none w.sys).trans
      (register_kindsKept fd (Socket.new w.nextSock fd domain typearg protocol)
        { w with sys := w.sys.openObj fd .ip none, nextSock := w.nextSock + 1 } fun _ => False)).mono
      fun _ h => h.resolve_right not_false)
  | call fd c o =>
    simp only [World.step]
    split
    · exact h
    rename_i s hs
    -- the descriptor `socket` returns is no `Socket`'s that says `is_unix`
    have hsock : ∀ fd s, w.registry fd = some s → s.isUnix = true → ¬ o.socket = .ok s.fd :=
      fun _ _ h' hu hn => h.fds_ne_none h' hu (freshDescriptors_socket hfresh hn)
    cases c with
    | blackhole => exact h.quiet hwf hs ⟨.refl _ _, rfl⟩ rfl
    | setsockopt | ioctl =>
      exact h.quiet hwf hs (Socket.forwardOpt_quiet o s w.sys _)
        (Socket.forwardOpt_frame_id o s w.sys _).2
    | listen => exact h.quiet hwf hs (Socket.listen_quiet o s w.sys) rfl
    | bind addr path =>
      exact h.update hwf hs (Socket.bind_unixStep pool o s w.sys addr path)
        (Socket.bind_frame pool o s w.sys addr path).fd hsock
    | connect addr path =>
      exact h.update hwf hs (Socket.connect_unixStep pool o s w.sys addr path)
        (Socket.connect_frame pool o s w.sys addr path).fd hsock
    | connectPeermap addr =>
      exact h.quiet hwf hs (Socket.connectPeermap_quiet o s w.sys addr)
        (Socket.connectPeermap_frame o s w.sys addr).fd
    | accept newfd => exact h.accept pool hwf hs (freshDescriptors_accept hfresh)
    | rewriteSrc realAddr =>
      exact h.quiet hwf hs ⟨.refl _ _, Socket.rewriteSrc_isUnix pool o s _⟩
        (by rw [Socket.rewriteSrc_sock])
    | rewriteDest addr path =>
      exact h.update hwf hs (Socket.rewriteDest_unixStep pool o s w.sys addr path)
        (Socket.rewriteDest_frame pool o s w.sys addr path).fd hsock
    | activate addr filedes =>
      -- `filedes` is no registered `Socket`'s descriptor
      obtain ⟨hfree, hkind⟩ := freshDescriptors_activate hfresh
      exact h.update hwf hs (Socket.activate_unixStep o s w.sys addr hkind)
        (Socket.activate_frame o s w.sys addr filedes).fd fun fd' s' h' _ he => by
          rw [← hwf.fd fd' s' h', he, hfree] at h'; cases h'
    | close =>
      exact h.erase hwf hs rfl (((Socket.close_kindsKept o s w.sys).trans
        (Socket.destroy_kindsKept _ _ fun _ => False)).mono fun _ h => h.resolve_right not_false)

/-- **`is_unix` is sound.** From a process whose descriptors refer to numbered objects, in
every run where the kernel hands out closed descriptors, every registered `Socket` that says
`is_unix` has its descriptor on a UNIX socket. -/
theorem isUnix_sound (fds : Nat → Option Nat) (objs : Nat → Option SockObj) (nextObj : Nat)
    (cred : Ucred) (hids : ∀ fd id, fds fd = some id → id < nextObj) (evs : List Event)
    (hfresh : ((init fds objs nextObj cred).trace pool evs).all freshDescriptors = true) :
    ∀ fd s, ((init fds objs nextObj cred).run pool evs).registry fd = some s →
      s.isUnix = true → ((init fds objs nextObj cred).run pool evs).sys.kindAt s.fd = some .unix := by
  have hrun := run_induction pool
    (P := fun w tr => tr.all freshDescriptors = true → w.WellFormed ∧ UnixSound w)
    (fun w tr ev ih hall => by
      rw [List.all_append, Bool.and_eq_true] at hall
      obtain ⟨hwf, hu⟩ := ih hall.1
      exact ⟨hwf.step pool ev, hu.step pool hwf ev (by simpa using hall.2)⟩)
    evs (init fds objs nextObj cred) []
    (fun _ => ⟨wellFormed_init fds objs nextObj cred, .init objs cred hids⟩)
  exact (hrun (by simpa using hfresh)).2.unix

/-- A stream socket created at `3` and bound, the real `socket` giving `4`: its descriptor is
on the UNIX socket. -/
theorem bound_socket_on_unix :
    let pool := Pool.firstFit 32768 60999
    let w := init (fun _ => none) (fun _ => none) 0 ⟨1000, 1000, 42⟩
    let evs : List Event := [.create 3 .inet sockStream 0,
      .call 3 (.bind (.ip .inet 0x7f000001 8080) "/tmp/l.sock")
        (Outcomes.allOk 4 "/tmp/bh0" ⟨1000, 1000, 43⟩ 7)]
    (∀ fd id, (fun _ => none : Nat → Option Nat) fd = some id → id < 0) ∧
    (w.trace pool evs).all freshDescriptors = true ∧
    ((w.run pool evs).registry 3).map Socket.isUnix = some true ∧
    ∀ fd s, (w.run pool evs).registry fd = some s → s.isUnix = true →
      (w.run pool evs).sys.kindAt s.fd = some .unix :=
  ⟨fun _ _ h => by simp at h, by decide, by decide,
    isUnix_sound _ _ _ _ _ (fun _ _ h => by simp at h) _ (by decide)⟩

end World

end Ip2unix
