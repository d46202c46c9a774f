import Ip2unix.UnixKind
import Ip2unix.Flags

/-!
# Ip2unix — the path registry is exact away from the overwrite

`Socket::sockpath_registry` is meant to hold exactly the paths that registered sockets own:
a `Socket` owns its `sockpath` when it is bound, not blackholed and not activated
(`Socket.owns`), the sockets whose path `close` unlinks and drops. `connect` and
`connect_peermap` overwrite the `sockpath` of a bound socket, which breaks this
(`connect_after_bind_shares_path`), and so does `blackhole()` or `activate` on a socket that
owns a path, which then stays registered with no owner. Apart from those calls the registry
is exact, and every path in it is the one the owner's descriptor is really bound to.

* **`Socket.PathStep`**: what one method does to the registry and to the ownership of its
  socket. It keeps both (`PathQuiet`); or binds a socket that was not bound without giving
  it a path (to a blackhole, or by `activate`); or gives a socket that was not bound a path
  the registry did not hold, its descriptor bound to that path. `bind` is the only method
  that does either: a bound socket's descriptor is bound, and the kernel refuses a second
  `bind` (`Sys.realBind_refused`).
* **`World.PathsOwned`**: the invariant, with what it needs: a bound `Socket` is a UNIX one
  and its descriptor is bound, and an activated one is bound.
* **`World.keepsOwners`**: the condition on runs. The kernel hands out closed descriptors,
  `activate` adopts a bound socket on a `Socket` not yet switched, and `blackhole()`,
  `connect` and `connect_peermap` are not called on a `Socket` that owns its path.
* **`World.sockpathRegistry_exact`**: from empty registries, in every run under the
  condition, the registry holds exactly the paths registered `Socket`s own, each owner's
  descriptor is bound to its path, and no two own the same path.
-/

namespace Ip2unix

namespace Sys

variable {o : Outcomes} {k k' : Sys}

/-- **A bound socket refuses `bind`.** -/
theorem realBind_refused {fd : Nat} {addr a : SockAddr} (ha : k.boundAt fd = some a) :
    k.realBind o fd addr = .error .einval := by
  simp only [boundAt, obj] at ha
  unfold realBind lookup
  cases hfd : k.fds fd with
  | none => simp [hfd] at ha
  | some id =>
    cases hobj : k.objs id with
    | none => simp [hfd, hobj] at ha
    | some obj => simp_all

theorem realBind_sockpathRegistry {fd : Nat} {addr : SockAddr}
    (h : k.realBind o fd addr = .ok k') : k'.sockpathRegistry = k.sockpathRegistry :=
  (realBind_fdsOnly h).registry

/-- `replay` adds options only. -/
theorem replay_boundAt {opts : List SockOpt} {fd : Nat} (h : k.replay o opts fd = .ok k')
    (fd' : Nat) : k'.boundAt fd' = k.boundAt fd' := by
  obtain ⟨id, obj, hl, -, rfl⟩ := replay_eq h
  simp only [boundAt, Sys.obj, setObj_fds, setObj_objs]
  cases k.fds fd' with
  | none => rfl
  | some i =>
    by_cases hi : i = id
    · subst hi; simp [(lookup_eq_some.1 hl).2]
    · simp [Function.update_noteq hi]

theorem realDup2_boundAt {src dst : Nat} (h : k.realDup2 o src dst = .ok k') :
    k'.boundAt dst = k.boundAt src := by
  obtain ⟨id, hid, -, rfl⟩ := realDup2_eq h
  simp [boundAt, Sys.obj, hid]

/-- A socket just made is not bound. -/
theorem boundAt_openObj (fd : Nat) (kind : Kind) (peer : Option SockAddr) (k : Sys) :
    (k.openObj fd kind peer).boundAt fd = none := by
  simp [boundAt, obj_openObj]

/-- A bound descriptor is open. -/
theorem fds_ne_none_of_boundAt {fd : Nat} {a : SockAddr} (ha : k.boundAt fd = some a) :
    k.fds fd ≠ none := fun h => by simp [boundAt, Sys.obj, h] at ha

end Sys

namespace Socket

/-- The socket owns its `sockpath`: bound, not blackholed and not activated. These are the
sockets whose path `close` unlinks and drops from the registry. -/
def owns (s : Socket) : Bool := s.bound && !s.isBlackhole && !s.activated

theorem bound_of_owns {s : Socket} (h : s.owns = true) : s.bound = true := by
  simp only [owns, Bool.and_eq_true] at h
  exact h.1.1

/-- A stretch of a method that leaves the registry, `bound`, `activated` and the ownership as
they were; an owner keeps its path. -/
structure PathQuiet (s : Socket) (k : Sys) (s' : Socket) (k' : Sys) : Prop where
  registry : k'.sockpathRegistry = k.sockpathRegistry
  bound : s'.bound = s.bound
  activated : s'.activated = s.activated
  owns : s'.owns = s.owns
  sockpath : s.owns = true → s'.sockpath = s.sockpath

/-- What a method does to the registry and to the ownership of its socket. -/
inductive PathStep (s : Socket) (k : Sys) (s' : Socket) (k' : Sys) : Prop
  /-- Nothing. -/
  | keep (h : PathQuiet s k s' k')
  /-- A socket that was not bound is bound now, its descriptor to `a`, and owns no path. -/
  | bound (a : SockAddr) (hb : s.bound = false) (hb' : s'.bound = true) (ho : s'.owns = false)
      (hu : s'.isUnix = true) (hreg : k'.sockpathRegistry = k.sockpathRegistry)
      (hat : k'.boundAt s.fd = some a)
  /-- A socket that was not bound owns `p` now, a path the registry did not hold and now
  holds, and its descriptor is bound to `p`. -/
  | owned (p : String) (a : SockAddr) (hb : s.bound = false) (ho : s'.owns = true)
      (hu : s'.isUnix = true) (hp : s'.sockpath = some p) (hfree : k.sockpathRegistry p = false)
      (hreg : k'.sockpathRegistry = Function.update k.sockpathRegistry p true)
      (hunix : SockAddr.unix p = some a) (hat : k'.boundAt s.fd = some a)

variable {s₁ s₂ s₃ : Socket} {k₁ k₂ k₃ : Sys}

namespace PathQuiet

theorem refl (s : Socket) (k : Sys) : PathQuiet s k s k := ⟨rfl, rfl, rfl, rfl, fun _ => rfl⟩

theorem trans (h₁ : PathQuiet s₁ k₁ s₂ k₂) (h₂ : PathQuiet s₂ k₂ s₃ k₃) : PathQuiet s₁ k₁ s₃ k₃ :=
  ⟨h₂.registry.trans h₁.registry, h₂.bound.trans h₁.bound, h₂.activated.trans h₁.activated,
    h₂.owns.trans h₁.owns, fun h => (h₂.sockpath (h₁.owns.trans h)).trans (h₁.sockpath h)⟩

/-- Files unlinked on the way out leave the registry. -/
theorem unlink (h : PathQuiet s₁ k₁ s₂ k₂) (ps : List String) : PathQuiet s₁ k₁ s₂ (k₂.unlink ps) :=
  ⟨h.registry, h.bound, h.activated, h.owns, h.sockpath⟩

/-- A record update of fields ownership does not read. -/
theorem of_flags (hreg : k₂.sockpathRegistry = k₁.sockpathRegistry)
    (hb : s₂.bound = s₁.bound) (hbh : s₂.isBlackhole = s₁.isBlackhole)
    (ha : s₂.activated = s₁.activated) (hp : s₁.owns = true → s₂.sockpath = s₁.sockpath) :
    PathQuiet s₁ k₁ s₂ k₂ :=
  ⟨hreg, hb, ha, by simp only [Socket.owns, hb, hbh, ha], hp⟩

/-- On a socket that owns no path: `bound` and `activated` kept and `is_blackhole` not
cleared, whatever happens to the path. -/
theorem of_notOwns (hown : s₁.owns = false) (hreg : k₂.sockpathRegistry = k₁.sockpathRegistry)
    (hb : s₂.bound = s₁.bound) (ha : s₂.activated = s₁.activated)
    (hbh : s₁.isBlackhole = true → s₂.isBlackhole = true) : PathQuiet s₁ k₁ s₂ k₂ := by
  refine ⟨hreg, hb, ha, ?_, fun h => nomatch hown.symm.trans h⟩
  rw [hown]
  simp only [Socket.owns, hb, ha, Bool.and_eq_false_iff, Bool.not_eq_false'] at hown ⊢
  rcases hown with (hown | hown) | hown
  · exact .inl (.inl hown)
  · exact .inl (.inr (hbh hown))
  · exact .inr hown

/-- A failed real call. -/
theorem fail (s : Socket) (k : Sys) (err : Errno) : PathQuiet s k s (k.fail err) :=
  ⟨rfl, rfl, rfl, rfl, fun _ => rfl⟩

end PathQuiet

/-- A quiet stretch before a method's step. -/
theorem PathQuiet.pathStep (h₁ : PathQuiet s₁ k₁ s₂ k₂) (hfd : s₂.fd = s₁.fd)
    (h₂ : PathStep s₂ k₂ s₃ k₃) : PathStep s₁ k₁ s₃ k₃ := by
  cases h₂ with
  | keep h => exact .keep (h₁.trans h)
  | bound a hb hb' ho hu hreg hat =>
    exact .bound a (h₁.bound.symm.trans hb) hb' ho hu (hreg.trans h₁.registry) (hfd ▸ hat)
  | owned p a hb ho hu hp hfree hreg hunix hat =>
    exact .owned p a (h₁.bound.symm.trans hb) ho hu hp (h₁.registry ▸ hfree)
      (h₁.registry ▸ hreg) hunix (hfd ▸ hat)

variable (pool : Pool) (o : Outcomes) (s : Socket) (k : Sys)

/-! ### The methods that keep ownership -/

theorem makeUnix_pathQuiet (oldfd : Option Nat) :
    PathQuiet s k (s.makeUnix o oldfd k).2.1 (s.makeUnix o oldfd k).2.2 := by
  rw [makeUnix_sock]
  exact .of_flags (makeUnix_fdsOnly o s k oldfd).registry rfl rfl rfl fun _ => rfl

theorem bindPort_pathQuiet (addr : SockAddr) : PathQuiet s k (s.bindPort pool addr).2.2 k := by
  unfold bindPort
  split <;> exact .of_flags rfl rfl rfl rfl fun _ => rfl

theorem forwardOpt_pathQuiet (opt : SockOpt) :
    PathQuiet s k (s.forwardOpt o opt k).2.1 (s.forwardOpt o opt k).2.2 := by
  unfold forwardOpt
  split
  · exact .fail s k _
  rename_i ret k' hc
  have hreg := (Sys.realCall_fdsOnly hc).registry
  split
  · exact .of_flags hreg rfl rfl rfl fun _ => rfl
  · split <;> exact .of_flags hreg rfl rfl rfl fun _ => rfl

theorem listen_pathQuiet : PathQuiet s k s (s.listen o k).2 := by
  unfold listen
  split
  · exact .refl s k
  split
  · exact .refl s k
  · exact .fail s k _

theorem rewriteSrc_pathQuiet (realAddr : SockAddr) :
    PathQuiet s k (s.rewriteSrc pool o realAddr).2.1 k := by
  rw [rewriteSrc_sock]
  exact .of_flags rfl rfl rfl rfl fun _ => rfl

theorem accept_pathQuiet (sockfd childId : Nat) :
    PathQuiet s k (s.accept pool o sockfd childId k).2.1 (s.accept pool o sockfd childId k).2.2.1 := by
  unfold accept
  dsimp only
  repeat' split
  all_goals exact .of_flags rfl rfl rfl rfl fun _ => rfl

/-- `Socket::accept` makes no real call: every descriptor is bound as before. -/
theorem accept_boundAt (sockfd childId fd : Nat) :
    (s.accept pool o sockfd childId k).2.2.1.boundAt fd = k.boundAt fd := by
  unfold accept
  dsimp only
  repeat' split
  all_goals rfl

theorem blackhole_pathQuiet (hown : s.owns = false) : PathQuiet s k s.blackhole k :=
  .of_notOwns hown rfl rfl rfl fun _ => rfl

theorem connectPeermap_pathQuiet (addr : SockAddr) (hown : s.owns = false) :
    PathQuiet s k (s.connectPeermap o addr k).2.1 (s.connectPeermap o addr k).2.2 := by
  unfold connectPeermap
  repeat' split
  all_goals first
    | exact .refl s k
    | exact .fail s k _
    | exact .of_notOwns hown (Sys.realConnect_fdsOnly ‹_›).registry rfl rfl fun h => h

/-- `create_binding` changes the binding and the ports only. -/
theorem createBinding_pathQuiet (addr : SockAddr) (k' : Sys) :
    PathQuiet s k (s.createBinding pool addr k').2 k := by
  rw [createBinding_sock]
  exact .of_flags rfl rfl rfl rfl fun _ => rfl

/-! ### A real `bind` on a socket that was bound

Every method that makes a real `bind` runs `make_unix` first, which leaves a UNIX socket as
it is; so on a socket that is bound, a UNIX one whose descriptor is bound, the real `bind`
fails. -/

/-- What a socket `s` that was bound is: a UNIX one, its descriptor bound. -/
def BoundSound (s : Socket) (k : Sys) : Prop :=
  s.bound = true → s.isUnix = true ∧ ∃ a, k.boundAt s.fd = some a

/-- A real `bind` succeeds only on a socket that was not bound. -/
theorem bound_false_of_realBind {addr : SockAddr} {k' : Sys}
    (hb : s.bound = true → ∃ a, k.boundAt s.fd = some a) (hbind : k.realBind o s.fd addr = .ok k') :
    s.bound = false := by
  cases hbs : s.bound
  · rfl
  obtain ⟨a, ha⟩ := hb hbs
  rw [Sys.realBind_refused ha] at hbind
  cases hbind

/-- After `make_unix`, which leaves a UNIX socket as it is, a bound socket's descriptor is
still bound. -/
theorem boundAt_after_makeUnix {s₁ : Socket} {k₁ : Sys} (hb : BoundSound s k)
    (hm : s.isUnix = true → (true, s₁, k₁) = (true, s, k)) (hfd : s₁.fd = s.fd)
    (hbd : s₁.bound = s.bound) : s₁.bound = true → ∃ a, k₁.boundAt s₁.fd = some a := fun h => by
  obtain ⟨hu, a, ha⟩ := hb (hbd ▸ h)
  have hsame := hm hu
  simp only [Prod.mk.injEq, true_and] at hsame
  obtain ⟨rfl, rfl⟩ := hsame
  exact ⟨a, ha⟩

theorem rewriteDest_pathQuiet (addr : SockAddr) (path : String) (hb : BoundSound s k) :
    PathQuiet s k (s.rewriteDest pool o addr path k).2.1 (s.rewriteDest pool o addr path k).2.2 := by
  have hm := makeUnix_pathQuiet o s k none
  have hsock := makeUnix_sock o s k none
  have hid : s.isUnix = true → s.makeUnix o none k = (true, s, k) := makeUnix_of_isUnix o s k
  rw [rewriteDest]
  split
  · exact .refl s k
  generalize SockAddr.unix (formatSockpath s.type path addr) = d
  rcases d with _ | destpath
  · exact .refl s k
  dsimp only
  generalize s.makeUnix o none k = m at hm hsock hid ⊢
  rcases m with ⟨_ | _, s₁, k₁⟩ <;> dsimp only at hm hsock hid ⊢
  · exact hm
  refine hm.trans ?_
  split
  · exact .refl s₁ k₁
  split
  · exact .refl s₁ k₁
  split
  · exact (PathQuiet.refl s₁ k₁).unlink _
  split
  · exact (PathQuiet.fail s₁ k₁ _).unlink _
  rename_i k₂ hbind
  -- the real `bind` succeeded: the socket was not bound, and owns nothing
  have hown : s₁.owns = false := by
    have := bound_false_of_realBind o s₁ k₁
      (boundAt_after_makeUnix s k hb hid (by rw [hsock]) hm.bound) hbind
    simp [owns, this]
  have hq := (PathQuiet.of_notOwns hown (Sys.realBind_sockpathRegistry hbind) rfl rfl fun h => h).trans
    (createBinding_pathQuiet pool s₁ k₂ addr k₂)
  generalize s₁.createBinding pool addr k₂ = cb at hq ⊢
  rcases cb with ⟨_ | _, s₂⟩ <;> dsimp only at hq ⊢
  · exact hq.unlink _
  · refine (hq.trans ?_).unlink _
    exact .of_notOwns (hq.owns.trans hown) rfl rfl rfl fun _ => rfl

theorem connect_pathQuiet (addr : SockAddr) (path : String) (hown : s.owns = false)
    (hb : BoundSound s k) :
    PathQuiet s k (s.connect pool o addr path k).2.1 (s.connect pool o addr path k).2.2 := by
  rw [connect]
  split
  · have hr := rewriteDest_pathQuiet pool o s k addr path hb
    generalize s.rewriteDest pool o addr path k = r at hr ⊢
    rcases r with ⟨_ | dest, s₁, k₁⟩ <;> dsimp only at hr ⊢
    · exact hr.trans (.fail s₁ k₁ _)
    refine hr.trans ?_
    split
    · exact .fail s₁ k₁ _
    · exact .of_notOwns (hr.owns.trans hown) (Sys.realConnect_fdsOnly ‹_›).registry rfl rfl
        fun h => h
  have hm := makeUnix_pathQuiet o s k none
  dsimp only
  split
  · exact .fail s k _
  generalize s.makeUnix o none k = m at hm ⊢
  rcases m with ⟨_ | _, s₁, k₁⟩ <;> dsimp only at hm ⊢
  · exact hm
  have hown₁ : s₁.owns = false := hm.owns.trans hown
  refine hm.trans ?_
  split
  · exact .fail s₁ k₁ _
  split
  · exact .fail s₁ k₁ _
  rename_i k₂ hc
  have hreg := (Sys.realConnect_fdsOnly hc).registry
  split
  · have hq := (PathQuiet.of_notOwns hown₁ hreg rfl rfl fun h => h).trans
      (createBinding_pathQuiet pool s₁ k₂ addr k₂)
    generalize s₁.createBinding pool addr k₂ = cb at hq ⊢
    rcases cb with ⟨_ | _, s₂⟩ <;> dsimp only at hq ⊢
    · exact hq.trans (.fail s₂ k₂ _)
    · exact hq.trans (.of_notOwns (hq.owns.trans hown₁) rfl rfl rfl fun h => h)
  · exact .of_notOwns hown₁ hreg rfl rfl fun h => h

/-! ### `bind` and `activate` -/

theorem bindFinish_of_ne {newaddr : SockAddr} {port : Option Nat} (ret : Int) (h : ret ≠ 0) :
    bindFinish newaddr port ret s k = (ret, s, k) := by
  simp [bindFinish, h]

/-- The blackhole arm of `bind`: bound now, to the blackhole, and owning no path. -/
theorem bindBlackhole_pathStep (newaddr : SockAddr) (port : Option Nat)
    (hb : s.bound = true → ∃ a, k.boundAt s.fd = some a) (hu : s.isUnix = true) :
    PathStep s k
      (bindFinish newaddr port (s.bindBlackhole o k).1 (s.bindBlackhole o k).2.1
        (s.bindBlackhole o k).2.2).2.1
      (bindFinish newaddr port (s.bindBlackhole o k).1 (s.bindBlackhole o k).2.1
        (s.bindBlackhole o k).2.2).2.2 := by
  unfold bindBlackhole
  split
  · rw [bindFinish_of_ne s k (-1) (by decide)]; exact .keep (.refl s k)
  split
  · rw [bindFinish_of_ne s _ (-1) (by decide)]; exact .keep ((PathQuiet.fail s k _).unlink _)
  split
  · rw [bindFinish_of_ne s _ (-1) (by decide)]; exact .keep ((PathQuiet.fail s k _).unlink _)
  rename_i dest _ _ k' hbind
  exact .bound dest (bound_false_of_realBind o s k hb hbind) rfl (by simp [owns, bindFinish]) hu
    (Sys.realBind_sockpathRegistry hbind :) (Sys.realBind_boundAt hbind :)

/-- The other arm of `bind`, on a path the registry does not hold: the socket owns it now. -/
theorem bindPath_pathStep (newaddr : SockAddr) (port : Option Nat) (newpath : String)
    (hb : s.bound = true → ∃ a, k.boundAt s.fd = some a) (hu : s.isUnix = true)
    (ha : s.activated = true → s.bound = true) (hbh : s.isBlackhole = false)
    (hfree : k.sockpathRegistry newpath = false) :
    PathStep s k
      (bindFinish newaddr port (s.bindPath o newpath k).1 (s.bindPath o newpath k).2.1
        (s.bindPath o newpath k).2.2).2.1
      (bindFinish newaddr port (s.bindPath o newpath k).1 (s.bindPath o newpath k).2.1
        (s.bindPath o newpath k).2.2).2.2 := by
  unfold bindPath
  split
  · rw [bindFinish_of_ne s _ (-1) (by decide)]; exact .keep (.fail s k _)
  rename_i dest hdest
  split
  · rw [bindFinish_of_ne s _ (-1) (by decide)]; exact .keep (.fail s k _)
  rename_i k' hbind
  have hunb := bound_false_of_realBind o s k hb hbind
  have hna : s.activated = false := by
    cases hact : s.activated
    · rfl
    · rw [ha hact] at hunb; cases hunb
  refine .owned newpath dest hunb (by simp [owns, bindFinish, hbh, hna]) hu rfl hfree ?_ hdest
    (Sys.realBind_boundAt hbind : k'.boundAt s.fd = some dest)
  show Function.update k'.sockpathRegistry newpath true = _
  rw [Sys.realBind_sockpathRegistry hbind]

theorem bind_pathStep (addr : SockAddr) (path : String) (hb : BoundSound s k)
    (ha : s.activated = true → s.bound = true) :
    PathStep s k (s.bind pool o addr path k).2.1 (s.bind pool o addr path k).2.2 := by
  have hm := makeUnix_pathQuiet o s k none
  have hsock := makeUnix_sock o s k none
  have hid : s.isUnix = true → s.makeUnix o none k = (true, s, k) := makeUnix_of_isUnix o s k
  rw [bind]
  generalize s.makeUnix o none k = m at hm hsock hid ⊢
  rcases m with ⟨_ | _, s₁, k₁⟩ <;> dsimp only at hm hsock hid ⊢
  · exact .keep hm
  have hfd₁ : s₁.fd = s.fd := by rw [hsock]
  have hu₁ : s₁.isUnix = true := by rw [hsock]; simp
  have hb₁ := boundAt_after_makeUnix s k hb hid hfd₁ hm.bound
  refine hm.pathStep hfd₁ ?_
  have hp := bindPort_pathQuiet pool s₁ k₁ addr
  have hpf := bindPort_frame pool s₁ addr
  have hpu := (bindPort_quiet pool s₁ k₁ addr).isUnix
  generalize s₁.bindPort pool addr = b at hp hpf hpu ⊢
  rcases b with ⟨newaddr, port, s₂⟩
  dsimp only at hp hpf hpu ⊢
  refine hp.pathStep hpf.fd ?_
  have hb₂ : s₂.bound = true → ∃ a, k₁.boundAt s₂.fd = some a := fun h =>
    hpf.fd ▸ hb₁ (hp.bound ▸ h)
  have ha₂ : s₂.activated = true → s₂.bound = true := fun h =>
    hp.bound.trans (hm.bound.trans (ha (hm.activated ▸ hp.activated ▸ h)))
  split
  · exact bindBlackhole_pathStep o s₂ k₁ newaddr port hb₂ (hpu.trans hu₁)
  · rename_i hbranch
    simp only [Bool.or_eq_true, not_or, Bool.not_eq_true] at hbranch
    exact bindPath_pathStep o s₂ k₁ newaddr port _ hb₂ (hpu.trans hu₁) ha₂ hbranch.1 hbranch.2

/-- `make_unix(filedes)` that succeeded leaves the socket's descriptor on `filedes`'s
socket. -/
theorem makeUnix_some_boundAt {filedes : Nat} (hunix : s.isUnix = false)
    (h : (s.makeUnix o (some filedes) k).1 = true) :
    (s.makeUnix o (some filedes) k).2.2.boundAt s.fd = k.boundAt filedes := by
  unfold makeUnix at h ⊢
  simp only [hunix, Bool.false_eq_true, if_false, Sys.openUnix] at h ⊢
  cases hr : k.replay o s.sockopts filedes with
  | error err => simp [hr] at h
  | ok k₂ =>
    cases hd : k₂.realDup2 o filedes s.fd with
    | error err => simp [hr, hd] at h
    | ok k₃ =>
      simp only [hr, hd]
      rw [Sys.realDup2_boundAt hd, Sys.replay_boundAt hr]

/-- `activate` on a socket not switched yet, adopting a bound `filedes`: bound now, where
`filedes` is, and owning no path. -/
theorem activate_pathStep (addr : SockAddr) {filedes : Nat} {a : SockAddr}
    (hunix : s.isUnix = false) (hfa : k.boundAt filedes = some a)
    (hub : s.bound = true → s.isUnix = true) :
    PathStep s k (s.activate o addr filedes k).2.1 (s.activate o addr filedes k).2.2 := by
  have hm := makeUnix_pathQuiet o s k (some filedes)
  have hsock := makeUnix_sock o s k (some filedes)
  have hat := @makeUnix_some_boundAt o s k filedes hunix
  unfold activate
  generalize s.makeUnix o (some filedes) k = m at hm hsock hat ⊢
  rcases m with ⟨_ | _, s₁, k₁⟩ <;> dsimp only at hm hsock hat ⊢
  · exact .keep hm
  have hunb : s.bound = false := by
    cases hbs : s.bound
    · rfl
    · rw [hub hbs] at hunix; cases hunix
  refine .bound a hunb rfl (by simp [owns]) (by rw [hsock]; simp) hm.registry ?_
  rw [hat rfl, hfa]

/-! ### `close` -/

/-- `close` drops the path of a socket that owns one from the registry, and no other. -/
theorem close_sockpathRegistry (q : String) :
    (s.close o k).2.2.sockpathRegistry q = true ↔
      (k.sockpathRegistry q = true ∧ ¬ (s.owns = true ∧ s.sockpath = some q)) := by
  unfold close
  split
  · simp_all [owns]
  rename_i ha
  split
  rename_i ret k₁ hr
  -- `real::close` leaves the registry alone
  have hreg : k₁.sockpathRegistry = k.sockpathRegistry := by
    have h := congrArg (fun r : Int × Sys => r.2.sockpathRegistry) hr
    dsimp only at h
    rw [← h]
    split <;> rfl
  split
  · rename_i p hp
    split
    · -- the owner drops its path
      rename_i hbh
      have hown : s.owns = true := by simpa [owns, ha] using hbh
      by_cases hq : q = p
      · subst hq; simp [hown, hp]
      · simp [Function.update_noteq hq, hreg, hown, hp, Ne.symm hq]
    · rename_i hnb
      have hown : s.owns = false := by simpa [owns, ha] using hnb
      simp [hreg, hown]
  · simp [hreg, *]

theorem destroy_sockpathRegistry : (s.destroy k).sockpathRegistry = k.sockpathRegistry := by
  unfold destroy
  split
  · split <;> rfl
  · rfl

end Socket

namespace World

/-- Registering a `Socket` leaves the registry of paths alone. -/
theorem register_sockpathRegistry (fd : Nat) (s : Socket) (w : World) :
    (w.register fd s).sys.sockpathRegistry = w.sys.sockpathRegistry := by
  unfold register
  dsimp only
  split
  · exact Socket.destroy_sockpathRegistry _ _
  · rfl

/-- Registered `Socket`s with a property, after the entry at `fd` is set: the one at `fd`,
or one elsewhere. -/
theorem exists_update_iff {r : Nat → Option Socket} {fd : Nat} {v : Option Socket}
    {P : Socket → Prop} :
    (∃ fd₁ s₁, Function.update r fd v fd₁ = some s₁ ∧ P s₁) ↔
      (∃ s₁, v = some s₁ ∧ P s₁) ∨ ∃ fd₁ s₁, fd₁ ≠ fd ∧ r fd₁ = some s₁ ∧ P s₁ := by
  constructor
  · rintro ⟨fd₁, s₁, h₁, hp⟩
    rw [Function.update_apply] at h₁
    split at h₁
    · exact .inl ⟨s₁, h₁, hp⟩
    · exact .inr ⟨fd₁, s₁, ‹_›, h₁, hp⟩
  · rintro (⟨s₁, rfl, hp⟩ | ⟨fd₁, s₁, hne, h₁, hp⟩)
    · exact ⟨fd, s₁, by simp, hp⟩
    · exact ⟨fd₁, s₁, by rw [Function.update_noteq hne]; exact h₁, hp⟩

theorem exists_registered_iff {r : Nat → Option Socket} {fd : Nat} {s : Socket}
    (hs : r fd = some s) {P : Socket → Prop} :
    (∃ fd₁ s₁, r fd₁ = some s₁ ∧ P s₁) ↔ P s ∨ ∃ fd₁ s₁, fd₁ ≠ fd ∧ r fd₁ = some s₁ ∧ P s₁ := by
  have h := @exists_update_iff r fd (r fd) P
  rw [Function.update_eq_self, hs] at h
  simpa using h

theorem update_cases {r : Nat → Option Socket} {fd fd₁ : Nat} {v : Option Socket}
    {s₁ : Socket} (h : Function.update r fd v fd₁ = some s₁) :
    (fd₁ = fd ∧ v = some s₁) ∨ (fd₁ ≠ fd ∧ r fd₁ = some s₁) := by
  rw [Function.update_apply] at h
  split at h
  · exact .inl ⟨‹_›, h⟩
  · exact .inr ⟨‹_›, h⟩

/-! ## The invariant -/

/-- The condition on runs: the kernel hands out closed descriptors (`freshDescriptors`, and a
new socket is made at a closed descriptor), `activate` adopts a bound socket for a `Socket`
not switched yet, and `blackhole()`, `connect` and `connect_peermap` are not called on a
`Socket` that owns its path. -/
def keepsOwners : World × Event → Bool
  | (w, .create fd ..) => (w.sys.fds fd).isNone
  | (w, .call fd c o) => freshDescriptors (w, .call fd c o) &&
    match w.registry fd, c with
    | some s, .blackhole => !s.owns
    | some s, .connect .. => !s.owns
    | some s, .connectPeermap _ => !s.owns
    | some s, .activate _ filedes => !s.isUnix && (w.sys.boundAt filedes).isSome
    | _, _ => true

section Condition

variable {w : World} {fd : Nat} {c : Call} {o : Outcomes} {s : Socket}

theorem keepsOwners_fresh (h : keepsOwners (w, .call fd c o) = true) :
    freshDescriptors (w, .call fd c o) = true := by
  simp only [keepsOwners, Bool.and_eq_true] at h
  exact h.1

theorem keepsOwners_notOwns (h : keepsOwners (w, .call fd c o) = true)
    (hs : w.registry fd = some s)
    (hc : c = .blackhole ∨ (∃ addr path, c = .connect addr path) ∨ ∃ addr, c = .connectPeermap addr) :
    s.owns = false := by
  rcases hc with rfl | ⟨_, _, rfl⟩ | ⟨_, rfl⟩ <;>
    simp only [keepsOwners, hs, Bool.and_eq_true, Bool.not_eq_true'] at h <;> exact h.2

theorem keepsOwners_activate {addr : SockAddr} {filedes : Nat}
    (h : keepsOwners (w, .call fd (.activate addr filedes) o) = true)
    (hs : w.registry fd = some s) : s.isUnix = false ∧ ∃ a, w.sys.boundAt filedes = some a := by
  simp only [keepsOwners, hs, Bool.and_eq_true, Bool.not_eq_true', Option.isSome_iff_exists] at h
  exact h.2

end Condition

/-- `Socket::sockpath_registry` holds exactly the paths registered `Socket`s own, each
owner's descriptor is bound to its path, and no two own the same path; with what keeps it: a
bound `Socket` is a UNIX one whose descriptor is bound, and an activated one is bound. -/
structure PathsOwned (w : World) : Prop where
  ids : w.sys.IdsBelow
  unix : ∀ fd s, w.registry fd = some s → s.bound = true → s.isUnix = true
  activated : ∀ fd s, w.registry fd = some s → s.activated = true → s.bound = true
  bound : ∀ fd s, w.registry fd = some s → s.bound = true → ∃ a, w.sys.boundAt s.fd = some a
  owned : ∀ fd s, w.registry fd = some s → s.owns = true →
    ∃ p a, s.sockpath = some p ∧ SockAddr.unix p = some a ∧ w.sys.boundAt s.fd = some a
  registry : ∀ p, w.sys.sockpathRegistry p = true ↔
    ∃ fd s, w.registry fd = some s ∧ s.owns = true ∧ s.sockpath = some p
  unique : ∀ fd fd' s s', w.registry fd = some s → w.registry fd' = some s' → s.owns = true →
    s'.owns = true → s.sockpath = s'.sockpath → fd = fd'

variable (pool : Pool) {w w' : World}

theorem PathsOwned.init {fds : Nat → Option Nat} (objs : Nat → Option SockObj) {nextObj : Nat}
    (cred : Ucred) (hids : ∀ fd id, fds fd = some id → id < nextObj) :
    PathsOwned (init fds objs nextObj cred) :=
  ⟨hids, fun _ _ h => (nomatch h), fun _ _ h => (nomatch h), fun _ _ h => (nomatch h),
    fun _ _ h => (nomatch h), fun _ => by simp [World.init, Sys.init], fun _ _ _ _ h => (nomatch h)⟩

theorem PathsOwned.boundSound (h : PathsOwned w) {fd : Nat} {s : Socket}
    (hs : w.registry fd = some s) : Socket.BoundSound s w.sys :=
  fun hb => ⟨h.unix fd s hs hb, h.bound fd s hs hb⟩

/-- An owner whose descriptor stays bound is still bound to its path. -/
theorem PathsOwned.owned_of_boundAt (h : PathsOwned w) {fd : Nat} {s : Socket}
    (hs : w.registry fd = some s) (ho : s.owns = true) {k' : Sys}
    (hkeep : ∀ a, w.sys.boundAt s.fd = some a → k'.boundAt s.fd = some a) :
    ∃ p a, s.sockpath = some p ∧ SockAddr.unix p = some a ∧ k'.boundAt s.fd = some a :=
  let ⟨p, a, hp, hu, ha⟩ := h.owned fd s hs ho
  ⟨p, a, hp, hu, hkeep a ha⟩

/-- A real call before a method, which changes neither a bound `Socket`'s descriptor nor the
registry. -/
theorem PathsOwned.keepSys (h : PathsOwned w) {T : Nat → Prop} (hreg : w'.registry = w.registry)
    (hk : w.sys.KindsKept w'.sys T) (hregs : w'.sys.sockpathRegistry = w.sys.sockpathRegistry)
    (hT : ∀ fd s, w.registry fd = some s → s.bound = true → ¬ T s.fd) : PathsOwned w' := by
  have hkeep : ∀ fd s, w.registry fd = some s → s.bound = true →
      ∀ a, w.sys.boundAt s.fd = some a → w'.sys.boundAt s.fd = some a :=
    fun fd s hs hb _ => hk.boundAt_eq h.ids (hT fd s hs hb)
  refine ⟨hk.ids h.ids, fun fd s hs => h.unix fd s (hreg ▸ hs),
    fun fd s hs => h.activated fd s (hreg ▸ hs), fun fd s hs hb => ?_, fun fd s hs ho => ?_,
    fun q => by rw [hregs, hreg]; exact h.registry q,
    fun fd fd' s s' hs hs' => h.unique fd fd' s s' (hreg ▸ hs) (hreg ▸ hs')⟩
  · rw [hreg] at hs
    exact (h.bound fd s hs hb).imp (hkeep fd s hs hb)
  · rw [hreg] at hs
    exact h.owned_of_boundAt hs ho (hkeep fd s hs (Socket.bound_of_owns ho))

/-- A property of every registered `Socket`, after the entry at `fd` is set to `s`: `s` has it,
and every other one had it. -/
theorem forall_update_some {r : Nat → Option Socket} {fd : Nat} {s : Socket} {P : Socket → Prop}
    (hs : P s) (hr : ∀ fd₁ s₁, fd₁ ≠ fd → r fd₁ = some s₁ → P s₁) :
    ∀ fd₁ s₁, Function.update r fd (some s) fd₁ = some s₁ → P s₁ := by
  intro fd₁ s₁ h₁
  rcases update_cases h₁ with ⟨-, he⟩ | ⟨hne, h₁⟩
  · exact Option.some.inj he ▸ hs
  · exact hr fd₁ s₁ hne h₁

/-! ## One step -/

/-- **A method on the `Socket` at `fd`.** It changes only descriptors in `F`, which are no bound
`Socket`'s, and the socket's own while it is not a UNIX one (`UnixStep`); its ownership moves
as `PathStep` says. -/
theorem PathsOwned.update (h : PathsOwned w) (hwf : w.WellFormed) {fd : Nat} {s s' : Socket}
    {k' : Sys} {F : Nat → Prop} (hs : w.registry fd = some s)
    (hstep : Socket.UnixStep F s w.sys s' k') (hpath : Socket.PathStep s w.sys s' k')
    (hfd : s'.fd = s.fd) (hgrow : s.isUnix = true → s'.isUnix = true)
    (hF : ∀ fd s, w.registry fd = some s → s.bound = true → ¬ F s.fd) :
    PathsOwned (w.update fd s' k') := by
  -- a bound `Socket`'s descriptor is left alone: it is not in `F`, and it is a UNIX one
  have hkeep : ∀ fd₁ s₁, w.registry fd₁ = some s₁ → s₁.bound = true →
      ∀ a, w.sys.boundAt s₁.fd = some a → k'.boundAt s₁.fd = some a := by
    intro fd₁ s₁ h₁ hb₁ a ha
    refine hstep.kinds.boundAt_eq h.ids ?_ ha
    rintro (hF₁ | ⟨he, hu⟩)
    · exact hF fd₁ s₁ h₁ hb₁ hF₁
    · obtain rfl : fd₁ = fd := (hwf.fd fd₁ s₁ h₁).symm.trans (he.trans (hwf.fd fd s hs))
      obtain rfl : s₁ = s := Option.some.inj (h₁.symm.trans hs)
      rw [h.unix fd₁ s₁ h₁ hb₁] at hu
      cases hu
  -- the `Socket` at `fd` after the method, as the fields ask
  have hnew : (s'.bound = true → s'.isUnix = true) ∧ (s'.activated = true → s'.bound = true) ∧
      (s'.bound = true → ∃ a, k'.boundAt s'.fd = some a) ∧
      (s'.owns = true → ∃ p a, s'.sockpath = some p ∧ SockAddr.unix p = some a ∧
        k'.boundAt s'.fd = some a) := by
    rw [hfd]
    cases hpath with
    | keep q =>
      refine ⟨fun hb => hgrow (h.unix fd s hs (q.bound.symm.trans hb)),
        fun ha => q.bound.trans (h.activated fd s hs (q.activated.symm.trans ha)),
        fun hb => ?_, fun ho => ?_⟩
      · have hb := q.bound.symm.trans hb
        exact (h.bound fd s hs hb).imp (hkeep fd s hs hb)
      · have hos := q.owns.symm.trans ho
        rw [q.sockpath hos]
        exact h.owned_of_boundAt hs hos (hkeep fd s hs (Socket.bound_of_owns hos))
    | bound a _ hb' ho hu _ hat =>
      exact ⟨fun _ => hu, fun _ => hb', fun _ => ⟨a, hat⟩, fun h => nomatch ho.symm.trans h⟩
    | owned p a _ ho hu hp _ _ hunix hat =>
      exact ⟨fun _ => hu, fun _ => Socket.bound_of_owns ho, fun _ => ⟨a, hat⟩,
        fun _ => ⟨p, a, hp, hunix, hat⟩⟩
  -- the new owner, if any, and another owner never share a path
  have hone : ∀ fd₂ s₂, fd₂ ≠ fd → w.registry fd₂ = some s₂ → s'.owns = true →
      s₂.owns = true → s'.sockpath = s₂.sockpath → fd = fd₂ := by
    intro fd₂ s₂ _ h₂ ho' ho₂ hpe
    cases hpath with
    | keep q =>
      have hos := q.owns.symm.trans ho'
      exact h.unique fd fd₂ s s₂ hs h₂ hos ho₂ ((q.sockpath hos).symm.trans hpe)
    | bound _ _ _ ho => rw [ho] at ho'; cases ho'
    | owned p₀ _ _ _ _ hp hfree =>
      have hheld := (h.registry p₀).2 ⟨fd₂, s₂, h₂, ho₂, hpe.symm.trans hp⟩
      rw [hfree] at hheld
      cases hheld
  refine ⟨hstep.kinds.ids h.ids, forall_update_some hnew.1 fun fd₁ s₁ _ h₁ => h.unix fd₁ s₁ h₁,
    forall_update_some hnew.2.1 fun fd₁ s₁ _ h₁ => h.activated fd₁ s₁ h₁,
    forall_update_some hnew.2.2.1 fun fd₁ s₁ _ h₁ hb₁ =>
      (h.bound fd₁ s₁ h₁ hb₁).imp (hkeep fd₁ s₁ h₁ hb₁),
    forall_update_some hnew.2.2.2 fun fd₁ s₁ _ h₁ ho₁ =>
      h.owned_of_boundAt h₁ ho₁ (hkeep fd₁ s₁ h₁ (Socket.bound_of_owns ho₁)), fun q => ?_, ?_⟩
  · rw [update_sys, update_registry, exists_update_iff]
    simp only [Option.some.injEq, exists_eq_left']
    cases hpath with
    | keep hq =>
      -- the owner keeps its path, a `Socket` that owns none still owns none
      have hP : (s'.owns = true ∧ s'.sockpath = some q) ↔ (s.owns = true ∧ s.sockpath = some q) := by
        rw [hq.owns]
        exact and_congr_right fun ho => by rw [hq.sockpath ho]
      rw [hq.registry, h.registry q, exists_registered_iff hs, hP]
    | bound _ hb _ ho _ hreg =>
      have hos : s.owns = false := by simp [Socket.owns, hb]
      rw [hreg, h.registry q, exists_registered_iff hs]
      simp [hos, ho]
    | owned p₀ _ hb ho _ hp _ hreg =>
      have hos : s.owns = false := by simp [Socket.owns, hb]
      rw [hreg]
      by_cases hq : q = p₀
      · subst hq
        simp [ho, hp]
      · rw [Function.update_noteq hq, h.registry q, exists_registered_iff hs]
        simp [hos, hp, Ne.symm hq]
  · intro fd₁ fd₂ s₁ s₂ h₁ h₂ ho₁ ho₂ hpe
    rcases update_cases h₁ with ⟨rfl, he₁⟩ | ⟨hne₁, r₁⟩ <;>
      rcases update_cases h₂ with ⟨rfl, he₂⟩ | ⟨hne₂, r₂⟩
    · rfl
    · obtain rfl := Option.some.inj he₁
      exact hone fd₂ s₂ hne₂ r₂ ho₁ ho₂ hpe
    · obtain rfl := Option.some.inj he₂
      exact (hone fd₁ s₁ hne₁ r₁ ho₂ ho₁ hpe.symm).symm
    · exact h.unique fd₁ fd₂ s₁ s₂ r₁ r₂ ho₁ ho₂ hpe

/-- **`close`.** The `Socket` at `fd` dropped, its descriptor the only one changed, and its path
dropped from the registry if it owned one. -/
theorem PathsOwned.erase (h : PathsOwned w) (hwf : w.WellFormed) {fd : Nat} {s : Socket}
    (hs : w.registry fd = some s) (hreg : w'.registry = Function.update w.registry fd none)
    (hk : w.sys.KindsKept w'.sys (· = s.fd))
    (hregs : ∀ q, w'.sys.sockpathRegistry q = true ↔
      (w.sys.sockpathRegistry q = true ∧ ¬ (s.owns = true ∧ s.sockpath = some q))) :
    PathsOwned w' := by
  -- every `Socket` left sits elsewhere than `s`, and its descriptor stays bound
  have hother : ∀ fd₁ s₁, w'.registry fd₁ = some s₁ → fd₁ ≠ fd ∧ w.registry fd₁ = some s₁ := by
    intro fd₁ s₁ h₁
    rw [hreg] at h₁
    rcases update_cases h₁ with ⟨-, he⟩ | h₁
    · cases he
    · exact h₁
  have hkeep : ∀ fd₁ s₁, w'.registry fd₁ = some s₁ →
      ∀ a, w.sys.boundAt s₁.fd = some a → w'.sys.boundAt s₁.fd = some a := fun fd₁ s₁ h₁ _ =>
    hk.boundAt_eq h.ids fun he => (hother fd₁ s₁ h₁).1
      ((hwf.fd fd₁ s₁ (hother fd₁ s₁ h₁).2).symm.trans (he.trans (hwf.fd fd s hs)))
  refine ⟨hk.ids h.ids, fun fd₁ s₁ h₁ => h.unix fd₁ s₁ (hother fd₁ s₁ h₁).2,
    fun fd₁ s₁ h₁ => h.activated fd₁ s₁ (hother fd₁ s₁ h₁).2,
    fun fd₁ s₁ h₁ hb₁ => (h.bound fd₁ s₁ (hother fd₁ s₁ h₁).2 hb₁).imp (hkeep fd₁ s₁ h₁),
    fun fd₁ s₁ h₁ ho₁ => h.owned_of_boundAt (hother fd₁ s₁ h₁).2 ho₁ (hkeep fd₁ s₁ h₁),
    fun q => ?_, fun fd₁ fd₂ s₁ s₂ h₁ h₂ =>
      h.unique fd₁ fd₂ s₁ s₂ (hother fd₁ s₁ h₁).2 (hother fd₂ s₂ h₂).2⟩
  rw [hregs, h.registry, exists_registered_iff hs, hreg, exists_update_iff]
  -- the owners left are the owners but `s`, the only owner of its path
  constructor
  · rintro ⟨hP | hO, hn⟩
    · exact absurd hP hn
    · exact .inr hO
  · rintro (⟨s₁, he, -⟩ | hO)
    · cases he
    · refine ⟨.inr hO, fun ⟨hos, hsp⟩ => ?_⟩
      obtain ⟨fd₁, s₁, hne, h₁, ho₁, hp₁⟩ := hO
      exact hne (h.unique fd₁ fd s₁ s h₁ hs ho₁ hos (hp₁.trans hsp.symm))

/-- **A new `Socket`** at `fd`, neither bound nor activated, where no socket is bound: the
descriptors but `fd`, and the registry of paths, as they were. -/
theorem PathsOwned.insert (h : PathsOwned w) (hwf : w.WellFormed) {fd : Nat} {c : Socket}
    (hreg : w'.registry = Function.update w.registry fd (some c)) (hc : c.bound = false)
    (hca : c.activated = false) (hk : w.sys.KindsKept w'.sys (· = fd))
    (hregs : w'.sys.sockpathRegistry = w.sys.sockpathRegistry) (hnew : w.sys.boundAt fd = none) :
    PathsOwned w' := by
  have hco : c.owns = false := by simp [Socket.owns, hc]
  -- a `Socket` whose descriptor is bound is not at `fd`, and its descriptor stays bound
  have hne : ∀ fd₁ s₁ a, w.registry fd₁ = some s₁ → w.sys.boundAt s₁.fd = some a → fd₁ ≠ fd := by
    intro fd₁ s₁ a h₁ ha he
    rw [hwf.fd fd₁ s₁ h₁, he, hnew] at ha
    cases ha
  have hkeep : ∀ fd₁ s₁, w.registry fd₁ = some s₁ →
      ∀ a, w.sys.boundAt s₁.fd = some a → w'.sys.boundAt s₁.fd = some a := fun fd₁ s₁ h₁ a ha =>
    hk.boundAt_eq h.ids (fun he => hne fd₁ s₁ a h₁ ha ((hwf.fd fd₁ s₁ h₁).symm.trans he)) ha
  -- the registered `Socket`s: `c`, and the ones before
  have hall : ∀ {P : Socket → Prop}, P c → (∀ fd₁ s₁, w.registry fd₁ = some s₁ → P s₁) →
      ∀ fd₁ s₁, w'.registry fd₁ = some s₁ → P s₁ := fun hc hr => by
    rw [hreg]
    exact forall_update_some hc fun fd₁ s₁ _ => hr fd₁ s₁
  -- an owner registered now was registered before
  have hown : ∀ fd₁ s₁, w'.registry fd₁ = some s₁ → s₁.owns = true → w.registry fd₁ = some s₁ := by
    intro fd₁ s₁ h₁ ho₁
    rw [hreg] at h₁
    rcases update_cases h₁ with ⟨-, he⟩ | ⟨-, h₁⟩
    · rw [← Option.some.inj he, hco] at ho₁; cases ho₁
    · exact h₁
  refine ⟨hk.ids h.ids, hall (fun hb => nomatch hc.symm.trans hb) h.unix,
    hall (fun ha => nomatch hca.symm.trans ha) h.activated,
    hall (fun hb => nomatch hc.symm.trans hb) fun fd₁ s₁ h₁ hb₁ =>
      (h.bound fd₁ s₁ h₁ hb₁).imp (hkeep fd₁ s₁ h₁),
    hall (fun ho => nomatch hco.symm.trans ho) fun fd₁ s₁ h₁ ho₁ =>
      h.owned_of_boundAt h₁ ho₁ (hkeep fd₁ s₁ h₁), fun q => ?_,
    fun fd₁ fd₂ s₁ s₂ h₁ h₂ ho₁ ho₂ =>
      h.unique fd₁ fd₂ s₁ s₂ (hown fd₁ s₁ h₁ ho₁) (hown fd₂ s₂ h₂ ho₂) ho₁ ho₂⟩
  -- no owner was at `fd`, and the new `Socket` owns nothing
  rw [hregs, h.registry]
  constructor
  · rintro ⟨fd₁, s₁, h₁, ho₁, hp₁⟩
    obtain ⟨_, a, -, -, ha⟩ := h.owned fd₁ s₁ h₁ ho₁
    refine ⟨fd₁, s₁, ?_, ho₁, hp₁⟩
    rw [hreg, Function.update_noteq (hne fd₁ s₁ a h₁ ha)]
    exact h₁
  · rintro ⟨fd₁, s₁, h₁, ho₁, hp₁⟩
    exact ⟨fd₁, s₁, hown fd₁ s₁ h₁ ho₁, ho₁, hp₁⟩

/-- The real `accept` opens `newfd`, closed before; `Socket::accept` registers there a child
that is not bound. -/
theorem PathsOwned.accept (h : PathsOwned w) (hwf : w.WellFormed) {fd newfd : Nat} {s : Socket}
    {o : Outcomes} (hs : w.registry fd = some s) (hnew : w.sys.fds newfd = none) :
    PathsOwned (w.perform pool fd s o (.accept newfd)) := by
  simp only [perform]
  split
  · exact h.keepSys (T := fun _ => False) rfl (Sys.kindsKept_fail _ _ _) rfl fun _ _ _ _ h => h
  rename_i k hacc
  -- `newfd` is no bound `Socket`'s descriptor, and after the real call bound to nothing
  have hnb : ∀ fd s, w.registry fd = some s → s.bound = true → ¬ s.fd = newfd :=
    fun fd' s' h' hb he => by
      obtain ⟨a, ha⟩ := h.bound fd' s' h' hb
      exact Sys.fds_ne_none_of_boundAt ha (he ▸ hnew)
  have hfree : k.boundAt newfd = none := by
    obtain ⟨obj, -, -, rfl⟩ := Sys.realAccept_eq hacc
    exact Sys.boundAt_openObj _ _ _ _
  have h₁ : PathsOwned { w with sys := k } :=
    h.keepSys rfl (Sys.realAccept_kindsKept hacc) (Sys.realAccept_fdsOnly hacc).registry hnb
  have hf := Socket.accept_frame pool o s k newfd w.nextSock
  have hwf₂ : WellFormed (w.update fd (s.accept pool o newfd w.nextSock k).2.1
      (s.accept pool o newfd w.nextSock k).2.2.1) := hwf.replace rfl rfl hs hf.id hf.fd
  have hq := Socket.accept_quiet pool o s k newfd w.nextSock
  have h₂ : PathsOwned (w.update fd (s.accept pool o newfd w.nextSock k).2.1
      (s.accept pool o newfd w.nextSock k).2.2.1) :=
    h₁.update (hwf.same rfl rfl) hs (F := fun _ => False) hq.unixStep (.keep (Socket.accept_pathQuiet pool o s k _ _))
      hf.fd (fun hu => hq.isUnix.trans hu) fun _ _ _ _ h => h
  unfold acceptAt
  dsimp only
  split
  · rename_i c hc
    obtain ⟨ports, peer, hceq⟩ := Socket.accept_child pool o s k hc
    exact h₂.insert hwf₂ rfl (by rw [hceq]; rfl) (by rw [hceq]; rfl) (register_kindsKept newfd c _ _)
      (register_sockpathRegistry newfd c _)
      ((Socket.accept_boundAt pool o s k newfd w.nextSock newfd).trans hfree)
  · exact h₂

/-- **Every call keeps `PathsOwned`**, under `keepsOwners`. -/
theorem PathsOwned.step (h : PathsOwned w) (hwf : w.WellFormed) (ev : Event)
    (hcond : keepsOwners (w, ev) = true) : PathsOwned (w.step pool ev) := by
  cases ev with
  | create fd domain typearg protocol =>
    -- a new socket at a closed descriptor
    have hfd : w.sys.fds fd = none := by simpa [keepsOwners] using hcond
    simp only [World.step]
    exact h.insert hwf rfl rfl rfl (((Sys.kindsKept_openObj fd .ip none w.sys).trans
      (register_kindsKept fd (Socket.new w.nextSock fd domain typearg protocol)
        { w with sys := w.sys.openObj fd .ip none, nextSock := w.nextSock + 1 } fun _ => False)).mono
      fun _ h => h.resolve_right not_false) (register_sockpathRegistry _ _ _)
      (by simp [Sys.boundAt, Sys.obj, hfd])
  | call fd c o =>
    simp only [World.step]
    split
    · exact h
    rename_i s hs
    have hfresh := keepsOwners_fresh hcond
    -- the descriptor `socket` returns is no bound `Socket`'s
    have hsock : ∀ fd s, w.registry fd = some s → s.bound = true → ¬ o.socket = .ok s.fd :=
      fun fd' s' h' hb hn => by
        obtain ⟨a, ha⟩ := h.bound fd' s' h' hb
        exact Sys.fds_ne_none_of_boundAt ha (freshDescriptors_socket hfresh hn)
    have hsb := h.boundSound hs
    cases c with
    | blackhole =>
      exact h.update hwf hs (F := fun _ => False) (Socket.Quiet.unixStep ⟨.refl _ _, rfl⟩)
        (.keep (Socket.blackhole_pathQuiet s w.sys (keepsOwners_notOwns hcond hs (.inl rfl))))
        rfl id fun _ _ _ _ h => h
    | setsockopt | ioctl =>
      exact h.update hwf hs (F := fun _ => False) (Socket.forwardOpt_quiet o s w.sys _).unixStep
        (.keep (Socket.forwardOpt_pathQuiet o s w.sys _)) (Socket.forwardOpt_frame_id o s w.sys _).2
        (fun hu => (Socket.forwardOpt_quiet o s w.sys _).isUnix.trans hu) fun _ _ _ _ h => h
    | listen =>
      exact h.update hwf hs (F := fun _ => False) (Socket.listen_quiet o s w.sys).unixStep
        (.keep (Socket.listen_pathQuiet o s w.sys)) rfl id fun _ _ _ _ h => h
    | bind addr path =>
      exact h.update hwf hs (Socket.bind_unixStep pool o s w.sys addr path)
        (Socket.bind_pathStep pool o s w.sys addr path hsb (h.activated fd s hs))
        (Socket.bind_frame pool o s w.sys addr path).fd
        (Socket.bind_grows pool o s w.sys addr path).isUnix hsock
    | connect addr path =>
      exact h.update hwf hs (Socket.connect_unixStep pool o s w.sys addr path)
        (.keep (Socket.connect_pathQuiet pool o s w.sys addr path
          (keepsOwners_notOwns hcond hs (.inr (.inl ⟨addr, path, rfl⟩))) hsb))
        (Socket.connect_frame pool o s w.sys addr path).fd
        (Socket.connect_grows pool o s w.sys addr path).isUnix hsock
    | connectPeermap addr =>
      have hq := Socket.connectPeermap_quiet o s w.sys addr
      exact h.update hwf hs (F := fun _ => False) hq.unixStep
        (.keep (Socket.connectPeermap_pathQuiet o s w.sys addr
          (keepsOwners_notOwns hcond hs (.inr (.inr ⟨addr, rfl⟩)))))
        (Socket.connectPeermap_frame o s w.sys addr).fd (fun hu => hq.isUnix.trans hu)
        fun _ _ _ _ h => h
    | accept newfd => exact h.accept pool hwf hs (freshDescriptors_accept hfresh)
    | rewriteSrc realAddr =>
      have hu := Socket.rewriteSrc_isUnix pool o s realAddr
      exact h.update hwf hs (F := fun _ => False) (Socket.Quiet.unixStep ⟨.refl _ _, hu⟩)
        (.keep (Socket.rewriteSrc_pathQuiet pool o s w.sys realAddr))
        (by rw [Socket.rewriteSrc_sock]) (fun h => hu.trans h) fun _ _ _ _ h => h
    | rewriteDest addr path =>
      exact h.update hwf hs (Socket.rewriteDest_unixStep pool o s w.sys addr path)
        (.keep (Socket.rewriteDest_pathQuiet pool o s w.sys addr path hsb))
        (Socket.rewriteDest_frame pool o s w.sys addr path).fd
        (Socket.rewriteDest_grows pool o s w.sys addr path).isUnix hsock
    | activate addr filedes =>
      -- `filedes` is no registered `Socket`'s descriptor, and bound
      obtain ⟨hfree, hkind⟩ := freshDescriptors_activate hfresh
      obtain ⟨hunix, a, hfa⟩ := keepsOwners_activate hcond hs
      exact h.update hwf hs (Socket.activate_unixStep o s w.sys addr hkind)
        (Socket.activate_pathStep o s w.sys addr hunix hfa (h.unix fd s hs))
        (Socket.activate_frame o s w.sys addr filedes).fd
        (Socket.activate_grows o s w.sys addr filedes).isUnix fun fd' s' h' _ he => by
          rw [← hwf.fd fd' s' h', he, hfree] at h'; cases h'
    | close =>
      exact h.erase hwf hs rfl (((Socket.close_kindsKept o s w.sys).trans
        (Socket.destroy_kindsKept _ _ fun _ => False)).mono fun _ h => h.resolve_right not_false)
        fun q => by
          simp only [perform]
          rw [Socket.destroy_sockpathRegistry]
          exact Socket.close_sockpathRegistry o s w.sys q

/-- **The registry of socket paths is exact.** From a process whose descriptors refer to
numbered objects, in every run that keeps `keepsOwners`: a path is in
`Socket::sockpath_registry` exactly when a registered `Socket` owns it (is bound to it, not a
blackhole and not activated), the owner's descriptor is bound to that path, and no two
registered `Socket`s own the same path. -/
theorem sockpathRegistry_exact (fds : Nat → Option Nat) (objs : Nat → Option SockObj)
    (nextObj : Nat) (cred : Ucred) (hids : ∀ fd id, fds fd = some id → id < nextObj)
    (evs : List Event)
    (hcond : ((init fds objs nextObj cred).trace pool evs).all keepsOwners = true) :
    let w := (init fds objs nextObj cred).run pool evs
    (∀ p, w.sys.sockpathRegistry p = true ↔
      ∃ fd s, w.registry fd = some s ∧ s.owns = true ∧ s.sockpath = some p) ∧
    (∀ fd s, w.registry fd = some s → s.owns = true →
      ∃ p a, s.sockpath = some p ∧ SockAddr.unix p = some a ∧ w.sys.boundAt s.fd = some a) ∧
    (∀ fd fd' s s', w.registry fd = some s → w.registry fd' = some s' → s.owns = true →
      s'.owns = true → s.sockpath = s'.sockpath → fd = fd') := by
  have hrun := run_induction pool
    (P := fun w tr => tr.all keepsOwners = true → w.WellFormed ∧ PathsOwned w)
    (fun w tr ev ih hall => by
      rw [List.all_append, Bool.and_eq_true] at hall
      obtain ⟨hwf, hp⟩ := ih hall.1
      exact ⟨hwf.step pool ev, hp.step pool hwf ev (by simpa using hall.2)⟩)
    evs (init fds objs nextObj cred) []
    (fun _ => ⟨wellFormed_init fds objs nextObj cred, .init objs cred hids⟩)
  obtain ⟨-, hp⟩ := hrun (by simpa using hcond)
  exact ⟨hp.registry, hp.owned, hp.unique⟩

/-- Two stream sockets bound to one path, at `3` and then at `5`: the second becomes a
blackhole, the first owns the path, and the registry holds it for the first alone. -/
theorem second_bind_owns_nothing :
    let pool := Pool.firstFit 32768 60999
    let w := init (fun _ => none) (fun _ => none) 0 ⟨1000, 1000, 42⟩
    let bind : Call := .bind (.ip .inet 0x7f000001 8080) "/tmp/a.sock"
    let evs : List Event := [.create 3 .inet sockStream 0,
      .call 3 bind (Outcomes.allOk 4 "/tmp/bh0" ⟨1000, 1000, 43⟩ 7),
      .create 5 .inet sockStream 0,
      .call 5 bind (Outcomes.allOk 6 "/tmp/bh1" ⟨1000, 1000, 43⟩ 7)]
    (∀ fd id, (fun _ => none : Nat → Option Nat) fd = some id → id < 0) ∧
    (w.trace pool evs).all keepsOwners = true ∧
    ((w.run pool evs).registry 5).map Socket.isBlackhole = some true ∧
    ((w.run pool evs).registry 3).map Socket.owns = some true ∧
    (∀ p, (w.run pool evs).sys.sockpathRegistry p = true ↔
      ∃ fd s, (w.run pool evs).registry fd = some s ∧ s.owns = true ∧ s.sockpath = some p) ∧
    (∀ fd s, (w.run pool evs).registry fd = some s → s.owns = true →
      ∃ p a, s.sockpath = some p ∧ SockAddr.unix p = some a ∧
        (w.run pool evs).sys.boundAt s.fd = some a) ∧
    (∀ fd fd' s s', (w.run pool evs).registry fd = some s →
      (w.run pool evs).registry fd' = some s' → s.owns = true → s'.owns = true →
      s.sockpath = s'.sockpath → fd = fd') :=
  ⟨fun _ _ h => by simp at h, by decide, by decide, by decide,
    sockpathRegistry_exact _ _ _ _ _ (fun _ _ h => by simp at h) _ (by decide)⟩

end World

end Ip2unix
