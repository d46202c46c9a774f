import Ip2unix.WorldLemmas
import Ip2unix.MakeUnix

/-!
# Ip2unix — the option cache over a run

What `Socket::sockopts` holds after any run, said from the run's trace: `cachedCalls id tr`
lists, in order, the `setsockopt` and `ioctl` calls made through the `Socket` of address
`id` while it was not a UNIX socket, whose real call returned `0`.

* **`Cached.step`**: one call keeps "every registered `Socket`'s cache is `cachedCalls` of
  its address, and addresses not handed out yet have none", over the shapes of
  `perform_cases`.
* **`sockopts_eq_cachedCalls`**: hence, from empty registries, every registered `Socket`'s
  cache is exactly its recorded calls, and the `make_unix` that switches it gives its
  descriptor the replayable ones among them: on a new UNIX socket (`makeUnix_obj`), or, when
  `activate` adopts a descriptor, appended to the options of the socket adopted, which
  stays bound and connected as it was (`makeUnix_adopt_obj`). The options of the IP levels
  are recorded but not replayed.
-/

namespace Ip2unix

/-- The record a call adds to the cache of `s`: the option of a `setsockopt` or `ioctl` whose
real call returned `0` while `s` was not a UNIX socket. -/
def recorded (s : Socket) (o : Outcomes) (k : Sys) (c : Call) : List SockOpt :=
  match c.sockOpt with
  | some opt =>
    if s.isUnix = false ∧ (k.realCall o s.fd opt).toOption.map Prod.fst = some 0 then [opt]
    else []
  | none => []

/-- What one call of a trace adds to the cache of the `Socket` of address `id`. -/
def cachedAt (id : Nat) : World × Event → List SockOpt
  | (w, .call fd c o) =>
    match w.registry fd with
    | some s => if s.id = id then recorded s o w.sys c else []
    | none => []
  | (_, .create _ _ _ _) => []

/-- The calls a trace records for the `Socket` of address `id`, in order. -/
def cachedCalls (id : Nat) (tr : List (World × Event)) : List SockOpt :=
  tr.flatMap (cachedAt id)

@[simp] theorem cachedCalls_snoc (id : Nat) (tr : List (World × Event)) (e : World × Event) :
    cachedCalls id (tr ++ [e]) = cachedCalls id tr ++ cachedAt id e := by
  simp [cachedCalls]

theorem recorded_of_sockOpt_none {c : Call} (h : c.sockOpt = none) (s : Socket) (o : Outcomes)
    (k : Sys) : recorded s o k c = [] := by
  simp [recorded, h]

/-- `setsockopt` and `ioctl` append what `recorded` says. -/
theorem forwardOpt_sockopts {c : Call} {opt : SockOpt} (h : c.sockOpt = some opt) (s : Socket)
    (o : Outcomes) (k : Sys) :
    (s.forwardOpt o opt k).2.1.sockopts = s.sockopts ++ recorded s o k c := by
  rw [Socket.forwardOpt_sock]
  simp only [recorded, h]
  split <;> simp

theorem cachedAt_call {w : World} {fd : Nat} {s : Socket} (hs : w.registry fd = some s)
    (c : Call) (o : Outcomes) (id : Nat) :
    cachedAt id (w, .call fd c o) = if s.id = id then recorded s o w.sys c else [] := by
  simp [cachedAt, hs]

/-- Every registered `Socket`'s cache is what the trace recorded for it, and addresses not
handed out yet have nothing recorded. -/
structure Cached (w : World) (tr : List (World × Event)) : Prop where
  cache : ∀ fd s, w.registry fd = some s → s.sockopts = cachedCalls s.id tr
  fresh : ∀ id, w.nextSock ≤ id → cachedCalls id tr = []

theorem cached_init (fds : Nat → Option Nat) (objs : Nat → Option SockObj) (nextObj : Nat)
    (cred : Ucred) : Cached (World.init fds objs nextObj cred) [] :=
  ⟨fun _ _ h => (nomatch h), fun _ _ => rfl⟩

namespace Cached

variable {w w' : World} {tr : List (World × Event)} {fd : Nat} {s s' : Socket}

/-- A call that records nothing, the state left as it was. -/
theorem extend (h : Cached w tr) {ev : Event} (hent : ∀ id, cachedAt id (w, ev) = []) :
    Cached w (tr ++ [(w, ev)]) :=
  ⟨fun fd s hs => by rw [cachedCalls_snoc, hent, List.append_nil]; exact h.cache fd s hs,
    fun id hid => by rw [cachedCalls_snoc, hent, List.append_nil]; exact h.fresh id hid⟩

theorem same (h : Cached w tr) (hreg : w'.registry = w.registry)
    (hn : w'.nextSock = w.nextSock) : Cached w' tr :=
  ⟨fun fd s hs => h.cache fd s (hreg ▸ hs), fun id hid => h.fresh id (hn ▸ hid)⟩

theorem erase (h : Cached w tr) (hreg : w'.registry = Function.update w.registry fd none)
    (hn : w'.nextSock = w.nextSock) : Cached w' tr := by
  refine ⟨fun fd₁ s₁ h₁ => ?_, fun id hid => h.fresh id (hn ▸ hid)⟩
  rw [hreg, Function.update_apply] at h₁
  split at h₁
  · cases h₁
  · exact h.cache fd₁ s₁ h₁

/-- A new `Socket` with an empty cache under the next address. -/
theorem insert (h : Cached w tr) (hreg : w'.registry = Function.update w.registry fd (some s))
    (hn : w'.nextSock = w.nextSock + 1) (hid : s.id = w.nextSock) (hopts : s.sockopts = []) :
    Cached w' tr := by
  refine ⟨fun fd₁ s₁ h₁ => ?_, fun id hid' => h.fresh id (by omega)⟩
  rw [hreg, Function.update_apply] at h₁
  split at h₁
  · cases h₁; rw [hopts, h.fresh _ (Nat.le_of_eq hid.symm)]
  · exact h.cache fd₁ s₁ h₁

/-- The `Socket` at `fd` replaced by one of the same address whose cache grew by what the
call recorded for it. -/
theorem record (h : Cached w tr) (hwf : w.WellFormed) {ev : Event} {E : List SockOpt}
    (hs : w.registry fd = some s) (hent : ∀ id, cachedAt id (w, ev) = if s.id = id then E else [])
    (hreg : w'.registry = Function.update w.registry fd (some s'))
    (hn : w'.nextSock = w.nextSock) (hid : s'.id = s.id) (hopts : s'.sockopts = s.sockopts ++ E) :
    Cached w' (tr ++ [(w, ev)]) := by
  refine ⟨fun fd₁ s₁ h₁ => ?_, fun id hid' => ?_⟩
  · rw [hreg, Function.update_apply] at h₁
    split at h₁
    · cases h₁
      rw [hopts, hid, cachedCalls_snoc, hent, if_pos rfl, h.cache fd s hs]
    · -- another descriptor: another address, so the call recorded nothing for it
      have hne : s.id ≠ s₁.id := fun he => ‹¬fd₁ = fd› (hwf.id_inj fd₁ fd s₁ s h₁ hs he.symm)
      rw [cachedCalls_snoc, hent, if_neg hne, List.append_nil]
      exact h.cache fd₁ s₁ h₁
  · have hlt := hwf.id_lt fd s hs
    rw [cachedCalls_snoc, hent, if_neg (by omega), List.append_nil]
    exact h.fresh id (hn ▸ hid')

end Cached

/-- **One call keeps the caches what the trace recorded.** -/
theorem Cached.step (pool : Pool) {w : World} {tr : List (World × Event)} (hwf : w.WellFormed)
    (h : Cached w tr) (ev : Event) : Cached (w.step pool ev) (tr ++ [(w, ev)]) := by
  cases ev with
  | create fd domain typearg protocol =>
    have h' : Cached w (tr ++ [(w, .create fd domain typearg protocol)]) := h.extend fun _ => rfl
    exact h'.insert rfl rfl rfl rfl
  | call fd c o =>
    simp only [World.step]
    split
    · exact h.extend fun id => by simp [cachedAt, *]
    rename_i s hs
    have hent := cachedAt_call hs c o
    rcases World.perform_cases pool w fd s o c with
      ⟨s', k, hf, hc, he⟩ | ⟨realAddr, rfl, he⟩ | ⟨opt, hc, he⟩ | ⟨rfl, k, he⟩ |
        ⟨newfd, rfl, ⟨k, he⟩ | ⟨s', k, hf, hacc⟩⟩
    all_goals try rw [he]
    · -- a method that caches nothing
      exact h.record hwf hs hent rfl rfl hf.id (by rw [hf.sockopts, recorded_of_sockOpt_none hc,
        List.append_nil])
    · -- `rewrite_src`, which changes the pool and the peer maps only
      exact h.record hwf hs hent rfl rfl (by rw [Socket.rewriteSrc_sock])
        (by rw [Socket.rewriteSrc_sock]; exact (List.append_nil _).symm)
    · -- `setsockopt` or `ioctl`
      exact h.record hwf hs hent rfl rfl (Socket.forwardOpt_frame_id o s w.sys opt).1
        (forwardOpt_sockopts hc s o w.sys)
    · exact (h.extend fun id => by simp [hent, recorded, Call.sockOpt]).erase rfl rfl
    · exact (h.extend fun id => by simp [hent, recorded, Call.sockOpt]).same rfl rfl
    · -- `accept`: the listener keeps its cache, the child comes with an empty one
      have hent' : ∀ id, cachedAt id (w, .call fd (.accept newfd) o) =
          if s.id = id then ([] : List SockOpt) else [] := by simpa [recorded, Call.sockOpt] using hent
      have h' : Cached (w.update fd s' k) (tr ++ [(w, .call fd (.accept newfd) o)]) :=
        h.record hwf hs hent' rfl rfl hf.id (by rw [hf.sockopts, List.append_nil])
      rcases hacc with he | ⟨ports, peer, he⟩ <;> rw [he]
      · exact h'
      · exact h'.insert rfl rfl rfl rfl

/-- **The option cache.** From empty registries, after any run:
every registered `Socket`'s cache holds exactly the `setsockopt` and `ioctl` calls made
through it while it was not a UNIX socket whose real call returned `0`, in call order. The
`make_unix(-1)` that switches it gives its descriptor a new UNIX socket, bound and
connected to nothing, holding the replayable ones among those calls; the
`make_unix(filedes)` of `activate` gives it the socket at `filedes`, bound and connected as
it was, with the replayable ones appended to the options it had. -/
theorem sockopts_eq_cachedCalls (pool : Pool) (fds : Nat → Option Nat)
    (objs : Nat → Option SockObj) (nextObj : Nat) (cred : Ucred) (evs : List Event) (fd : Nat)
    (s : Socket)
    (hs : ((World.init fds objs nextObj cred).run pool evs).registry fd = some s) :
    s.sockopts = cachedCalls s.id ((World.init fds objs nextObj cred).trace pool evs) ∧
    (∀ o, s.isUnix = false →
      (s.makeUnix o none ((World.init fds objs nextObj cred).run pool evs).sys).1 = true →
      (s.makeUnix o none ((World.init fds objs nextObj cred).run pool evs).sys).2.2.obj s.fd =
        some ⟨.unix, (cachedCalls s.id ((World.init fds objs nextObj cred).trace pool evs)).filter
          SockOpt.replayable, none, none⟩) ∧
    ∀ o filedes obj, s.isUnix = false →
      ((World.init fds objs nextObj cred).run pool evs).sys.obj filedes = some obj →
      (s.makeUnix o (some filedes) ((World.init fds objs nextObj cred).run pool evs).sys).1 =
        true →
      (s.makeUnix o (some filedes) ((World.init fds objs nextObj cred).run pool evs).sys).2.2.obj
          s.fd =
        some { obj with opts := obj.opts ++ (cachedCalls s.id
          ((World.init fds objs nextObj cred).trace pool evs)).filter SockOpt.replayable } := by
  have hrun := World.run_induction pool (P := fun w tr => w.WellFormed ∧ Cached w tr)
    (fun w tr ev h => ⟨h.1.step pool ev, h.2.step pool h.1 ev⟩) evs _ []
    ⟨World.wellFormed_init fds objs nextObj cred, cached_init fds objs nextObj cred⟩
  have hcache := hrun.2.cache fd s hs
  rw [List.nil_append] at hcache
  refine ⟨hcache, fun o hu hok => ?_, fun o filedes obj hu hobj hok => ?_⟩ <;> rw [← hcache]
  · exact Socket.makeUnix_obj o s _ hu hok
  · exact Socket.makeUnix_adopt_obj o s _ hu hobj hok

/-- A stream socket after one `SO_REUSEADDR`. -/
theorem sockopts_after_setsockopt :
    let pool := Pool.firstFit 32768 60999
    let w := World.init (fun _ => none) (fun _ => none) 0 ⟨0, 0, 0⟩
    let evs : List Event := [.create 3 .inet sockStream 0,
      .call 3 (.setsockopt 1 2 [1]) (Outcomes.allOk 4 "/bh" ⟨0, 0, 0⟩ 0)]
    let s := { Socket.new 0 3 .inet sockStream 0 with sockopts := [.sockopt 1 2 [1]] }
    (w.run pool evs).registry 3 = some s ∧
    (s.sockopts = cachedCalls s.id (w.trace pool evs) ∧
      (∀ o, s.isUnix = false → (s.makeUnix o none (w.run pool evs).sys).1 = true →
        (s.makeUnix o none (w.run pool evs).sys).2.2.obj s.fd =
          some ⟨.unix, (cachedCalls s.id (w.trace pool evs)).filter SockOpt.replayable, none,
            none⟩) ∧
      ∀ o filedes obj, s.isUnix = false → (w.run pool evs).sys.obj filedes = some obj →
        (s.makeUnix o (some filedes) (w.run pool evs).sys).1 = true →
        (s.makeUnix o (some filedes) (w.run pool evs).sys).2.2.obj s.fd =
          some { obj with opts := obj.opts ++
            (cachedCalls s.id (w.trace pool evs)).filter SockOpt.replayable }) :=
  ⟨rfl, sockopts_eq_cachedCalls _ _ _ _ _ _ 3 _ rfl⟩

/-- A `TCP_NODELAY` set before `bind` is cached, but the UNIX socket `bind` switches to does
not receive it. -/
theorem tcp_option_not_replayed :
    let o := Outcomes.allOk 4 "/bh" ⟨0, 0, 0⟩ 0
    let w := (World.init (fun _ => none) (fun _ => none) 0 ⟨0, 0, 0⟩).run
      (Pool.firstFit 32768 60999)
      [.create 3 .inet sockStream 0, .call 3 (.setsockopt 6 1 [1]) o,
        .call 3 (.bind (.ip .inet 0x7f000001 8080) "/tmp/s.sock") o]
    (w.registry 3).map Socket.sockopts = some [.sockopt 6 1 [1]] ∧
      (w.registry 3).map Socket.isUnix = some true ∧ (w.sys.obj 3).map SockObj.opts = some [] := by
  decide

end Ip2unix
