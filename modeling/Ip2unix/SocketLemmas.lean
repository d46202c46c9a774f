import Ip2unix.Socket

/-!
# Ip2unix — what each `Socket` method may change

Proof companions of `Socket.lean`. `Kept` is what a failed call may leave behind: the
socket as it was but for `isUnix` and ports taken from its pool, the path registry as it
was, and a descriptor that was neither bound nor connected by the call. `Kept` composes
(`Kept.trans`), and every stretch of a method's body that can fail is shown to keep it:
`make_unix` always does (`makeUnix_kept`), whatever it returns, and so does the port-0
step of `bind`; the rest are the failing arms of each method.

`make_unix` changes nothing of the socket but `isUnix`, set exactly when it succeeds
(`makeUnix_sock`), and touches the descriptors only (`makeUnix_sockpathRegistry`).
`create_binding` cannot fail (`createBinding_fst`): with the spec's `SockAddr` both of its
setters succeed on an address of the socket's own family.
-/

namespace Ip2unix

/-- What a call that failed may leave behind. -/
structure Kept (s : Socket) (k : Sys) (s' : Socket) (k' : Sys) : Prop where
  sock : s' = { s with isUnix := s'.isUnix, ports := s'.ports }
  ports : s.ports.reserved ⊆ s'.ports.reserved
  registry : k'.sockpathRegistry = k.sockpathRegistry
  attach : ∀ obj, k'.obj s.fd = some obj → ¬ obj.Fresh → k.obj s.fd = some obj

namespace Kept

theorem refl (s : Socket) (k : Sys) : Kept s k s k :=
  ⟨rfl, fun _ h => h, rfl, fun _ h _ => h⟩

theorem trans {s₁ s₂ s₃ : Socket} {k₁ k₂ k₃ : Sys} (h₁ : Kept s₁ k₁ s₂ k₂)
    (h₂ : Kept s₂ k₂ s₃ k₃) : Kept s₁ k₁ s₃ k₃ := by
  have hfd : s₂.fd = s₁.fd := by rw [h₁.sock]
  refine ⟨?_, fun _ h => h₂.ports (h₁.ports h), h₂.registry.trans h₁.registry, ?_⟩
  · rw [h₂.sock, h₁.sock]
  · intro obj hobj hatt
    have h := h₂.attach obj (by rw [hfd]; exact hobj) hatt
    rw [hfd] at h
    exact h₁.attach obj h hatt

/-- A failed real call that set `errno` and touched nothing else. -/
theorem fail (s : Socket) (k : Sys) (err : Errno) : Kept s k s (k.fail err) :=
  ⟨rfl, fun _ h => h, rfl, fun _ h _ => h⟩

/-- Files unlinked on the way out, as a dropped `BlackHole` does. -/
theorem unlink {s s' : Socket} {k k' : Sys} (h : Kept s k s' k') (ps : List String) :
    Kept s k s' (k'.unlink ps) :=
  ⟨h.sock, h.ports, h.registry, h.attach⟩

end Kept

/-- What a failed datagram `connect` may leave behind in place of `Kept`: the implicit
blackhole binding of its `rewrite_dest`. The socket is as it was but for `isUnix`, its pool,
a binding, and the blackhole mark and handle of the path `BlackHole` made; the registry is
as it was, the descriptor is connected to nothing it was not connected to, and it is bound
to that path. -/
structure KeptBlackholed (o : Outcomes) (s : Socket) (k : Sys) (s' : Socket) (k' : Sys) :
    Prop where
  sock : s' =
    { s with isUnix := s'.isUnix, ports := s'.ports, binding := s'.binding,
             isBlackhole := true, blackholeRef := o.blackhole }
  ports : s.ports.reserved ⊆ s'.ports.reserved
  registry : k'.sockpathRegistry = k.sockpathRegistry
  connected : ∀ a, k'.connectedAt s.fd = some a → k.connectedAt s.fd = some a
  bound : ∃ bh, o.blackhole = some bh ∧ k'.boundAt s.fd = SockAddr.unix bh

/-- A real call that failed after the blackhole binding. -/
theorem KeptBlackholed.fail {o : Outcomes} {s s' : Socket} {k k' : Sys}
    (h : KeptBlackholed o s k s' k') (err : Errno) : KeptBlackholed o s k s' (k'.fail err) :=
  ⟨h.sock, h.ports, h.registry, h.connected, h.bound⟩

/-- What no method but `setsockopt`, `ioctl` and `rewrite_src` changes: the socket's
identity, descriptor, type and family, its option cache and its peer maps; its pool only
grows. -/
structure Socket.Frame (s s' : Socket) : Prop where
  id : s'.id = s.id
  fd : s'.fd = s.fd
  type : s'.type = s.type
  domain : s'.domain = s.domain
  sockopts : s'.sockopts = s.sockopts
  peermap : s'.peermap = s.peermap
  revpeermap : s'.revpeermap = s.revpeermap
  ports : s.ports.reserved ⊆ s'.ports.reserved

theorem Socket.Frame.refl (s : Socket) : Frame s s := ⟨rfl, rfl, rfl, rfl, rfl, rfl, rfl, fun _ h => h⟩

theorem Socket.Frame.trans {s₁ s₂ s₃ : Socket} (h₁ : Frame s₁ s₂) (h₂ : Frame s₂ s₃) : Frame s₁ s₃ :=
  ⟨h₂.id.trans h₁.id, h₂.fd.trans h₁.fd, h₂.type.trans h₁.type, h₂.domain.trans h₁.domain,
    h₂.sockopts.trans h₁.sockopts, h₂.peermap.trans h₁.peermap, h₂.revpeermap.trans h₁.revpeermap,
    fun _ h => h₂.ports (h₁.ports h)⟩

/-- A record update of fields outside the frame, the pool grown. -/
theorem Socket.Frame.of_ports {s s' : Socket} (hid : s'.id = s.id) (hfd : s'.fd = s.fd)
    (htype : s'.type = s.type) (hdomain : s'.domain = s.domain) (hopts : s'.sockopts = s.sockopts)
    (hpeer : s'.peermap = s.peermap) (hrev : s'.revpeermap = s.revpeermap)
    (hports : s.ports.reserved ⊆ s'.ports.reserved) : Frame s s' :=
  ⟨hid, hfd, htype, hdomain, hopts, hpeer, hrev, hports⟩

namespace Socket

variable (pool : Pool) (o : Outcomes) (s : Socket) (k : Sys)

theorem makeUnix_of_isUnix {oldfd : Option Nat} (h : s.isUnix = true) :
    s.makeUnix o oldfd k = (true, s, k) := by
  simp [makeUnix, h]

/-- `make_unix` sets `isUnix` when it succeeds and changes no other field. -/
theorem makeUnix_sock (oldfd : Option Nat) :
    (s.makeUnix o oldfd k).2.1 = { s with isUnix := s.isUnix || (s.makeUnix o oldfd k).1 } := by
  by_cases hu : s.isUnix = true
  · rw [makeUnix_of_isUnix o s k hu]
    cases s; simp_all
  · simp only [makeUnix, hu]
    repeat' split
    all_goals cases s; simp_all

/-- `make_unix` only ever touches descriptors and `errno`. -/
theorem makeUnix_fdsOnly (oldfd : Option Nat) : Sys.FdsOnly k (s.makeUnix o oldfd k).2.2 := by
  unfold makeUnix
  split
  · exact .refl k
  split
  · exact Sys.fdsOnly_fail _ _
  rename_i newfd k1 hopen
  have h1 := Sys.openUnix_fdsOnly hopen
  split
  · exact h1.trans ((Sys.fdsOnly_fail _ _).trans (Sys.fdsOnly_realClose _ _))
  rename_i k2 hreplay
  have h2 := h1.trans (Sys.replay_fdsOnly hreplay)
  split
  · exact h2.trans ((Sys.fdsOnly_fail _ _).trans (Sys.fdsOnly_realClose _ _))
  · rename_i k3 hdup
    exact h2.trans (Sys.realDup2_fdsOnly hdup)

/-- `make_unix()` binds and connects no descriptor: each refers to what it referred to, or
to the new UNIX socket, which is bound and connected to nothing. -/
theorem makeUnix_onlyFresh : Sys.OnlyFresh k (s.makeUnix o none k).2.2 := by
  unfold makeUnix
  split
  · exact .refl k
  split
  · exact Sys.onlyFresh_fail _ _
  rename_i newfd k1 hopen
  obtain ⟨-, rfl⟩ := Sys.realSocket_eq hopen
  have h1 := Sys.onlyFresh_openObj newfd .unix k
  have hnew := Sys.obj_openObj newfd .unix none k
  split
  · exact h1.trans ((Sys.onlyFresh_fail _ _).trans (Sys.onlyFresh_realClose _ _))
  rename_i k2 hreplay
  obtain ⟨h2, hobj2⟩ := Sys.replay_onlyFresh hnew ⟨rfl, rfl⟩ hreplay
  split
  · exact h1.trans (h2.trans ((Sys.onlyFresh_fail _ _).trans (Sys.onlyFresh_realClose _ _)))
  · rename_i k3 hdup
    exact h1.trans (h2.trans (Sys.realDup2_onlyFresh hobj2 ⟨rfl, rfl⟩ hdup).1)

/-- `make_unix()` keeps what a failed call must keep, whatever it returns. -/
theorem makeUnix_kept : Kept s k (s.makeUnix o none k).2.1 (s.makeUnix o none k).2.2 := by
  have hsock := makeUnix_sock o s k none
  have hfds := makeUnix_fdsOnly o s k none
  refine ⟨by rw [hsock], by rw [hsock]; exact fun _ h => h, hfds.registry, ?_⟩
  intro obj hobj hatt
  exact (makeUnix_onlyFresh o s k s.fd obj hobj).resolve_right hatt

/-- `create_binding` cannot fail: both setters succeed on an address of the socket's family. -/
theorem createBinding_fst (addr : SockAddr) : (s.createBinding pool addr k).1 = true := by
  obtain ⟨h', hh⟩ := SockAddr.setHost_ip s.domain 0 0 addr
  unfold createBinding
  split <;> simp [hh]

/-- `create_binding` only takes a port from the pool. -/
theorem createBinding_ports (addr : SockAddr) :
    s.ports.reserved ⊆ (s.createBinding pool addr k).2.ports.reserved := by
  unfold createBinding
  dsimp only
  repeat' split
  all_goals first | exact fun _ h => h | exact Ports.reserved_subset_acquire _ _

/-- `create_binding` changes the binding and the pool only. -/
theorem createBinding_sock (addr : SockAddr) :
    (s.createBinding pool addr k).2 = { s with
      binding := (s.createBinding pool addr k).2.binding
      ports := (s.createBinding pool addr k).2.ports } := by
  unfold createBinding
  dsimp only
  repeat' split
  all_goals rfl

/-- The port-0 step of `bind` only takes a port from the pool. -/
theorem bindPort_kept (addr : SockAddr) : Kept s k (s.bindPort pool addr).2.2 k := by
  unfold bindPort
  split
  · exact ⟨rfl, Ports.reserved_subset_acquire _ _, rfl, fun _ h _ => h⟩
  · exact .refl s k

theorem bindBlackhole_kept (h : (s.bindBlackhole o k).1 ≠ 0) :
    Kept s k (s.bindBlackhole o k).2.1 (s.bindBlackhole o k).2.2 := by
  unfold bindBlackhole at h ⊢
  repeat' split at h
  all_goals first | exact absurd rfl h | exact .refl s k | exact (Kept.fail s k _).unlink _

theorem bindPath_kept (newpath : String) (h : (s.bindPath o newpath k).1 ≠ 0) :
    Kept s k (s.bindPath o newpath k).2.1 (s.bindPath o newpath k).2.2 := by
  unfold bindPath at h ⊢
  repeat' split at h
  all_goals first | exact absurd rfl h | exact .fail s k _

/-- **A failed `bind` keeps the socket.** -/
theorem bind_kept (addr : SockAddr) (path : String) (h : (s.bind pool o addr path k).1 ≠ 0) :
    Kept s k (s.bind pool o addr path k).2.1 (s.bind pool o addr path k).2.2 := by
  have hmk := makeUnix_kept o s k
  rw [bind] at h ⊢
  generalize s.makeUnix o none k = m at hmk h ⊢
  rcases m with ⟨_ | _, s1, k1⟩ <;> dsimp only at hmk h ⊢
  · exact hmk
  have hpk := bindPort_kept pool s1 k1 addr
  generalize s1.bindPort pool addr = b at hpk h ⊢
  rcases b with ⟨newaddr, port, s2⟩
  dsimp only at hpk h ⊢
  have hbk : ∀ {r : Int × Socket × Sys}, r = (if s2.isBlackhole ||
      k1.hasSockpath (formatSockpath s2.type path newaddr) then s2.bindBlackhole o k1
      else s2.bindPath o (formatSockpath s2.type path newaddr) k1) → r.1 ≠ 0 →
      Kept s2 k1 r.2.1 r.2.2 := by
    rintro r rfl hr
    split
    · exact bindBlackhole_kept o s2 k1 (by simpa [*] using hr)
    · exact bindPath_kept o s2 k1 _ (by simpa [*] using hr)
  generalize hr : (if s2.isBlackhole || k1.hasSockpath (formatSockpath s2.type path newaddr)
    then s2.bindBlackhole o k1 else s2.bindPath o (formatSockpath s2.type path newaddr) k1) = r
    at h ⊢
  have hret : r.1 ≠ 0 := fun h0 => h (by simp [bindFinish, h0])
  simpa [bindFinish, hret] using hmk.trans (hpk.trans (hbk hr.symm hret))

/-- A failed `rewrite_dest` keeps the socket: the arms past the real `bind` to the
blackhole cannot fail, since `create_binding` cannot. -/
theorem rewriteDest_kept (addr : SockAddr) (path : String)
    (h : (s.rewriteDest pool o addr path k).1 = none) :
    Kept s k (s.rewriteDest pool o addr path k).2.1 (s.rewriteDest pool o addr path k).2.2 := by
  have hmk := makeUnix_kept o s k
  rw [rewriteDest] at h ⊢
  split
  · exact .refl s k
  rw [if_neg ‹_›] at h
  generalize SockAddr.unix (formatSockpath s.type path addr) = d at h ⊢
  rcases d with _ | destpath
  · exact .refl s k
  dsimp only at h ⊢
  generalize s.makeUnix o none k = m at hmk h ⊢
  rcases m with ⟨_ | _, s1, k1⟩ <;> dsimp only at hmk h ⊢
  · exact hmk
  split
  · rw [if_pos ‹_›] at h; cases h
  rw [if_neg ‹_›] at h
  generalize o.blackhole = ob at h ⊢
  rcases ob with _ | bhPath
  · exact hmk
  dsimp only at h ⊢
  generalize SockAddr.unix bhPath = db at h ⊢
  rcases db with _ | dest
  · exact hmk.unlink _
  dsimp only at h ⊢
  generalize k1.realBind o s1.fd dest = rb at h ⊢
  rcases rb with err | k2
  · exact (hmk.trans (.fail s1 k1 err)).unlink _
  dsimp only at h ⊢
  have hcb := createBinding_fst pool s1 k2 addr
  generalize s1.createBinding pool addr k2 = cb at hcb h ⊢
  rcases cb with ⟨_ | _, s3⟩ <;> simp at hcb h

/-- **What a `rewrite_dest` that gave a destination did.** The socket is a datagram one and
`make_unix` switched it; a socket with a binding is left as `make_unix` left it, and one
without is bound by the real `bind` to the blackhole's path and named by `create_binding`,
the `BlackHole` moving into `blackhole_ref`. -/
theorem rewriteDest_eq_some {addr : SockAddr} {path : String} {dest : SockAddr}
    (h : (s.rewriteDest pool o addr path k).1 = some dest) :
    s.type = .udp ∧ SockAddr.unix (formatSockpath s.type path addr) = some dest ∧
    ∃ s₁ k₁, s.makeUnix o none k = (true, s₁, k₁) ∧
      ((s₁.binding.isSome = true ∧ s.rewriteDest pool o addr path k = (some dest, s₁, k₁)) ∨
        (s₁.binding = none ∧ ∃ bh bdest k₂, o.blackhole = some bh ∧
          SockAddr.unix bh = some bdest ∧ k₁.realBind o s₁.fd bdest = .ok k₂ ∧
          s.rewriteDest pool o addr path k =
            (some dest, { (s₁.createBinding pool addr k₂).2 with
              isBlackhole := true, blackholeRef := some bh }, k₂.unlink s₁.blackholeRef.toList))) := by
  rw [rewriteDest] at h ⊢
  by_cases ht : s.type ≠ .udp
  · rw [if_pos ht] at h; cases h
  rw [if_neg ht] at h ⊢
  refine ⟨Decidable.of_not_not ht, ?_⟩
  cases hd : SockAddr.unix (formatSockpath s.type path addr) with
  | none => simp [hd] at h
  | some destpath =>
    simp only [hd] at h ⊢
    cases hm : s.makeUnix o none k with
    | mk ok r =>
      rcases r with ⟨s₁, k₁⟩
      cases ok
      · simp [hm] at h
      simp only [hm] at h ⊢
      by_cases hb : s₁.binding.isSome = true
      · rw [if_pos hb] at h ⊢
        cases h
        exact ⟨rfl, s₁, k₁, rfl, .inl ⟨hb, rfl⟩⟩
      rw [if_neg hb] at h ⊢
      cases hbh : o.blackhole with
      | none => simp [hbh] at h
      | some bh =>
        cases hbu : SockAddr.unix bh with
        | none => simp [hbh, hbu] at h
        | some bdest =>
          cases hrb : k₁.realBind o s₁.fd bdest with
          | error err => simp [hbh, hbu, hrb] at h
          | ok k₂ =>
            have hfst := createBinding_fst pool s₁ k₂ addr
            simp only [hbh, hbu, hrb] at h ⊢
            obtain ⟨s₂, hcb⟩ : ∃ s₂, s₁.createBinding pool addr k₂ = (true, s₂) :=
              ⟨_, Prod.ext hfst rfl⟩
            have hbr : s₂.blackholeRef = s₁.blackholeRef := by
              have := createBinding_sock pool s₁ k₂ addr
              rw [hcb] at this
              exact (congrArg Socket.blackholeRef this :)
            rw [hcb] at h ⊢
            cases h
            exact ⟨rfl, s₁, k₁, rfl, .inr ⟨by simpa using hb, bh, bdest, k₂, rfl, hbu, hrb,
              by rw [hcb]; simp only [hbr]⟩⟩

/-- A `rewrite_dest` that gave a datagram socket without a binding a destination left the
implicit blackhole binding, and nothing else. -/
theorem rewriteDest_blackholed (addr : SockAddr) (path : String) {dest : SockAddr}
    (hn : s.binding = none) (h : (s.rewriteDest pool o addr path k).1 = some dest) :
    KeptBlackholed o s k (s.rewriteDest pool o addr path k).2.1
      (s.rewriteDest pool o addr path k).2.2 := by
  have hmk := makeUnix_kept o s k
  have hfds := makeUnix_fdsOnly o s k none
  obtain ⟨-, -, s₁, k₁, hm, ⟨hb, -⟩ | ⟨-, bh, bdest, k₂, hbh, hbd, hrb, he⟩⟩ :=
    rewriteDest_eq_some pool o s k h
  · simp only [hm] at hmk
    rw [hmk.sock, hn] at hb
    cases hb
  simp only [hm] at hmk hfds
  have hcs := createBinding_sock pool s₁ k₂ addr
  have hfd : s₁.fd = s.fd := by rw [hmk.sock]
  rw [he]
  refine ⟨?_, ?_, ?_, fun a ha => ?_, ⟨bh, hbh, ?_⟩⟩
  · rw [hbh, hcs, hmk.sock]
  · exact fun p hp => createBinding_ports pool s₁ k₂ addr (hmk.ports hp)
  · exact (Sys.realBind_fdsOnly hrb).registry.trans hfds.registry
  · -- the real `bind` connects nothing, and `make_unix` only brings a fresh socket
    rw [Sys.connectedAt_unlink, Sys.realBind_connectedAt hrb] at ha
    obtain ⟨obj, hobj, hc⟩ := Option.bind_eq_some.1 ha
    have := hmk.attach obj hobj fun hf => by simp [SockObj.Fresh, hc] at hf
    simp [Sys.connectedAt, this, hc]
  · rw [Sys.boundAt_unlink, ← hfd, hbd]
    exact Sys.realBind_boundAt hrb

/-- A failed `connect` keeps the socket, except that a datagram socket without a binding may
keep the implicit blackhole binding its successful `rewrite_dest` made before the real
`connect` failed. -/
theorem connect_kept (addr : SockAddr) (path : String)
    (h : (s.connect pool o addr path k).1 ≠ 0) :
    Kept s k (s.connect pool o addr path k).2.1 (s.connect pool o addr path k).2.2 ∨
      (s.type = .udp ∧ s.binding = none ∧
        KeptBlackholed o s k (s.connect pool o addr path k).2.1
          (s.connect pool o addr path k).2.2) := by
  rw [connect] at h ⊢
  split
  · rename_i hu
    rw [if_pos hu] at h
    have hrd := rewriteDest_kept pool o s k addr path
    have hbh := fun dest => @rewriteDest_blackholed pool o s k addr path dest hu.2
    generalize s.rewriteDest pool o addr path k = rd at hrd hbh h ⊢
    rcases rd with ⟨_ | dest, s1, k1⟩ <;> dsimp only at hrd hbh h ⊢
    · exact .inl ((hrd rfl).trans (.fail _ _ _))
    generalize k1.realConnect o s1.fd dest = rc at h ⊢
    rcases rc with err | k2 <;> dsimp only at h ⊢
    · exact .inr ⟨hu.1, hu.2, (hbh dest rfl).fail err⟩
    · exact absurd rfl h
  left
  rw [if_neg ‹_›] at h
  have hmk := makeUnix_kept o s k
  dsimp only at h ⊢
  generalize SockAddr.unix (formatSockpath s.type path addr) = d at h ⊢
  rcases d with _ | dest <;> dsimp only at h ⊢
  · exact .fail s k _
  generalize s.makeUnix o none k = m at hmk h ⊢
  rcases m with ⟨_ | _, s1, k1⟩ <;> dsimp only at hmk h ⊢
  · exact hmk
  generalize addr.getPort = port at h ⊢
  rcases port with _ | remotePort <;> dsimp only at h ⊢
  · exact hmk.trans (.fail _ _ _)
  generalize k1.realConnect o s1.fd dest = rc at h ⊢
  rcases rc with err | k2 <;> dsimp only at h ⊢
  · exact hmk.trans (.fail _ _ _)
  split at h
  · have hcb := createBinding_fst pool s1 k2 addr
    generalize s1.createBinding pool addr k2 = cb at hcb h
    rcases cb with ⟨_ | _, s3⟩ <;> simp at hcb h
  · exact absurd rfl h

/-! ### What the methods keep

Every method but `setsockopt` and `ioctl` keeps the socket's identity, its descriptor, its
type and family and its option cache (`Frame`); those two append to the cache at most the
call they forwarded (`forwardOpt_sock`). -/

theorem makeUnix_frame (oldfd : Option Nat) : Frame s (s.makeUnix o oldfd k).2.1 := by
  rw [makeUnix_sock]; exact .of_ports rfl rfl rfl rfl rfl rfl rfl fun _ h => h

theorem createBinding_frame (addr : SockAddr) : Frame s (s.createBinding pool addr k).2 := by
  unfold createBinding
  dsimp only
  repeat' split
  all_goals first
    | exact .refl s
    | exact .of_ports rfl rfl rfl rfl rfl rfl rfl (Ports.reserved_subset_acquire _ _)

theorem bindPort_frame (addr : SockAddr) : Frame s (s.bindPort pool addr).2.2 := by
  unfold bindPort
  split
  · exact .of_ports rfl rfl rfl rfl rfl rfl rfl (Ports.reserved_subset_acquire _ _)
  · exact .refl s

theorem bindBlackhole_frame : Frame s (s.bindBlackhole o k).2.1 := by
  unfold bindBlackhole
  repeat' split
  all_goals first | exact .refl s | exact .of_ports rfl rfl rfl rfl rfl rfl rfl fun _ h => h

theorem bindPath_frame (newpath : String) : Frame s (s.bindPath o newpath k).2.1 := by
  unfold bindPath
  repeat' split
  all_goals first | exact .refl s | exact .of_ports rfl rfl rfl rfl rfl rfl rfl fun _ h => h

theorem bindFinish_frame (newaddr : SockAddr) (port : Option Nat) (ret : Int) :
    Frame s (bindFinish newaddr port ret s k).2.1 := by
  unfold bindFinish
  split
  · dsimp only
    split
    · exact .of_ports rfl rfl rfl rfl rfl rfl rfl (Ports.reserved_subset_reserve _ _)
    · exact .of_ports rfl rfl rfl rfl rfl rfl rfl fun _ h => h
  · exact .refl s

theorem bind_frame (addr : SockAddr) (path : String) : Frame s (s.bind pool o addr path k).2.1 := by
  have hm := makeUnix_frame o s k none
  rw [bind]
  generalize s.makeUnix o none k = m at hm ⊢
  rcases m with ⟨_ | _, s1, k1⟩ <;> dsimp only at hm ⊢
  · exact hm
  have hp := bindPort_frame pool s1 addr
  generalize s1.bindPort pool addr = b at hp ⊢
  rcases b with ⟨newaddr, port, s2⟩
  dsimp only at hp ⊢
  have hb : Frame s2 (if s2.isBlackhole || k1.hasSockpath (formatSockpath s2.type path newaddr)
      then s2.bindBlackhole o k1 else s2.bindPath o (formatSockpath s2.type path newaddr) k1).2.1 := by
    split
    · exact bindBlackhole_frame o s2 k1
    · exact bindPath_frame o s2 k1 _
  generalize (if s2.isBlackhole || k1.hasSockpath (formatSockpath s2.type path newaddr)
    then s2.bindBlackhole o k1 else s2.bindPath o (formatSockpath s2.type path newaddr) k1) = r
    at hb ⊢
  exact hm.trans (hp.trans (hb.trans (bindFinish_frame _ _ _ _ _)))

theorem connectPeermap_frame (addr : SockAddr) : Frame s (s.connectPeermap o addr k).2.1 := by
  unfold connectPeermap
  repeat' split
  all_goals first | exact .refl s | exact .of_ports rfl rfl rfl rfl rfl rfl rfl fun _ h => h

theorem frame_of_createBinding {addr : SockAddr} {b : Bool} {s' : Socket}
    (h : s.createBinding pool addr k = (b, s')) : Frame s s' := by
  have := createBinding_frame pool s k addr
  rwa [h] at this

theorem rewriteDest_frame (addr : SockAddr) (path : String) :
    Frame s (s.rewriteDest pool o addr path k).2.1 := by
  have hm := makeUnix_frame o s k none
  rw [rewriteDest]
  split
  · exact .refl s
  generalize SockAddr.unix (formatSockpath s.type path addr) = d
  rcases d with _ | destpath
  · exact .refl s
  dsimp only
  generalize s.makeUnix o none k = m at hm ⊢
  rcases m with ⟨_ | _, s1, k1⟩ <;> dsimp only at hm ⊢
  · exact hm
  refine hm.trans ?_
  repeat' split
  all_goals first
    | exact .refl s1
    | (rename_i h; have h := frame_of_createBinding _ _ _ h
       exact .of_ports h.id h.fd h.type h.domain h.sockopts h.peermap h.revpeermap h.ports)

theorem connect_frame (addr : SockAddr) (path : String) :
    Frame s (s.connect pool o addr path k).2.1 := by
  rw [connect]
  split
  · have hr := rewriteDest_frame pool o s k addr path
    generalize s.rewriteDest pool o addr path k = r at hr ⊢
    rcases r with ⟨_ | dest, s1, k1⟩ <;> dsimp only at hr ⊢
    · exact hr
    split <;> exact .of_ports hr.id hr.fd hr.type hr.domain hr.sockopts hr.peermap hr.revpeermap hr.ports
  have hm := makeUnix_frame o s k none
  dsimp only
  split
  · exact .refl s
  generalize s.makeUnix o none k = m at hm ⊢
  rcases m with ⟨_ | _, s1, k1⟩ <;> dsimp only at hm ⊢
  · exact hm
  refine hm.trans ?_
  repeat' split
  all_goals first
    | exact .refl s1
    | exact .of_ports rfl rfl rfl rfl rfl rfl rfl fun _ h => h
    | (rename_i h; have h := frame_of_createBinding _ _ _ h
       exact h.trans (.of_ports rfl rfl rfl rfl rfl rfl rfl (Ports.reserved_subset_reserve _ _)))
    | (rename_i h; exact frame_of_createBinding _ _ _ h)

theorem accept_frame (sockfd childId : Nat) : Frame s (s.accept pool o sockfd childId k).2.1 := by
  unfold accept
  dsimp only
  repeat' split
  all_goals first
    | exact .refl s
    | exact .of_ports rfl rfl rfl rfl rfl rfl rfl (Ports.reserved_subset_acquire _ _)

theorem close_frame : Frame s (s.close o k).2.1 := by
  unfold close
  dsimp only
  repeat' split
  all_goals first | exact .refl s | exact .of_ports rfl rfl rfl rfl rfl rfl rfl fun _ h => h

theorem activate_frame (addr : SockAddr) (filedes : Nat) :
    Frame s (s.activate o addr filedes k).2.1 := by
  have hm := makeUnix_frame o s k (some filedes)
  unfold activate
  generalize s.makeUnix o (some filedes) k = m at hm ⊢
  rcases m with ⟨_ | _, s1, k1⟩ <;> dsimp only at hm ⊢
  · exact hm
  · exact .of_ports hm.id hm.fd hm.type hm.domain hm.sockopts hm.peermap hm.revpeermap hm.ports

/-- `rewrite_src` changes the pool and the peer maps only. -/
theorem rewriteSrc_sock (realAddr : SockAddr) :
    (s.rewriteSrc pool o realAddr).2.1 = { s with
      ports := (s.rewriteSrc pool o realAddr).2.1.ports
      peermap := (s.rewriteSrc pool o realAddr).2.1.peermap
      revpeermap := (s.rewriteSrc pool o realAddr).2.1.revpeermap } := by
  unfold rewriteSrc
  dsimp only
  repeat' split
  all_goals rfl

theorem forwardOpt_frame_id (opt : SockOpt) :
    (s.forwardOpt o opt k).2.1.id = s.id ∧ (s.forwardOpt o opt k).2.1.fd = s.fd := by
  unfold forwardOpt
  repeat' split
  all_goals exact ⟨rfl, rfl⟩

/-- `setsockopt` and `ioctl` cache the call exactly when it returned `0` on a socket that is
not a UNIX one yet. -/
theorem forwardOpt_sock (opt : SockOpt) :
    (s.forwardOpt o opt k).2.1 =
      if s.isUnix = false ∧ (k.realCall o s.fd opt).toOption.map Prod.fst = some 0
      then { s with sockopts := s.sockopts ++ [opt] } else s := by
  unfold forwardOpt
  rcases k.realCall o s.fd opt with err | ⟨ret, k'⟩
  · simp [Except.toOption]
  · by_cases hret : ret = 0 <;> by_cases hu : s.isUnix = false <;> simp_all [Except.toOption]

/-- The child `accept` builds: a new `Socket` at `sockfd`, of this socket's family and type,
with a pool of its own, this socket's binding and a made-up peer. -/
theorem accept_child {sockfd childId : Nat} {c : Socket}
    (h : (s.accept pool o sockfd childId k).2.2.2 = some c) :
    ∃ ports peer, c = { Socket.new childId sockfd s.domain s.typearg s.protocol with
      ports := ports
      binding := s.binding
      connection := some peer } := by
  unfold accept at h
  dsimp only at h
  repeat' split at h
  all_goals cases h
  exact ⟨_, _, by rw [‹s.binding = _›]⟩

end Socket

end Ip2unix
