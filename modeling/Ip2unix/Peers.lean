import Ip2unix.WorldLemmas

/-!
# Ip2unix — the endpoints a socket makes up

`accept`, `rewrite_src` and `connect` (through `create_binding`) make up IP endpoints: the
host comes from the binding, the peer's or the process's credentials, or the random source;
the port from the socket's pool. Only the pool's reservations keep a made-up endpoint apart
from the others, and two gaps are left:

* **`connect_binding_eq_connection`**: `connect` reserves the destination's port only after
  `create_binding` took a port for the local end, so a stream socket connecting to the
  loopback port its pool hands out next is bound to its own destination.
* **`rewriteSrc_exhausted_collide`**: on an exhausted pool `acquire` hands out the same port
  again and reserves nothing, so on a loopback binding two new remote paths get the same
  made-up address, and the address reported for the first one leads to the second.
-/

namespace Ip2unix

namespace Socket

variable (pool : Pool) (o : Outcomes) (s : Socket) (k : Sys)

/-- `create_binding` towards a loopback destination of the socket's family takes the
destination's host and the port the pool hands out. -/
theorem createBinding_loopback {host port : Nat}
    (hloop : (SockAddr.ip s.domain host port).isLoopback = true) :
    s.createBinding pool (.ip s.domain host port) k =
      (true, { s with
        ports := (s.ports.acquire pool).2
        binding := some (.ip s.domain host (pool.pick s.ports.reserved)) }) := by
  simp [createBinding, hloop, SockAddr.setHost]

/-- **A stream socket bound to its own destination.** A successful `connect` of a stream
socket without a binding, to the loopback endpoint whose port the pool hands out next,
binds the socket to that very endpoint. -/
theorem connect_binding_eq_connection (host : Nat) (path : String) (htype : s.type ≠ .udp)
    (hb : s.binding = none)
    (hloop : (SockAddr.ip s.domain host (pool.pick s.ports.reserved)).isLoopback = true)
    (hret : (s.connect pool o (.ip s.domain host (pool.pick s.ports.reserved)) path k).1 = 0) :
    (s.connect pool o (.ip s.domain host (pool.pick s.ports.reserved)) path k).2.1.binding =
      some (.ip s.domain host (pool.pick s.ports.reserved)) ∧
    (s.connect pool o (.ip s.domain host (pool.pick s.ports.reserved)) path k).2.1.connection =
      some (.ip s.domain host (pool.pick s.ports.reserved)) := by
  have hsock := makeUnix_sock o s k none
  rw [connect, if_neg (by simp [htype])] at hret ⊢
  dsimp only at hret ⊢
  split at hret
  · cases hret
  rename_i dest _
  generalize s.makeUnix o none k = m at hsock hret ⊢
  rcases m with ⟨_ | _, s1, k1⟩ <;> dsimp only at hsock hret ⊢
  · cases hret
  subst hsock
  simp only [SockAddr.getPort_ip] at hret ⊢
  generalize k1.realConnect o s.fd dest = rc at hret ⊢
  rcases rc with err | k2 <;> dsimp only at hret ⊢
  · cases hret
  rw [if_pos (by simp [hb]),
    createBinding_loopback pool { s with isUnix := s.isUnix || true } k2 hloop]
  exact ⟨rfl, rfl⟩

/-- A stream socket connecting to `127.0.0.1:32768` with a fresh first-fit pool. -/
theorem connect_to_next_port_binds_destination :
    let pool := Pool.firstFit 32768 60999
    let s := Socket.new 0 3 .inet sockStream 0
    let k := Sys.init (fun fd => if fd = 3 then some 0 else none)
      (fun id => if id = 0 then some ⟨.ip, [], none, none⟩ else none) 1 ⟨0, 0, 0⟩
    let o := Outcomes.allOk 4 "/bh" ⟨0, 0, 0⟩ 0
    s.type ≠ .udp ∧ s.binding = none ∧
    (SockAddr.ip s.domain 0x7f000001 (pool.pick s.ports.reserved)).isLoopback = true ∧
    (s.connect pool o (.ip s.domain 0x7f000001 (pool.pick s.ports.reserved)) "/tmp/svc.sock" k).1 = 0 ∧
    ((s.connect pool o (.ip s.domain 0x7f000001 (pool.pick s.ports.reserved)) "/tmp/svc.sock" k).2.1.binding =
      some (.ip s.domain 0x7f000001 (pool.pick s.ports.reserved)) ∧
    (s.connect pool o (.ip s.domain 0x7f000001 (pool.pick s.ports.reserved)) "/tmp/svc.sock" k).2.1.connection =
      some (.ip s.domain 0x7f000001 (pool.pick s.ports.reserved))) := by
  have htype : (Socket.new 0 3 .inet sockStream 0).type ≠ .udp := by decide
  have hloop : SockAddr.isLoopback (.ip .inet 0x7f000001 32768) = true := by decide
  refine ⟨htype, rfl, hloop, ?hret,
    connect_binding_eq_connection _ _ _ _ 0x7f000001 "/tmp/svc.sock" htype rfl hloop ?hret⟩
  decide

/-- `rewrite_src` from a path it has not seen, on a loopback binding: the made-up address
`A` takes the binding's host and the port the pool hands out, and both maps learn it. -/
theorem rewriteSrc_fresh {b A : SockAddr} {P : String} (hb : s.binding = some b)
    (hloop : b.isLoopback = true)
    (hA : (SockAddr.ip s.domain 0 (pool.pick s.ports.reserved)).setHost b = some A)
    (hP : s.revpeermap P = none) :
    s.rewriteSrc pool o (.path P) = (true, { s with
      ports := (s.ports.acquire pool).2
      peermap := Function.update s.peermap A (some P)
      revpeermap := Function.update s.revpeermap P (some A) }, some A) := by
  simp [rewriteSrc, hb, hP, hloop, hA]

/-- **Two peers, one address.** Once the pool is exhausted, two new remote paths `P` and `Q`
seen by a socket with a loopback binding get the same made-up address: the address still
reported for `P` now leads to `Q`. -/
theorem rewriteSrc_exhausted_collide {b : SockAddr} {P Q : String} (hb : s.binding = some b)
    (hloop : b.isLoopback = true) (hP : s.revpeermap P = none) (hQ : s.revpeermap Q = none)
    (hPQ : P ≠ Q) (hex : pool.exhausted s.ports.reserved = true) :
    ∃ A, ((s.rewriteSrc pool o (.path P)).2.1.rewriteSrc pool o (.path Q)).2.1.revpeermap P =
        some A ∧
      ((s.rewriteSrc pool o (.path P)).2.1.rewriteSrc pool o (.path Q)).2.1.peermap A = some Q := by
  obtain ⟨h', hA⟩ := SockAddr.setHost_ip s.domain 0 (pool.pick s.ports.reserved) b
  have hkeep : (s.ports.acquire pool).2 = s.ports :=
    Ports.acquire_of_exhausted ((Pool.exhausted_iff pool _).1 hex)
  rw [rewriteSrc_fresh pool o s hb hloop hA hP]
  dsimp only
  rw [hkeep]
  -- the second call sees the same pool, so it makes up the same address
  let A := SockAddr.ip s.domain h' (pool.pick s.ports.reserved)
  rw [rewriteSrc_fresh pool o { s with
      peermap := Function.update s.peermap A (some P)
      revpeermap := Function.update s.revpeermap P (some A) } hb hloop hA
    (by simp [Function.update_apply, Ne.symm hPQ, hQ])]
  exact ⟨A, by simp [Function.update_apply, hPQ], by simp⟩

/-- A datagram socket bound to `127.0.0.1:5000` whose one-port pool is used up. -/
theorem exhausted_loopback_peers_collide :
    let pool := Pool.firstFit 32768 32768
    let o := Outcomes.allOk 4 "/bh" ⟨0, 0, 0⟩ 0
    let s := { Socket.new 0 3 .inet sockDgram 0 with
      bound := true
      isUnix := true
      binding := some (.ip .inet 0x7f000001 5000)
      ports := ⟨[32768, 5000]⟩ }
    s.binding = some (.ip .inet 0x7f000001 5000) ∧
    (SockAddr.ip .inet 0x7f000001 5000).isLoopback = true ∧
    s.revpeermap "/tmp/b" = none ∧ s.revpeermap "/tmp/c" = none ∧ "/tmp/b" ≠ "/tmp/c" ∧
    pool.exhausted s.ports.reserved = true ∧
    ∃ A, ((s.rewriteSrc pool o (.path "/tmp/b")).2.1.rewriteSrc pool o
        (.path "/tmp/c")).2.1.revpeermap "/tmp/b" = some A ∧
      ((s.rewriteSrc pool o (.path "/tmp/b")).2.1.rewriteSrc pool o
        (.path "/tmp/c")).2.1.peermap A = some "/tmp/c" := by
  have hloop : (SockAddr.ip .inet 0x7f000001 5000).isLoopback = true := by decide
  have hPQ : "/tmp/b" ≠ "/tmp/c" := by decide
  have hex : (Pool.firstFit 32768 32768).exhausted [32768, 5000] = true := by decide
  exact ⟨rfl, hloop, rfl, rfl, hPQ, hex,
    rewriteSrc_exhausted_collide _ _ _ rfl hloop rfl rfl hPQ hex⟩

/-- Such a socket is reached from empty registries by `bind` and one `rewrite_src`. -/
example :
    let o := fun fd => Outcomes.allOk fd "/bh" ⟨0, 0, 0⟩ 0
    let w := (World.init (fun _ => none) (fun _ => none) 0 ⟨0, 0, 0⟩).run
      (Pool.firstFit 32768 32768)
      [.create 3 .inet sockDgram 0, .call 3 (.bind (.ip .inet 0x7f000001 5000) "/tmp/u.sock") (o 4),
        .call 3 (.rewriteSrc (.path "/tmp/a")) (o 5)]
    (w.registry 3).map (fun s => (s.binding, s.ports.reserved)) =
      some (some (.ip .inet 0x7f000001 5000), [32768, 5000]) := by
  decide

/-! ## Peer maps that stay inverse

While the pool has a free port, `acquire` hands out a port nobody holds yet, and every
address in `peermap` carries a reserved port, so the address `rewrite_src` makes up is a new
one: the two maps stay inverse to each other. -/

/-- **What `rewrite_src` can do to a socket.** Grow its pool and nothing else; or, for a path
`P` it has not seen, learn a made-up address `A` that carries the port the pool hands out. -/
theorem rewriteSrc_cases (realAddr : SockAddr) :
    (∃ ports : Ports, s.ports.reserved ⊆ ports.reserved ∧
      (s.rewriteSrc pool o realAddr).2.1 = { s with ports := ports }) ∨
    ∃ P A, s.revpeermap P = none ∧ A.getPort = some (pool.pick s.ports.reserved) ∧
      (s.rewriteSrc pool o realAddr).2.1 = { s with
        ports := (s.ports.acquire pool).2
        peermap := Function.update s.peermap A (some P)
        revpeermap := Function.update s.revpeermap P (some A) } := by
  unfold rewriteSrc
  dsimp only
  repeat' split
  all_goals try exact .inl ⟨s.ports, fun _ h => h, rfl⟩
  · exact .inl ⟨_, Ports.reserved_subset_acquire _ _, rfl⟩
  · rename_i b _ _ P _ _ hP _ A hA
    refine .inr ⟨P, A, hP, ?_, rfl⟩
    simp only [SockAddr.setPort_ip, Option.getD_some, Ports.acquire_fst] at hA
    split at hA
    · obtain ⟨h', he⟩ := SockAddr.setHost_ip s.domain 0 (pool.pick s.ports.reserved) b
      rw [he] at hA
      cases hA
      rfl
    · cases hA
      rfl

/-- The peer maps of a socket are inverse to each other, and every made-up address carries a
port its pool has reserved. -/
structure PeersInverse (s : Socket) : Prop where
  inverse : ∀ A P, s.peermap A = some P ↔ s.revpeermap P = some A
  reserved : ∀ A P, s.peermap A = some P → ∃ port ∈ s.ports.reserved, A.getPort = some port

namespace PeersInverse

variable {s s' : Socket}

/-- A socket that has made up no address. -/
theorem empty (hp : s.peermap = fun _ => none) (hr : s.revpeermap = fun _ => none) :
    PeersInverse s :=
  ⟨fun A P => by simp [hp, hr], fun A P h => by simp [hp] at h⟩

theorem frame (h : PeersInverse s) (hf : Frame s s') : PeersInverse s' :=
  ⟨fun A P => by rw [hf.peermap, hf.revpeermap]; exact h.inverse A P,
    fun A P hA => by
      obtain ⟨port, hport, he⟩ := h.reserved A P (hf.peermap ▸ hA)
      exact ⟨port, hf.ports hport, he⟩⟩

/-- An address whose port the pool has not reserved is not in `peermap`. -/
theorem peermap_eq_none (h : PeersInverse s) {A : SockAddr} {port : Nat}
    (hA : A.getPort = some port) (hport : port ∉ s.ports.reserved) : s.peermap A = none := by
  by_contra hne
  obtain ⟨P, hP⟩ := Option.ne_none_iff_exists'.1 hne
  obtain ⟨port', hport', he⟩ := h.reserved A P hP
  rw [hA, Option.some.injEq] at he
  exact hport (he ▸ hport')

/-- **`rewrite_src` keeps the peer maps inverse** while the pool has a free port. -/
theorem rewriteSrc (hv : pool.Valid) (hfree : pool.exhausted s.ports.reserved = false)
    (h : PeersInverse s) (realAddr : SockAddr) :
    PeersInverse (s.rewriteSrc pool o realAddr).2.1 := by
  rcases rewriteSrc_cases pool o s realAddr with ⟨ports, hsub, he⟩ | ⟨P, A, hP, hA, he⟩ <;>
    rw [he]
  · exact h.frame (.of_ports rfl rfl rfl rfl rfl rfl rfl hsub)
  -- the pool hands out a free port, so `A` is a new address
  have hacq := Ports.acquire_of_free hv
    (not_not.1 (mt (Pool.exhausted_iff pool s.ports.reserved).2 (by simp [hfree])))
  rw [Ports.acquire_fst] at hacq
  have hnew := h.peermap_eq_none hA hacq.1.2.2
  refine ⟨fun B Q => ?_, fun B Q hB => ?_⟩
  · simp only [Function.update_apply]
    by_cases hBA : B = A <;> by_cases hQP : Q = P
    · simp [hBA, hQP]
    · -- `Q` was not mapped to `A`, which was no address yet
      simp only [hBA, hQP, if_true, if_false, Option.some.injEq, Ne.symm hQP, false_iff]
      exact fun hQ => by simp [(h.inverse A Q).2 hQ] at hnew
    · -- `B` did not lead to `P`, which had no address yet
      simp only [hBA, hQP, if_true, if_false, Option.some.injEq, Ne.symm hBA, iff_false]
      exact fun hB => by simp [(h.inverse B P).1 hB] at hP
    · simp only [hBA, hQP, if_false]
      exact h.inverse B Q
  · simp only [Function.update_apply] at hB
    rw [hacq.2]
    split at hB
    · exact ⟨_, List.mem_cons_self _ _, ‹B = A› ▸ hA⟩
    · obtain ⟨port, hport, he⟩ := h.reserved B Q hB
      exact ⟨port, List.mem_cons_of_mem _ hport, he⟩

/-- `setsockopt` and `ioctl` touch neither the maps nor the pool. -/
theorem forwardOpt (h : PeersInverse s) (opt : SockOpt) :
    PeersInverse (s.forwardOpt o opt k).2.1 := by
  rw [forwardOpt_sock]
  split
  · exact ⟨h.inverse, h.reserved⟩
  · exact h

end PeersInverse

end Socket

namespace World

variable (pool : Pool)

section Registry

variable {reg : Nat → Option Socket} (h : ∀ fd s, reg fd = some s → s.PeersInverse)
include h

end Registry

end World

end Ip2unix
