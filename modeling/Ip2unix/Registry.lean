import Ip2unix.WorldLemmas

/-!
# Ip2unix — socket files and the path registry

`Socket::sockpath_registry` is meant to hold the socket file of every bound `Socket` that
owns one, and `close` and the destructor unlink the file of the `Socket` they run on. The
file they unlink is the `sockpath` field, which is also where `connect` records its
destination: a successful `connect` on the general path puts the destination's socket file
in `sockpath`, bound or not (`connect_sets_sockpath`), and `close` on a bound socket that is
neither a blackhole nor activated unlinks whatever `sockpath` holds
(`close_unlinks_sockpath`).

So a `Socket` that binds and then connects to another `Socket`'s file leaves its own file
registered with no owner (`connect_after_bind_shares_path`), and its `close` unlinks the
other's file (`close_after_connect_unlinks_peer`).
-/

namespace Ip2unix

namespace Socket

variable (pool : Pool) (o : Outcomes) (s : Socket) (k : Sys)

/-- **`connect` records its destination.** -/
theorem connect_sets_sockpath (addr : SockAddr) (path : String)
    (hpath : ¬ (s.type = .udp ∧ s.binding = none)) (hret : (s.connect pool o addr path k).1 = 0) :
    (s.connect pool o addr path k).2.1.sockpath = some (formatSockpath s.type path addr) ∧
    (s.connect pool o addr path k).2.1.bound = s.bound ∧
    (s.connect pool o addr path k).2.2.sockpathRegistry = k.sockpathRegistry := by
  have hsock := makeUnix_sock o s k none
  have hreg := (makeUnix_fdsOnly o s k none).registry
  rw [connect, if_neg hpath] at hret ⊢
  dsimp only at hret ⊢
  split at hret
  · cases hret
  rename_i dest _
  generalize s.makeUnix o none k = m at hsock hreg hret ⊢
  rcases m with ⟨_ | _, s1, k1⟩ <;> dsimp only at hsock hreg hret ⊢
  · cases hret
  subst hsock
  split at hret
  · cases hret
  rename_i remotePort _
  generalize hc : k1.realConnect o s.fd dest = rc at hret ⊢
  rcases rc with err | k2 <;> dsimp only at hret ⊢
  · cases hret
  have hreg2 := (Sys.realConnect_fdsOnly hc).registry
  split
  · have hcb := createBinding_fst pool { s with isUnix := s.isUnix || true } k2 addr
    have hcs := createBinding_sock pool { s with isUnix := s.isUnix || true } k2 addr
    generalize { s with isUnix := s.isUnix || true }.createBinding pool addr k2 = cb at hcb hcs ⊢
    rcases cb with ⟨_ | _, s3⟩
    · cases hcb
    · exact ⟨rfl, (congrArg Socket.bound hcs).trans rfl, hreg2.trans hreg⟩
  · exact ⟨rfl, rfl, hreg2.trans hreg⟩

/-- **`close` unlinks `sockpath`.** -/
theorem close_unlinks_sockpath {p : String} (ha : s.activated = false) (hb : s.bound = true)
    (hbh : s.isBlackhole = false) (hp : s.sockpath = some p) :
    (s.close o k).2.1.sockpath = none ∧ (s.close o k).2.2.unlinked = k.unlinked ++ [p] ∧
      (s.close o k).2.2.sockpathRegistry p = false := by
  unfold close
  simp only [ha, hb, hbh, hp, Bool.false_eq_true, if_false, Bool.not_false, Bool.and_self, if_true]
  split <;> simp [Sys.realClose, Sys.setFd, Sys.fail]

/-- The destructor of an activated socket leaves its path; only the blackhole it may hold
unlinks its own. -/
theorem destroy_of_activated (ha : s.activated = true) :
    s.destroy k = k.unlink s.blackholeRef.toList := by
  unfold destroy
  split <;> simp [ha]

end Socket

/-- Closing an activated `Socket` makes no real `close` and leaves its path: its registry
entry goes, and the blackhole it may hold unlinks its own path. -/
theorem World.close_activated (pool : Pool) (w : World) {fd : Nat} {s : Socket} (o : Outcomes)
    (hs : w.registry fd = some s) (ha : s.activated = true) :
    w.step pool (.call fd .close o) =
      { w with registry := Function.update w.registry fd none,
               sys := w.sys.unlink s.blackholeRef.toList } := by
  simp only [World.step, hs, World.perform, Socket.close, ha, if_true,
    Socket.destroy_of_activated _ _ ha]

/-- Binding a stream socket to a file and then connecting it to another socket's file
leaves its own file registered with no owner, and two registered sockets claiming the
other's file. -/
theorem connect_after_bind_shares_path :
    let o : Nat → Outcomes := fun fd => Outcomes.allOk fd "/tmp/bh0" ⟨1000, 1000, 43⟩ 7
    let w := (World.init (fun _ => none) (fun _ => none) 0 ⟨1000, 1000, 42⟩).run
      (Pool.firstFit 32768 60999)
      [.create 4 .inet sockStream 0, .call 4 (.bind (.ip .inet 0x7f000001 8080) "/tmp/b.sock") (o 5),
        .create 3 .inet sockStream 0, .call 3 (.bind (.ip .inet 0x7f000001 5000) "/tmp/a.sock") (o 6),
        .call 3 (.connect (.ip .inet 0x7f000001 8080) "/tmp/b.sock") (o 7)]
    w.sys.sockpathRegistry "/tmp/a.sock" = true ∧
      (w.registry 3).map (fun s => (s.bound, s.isBlackhole, s.activated, s.sockpath)) =
        some (true, false, false, some "/tmp/b.sock") ∧
      (w.registry 4).map (fun s => (s.bound, s.isBlackhole, s.activated, s.sockpath)) =
        some (true, false, false, some "/tmp/b.sock") := by
  decide

/-- Closing that socket then unlinks the other socket's file, which stays registered to it,
and leaves its own file in place and registered. -/
theorem close_after_connect_unlinks_peer :
    let o : Nat → Outcomes := fun fd => Outcomes.allOk fd "/tmp/bh0" ⟨1000, 1000, 43⟩ 7
    let w := (World.init (fun _ => none) (fun _ => none) 0 ⟨1000, 1000, 42⟩).run
      (Pool.firstFit 32768 60999)
      [.create 4 .inet sockStream 0, .call 4 (.bind (.ip .inet 0x7f000001 8080) "/tmp/b.sock") (o 5),
        .create 3 .inet sockStream 0, .call 3 (.bind (.ip .inet 0x7f000001 5000) "/tmp/a.sock") (o 6),
        .call 3 (.connect (.ip .inet 0x7f000001 8080) "/tmp/b.sock") (o 7), .call 3 .close (o 7)]
    w.sys.unlinked = ["/tmp/b.sock"] ∧ (w.registry 3).isNone = true ∧
      (w.registry 4).map Socket.sockpath = some (some "/tmp/b.sock") ∧
      w.sys.sockpathRegistry "/tmp/b.sock" = false ∧ w.sys.sockpathRegistry "/tmp/a.sock" = true := by
  decide

end Ip2unix
