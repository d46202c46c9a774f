import Ip2unix.WorldLemmas

/-!
# Ip2unix — accepted connections and `is_unix`

`Socket::accept` registers a `new Socket` for the connection the real `accept` returned.
That connection is of the listener's kind, a UNIX socket once the listener was switched,
but a new `Socket` starts with `is_unix` false:

* **`accept_registers_unix_child`**: accepting on a listener whose descriptor is a UNIX
  socket registers a child with `isUnix = false` whose descriptor is a UNIX socket.

A later `bind`, `connect` or `rewrite_dest` on the child runs `make_unix` again, which makes
a new UNIX socket and `dup2`s it over the accepted connection
(`accepted_connection_not_unix`).
-/

namespace Ip2unix

/-- The destructor writes only the list of unlinked files. -/
@[simp] theorem Socket.destroy_obj (s : Socket) (k : Sys) : (s.destroy k).obj = k.obj := by
  unfold Socket.destroy
  split
  · split <;> rfl
  · rfl

/-- A listener switched by `bind` accepts a connection: its child is registered with
`isUnix = false` on a UNIX descriptor, and the child's `bind` replaces the connection by a
new UNIX socket. -/
theorem accepted_connection_not_unix :
    let o : Nat → Outcomes := fun fd => Outcomes.allOk fd "/tmp/bh0" ⟨1000, 1000, 43⟩ 7
    let w := (World.init (fun _ => none) (fun _ => none) 0 ⟨1000, 1000, 42⟩).run
      (Pool.firstFit 32768 60999)
      [.create 3 .inet sockStream 0, .call 3 (.bind (.ip .inet 0x7f000001 8080) "/tmp/l.sock") (o 4),
        .call 3 .listen (o 4), .call 3 (.accept 5) (o 4)]
    let w' := w.step (Pool.firstFit 32768 60999)
      (.call 5 (.bind (.ip .inet 0x7f000001 9000) "/tmp/c.sock") (o 6))
    (w.registry 5).map Socket.isUnix = some false ∧ (w.sys.obj 5).map SockObj.kind = some .unix ∧
      (w.sys.obj 5).map SockObj.connectedTo = some (some .unnamed) ∧
      (w'.sys.obj 5).map SockObj.connectedTo = some none := by
  decide

end Ip2unix
