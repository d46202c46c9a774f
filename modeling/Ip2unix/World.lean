import Ip2unix.Socket

/-!
# Ip2unix — the registry of sockets and runs

`Socket::registry`, the map from descriptors to `Socket`s, together with the process state,
and the intercepted calls as a step function on it. A `create` is the intercepted
`socket()`: the real call made an IP socket at `fd`, and `Socket::create` registers a new
`Socket` there. Every other event is a method called on the `Socket` registered at its
descriptor; an event on a descriptor with no `Socket` passes through and changes nothing
here.

A `Socket` dropped from the registry, by `close` or by a new `Socket` registered at its
descriptor, is destroyed: its destructor runs on its last state. `run` folds `step` over a
list of events and `trace` pairs every event with the state it was taken from.
-/

namespace Ip2unix

/-- The method an intercepted call runs on the `Socket` of its descriptor. -/
inductive Call
  | blackhole
  | setsockopt (level optname : Nat) (optval : List Nat)
  | ioctl (request : Nat) (arg : List Nat)
  | listen
  | bind (addr : SockAddr) (path : String)
  | connect (addr : SockAddr) (path : String)
  | connectPeermap (addr : SockAddr)
  | accept (newfd : Nat)
  | rewriteSrc (realAddr : SockAddr)
  | rewriteDest (addr : SockAddr) (path : String)
  | activate (addr : SockAddr) (filedes : Nat)
  | close

/-- The option cache record of a `setsockopt` or an `ioctl`. -/
def Call.sockOpt : Call → Option SockOpt
  | .setsockopt level optname optval => some (.sockopt level optname optval)
  | .ioctl request arg => some (.ioctl request arg)
  | _ => none

/-- An intercepted call: a new socket, or a method on the `Socket` at `fd`, with the
outcomes of the real calls it makes. -/
inductive Event
  | create (fd : Nat) (domain : Family) (typearg protocol : Nat)
  | call (fd : Nat) (c : Call) (o : Outcomes)

/-- `Socket::registry`, the address the next `new Socket` gets, and the process state. -/
structure World where
  registry : Nat → Option Socket
  nextSock : Nat
  sys : Sys

namespace World

/-- Empty registries over the descriptors the process starts with. -/
def init (fds : Nat → Option Nat) (objs : Nat → Option SockObj) (nextObj : Nat)
    (cred : Ucred) : World where
  registry := fun _ => none
  nextSock := 0
  sys := Sys.init fds objs nextObj cred

/-- `registry[fd] = s`: a `Socket` registered there before is dropped and destroyed. -/
def register (fd : Nat) (s : Socket) (w : World) : World where
  registry := Function.update w.registry fd (some s)
  nextSock := w.nextSock
  sys := match w.registry fd with
    | some old => old.destroy w.sys
    | none => w.sys

/-- The `Socket` at `fd` is now `s`, and the process state `k`. -/
def update (fd : Nat) (s : Socket) (k : Sys) (w : World) : World :=
  { w with registry := Function.update w.registry fd (some s), sys := k }

/-- Keep what a method returned: its `Socket` at `fd`, and the process state. -/
def commit {α : Type} (fd : Nat) (r : α × Socket × Sys) (w : World) : World :=
  w.update fd r.2.1 r.2.2

/-- The intercepted `accept` on the `Socket` `s` at `fd`, once the real `accept` made
`newfd`: the child `Socket::accept` builds is registered at `newfd`. -/
def acceptAt (pool : Pool) (fd : Nat) (s : Socket) (o : Outcomes) (newfd : Nat) (k : Sys)
    (w : World) : World :=
  let r := s.accept pool o newfd w.nextSock k
  let w' := w.update fd r.2.1 r.2.2.1
  match r.2.2.2 with
  | some c => { w'.register newfd c with nextSock := w.nextSock + 1 }
  | none => w'

/-- A method call on the `Socket` `s` registered at `fd`. -/
def perform (pool : Pool) (fd : Nat) (s : Socket) (o : Outcomes) (w : World) : Call → World
  | .blackhole => w.update fd s.blackhole w.sys
  | .setsockopt level optname optval => w.commit fd (s.setsockopt o level optname optval w.sys)
  | .ioctl request arg => w.commit fd (s.ioctl o request arg w.sys)
  | .listen => w.update fd s (s.listen o w.sys).2
  | .bind addr path => w.commit fd (s.bind pool o addr path w.sys)
  | .connect addr path => w.commit fd (s.connect pool o addr path w.sys)
  | .connectPeermap addr => w.commit fd (s.connectPeermap o addr w.sys)
  | .accept newfd =>
    match w.sys.realAccept o s.fd newfd with
    | .error err => { w with sys := w.sys.fail err }
    | .ok k => w.acceptAt pool fd s o newfd k
  | .rewriteSrc realAddr => w.update fd (s.rewriteSrc pool o realAddr).2.1 w.sys
  | .rewriteDest addr path => w.commit fd (s.rewriteDest pool o addr path w.sys)
  | .activate addr filedes => w.commit fd (s.activate o addr filedes w.sys)
  | .close =>
    let r := s.close o w.sys
    { w with registry := Function.update w.registry fd none, sys := r.2.1.destroy r.2.2 }

/-- One intercepted call. -/
def step (pool : Pool) (w : World) : Event → World
  | .create fd domain typearg protocol =>
    let w1 := { w with sys := w.sys.openObj fd .ip none, nextSock := w.nextSock + 1 }
    w1.register fd (Socket.new w.nextSock fd domain typearg protocol)
  | .call fd c o =>
    match w.registry fd with
    | none => w
    | some s => w.perform pool fd s o c

/-- The state after a list of calls. -/
def run (pool : Pool) (w : World) : List Event → World
  | [] => w
  | ev :: evs => (w.step pool ev).run pool evs

/-- Every call of a run with the state it was made in. -/
def trace (pool : Pool) (w : World) : List Event → List (World × Event)
  | [] => []
  | ev :: evs => (w, ev) :: (w.step pool ev).trace pool evs

@[simp] theorem run_nil (pool : Pool) (w : World) : w.run pool [] = w := rfl

@[simp] theorem run_cons (pool : Pool) (w : World) (ev : Event) (evs : List Event) :
    w.run pool (ev :: evs) = (w.step pool ev).run pool evs := rfl

/-- The events of a trace are the run's. -/
theorem trace_map_snd (pool : Pool) (w : World) (evs : List Event) :
    (w.trace pool evs).map Prod.snd = evs := by
  induction evs generalizing w with
  | nil => rfl
  | cons ev evs ih => simp [trace, ih]

end World

end Ip2unix
