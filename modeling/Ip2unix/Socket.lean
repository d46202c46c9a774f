import Ip2unix.Kernel
import Ip2unix.Ports
import Ip2unix.FormatSockpath

/-!
# Ip2unix — the `Socket` object

`Socket` of `socket.hh` and its methods in `socket.cc`, one definition each, under the
source's names. A method takes the `Socket` it is called on and the process state `Sys`,
and returns what it returns together with the updated `Socket` and `Sys`; the real calls
it makes read their outcome from an `Outcomes`, and the pool's choices come from a `Pool`.
The registry of `Socket`s is not touched here: `accept` returns the child it built and
`close` stops short of `registry.erase`, and `World` registers and drops them.

`id` stands for the object's address, so that two `Socket`s with the same fields are still
told apart; `new Socket` hands out a fresh one.

A C++ early `return` is a match arm that returns at once; `bind` and `connect` are cut at
their branches into `bindPort`, `bindBlackhole` and `bindPath`, each a stretch of the
source's body.
-/

namespace Ip2unix

/-- `SOCK_STREAM`. -/
def sockStream : Nat := 1

/-- `SOCK_DGRAM`. -/
def sockDgram : Nat := 2

/-- `get_sotype`. -/
def getSotype (type : Nat) : SocketType :=
  if type &&& (sockStream ||| sockDgram) = sockStream then .tcp
  else if type &&& (sockStream ||| sockDgram) = sockDgram then .udp
  else .invalid

/-- `Socket`: the shadow state kept for one descriptor. -/
structure Socket where
  id : Nat
  type : SocketType
  fd : Nat
  domain : Family
  typearg : Nat
  protocol : Nat
  activated : Bool
  bound : Bool
  isUnix : Bool
  isBlackhole : Bool
  binding : Option SockAddr
  connection : Option SockAddr
  sockpath : Option String
  sockopts : List SockOpt
  ports : Ports
  peermap : SockAddr → Option String
  revpeermap : String → Option SockAddr
  blackholeRef : Option String

namespace Socket

/-- `Socket::Socket`. -/
def new (id fd : Nat) (domain : Family) (typearg protocol : Nat) : Socket where
  id := id
  type := getSotype typearg
  fd := fd
  domain := domain
  typearg := typearg
  protocol := protocol
  activated := false
  bound := false
  isUnix := false
  isBlackhole := false
  binding := none
  connection := none
  sockpath := none
  sockopts := []
  ports := Ports.empty
  peermap := fun _ => none
  revpeermap := fun _ => none
  blackholeRef := none

/-- `Socket::~Socket`: a bound socket that is not activated unlinks its path (keeping
`errno`); then its members are destroyed, and the `BlackHole` that `blackhole_ref` holds
unlinks the path it made (§4.D). -/
def destroy (s : Socket) (k : Sys) : Sys :=
  let k := match s.sockpath with
    | some p => if s.bound && !s.activated then k.unlink [p] else k
    | none => k
  k.unlink s.blackholeRef.toList

/-- `Socket::blackhole`. -/
def blackhole (s : Socket) : Socket := { s with isBlackhole := true }

/-- The shared body of `Socket::setsockopt` and `Socket::ioctl`: forward the call, and
cache it when it returned `0` and the socket is not a UNIX one yet. -/
def forwardOpt (o : Outcomes) (opt : SockOpt) (s : Socket) (k : Sys) : Int × Socket × Sys :=
  match k.realCall o s.fd opt with
  | .error err => (-1, s, k.fail err)
  | .ok (ret, k) =>
    if ret ≠ 0 then (ret, s, k)
    else (0, if s.isUnix then s else { s with sockopts := s.sockopts ++ [opt] }, k)

/-- `Socket::setsockopt`. -/
def setsockopt (o : Outcomes) (level optname : Nat) (optval : List Nat) (s : Socket)
    (k : Sys) : Int × Socket × Sys :=
  s.forwardOpt o (.sockopt level optname optval) k

/-- `Socket::ioctl`. -/
def ioctl (o : Outcomes) (request : Nat) (arg : List Nat) (s : Socket) (k : Sys) :
    Int × Socket × Sys :=
  s.forwardOpt o (.ioctl request arg) k

/-- `Socket::listen`. -/
def listen (o : Outcomes) (s : Socket) (k : Sys) : Int × Sys :=
  if s.activated then (0, k)
  else match o.call with
    | .ok ret => (ret, k)
    | .error err => (-1, k.fail err)

/-- `Socket::make_unix(oldfd)`, `none` standing for `-1`: a UNIX socket (new, or the one
given) receives the cached options and is `dup2`ed over the socket's descriptor. -/
def makeUnix (o : Outcomes) (oldfd : Option Nat) (s : Socket) (k : Sys) : Bool × Socket × Sys :=
  if s.isUnix then (true, s, k) else
  match k.openUnix o oldfd with
  | .error err => (false, s, k.fail err)
  | .ok (newfd, k1) =>
    match k1.replay o s.sockopts newfd with
    | .error err => (false, s, (k1.fail err).realClose newfd)
    | .ok k2 =>
      match k2.realDup2 o newfd s.fd with
      | .error err => (false, s, (k2.fail err).realClose newfd)
      | .ok k3 => (true, { s with isUnix := true }, k3)

/-- `Socket::create_binding`: a loopback host when `addr` is one, a host from the process's
own credentials otherwise, and a port from the pool. -/
def createBinding (pool : Pool) (addr : SockAddr) (s : Socket) (k : Sys) : Bool × Socket :=
  let local0 := SockAddr.ip s.domain 0 0
  match if addr.isLoopback then local0.setHost addr else local0.setHostCred k.cred with
  | none => (false, s)
  | some local1 =>
    let (port, ports) := s.ports.acquire pool
    match local1.setPort port with
    | none => (false, { s with ports := ports })
    | some local2 => (true, { s with ports := ports, binding := some local2 })

/-- `Socket::activate`: adopt a pre-bound UNIX descriptor. -/
def activate (o : Outcomes) (addr : SockAddr) (filedes : Nat) (s : Socket) (k : Sys) :
    Int × Socket × Sys :=
  match s.makeUnix o (some filedes) k with
  | (false, s, k) => (-1, s, k)
  | (true, s, k) => (0, { s with bound := true, binding := some addr, activated := true }, k)

/-- The start of `Socket::bind`: a port from the pool in place of port `0`. Gives the address
to bind, the port to reserve once bound, and the socket with its pool. -/
def bindPort (pool : Pool) (addr : SockAddr) (s : Socket) : SockAddr × Option Nat × Socket :=
  match addr.getPort with
  | some 0 =>
    let (anyport, ports) := s.ports.acquire pool
    ((addr.setPort anyport).getD addr, some anyport, { s with ports := ports })
  | port => (addr, port, s)

/-- `Socket::bind` on a blackholed socket or a path another socket owns: bind to a
fresh blackhole path instead. The local `BlackHole bh` goes out of scope at the end of the
arm, on every exit once it made a path, and unlinks that path (§4.D). -/
def bindBlackhole (o : Outcomes) (s : Socket) (k : Sys) : Int × Socket × Sys :=
  match o.blackhole with
  | none => (-1, s, k)
  | some bhPath =>
    match SockAddr.unix bhPath with
    | none => (-1, s, (k.fail .efault).unlink [bhPath])
    | some dest =>
      match k.realBind o s.fd dest with
      | .error err => (-1, s, (k.fail err).unlink [bhPath])
      | .ok k => (0, { s with isBlackhole := true }, k.unlink [bhPath])

/-- `Socket::bind` on a free path: bind there and register the path. -/
def bindPath (o : Outcomes) (newpath : String) (s : Socket) (k : Sys) : Int × Socket × Sys :=
  match SockAddr.unix newpath with
  | none => (-1, s, k.fail .efault)
  | some dest =>
    match k.realBind o s.fd dest with
    | .error err => (-1, s, k.fail err)
    | .ok k =>
      (0, { s with sockpath := some newpath },
        { k with sockpathRegistry := Function.update k.sockpathRegistry newpath true })

/-- The end of `Socket::bind`: once the real `bind` succeeded, reserve the port and record
the binding. -/
def bindFinish (newaddr : SockAddr) (port : Option Nat) (ret : Int) (s : Socket) (k : Sys) :
    Int × Socket × Sys :=
  if ret = 0 then
    let ports := match port with
      | some p => s.ports.reserve p
      | none => s.ports
    (0, { s with ports := ports, bound := true, binding := some newaddr }, k)
  else (ret, s, k)

/-- `Socket::bind`. -/
def bind (pool : Pool) (o : Outcomes) (addr : SockAddr) (path : String) (s : Socket)
    (k : Sys) : Int × Socket × Sys :=
  match s.makeUnix o none k with
  | (false, s, k) => (-1, s, k)
  | (true, s, k) =>
    match s.bindPort pool addr with
    | (newaddr, port, s) =>
      let newpath := formatSockpath s.type path newaddr
      match if s.isBlackhole || k.hasSockpath newpath then s.bindBlackhole o k
        else s.bindPath o newpath k with
      | (ret, s, k) => bindFinish newaddr port ret s k

/-- `Socket::connect_peermap`: a datagram socket connecting to an address it made up
connects to the path behind it; `none` when the address is not one of those. -/
def connectPeermap (o : Outcomes) (addr : SockAddr) (s : Socket) (k : Sys) :
    Option Int × Socket × Sys :=
  if s.type = .udp then
    match s.peermap addr with
    | some found =>
      match SockAddr.unix found with
      | none => (some (-1), s, k.fail .efault)
      | some dest =>
        match k.realConnect o s.fd dest with
        | .error err => (some (-1), s, k.fail err)
        | .ok k => (some 0, { s with connection := some addr, sockpath := some found }, k)
    | none => (none, s, k)
  else (none, s, k)

/-- `Socket::rewrite_dest`: the UNIX destination of a datagram, the socket being bound to a
blackhole first when it has no binding yet. The `BlackHole` made for that is dropped, and
its path unlinked, on the returns that fail after it made a path; on success it moves into
`blackhole_ref`, dropping the one held there before. -/
def rewriteDest (pool : Pool) (o : Outcomes) (addr : SockAddr) (path : String) (s : Socket)
    (k : Sys) : Option SockAddr × Socket × Sys :=
  if s.type ≠ .udp then (none, s, k) else
  match SockAddr.unix (formatSockpath s.type path addr) with
  | none => (none, s, k)
  | some destpath =>
    match s.makeUnix o none k with
    | (false, s, k) => (none, s, k)
    | (true, s, k) =>
      if s.binding.isSome then (some destpath, s, k) else
      match o.blackhole with
      | none => (none, s, k)
      | some bhPath =>
        match SockAddr.unix bhPath with
        | none => (none, s, k.unlink [bhPath])
        | some dest =>
          match k.realBind o s.fd dest with
          | .error err => (none, s, (k.fail err).unlink [bhPath])
          | .ok k =>
            match s.createBinding pool addr k with
            | (false, s) => (none, s, k.unlink [bhPath])
            | (true, s) =>
              (some destpath, { s with isBlackhole := true, blackholeRef := some bhPath },
                k.unlink s.blackholeRef.toList)

/-- `Socket::connect`. -/
def connect (pool : Pool) (o : Outcomes) (addr : SockAddr) (path : String) (s : Socket)
    (k : Sys) : Int × Socket × Sys :=
  if s.type = .udp ∧ s.binding = none then
    match s.rewriteDest pool o addr path k with
    | (none, s, k) => (-1, s, k.fail .eaddrnotavail)
    | (some dest, s, k) =>
      match k.realConnect o s.fd dest with
      | .error err => (-1, s, k.fail err)
      | .ok k => (0, { s with connection := some addr, sockpath := dest.getSockpath }, k)
  else
    let newSockpath := formatSockpath s.type path addr
    match SockAddr.unix newSockpath with
    | none => (-1, s, k.fail .efault)
    | some dest =>
      match s.makeUnix o none k with
      | (false, s, k) => (-1, s, k)
      | (true, s, k) =>
        match addr.getPort with
        | none => (-1, s, k.fail .eaddrnotavail)
        | some remotePort =>
          match k.realConnect o s.fd dest with
          | .error err => (-1, s, k.fail err)
          | .ok k =>
            if s.binding.isNone then
              match s.createBinding pool addr k with
              | (false, s) => (-1, s, k.fail .eaddrnotavail)
              | (true, s) =>
                (0, { s with
                    ports := s.ports.reserve remotePort
                    connection := some addr
                    sockpath := some newSockpath }, k)
            else (0, { s with connection := some addr, sockpath := some newSockpath }, k)

/-- `Socket::accept`, given the descriptor `sockfd` the real `accept` returned and the
address `childId` of the `Socket` it builds: that child, with this socket's binding and a
made-up peer, to be registered at `sockfd`. -/
def accept (pool : Pool) (o : Outcomes) (sockfd childId : Nat) (s : Socket) (k : Sys) :
    Int × Socket × Sys × Option Socket :=
  match s.binding with
  | none => (-1, s, k.fail .einval, none)
  | some binding =>
    match binding.getPort with
    | none => (-1, s, k.fail .einval, none)
    | some localPort =>
      let peer0 := SockAddr.ip s.domain 0 0
      let withHost : Except Errno (Option SockAddr) :=
        if binding.isLoopback then .ok (peer0.setHost binding)
        else match o.peercred with
          | .error err => .error err
          | .ok cred => .ok (peer0.setHostCred cred)
      match withHost with
      | .error err => (-1, s, k.fail err, none)
      | .ok none => (-1, s, k.fail (if binding.isLoopback then .eaddrnotavail else .einval), none)
      | .ok (some peer1) =>
        let (peerPort, ports) := s.ports.acquire pool
        match peer1.setPort peerPort with
        | none => (-1, { s with ports := ports }, k.fail .einval, none)
        | some peer =>
          (sockfd, { s with ports := ports }, k,
            some { Socket.new childId sockfd s.domain s.typearg s.protocol with
              ports := Ports.empty.reserve localPort
              binding := some binding
              connection := some peer })

/-- `Socket::getpeername`. -/
def getpeername (s : Socket) : Except Errno SockAddr :=
  match s.connection with
  | some addr => .ok addr
  | none => .error .efault

/-- `Socket::getsockname`. -/
def getsockname (s : Socket) : Except Errno SockAddr :=
  match s.binding with
  | some addr => .ok addr
  | none => .error .efault

/-- `Socket::rewrite_src`: the address a datagram from `realAddr` is reported to come from,
made up on the first datagram from each remote path. Gives the result, the socket, and the
address written out (`none`: the real one is left as it is). -/
def rewriteSrc (pool : Pool) (o : Outcomes) (realAddr : SockAddr) (s : Socket) :
    Bool × Socket × Option SockAddr :=
  match s.binding with
  | none => (true, s, none)
  | some binding =>
    match realAddr.getSockpath with
    | none => (true, s, none)
    | some path =>
      match s.revpeermap path with
      | some found => (true, s, some found)
      | none =>
        let (port, ports) := s.ports.acquire pool
        let peer0 := SockAddr.ip s.domain 0 0
        let peer1 := (peer0.setPort port).getD peer0
        match if binding.isLoopback then peer1.setHost binding
              else peer1.setRandomHost o.drawn with
        | none => (false, { s with ports := ports }, none)
        | some peer =>
          (true, { s with
              ports := ports
              peermap := Function.update s.peermap peer (some path)
              revpeermap := Function.update s.revpeermap path (some peer) }, some peer)

/-- `Socket::close`, up to `registry.erase`: an activated socket keeps its descriptor; any
other closes it and, owning its bound path, unlinks it and drops it from the registry. -/
def close (o : Outcomes) (s : Socket) (k : Sys) : Int × Socket × Sys :=
  if s.activated then (0, s, k) else
  let (ret, k) : Int × Sys := match o.close with
    | .ok () => (0, k.realClose s.fd)
    | .error err => (-1, (k.realClose s.fd).fail err)
  match s.sockpath with
  | some p =>
    if s.bound && !s.isBlackhole then
      (ret, { s with sockpath := none },
        { k with
          unlinked := k.unlinked ++ [p]
          sockpathRegistry := Function.update k.sockpathRegistry p false })
    else (ret, s, k)
  | none => (ret, s, k)

end Socket

end Ip2unix
