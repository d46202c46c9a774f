import Ip2unix.SockAddr
import Ip2unix.Ports
import Ip2unix.Kernel
import Ip2unix.FormatSockpath
import Ip2unix.Socket
import Ip2unix.World
import Ip2unix.SocketLemmas
import Ip2unix.Failure
import Ip2unix.WorldLemmas
import Ip2unix.MakeUnix
import Ip2unix.OptionCache
import Ip2unix.Registry
import Ip2unix.Peers
import Ip2unix.Accept
import Ip2unix.Cli
import Ip2unix.UnixKind
import Ip2unix.Flags
import Ip2unix.Ownership
import Ip2unix.Names
import Ip2unix.Redirect
import Ip2unix.PortPaths
