import LogRelay.Address
import LogRelay.Fault

/-!
The collector as the configuration names it: a host and a port.
-/

namespace LogRelay

structure Destination where
  host : String
  port : UInt16
deriving DecidableEq

/-- What the text of a destination says about its address. Only a name server knows a `name`. -/
inductive Lookup where
  | address (a : SocketAddress)
  | refused (fault : Fault)
  | name
deriving DecidableEq

namespace Destination

def text (d : Destination) : String :=
  s!"{d.host}:{d.port.toNat}"

/-- A literal address and the local host need no name server; a host with a NUL in it cannot be
asked for. -/
def lookup (d : Destination) : Lookup :=
  match IpAddress.ofText? d.host with
  | some ip => .address ⟨ip, d.port⟩
  | none =>
    if d.host = "localhost" then .address ⟨IpAddress.loopback, d.port⟩
    else if d.host.toList.contains '\x00' then .refused .nulInHost
    else .name

end Destination

end LogRelay
