/-!
Why a call to the network fails. Each cause has a kind and a message.
-/

namespace LogRelay

inductive FaultKind where
  | notFound
  | connectionRefused
  | connectionReset
  | brokenPipe
  | invalidInput
  | wouldBlock
  | timedOut
  | writeZero
  | other
deriving DecidableEq

inductive Fault where
  | noAddress (host : String)
  | nulInHost
  | refused
  | reset
  | brokenPipe
  | wouldBlock
  | timedOut
  | writeZero
  | offline
  | unreachable
  | injected
  | peerClosed
  | shortDatagram (sent expected : Nat)
  | described (text : String)
deriving DecidableEq

namespace Fault

def kind : Fault → FaultKind
  | noAddress _ => .notFound
  | nulInHost => .invalidInput
  | refused => .connectionRefused
  | reset => .connectionReset
  | brokenPipe | offline | injected => .brokenPipe
  | wouldBlock => .wouldBlock
  | timedOut => .timedOut
  | writeZero | peerClosed | shortDatagram _ _ => .writeZero
  | unreachable | described _ => .other

def message : Fault → String
  | noAddress host => s!"no address found for {host}"
  | nulInHost => "file name contained an unexpected NUL byte"
  | refused => "connection refused"
  | reset => "connection reset"
  | brokenPipe => "broken pipe"
  | wouldBlock => "operation would block"
  | timedOut => "timed out"
  | writeZero => "write zero"
  | offline => "network is offline"
  | unreachable => "Network is unreachable (os error 101)"
  | injected => "injected send failure"
  | peerClosed => "peer closed the connection"
  | shortDatagram sent expected => s!"short datagram: sent {sent} of {expected} bytes"
  | described text => text

end Fault

end LogRelay
