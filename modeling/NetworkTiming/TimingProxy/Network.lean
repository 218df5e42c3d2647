import NetworkTiming.Library.Channel
import NetworkTiming.TimingProxy.Stages

/-!
# The proxy between a client and a server

A client and a server exchange bytes with the proxy over channels.  Each party moves
on its own, and bytes arrive when the network delivers them; what the calls of the
proxy return follows from the channels that they read.
-/

namespace NetworkTiming

open TimingProxy

/-- The directions in which bytes are carried. -/
inductive Link
  | clientToProxy
  | proxyToServer
  | serverToProxy
  | proxyToClient
  deriving DecidableEq, Repr

/-- The parties of a session. -/
structure Network (kind : KindOfSocket) where
  /-- What the client sends to `proxy_input`. -/
  toInput : Channel UInt8
  /-- What the proxy sends to the server. -/
  toServer : Channel UInt8
  /-- What the server sends to `proxy_output`. -/
  toOutput : Channel UInt8
  /-- What the proxy sends to the client. -/
  toClient : Channel UInt8
  /-- The session loop. -/
  config : Config kind

/-- What a party or the network does. -/
inductive NetworkEvent (kind : KindOfSocket)
  | clientSends (bytes : List UInt8)
  | clientCloses
  | clientTakes (count : Nat)
  | serverSends (bytes : List UInt8)
  | serverCloses
  | serverTakes (count : Nat)
  | arrives (link : Link) (count : Nat)
  /-- A call of the proxy returns. -/
  | returns (answer : Answer kind)

/-- The call waits for something to peek at. -/
def TimingCall.isPeek : {kind : KindOfSocket} → TimingCall kind → Bool
  | _, .peek => true
  | _, .writeTime | _, .readTime | _, .search _ | _, .lookUp => false

namespace Network

variable {kind : KindOfSocket}

/-- The session loop has been entered. -/
def start (proxy : TimingProxy kind) : Network kind where
  toInput := .empty
  toServer := .empty
  toOutput := .empty
  toClient := .empty
  config := ⟨.readClient, proxy⟩

/-- What `recv` without waiting can return. -/
def Receives (channel : Channel UInt8) : Answer kind → Prop
  | .received bytes => bytes <+: channel.arrived
  | .closed => channel.AtEnd
  | .failed .again => channel.arrived = []
  | _ => True

/-- What `recv` can return that waits for something to peek at. -/
def Peeks (channel : Channel UInt8) : Answer kind → Prop
  | .peeked => channel.arrived ≠ []
  | .closed => channel.AtEnd
  | .failed .again => False
  | _ => True

instance (channel : Channel UInt8) :
    (answer : Answer kind) → Decidable (Receives channel answer)
  | .received bytes => inferInstanceAs (Decidable (bytes <+: channel.arrived))
  | .closed => inferInstanceAs (Decidable channel.AtEnd)
  | .failed .again => inferInstanceAs (Decidable (channel.arrived = []))
  | .failed .connectionReset | .failed (.other _) | .connected | .accepted _ | .peeked
  | .time _ | .noTime | .thrown _ | .hangup _ => isTrue trivial

instance (channel : Channel UInt8) :
    (answer : Answer kind) → Decidable (Peeks channel answer)
  | .peeked => inferInstanceAs (Decidable (channel.arrived ≠ []))
  | .closed => inferInstanceAs (Decidable channel.AtEnd)
  | .failed .again => isFalse id
  | .failed .connectionReset | .failed (.other _) | .connected | .accepted _
  | .received _ | .time _ | .noTime | .thrown _ | .hangup _ => isTrue trivial

/-- What a call of the proxy can return at a stage. -/
def CanReturn (network : Network kind) (answer : Answer kind) : Stage kind → Prop
  | .readClient => Receives network.toInput answer
  | .readServer => Receives network.toOutput answer
  | .timing call _ _ => call.isPeek = true → Peeks network.toOutput answer
  | _ => True

instance (network : Network kind) (answer : Answer kind) :
    (stage : Stage kind) → Decidable (network.CanReturn answer stage)
  | .readClient => inferInstanceAs (Decidable (Receives network.toInput answer))
  | .readServer => inferInstanceAs (Decidable (Receives network.toOutput answer))
  | .timing call _ _ =>
      inferInstanceAs (Decidable (call.isPeek = true → Peeks network.toOutput answer))
  | .sendServer _ _ | .stampRead _ | .sendClient _ | .sendControl _ | .poll _ _ | .ended
  | .raised _ => isTrue trivial

/-- What a call of the proxy does to the channels. -/
def effect (network : Network kind) (answer : Answer kind) : Network kind :=
  match network.config.stage, answer with
  | .readClient, .received bytes =>
      { network with toInput := network.toInput.pull bytes.length }
  | .sendServer data _, .accepted count =>
      { network with toServer := network.toServer.push (data.take count) }
  | .readServer, .received bytes =>
      { network with toOutput := network.toOutput.pull bytes.length }
  | .sendClient data, .accepted count =>
      { network with toClient := network.toClient.push (data.take count) }
  | _, _ => network

/-- Bytes arrive. -/
def deliver (network : Network kind) (count : Nat) : Link → Network kind
  | .clientToProxy => { network with toInput := network.toInput.deliver count }
  | .proxyToServer => { network with toServer := network.toServer.deliver count }
  | .serverToProxy => { network with toOutput := network.toOutput.deliver count }
  | .proxyToClient => { network with toClient := network.toClient.deliver count }

/-- A party or the network moves. -/
def step (network : Network kind) : NetworkEvent kind → Option (Network kind)
  | .clientSends bytes =>
      if network.toInput.closed then none
      else some { network with toInput := network.toInput.push bytes }
  | .clientCloses => some { network with toInput := network.toInput.close }
  | .clientTakes count => some { network with toClient := network.toClient.pull count }
  | .serverSends bytes =>
      if network.toOutput.closed then none
      else some { network with toOutput := network.toOutput.push bytes }
  | .serverCloses => some { network with toOutput := network.toOutput.close }
  | .serverTakes count => some { network with toServer := network.toServer.pull count }
  | .arrives link count => some (network.deliver count link)
  | .returns answer =>
      if network.CanReturn answer network.config.stage then
        (network.config.step answer).map fun next =>
          { network.effect answer with config := next }
      else none

end Network

end NetworkTiming
