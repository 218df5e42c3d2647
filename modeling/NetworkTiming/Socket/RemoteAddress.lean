import NetworkTiming.PcapWrapper.Truncation
import NetworkTiming.Socket.Lookup

/-!
# The remote address

The host of a connection is accepted in any spelling of an address, and the callback
compares it with the one spelling that the decoder prints.  A packet for the remote
end is recognised if the host was given in that spelling.
-/

namespace NetworkTiming

/-- `inet_pton` of the C library: the bytes of the address that a text denotes, if it
denotes one of the family. -/
abbrev InetPton := AddressFamily → String → Option (List UInt8)

/-- `isValidIpv4Address`. -/
def isValidIpv4Address (inetPton : InetPton) (ipAddress : String) : Bool :=
  (inetPton .inet ipAddress).isSome

/-- `isValidIpv6Address`. -/
def isValidIpv6Address (inetPton : InetPton) (ipAddress : String) : Bool :=
  (inetPton .inet6 ipAddress).isSome

/-- What `setFilter` tells the callback, once the filter is installed. -/
def UserData.setFilter
    (usrdata : UserData)
    (remoteHost : String) (remotePort : UInt16) : UserData :=
  { usrdata with remoteHost := remoteHost, remotePort := remotePort }

namespace PCAPTimingSocket

/-- `PCAPTimingSocket::connect`, up to the start of the capture. -/
def connectTo
    (inetPton : InetPton)
    (socket : PCAPTimingSocket)
    (host : String) (port : UInt16) : Except Fault PCAPTimingSocket :=
  if !isValidIpv4Address inetPton host && !isValidIpv6Address inetPton host then
    .error (.invalidArgument
      "Current pcap implementation needs an ip address in order to correlate packets.")
  else
    .ok { socket with usrdata := socket.usrdata.setFilter host port }.connect

/-- A frame is addressed to the endpoint that a text and a port denote. -/
def AddressedTo
    (inetPton : InetPton)
    (host : String) (port : UInt16)
    (frame : WireFrame) : Prop :=
  inetPton frame.network.family host = some frame.network.dst ∧
    frame.transport.dport = port

instance (inetPton : InetPton) (host : String) (port : UInt16) (frame : WireFrame) :
    Decidable (AddressedTo inetPton host port frame) :=
  inferInstanceAs (Decidable (_ ∧ _))

/-- The callback stores a capture with a direction. -/
def StoresAs
    (inetNtop : InetNtop)
    (usrdata : UserData)
    (snapshot : Snapshot)
    (direction : PacketDirection) : Prop :=
  ∃ next stored,
    handlePacket inetNtop usrdata snapshot.header snapshot.packet = .ok next ∧
      usrdata.Stores next stored ∧ stored.direction = direction

/-- On a sound queue, a capture is stored with a direction if and only if it is copied
completely and the texts say so. -/
theorem storesAs_iff
    {usrdata : UserData} {snapshot : Snapshot} {direction : PacketDirection}
    (text : AddressFamily → List UInt8 → String)
    (sound : usrdata.Sound) :
    StoresAs (succeeding text) usrdata snapshot direction ↔
      usrdata.Copies snapshot.frame ∧ snapshot.Complete ∧
        usrdata.directionOf (snapshot.frame.artefacts text) = direction := by
  constructor
  · rintro ⟨next, stored, handled, ⟨fits, roomy, made, storing⟩, rfl⟩
    have grown := (sound.appended fits made storing).unread
    have room : usrdata.HasRoom := by
      by_contra crowded
      rw [UserData.makeRoom_of_not_hasRoom crowded] at made
      cases made
    obtain ⟨_, same⟩ | ⟨other, receives, appended⟩ := handlePacket_cases sound handled
    · rw [same] at grown
      exact absurd grown (by simp)
    · obtain ⟨reaches, complete, rfl⟩ :=
        (Snapshot.received_eq_some_iff text).mp receives
      have same := List.append_cancel_left (grown.symm.trans appended.unread)
      rw [List.cons.injEq] at same
      refine ⟨⟨reaches, room⟩, complete, ?_⟩
      exact (congrArg Packet.direction same.1).symm
  · rintro ⟨copies, complete, rfl⟩
    have receives := (@Snapshot.received_eq_some_iff usrdata snapshot _ text).mpr
      ⟨copies.toReaches, complete, rfl⟩
    obtain ⟨next, handled⟩ := (copies.room.exists_handlePacket_iff
      sound.queue.writeIndex_le).mpr ⟨_, receives⟩
    obtain ⟨dropped, _⟩ | ⟨stored, kept, stores⟩ := handlePacket_stores handled
    · rw [receives] at dropped
      cases dropped
    · rw [receives] at kept
      cases kept
      exact ⟨next, _, handled, stores, rfl⟩

/-- What a successful call of `connect` leaves behind. -/
theorem connectTo_cases
    (connected : connectTo inetPton socket host port = .ok started) :
    started = connect { socket with usrdata := socket.usrdata.setFilter host port } := by
  unfold connectTo at connected
  split at connected
  · cases connected
  · cases connected
    rfl

/-- The callback compares the texts of the connection. -/
theorem directionOf_eq_destinationRemote_iff
    {usrdata : UserData} {artefacts : Artefacts} :
    usrdata.directionOf artefacts = .destinationRemote ↔
      usrdata.remoteHost = artefacts.dstIp ∧ usrdata.remotePort = artefacts.dstPort := by
  unfold UserData.directionOf
  split
  case isTrue same => exact iff_of_true rfl same
  case isFalse different => exact iff_of_false nofun different

/-- In every state that is reached after connecting, a capture is stored as one for the
remote end exactly when it is addressed to what the host denotes, if and only if it is
not addressed there, or the host is the printed spelling of the address and the
payload is copied completely. -/
theorem storesAs_destinationRemote_iff_addressed
    (text : AddressFamily → List UInt8 → String)
    (inetPton : InetPton)
    (socket started reached : PCAPTimingSocket)
    (host : String) (port : UInt16)
    (events : List Event)
    (snapshot : Snapshot)
    (connected : connectTo inetPton socket host port = .ok started)
    (ran : Machine.run (step (succeeding text)) started events = some reached)
    (denotes : inetPton snapshot.frame.network.family
        (text snapshot.frame.network.family snapshot.frame.network.dst) =
      some snapshot.frame.network.dst) :
    (StoresAs (succeeding text) reached.usrdata snapshot .destinationRemote ↔
        AddressedTo inetPton host port snapshot.frame) ↔
      (AddressedTo inetPton host port snapshot.frame →
        host = text snapshot.frame.network.family snapshot.frame.network.dst ∧
          reached.usrdata.Copies snapshot.frame ∧ snapshot.Complete) := by
  cases connectTo_cases connected
  have atEnd := run_reached ran
  have remoteHost : reached.usrdata.remoteHost = host := atEnd.connection.remoteHost
  have remotePort : reached.usrdata.remotePort = port := atEnd.connection.remotePort
  rw [storesAs_iff text atEnd.sound, directionOf_eq_destinationRemote_iff, remoteHost,
    remotePort]
  simp only [WireFrame.artefacts]
  constructor
  · intro classified addressed
    obtain ⟨copies, complete, sameHost, _⟩ := classified.mpr addressed
    exact ⟨sameHost, copies, complete⟩
  · intro spelled
    constructor
    · rintro ⟨_, _, sameHost, samePort⟩
      rw [← sameHost] at denotes
      exact ⟨denotes, samePort.symm⟩
    · intro addressed
      obtain ⟨sameHost, copies, complete⟩ := spelled addressed
      exact ⟨copies, complete, sameHost, addressed.2.symm⟩

/-- The bytes of the address `2001:db8::1`. -/
def documentationAddress : Vector UInt8 16 :=
  #v[0x20, 0x01, 0x0d, 0xb8, 0, 0, 0, 0, 0, 0, 0, 0, 0, 0, 0, 1]

/-- An `inet_pton` that knows some spellings of one address. -/
def documentationPton : InetPton
  | .inet6, "2001:db8::1" | .inet6, "2001:DB8::1" => some documentationAddress.toList
  | _, _ => none

/-- A request of one byte to that address, captured completely. -/
def documentationRequest : Snapshot where
  frame := {
    destination := Vector.replicate 6 0
    source := Vector.replicate 6 0
    network := .ipv6 (.between (.replicate 16 1) documentationAddress) []
    transport := .tcp (.between 49152 443)
    payload := [65]
    padding := []
    fits := by decide }
  time := ⟨5, 0⟩
  caplen := 75
  headers := by decide
  caplen_le := by decide

/-- A socket before it is connected. -/
def unconnected : PCAPTimingSocket where
  usrdata := UserData.unstarted "" 0
  txTimestamp := ⟨0, 0⟩
  rxTimestamp := ⟨0, 0⟩
  search := none
  recorded := []

/-- Its payload is copied right after connecting. -/
theorem copies_documentationRequest (host : String) (port : UInt16) :
    ((unconnected.usrdata.setFilter host port).startLoop).Copies
      documentationRequest.frame where
  running := rfl
  ethernet := rfl
  roomy := by decide
  isTcp := rfl
  nonempty := by decide
  small := by decide
  room := fun _ => rfl

/-- The condition is met by the printed spelling. -/
theorem storesAs_destinationRemote_documentationRequest :
    ∃ started, connectTo documentationPton unconnected "2001:db8::1" 443 = .ok started ∧
      (StoresAs (succeeding inetText) started.usrdata documentationRequest
          .destinationRemote ↔
        AddressedTo documentationPton "2001:db8::1" 443 documentationRequest.frame) := by
  refine ⟨_, rfl, (storesAs_destinationRemote_iff_addressed inetText documentationPton
    unconnected _ _ "2001:db8::1" 443 [] documentationRequest rfl rfl
    (by decide)).mpr fun _ => ⟨by decide, copies_documentationRequest _ _, by decide⟩⟩

/-- With another spelling, a request is stored as a response. -/
theorem otherSpelling_not_destinationRemote :
    ∃ started, connectTo documentationPton unconnected "2001:DB8::1" 443 = .ok started ∧
      AddressedTo documentationPton "2001:DB8::1" 443 documentationRequest.frame ∧
      StoresAs (succeeding inetText) started.usrdata documentationRequest .sourceRemote ∧
      ¬StoresAs (succeeding inetText) started.usrdata documentationRequest
          .destinationRemote := by
  have sound := (unconnected.usrdata.setFilter "2001:DB8::1" 443).sound_startLoop
  have copies := copies_documentationRequest "2001:DB8::1" 443
  refine ⟨_, rfl, by decide, ?_, ?_⟩
  · exact (storesAs_iff inetText sound).mpr ⟨copies, by decide, by decide⟩
  · intro stored
    obtain ⟨_, _, recognised⟩ := (storesAs_iff inetText sound).mp stored
    exact absurd recognised (by decide)

end PCAPTimingSocket

end NetworkTiming
