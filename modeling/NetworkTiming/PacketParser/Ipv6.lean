import NetworkTiming.PacketParser.Tcp
import NetworkTiming.PacketParser.Udp

/-!
# The IPv6 parser

The payload length is compared with the packet.  The parser then walks the chain
of extension headers, each of which announces its own length, until it meets a
header that is not an extension.  `ExtensionChain` describes the chains that the
walk passes, as a relation on the bytes of the buffer alone.
-/

namespace NetworkTiming

open Traced

/-- The fields of an `Ipv6Parser` object after `parseHeader`. -/
structure Ipv6Parser where
  packet : Nat
  packetSize : Nat
  payload : Option Nat
  payloadSize : Nat
  hopLimit : UInt8
  nextHdr : UInt8
  addrSrc : String
  addrDst : String

namespace Ipv6Parser

/-- `MAIN_HEADER_SIZE`. -/
def mainHeaderSize : Nat := 40

/-! ## Next-header values -/

namespace NextHeaderType

def hopopt : UInt8 := 0x00
def tcp : UInt8 := 0x06
def udp : UInt8 := 0x11
def ipv6Route : UInt8 := 0x2b
def ipv6Frag : UInt8 := 0x2c
def esp : UInt8 := 0x32
def ah : UInt8 := 0x33
def ipv6Nonxt : UInt8 := 0x3b
def ipv6Opts : UInt8 := 0x3c
def mobility : UInt8 := 0x87
def hip : UInt8 := 0x8b
def shim6 : UInt8 := 0x8c
def tst1 : UInt8 := 0xfd
def tst2 : UInt8 := 0xfe

end NextHeaderType

/-- Kinds of headers that a next-header value announces. -/
inductive NextHeaderKind
  | notImplemented
  | payload
  | extensionHeader
  | noNext
  deriving DecidableEq, Repr

open NextHeaderType in
/-- `HeaderTypeMap`. -/
def headerTypeMap : List (UInt8 × NextHeaderKind) :=
  [(hopopt, .extensionHeader),
   (tcp, .payload),
   (udp, .payload),
   (ipv6Route, .extensionHeader),
   (ipv6Frag, .extensionHeader),
   (esp, .extensionHeader),
   (ah, .extensionHeader),
   (ipv6Nonxt, .noNext),
   (ipv6Opts, .extensionHeader),
   (mobility, .extensionHeader),
   (hip, .extensionHeader),
   (shim6, .extensionHeader),
   (tst1, .extensionHeader),
   (tst2, .extensionHeader)]

/-- Kind of a next-header value, if the map lists it. -/
def headerKind (nextHdr : UInt8) : Option NextHeaderKind :=
  headerTypeMap.lookup nextHdr

/-- `Ipv6Parser::isExtensionHeader`; `std::map::at` raises on an unlisted key. -/
def isExtensionHeader (nextHdr : UInt8) : Decode Bool :=
  match headerKind nextHdr with
  | some kind => pure (kind == .extensionHeader)
  | none => fail .outOfRange

/-! ## Parsing -/

/-- The loop of `parseHeader` over the extension headers. -/
def skipExtensions
    (memory : List UInt8)
    (nextHdr : UInt8)
    (currentHeader payloadSize : Nat) : Decode (UInt8 × Nat × Nat) := do
  let extension ← isExtensionHeader nextHdr
  if extension then
    if payloadSize < 64 then
      fail .terminate
    else do
      let next ← readU8 memory currentHeader
      let hdrLen ← readU8 memory (currentHeader + 1)
      if payloadSize < hdrLen.toNat * 8 + 8 then
        fail .terminate
      else do
        emit (.difference payloadSize (hdrLen.toNat * 8 + 8))
        skipExtensions memory next
          (currentHeader + (hdrLen.toNat * 8 + 8))
          (sizeDifference payloadSize (hdrLen.toNat * 8 + 8))
  else
    pure (nextHdr, currentHeader, payloadSize)
termination_by payloadSize
decreasing_by
  rw [sizeDifference_of_le (by omega)]
  omega

/-- `Ipv6Parser::parseHeader`. -/
def parseHeader
    (inetNtop : InetNtop)
    (memory : List UInt8)
    (packet size : Nat) : Decode Ipv6Parser :=
  if size < mainHeaderSize then
    fail (.invalidArgument "Ipv6 header must be at least 40 bytes")
  else do
    let verTrafclFlow ← readU32 memory packet
    let version := (verTrafclFlow &&& 0xff) >>> 4
    if version ≠ 0x6 then
      fail .terminate
    else do
      let payloadLen ← readU16 memory (packet + 4)
      let available ← subtractSize size 40
      if available < (ntohs payloadLen).toNat then
        fail (.invalidArgument "payload size cannot be bigger than payload itself")
      else do
        let hopLimit ← readU8 memory (packet + 7)
        let src ← readBytes memory (packet + 8) 16
        match inetNtop .inet6 src with
        | none =>
            fail (.invalidArgument "Packet has invalid ipv6 source address")
        | some addrSrc => do
            let dst ← readBytes memory (packet + 24) 16
            match inetNtop .inet6 dst with
            | none =>
                fail (.invalidArgument "Packet has invalid ipv6 destination address")
            | some addrDst => do
                let first ← readU8 memory (packet + 6)
                let (nextHdr, currentHeader, payloadSize) ←
                  skipExtensions memory first (packet + mainHeaderSize)
                    (ntohs payloadLen).toNat
                let empty := nextHdr = NextHeaderType.ipv6Nonxt
                pure {
                  packet := packet
                  packetSize := size
                  payload := if empty then none else some currentHeader
                  payloadSize := if empty then 0 else payloadSize
                  hopLimit := hopLimit
                  nextHdr := nextHdr
                  addrSrc := addrSrc
                  addrDst := addrDst }

/-- `Ipv6Parser::decodeUntil`.  A transport parser is only entered for a header
that carries a payload, so it never receives the null pointer. -/
def decodeUntil
    (inetNtop : InetNtop)
    (layer : Layer)
    (memory : List UInt8)
    (packet size : Nat)
    (artefacts : Artefacts) : Decode Decoded := do
  let parser ← parseHeader inetNtop memory packet size
  let artefacts := { artefacts with
    ipType := .ipv6
    srcIp := parser.addrSrc
    dstIp := parser.addrDst }
  if layer = .ipv6 then
    pure {
      payload := parser.payload
      payloadSize := parser.payloadSize
      artefacts := artefacts }
  else if parser.nextHdr = NextHeaderType.tcp then
    TcpParser.decodeUntil layer memory (parser.payload.getD 0)
      parser.payloadSize artefacts
  else if parser.nextHdr = NextHeaderType.udp then
    UdpParser.decodeUntil layer memory (parser.payload.getD 0)
      parser.payloadSize artefacts
  else
    fail .terminate

/-! ## Chains of extension headers -/

/-- Length announced by an extension header. -/
def extensionLength (memory : List UInt8) (offset : Nat) : Nat :=
  (byteAt memory (offset + 1)).toNat * 8 + 8

/-- From a header announced at `offset` with `remaining` bytes of payload, the
chain of extension headers leads to the header `last` at `lastOffset`, where
`lastRemaining` bytes of the payload are left.  Every extension starts with at
least 64 bytes of payload left and fits in what is left. -/
inductive ExtensionChain
    (memory : List UInt8) : (header : UInt8) → (offset remaining : Nat) →
      (last : UInt8) → (lastOffset lastRemaining : Nat) → Prop
  | stop {header offset remaining kind} :
      headerKind header = some kind →
      kind ≠ .extensionHeader →
      ExtensionChain memory header offset remaining header offset remaining
  | extension {header offset remaining last lastOffset lastRemaining} :
      headerKind header = some .extensionHeader →
      64 ≤ remaining →
      extensionLength memory offset ≤ remaining →
      ExtensionChain memory (byteAt memory offset)
        (offset + extensionLength memory offset)
        (remaining - extensionLength memory offset)
        last lastOffset lastRemaining →
      ExtensionChain memory header offset remaining last lastOffset lastRemaining

namespace ExtensionChain

/-- The first header either ends the chain or is an extension in front of it. -/
theorem iff_first :
    ExtensionChain memory header offset remaining last lastOffset lastRemaining ↔
      (∃ kind, headerKind header = some kind ∧ kind ≠ .extensionHeader ∧
        last = header ∧ lastOffset = offset ∧ lastRemaining = remaining) ∨
      (headerKind header = some .extensionHeader ∧ 64 ≤ remaining ∧
        extensionLength memory offset ≤ remaining ∧
        ExtensionChain memory (byteAt memory offset)
          (offset + extensionLength memory offset)
          (remaining - extensionLength memory offset)
          last lastOffset lastRemaining) := by
  constructor
  · intro chain
    cases chain with
    | stop listed ends => exact Or.inl ⟨_, listed, ends, rfl, rfl, rfl⟩
    | extension listed enough fits rest =>
        exact Or.inr ⟨listed, enough, fits, rest⟩
  · rintro (⟨kind, listed, ends, rfl, rfl, rfl⟩ | ⟨listed, enough, fits, rest⟩)
    · exact .stop listed ends
    · exact .extension listed enough fits rest

/-- The payload keeps its end while the chain is walked. -/
theorem end_eq
    (chain : ExtensionChain memory header offset remaining
      last lastOffset lastRemaining) :
    lastOffset + lastRemaining = offset + remaining := by
  induction chain with
  | stop _ _ => rfl
  | extension _ _ fits _ inductionHypothesis => omega

/-- The chain is walked forwards. -/
theorem offset_le
    (chain : ExtensionChain memory header offset remaining
      last lastOffset lastRemaining) :
    offset ≤ lastOffset := by
  induction chain with
  | stop _ _ => exact Nat.le_refl _
  | extension _ _ _ _ inductionHypothesis => omega

/-- A header leads to the end of one chain at most. -/
theorem unique
    (chain : ExtensionChain memory header offset remaining
      last lastOffset lastRemaining)
    (other : ExtensionChain memory header offset remaining
      otherLast otherOffset otherRemaining) :
    otherLast = last ∧ otherOffset = lastOffset ∧
      otherRemaining = lastRemaining := by
  induction chain with
  | stop listed ends =>
      rcases iff_first.mp other with ⟨_, _, _, same⟩ | ⟨extended, _⟩
      · exact same
      · rw [listed] at extended
        exact absurd (Option.some.inj extended) ends
  | extension listed enough fits rest inductionHypothesis =>
      rcases iff_first.mp other with ⟨_, stopped, ends, _⟩ | ⟨_, _, _, more⟩
      · rw [listed] at stopped
        exact absurd (Option.some.inj stopped).symm ends
      · exact inductionHypothesis more

end ExtensionChain

/-- A walk along a chain ends with `returns` at the end of the chain, and ends
abruptly where there is no chain. -/
def WalkEnsures
    (memory : List UInt8)
    (abrupt : Prop)
    (returns : UInt8 × Nat × Nat → Prop)
    (header : UInt8)
    (offset remaining : Nat) : Prop :=
  (abrupt ∨ ∃ last lastOffset lastRemaining,
    ExtensionChain memory header offset remaining
      last lastOffset lastRemaining) ∧
  ∀ last lastOffset lastRemaining,
    ExtensionChain memory header offset remaining
      last lastOffset lastRemaining →
    returns (last, lastOffset, lastRemaining)

namespace WalkEnsures

variable {memory : List UInt8} {abrupt : Prop}
  {returns : UInt8 × Nat × Nat → Prop}
  {header : UInt8} {offset remaining : Nat}

theorem of_stuck
    (stuck : ∀ last lastOffset lastRemaining,
      ¬ExtensionChain memory header offset remaining
        last lastOffset lastRemaining) :
    WalkEnsures memory abrupt returns header offset remaining ↔ abrupt := by
  constructor
  · rintro ⟨allowed | ⟨last, lastOffset, lastRemaining, chain⟩, _⟩
    · exact allowed
    · exact absurd chain (stuck last lastOffset lastRemaining)
  · intro allowed
    refine ⟨Or.inl allowed, ?_⟩
    intro last lastOffset lastRemaining chain
    exact absurd chain (stuck last lastOffset lastRemaining)

theorem of_stop
    (listed : headerKind header = some kind)
    (ends : kind ≠ .extensionHeader) :
    WalkEnsures memory abrupt returns header offset remaining ↔
      returns (header, offset, remaining) := by
  constructor
  · rintro ⟨_, holds⟩
    exact holds header offset remaining (.stop listed ends)
  · intro holds
    refine ⟨Or.inr ⟨header, offset, remaining, .stop listed ends⟩, ?_⟩
    intro last lastOffset lastRemaining chain
    rcases ExtensionChain.iff_first.mp chain with
      ⟨_, _, _, rfl, rfl, rfl⟩ | ⟨extended, _⟩
    · exact holds
    · rw [listed] at extended
      exact absurd (Option.some.inj extended) ends

theorem of_extension
    (listed : headerKind header = some .extensionHeader)
    (enough : 64 ≤ remaining)
    (fits : extensionLength memory offset ≤ remaining) :
    WalkEnsures memory abrupt returns header offset remaining ↔
      WalkEnsures memory abrupt returns (byteAt memory offset)
        (offset + extensionLength memory offset)
        (remaining - extensionLength memory offset) := by
  have same : ∀ last lastOffset lastRemaining,
      ExtensionChain memory header offset remaining
          last lastOffset lastRemaining ↔
        ExtensionChain memory (byteAt memory offset)
          (offset + extensionLength memory offset)
          (remaining - extensionLength memory offset)
          last lastOffset lastRemaining := by
    intro last lastOffset lastRemaining
    constructor
    · intro chain
      rcases ExtensionChain.iff_first.mp chain with
        ⟨kind, stopped, ends, _⟩ | ⟨_, _, _, rest⟩
      · rw [listed] at stopped
        exact absurd (Option.some.inj stopped).symm ends
      · exact rest
    · exact .extension listed enough fits
  simp only [WalkEnsures, same]

end WalkEnsures

/-- Postconditions of the loop, for a payload that lies in the buffer. -/
theorem skipExtensions_iff
    {permitted : Access → Prop} {faults : Fault → Prop}
    {undecodable abrupt : Prop}
    (policy : Policy memory permitted faults undecodable abrupt)
    (header : UInt8)
    (offset remaining : Nat)
    (inside : offset + remaining ≤ memory.length)
    {returns : UInt8 × Nat × Nat → Prop} :
    Ensures permitted faults returns
        (skipExtensions memory header offset remaining) ↔
      WalkEnsures memory abrupt returns header offset remaining := by
  induction remaining using Nat.strong_induction_on
    generalizing header offset with
  | _ remaining inductionHypothesis =>
      rw [skipExtensions, ensures_bind, isExtensionHeader]
      cases listed : headerKind header with
      | none =>
          rw [ensures_fail, policy.outOfRange, WalkEnsures.of_stuck]
          intro last lastOffset lastRemaining chain
          rcases ExtensionChain.iff_first.mp chain with ⟨_, known, _⟩ | ⟨known, _⟩
          · simp [listed] at known
          · simp [listed] at known
      | some kind =>
          rw [ensures_pure]
          by_cases extending : kind = .extensionHeader
          · subst extending
            have readable (enough : 64 ≤ remaining) :
                offset < memory.length ∧ offset + 1 < memory.length := by omega
            by_cases stuck : remaining < 64 ∨
                remaining < extensionLength memory offset
            · rw [WalkEnsures.of_stuck]
              · by_cases short : remaining < 64
                · simp [short, policy.terminate]
                · obtain ⟨first, second⟩ := readable (by omega)
                  have long := stuck.resolve_left short
                  unfold extensionLength at long
                  simp [short, first, second, long, policy.readU8_iff,
                    policy.terminate]
              · intro last lastOffset lastRemaining chain
                rcases ExtensionChain.iff_first.mp chain with
                  ⟨_, known, ends, _⟩ | ⟨_, enough, fits, _⟩
                · rw [listed] at known
                  exact ends (Option.some.inj known).symm
                · omega
            · obtain ⟨enough, fits⟩ := not_or.mp stuck
              rw [Nat.not_lt] at enough fits
              obtain ⟨first, second⟩ := readable enough
              have shrinks : remaining - extensionLength memory offset <
                  remaining := by
                unfold extensionLength
                omega
              have rest := inductionHypothesis
                (remaining - extensionLength memory offset) shrinks
                (byteAt memory offset)
                (offset + extensionLength memory offset) (by omega)
              have ordered := policy.ordered remaining
                (extensionLength memory offset) fits
              rw [WalkEnsures.of_extension listed enough fits, ← rest]
              unfold extensionLength at fits ordered ⊢
              have not_short : ¬remaining < 64 := by omega
              have not_long :
                  ¬remaining < (byteAt memory (offset + 1)).toNat * 8 + 8 := by
                omega
              simp [not_short, not_long, first, second, policy.readU8_iff,
                ordered, sizeDifference_of_le fits]
          · rw [WalkEnsures.of_stop listed extending]
            simp [extending]

/-! ## Fields of the header -/

/-- Version announced by the first byte. -/
def version (memory : List UInt8) (packet : Nat) : Nat :=
  (byteAt memory packet).toNat / 16

/-- Payload length announced by the header. -/
def payloadLength (memory : List UInt8) (packet : Nat) : Nat :=
  wordAt memory (packet + 4)

/-- The artefacts of an IPv6 header. -/
def artefactsOf
    (text : AddressFamily → List UInt8 → String)
    (memory : List UInt8)
    (packet : Nat)
    (artefacts : Artefacts) : Artefacts :=
  { artefacts with
    ipType := .ipv6
    srcIp := text .inet6 (bytesAt memory (packet + 8) 16)
    dstIp := text .inet6 (bytesAt memory (packet + 24) 16) }

/-- The comparison of the version nibble, in terms of the first byte. -/
theorem shiftRight_eq_iff_version (memory : List UInt8) (packet : Nat) :
    (hostU32 (byteAt memory packet) (byteAt memory (packet + 1))
        (byteAt memory (packet + 2)) (byteAt memory (packet + 3)) &&& 0xff) >>> 4 =
      0x6 ↔ version memory packet = 6 := by
  rw [← UInt32.toNat_inj, toNat_hostU32_and_low_byte]
  rfl

/-- What `decodeUntil` does at the end of the chain of headers. -/
def HandsOn
    (permitted : Access → Prop)
    (faults : Fault → Prop)
    (abrupt : Prop)
    (returns : Decoded → Prop)
    (layer : Layer)
    (memory : List UInt8)
    (artefacts : Artefacts)
    (last : UInt8)
    (offset remaining : Nat) : Prop :=
  if layer = .ipv6 then
    returns {
      payload := if last = NextHeaderType.ipv6Nonxt then none else some offset
      payloadSize := if last = NextHeaderType.ipv6Nonxt then 0 else remaining
      artefacts := artefacts }
  else if last = NextHeaderType.tcp then
    Ensures permitted faults returns
      (TcpParser.decodeUntil layer memory offset remaining artefacts)
  else if last = NextHeaderType.udp then
    Ensures permitted faults returns
      (UdpParser.decodeUntil layer memory offset remaining artefacts)
  else abrupt

/-- Postconditions of the IPv6 layer for a packet whose fixed header lies in the
buffer: the extension headers are walked behind it. -/
theorem decodeUntil_iff_skipExtensions
    {permitted : Access → Prop} {faults : Fault → Prop}
    {undecodable abrupt : Prop}
    (policy : Policy memory permitted faults undecodable abrupt)
    (packet size : Nat)
    (inside : 40 ≤ size → packet + 40 ≤ memory.length)
    {returns : Decoded → Prop} :
    Ensures permitted faults returns
        (decodeUntil (succeeding text) layer memory packet size artefacts) ↔
      if size < 40 then undecodable
      else if version memory packet ≠ 6 then abrupt
      else if size - 40 < payloadLength memory packet then undecodable
      else
        Ensures permitted faults
          (fun (last, offset, remaining) =>
            HandsOn permitted faults abrupt returns layer memory
              (artefactsOf text memory packet artefacts) last offset remaining)
          (skipExtensions memory (byteAt memory (packet + 6)) (packet + 40)
            (payloadLength memory packet)) := by
  unfold decodeUntil parseHeader mainHeaderSize
  by_cases short : size < 40
  · simp [short, policy.invalidArgument]
  · have first : packet + 3 < memory.length := by omega
    by_cases unversioned : version memory packet ≠ 6
    · have mismatch :=
        mt (shiftRight_eq_iff_version memory packet).mp unversioned
      simp [short, unversioned, mismatch, policy.readU32_iff, policy.terminate,
        first]
    · have matching :=
        (shiftRight_eq_iff_version _ _).mpr (not_not.mp unversioned)
      have length : packet + 4 + 1 < memory.length := by omega
      have ordered := policy.ordered size 40 (by omega)
      have available := sizeDifference_of_le (show 40 ≤ size by omega)
      simp only [short, if_false, unversioned, matching, ensures_bind,
        policy.readU32_iff, policy.readU16_iff, Strict.subtractSize_iff,
        ensures_ite, ensures_fail, policy.invalidArgument, ne_eq,
        not_true_eq_false, toNat_ntohs_loaded, first, length, ordered,
        available, true_and]
      by_cases oversized : size - 40 < payloadLength memory packet
      · unfold payloadLength at oversized ⊢
        simp [oversized]
      · unfold payloadLength at oversized ⊢
        have hop : packet + 7 < memory.length := by omega
        have source : packet + 8 + 16 ≤ memory.length := by omega
        have destination : packet + 24 + 16 ≤ memory.length := by omega
        have next : packet + 6 < memory.length := by omega
        simp only [oversized, if_false, succeeding, policy.readU8_iff,
          policy.readBytes_iff, ensures_bind, ensures_pure, hop, source,
          destination, next, true_and, or_true]
        -- Every header byte lies in the buffer; what is left is the hand-over.
        refine iff_of_eq (congrArg
          (fun post => Ensures permitted faults post _) ?_)
        apply funext
        rintro ⟨last, offset, remaining⟩
        unfold HandsOn
        by_cases toTcp : last = NextHeaderType.tcp
        · subst toTcp
          rfl
        · by_cases toUdp : last = NextHeaderType.udp
          · subst toUdp
            rfl
          · simp [toTcp, toUdp, policy.terminate, artefactsOf]

/-- Postconditions of the IPv6 layer for a packet that lies in the buffer. -/
theorem decodeUntil_iff
    {permitted : Access → Prop} {faults : Fault → Prop}
    {undecodable abrupt : Prop}
    (policy : Policy memory permitted faults undecodable abrupt)
    (packet size : Nat)
    (inside : packet + size ≤ memory.length)
    {returns : Decoded → Prop} :
    Ensures permitted faults returns
        (decodeUntil (succeeding text) layer memory packet size artefacts) ↔
      if size < 40 then undecodable
      else if version memory packet ≠ 6 then abrupt
      else if size - 40 < payloadLength memory packet then undecodable
      else
        WalkEnsures memory abrupt
          (fun (last, offset, remaining) =>
            HandsOn permitted faults abrupt returns layer memory
              (artefactsOf text memory packet artefacts) last offset remaining)
          (byteAt memory (packet + 6)) (packet + 40)
          (payloadLength memory packet) := by
  rw [decodeUntil_iff_skipExtensions policy packet size (by omega)]
  by_cases enough : size < 40
  · rw [if_pos enough, if_pos enough]
  · by_cases fits : size - 40 < payloadLength memory packet
    · rw [if_pos fits, if_pos fits]
    · rw [skipExtensions_iff policy _ _ _ (by omega)]

end Ipv6Parser
end NetworkTiming
