import NetworkTiming.Memory

/-!
# What the packet parsers share

The parsers hand a pointer and a size from layer to layer.  They report the
region of the payload together with a record of what the layers contained.
-/

namespace NetworkTiming

open Traced

/-- Protocol layers that a caller of `decodeUntil` can ask for. -/
inductive Layer
  | ethernet
  | ipv4
  | ipv6
  | tcp
  | udp
  deriving DecidableEq, Repr

/-- What a successful decoding says about the layers it passed. -/
structure Artefacts where
  /-- `ipv4` or `ipv6`. -/
  ipType : Layer := .ipv4
  /-- Text of the source address. -/
  srcIp : String := ""
  /-- Text of the destination address. -/
  dstIp : String := ""
  /-- `tcp` or `udp`. -/
  payloadType : Layer := .tcp
  /-- Source port of the transport header. -/
  srcPort : UInt16 := 0
  /-- Destination port of the transport header. -/
  dstPort : UInt16 := 0
  deriving DecidableEq, Repr

/-- The values that `decodeUntil` stores through its output parameters. -/
structure Decoded where
  /-- Start of the payload, or `nullptr`. -/
  payload : Option Nat
  /-- Size of the payload. -/
  payloadSize : Nat
  /-- The filled-in artefacts. -/
  artefacts : Artefacts
  deriving DecidableEq, Repr

/-- Address families that the parsers pass to `inet_ntop`. -/
inductive AddressFamily
  | inet
  | inet6
  deriving DecidableEq, Repr

/-- `inet_ntop` of the C library, as a function of the address bytes.  Both the
buffer it fills and the artefact its result is copied to have the size that the
library documents for the family, so that the copy is exact. -/
abbrev InetNtop := AddressFamily → List UInt8 → Option String

/-- An `inet_ntop` that succeeds on every address, as documented for the two
families and the buffer sizes used. -/
def succeeding (text : AddressFamily → List UInt8 → String) : InetNtop :=
  fun family address => some (text family address)

/-! ## Texts of addresses

The parsers are generic in `inet_ntop`; the functions below print an address the
way the library does, for evaluating them on concrete packets. -/

/-- The digits of a group of an IPv6 address. -/
def groupText (group : Nat) : String :=
  String.ofList (Nat.toDigits 16 group)

/-- The eight groups of an IPv6 address. -/
def addressGroups : List UInt8 → List Nat
  | first :: second :: rest =>
      (256 * first.toNat + second.toNat) :: addressGroups rest
  | _ => []

/-- Length of the run of zero groups at the head of a list. -/
def zeroRun (groups : List Nat) : Nat :=
  (groups.takeWhile (· == 0)).length

/-- Start and length of the first longest run of at least two zero groups. -/
def longestZeroRun (groups : List Nat) : Option (Nat × Nat) :=
  (List.range groups.length).foldl
    (fun best start =>
      let run := zeroRun (groups.drop start)
      if max 1 (best.elim 0 Prod.snd) < run then some (start, run) else best)
    none

/-- Dotted decimal text of an IPv4 address. -/
def dottedText (address : List UInt8) : String :=
  String.intercalate "." (address.map fun byte => toString byte.toNat)

/-- Text of an IPv6 address: the first longest run of zero groups is left out,
and an embedded IPv4 address keeps its own notation. -/
def groupedText (address : List UInt8) : String :=
  let groups := addressGroups address
  match longestZeroRun groups with
  | none => String.intercalate ":" (groups.map groupText)
  | some (start, run) =>
      if start = 0 ∧ (run = 6 ∨ run = 5 ∧ groups[5]? = some 0xffff) then
        (if run = 6 then "::" else "::ffff:") ++ dottedText (address.drop 12)
      else
        String.intercalate ":" ((groups.take start).map groupText) ++ "::" ++
          String.intercalate ":" ((groups.drop (start + run)).map groupText)

/-- Text of an address of either family. -/
def inetText : AddressFamily → List UInt8 → String
  | .inet => dottedText
  | .inet6 => groupedText

/-- A port of a transport header, in host order. -/
def portAt (memory : List UInt8) (offset : Nat) : UInt16 :=
  ntohs (hostU16 (byteAt memory offset) (byteAt memory (offset + 1)))

/-- A big-endian field of the buffer is what the parsers load from it. -/
theorem toNat_ntohs_loaded (memory : List UInt8) (offset : Nat) :
    (ntohs (hostU16 (byteAt memory offset) (byteAt memory (offset + 1)))).toNat =
      wordAt memory offset := by
  rw [toNat_ntohs_hostU16, wordAt]

/-- Postconditions of a decoding under which bytes outside of the buffer may not
be read, packets reported by `std::invalid_argument` are judged alike, and every
other exit is judged alike. -/
structure Policy
    (memory : List UInt8)
    (permitted : Access → Prop)
    (faults : Fault → Prop)
    (undecodable abrupt : Prop) : Prop extends Strict memory permitted faults where
  /-- A packet that is reported as undecodable. -/
  invalidArgument : ∀ what, faults (.invalidArgument what) ↔ undecodable
  /-- A `throw` without an active exception. -/
  terminate : faults .terminate ↔ abrupt
  /-- An unknown key of a map. -/
  outOfRange : faults .outOfRange ↔ abrupt

end NetworkTiming
