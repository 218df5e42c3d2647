import NetworkTiming.Library.Machine
import NetworkTiming.TestClient.TestClient
import NetworkTiming.TimingProxy.Rules

/-!
# Samples

What the test client is for, without its loops and lists: sample after sample, a request
is handed to the server, at most one response is received, and the time between the two
is taken.  The test client does nothing else, and its file holds these times.  Without a
time of receiving of its own, a sample is measured with that of an earlier one.
-/

namespace NetworkTiming

open Interactive

variable {kind : KindOfSocket}

/-! ## The machine -/

/-- Whether a sample gets a time of receiving of its own, when a response has been received
or not. -/
def KindOfSocket.Times : KindOfSocket → (heard timed : Bool) → Prop
  -- `write` takes the time when there is something to receive, or nothing can come any more
  | .cpu, _, timed => timed = true
  -- what is received may have no timestamp
  | .kernel, heard, timed => timed = true → heard = true
  | .pcap, heard, timed => timed = heard

instance : (kind : KindOfSocket) → (heard timed : Bool) → Decidable (kind.Times heard timed)
  | .cpu, _, timed => inferInstanceAs (Decidable (timed = true))
  | .kernel, heard, timed => inferInstanceAs (Decidable (timed = true → heard = true))
  | .pcap, heard, timed => inferInstanceAs (Decidable (timed = heard))

/-- The state between two samples, or within one. -/
structure Sampler (kind : KindOfSocket) where
  /-- The samples that have been taken. -/
  values : List UInt64
  /-- What is still to be sent of the request. -/
  unsent : List UInt8
  /-- Whether a response has been received. -/
  heard : Bool
  /-- When the request has been sent. -/
  sent : Option kind.Stamp
  /-- The time of receiving that has been taken last, in this sample or in an earlier one. -/
  rx : kind.Stamp
  /-- Whether it has been taken behind the time of the request. -/
  timed : Bool
  deriving DecidableEq

namespace Sampler

/-- The next sample begins; the kinds of requests take turns. -/
def begin (values : List UInt64) (rx : kind.Stamp) : Sampler kind where
  values := values
  unsent := TestClient.writeBuf (values.length % TestClient.SAMPLESIZE)
  heard := false
  sent := none
  rx := rx
  timed := false

/-- What may happen.  A measurement is the difference between the time of the request and
the time of receiving that has been taken last. -/
def step (tstampPrecision : Int) (sampler : Sampler kind) :
    Event kind → Option (Sampler kind)
  | .connected => if sampler = begin [] sampler.rx then some sampler else none
  | .handed .server bytes =>
      if bytes <+: sampler.unsent then
        some { sampler with unsent := sampler.unsent.drop bytes.length }
      else none
  | .sentAt stamp => some { sampler with sent := some stamp, timed := false }
  | .received .server _ =>
      if sampler.unsent = [] ∧ sampler.heard = false then some { sampler with heard := true }
      else none
  | .receivedAt stamp => some { sampler with rx := stamp, timed := true }
  | .measured tx rx result =>
      if sampler.unsent = [] ∧ sampler.sent = some tx ∧ rx = sampler.rx ∧
          kind.Times sampler.heard sampler.timed ∧
          result = kind.difference tstampPrecision tx rx then
        match result with
        | .ok value => some (begin (sampler.values ++ [value]) rx)
        | .error _ => some sampler
      else none
  | _ => none

end Sampler

namespace TestClient

/-! ## Refinement -/

variable {tstampPrecision : Int} {rx : kind.Stamp} {values : List UInt64}
  {unsent : List UInt8} {heard : Bool} {known : Option Bool}

/-- The log takes the machine to a state, with which the fields of the socket agree.  If
something is known, the request has its time, and it is known whether a time of receiving
has been taken behind it. -/
structure Samples
    (tstampPrecision : Int) (rx : kind.Stamp) (values : List UInt64) (unsent : List UInt8)
    (heard : Bool) (known : Option Bool) (proxy : TimingProxy kind) : Prop where
  precision : proxy.tstampPrecision = tstampPrecision
  reaches : ∃ sent timed,
    Machine.run (Sampler.step tstampPrecision) (.begin [] rx) proxy.log =
        some ⟨values, unsent, heard, sent, proxy.rxTimestamp, timed⟩ ∧
      ∀ own ∈ known, sent = some proxy.txTimestamp ∧ timed = own

/-- The request of a sample has been sent, and a response may have been received. -/
def Ready
    (tstampPrecision : Int) (rx : kind.Stamp) (values : List UInt64)
    (proxy : TimingProxy kind) : Prop :=
  ∃ heard timed, kind.Times heard timed ∧
    Samples tstampPrecision rx values [] heard (some timed) proxy

/-- The next sample can begin. -/
def Idle
    (tstampPrecision : Int) (rx : kind.Stamp) (values : List UInt64) :
    TimingProxy kind → Prop :=
  Samples tstampPrecision rx values (writeBuf (values.length % SAMPLESIZE)) false none

end TestClient

end NetworkTiming
