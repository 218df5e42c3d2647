import NetworkTiming.TimingProxy.TimingProxy

/-!
# The test client

`TestClient` measures how long a server takes for two kinds of requests.  It writes
requests of both kinds in turn, each behind the response to the one before, and keeps
the measurements of each kind in a list of its own.  In the end it writes all of them to
a file, in the order in which they have been made, with the kind of each.
-/

namespace NetworkTiming

namespace TestClient

variable {kind : KindOfSocket}

/-- `BUFSIZE`. -/
def BUFSIZE : Nat := 1024

/-- `SAMPLESIZE`, the number of kinds of requests. -/
abbrev SAMPLESIZE : Nat := 2

/-- `write_buf` with the kind of the request in its first byte. -/
def writeBuf (i : Nat) : List UInt8 :=
  UInt8.ofNat (i % 256) :: List.replicate (BUFSIZE - 1) 0

/-- The measurements of each kind of requests. -/
abbrev Times := Vector (List UInt64) SAMPLESIZE

/-- The body of the inner loop; the number of bytes that are read is not looked at. -/
def measureOne (times : Times) (i : Fin SAMPLESIZE) : Session kind Times := do
  TimingProxy.write (writeBuf i)
  let _readSize ← TimingProxy.read kind BUFSIZE true
  let value ← TimingProxy.getLastMeasurement
  pure (times.set i (times[i] ++ [value]))

/-- The loops that measure. -/
def measure : (measurements : Nat) → Times → Session kind Times
  | 0, times => pure times
  | measurements + 1, times => do
      let times ← (List.finRange SAMPLESIZE).foldlM measureOne times
      measure measurements times

/-- A line of the file. -/
def csvLine (ctr i : Nat) (value : UInt64) : String :=
  toString ctr ++ ";" ++ toString i ++ ";" ++ toString value ++ "\n"

/-- The body of the loops that write the file, which looks at `times[i][j]` whether it is
there or not. -/
def writeLine (times : Times) (j : Nat) (csv : Nat × String) (i : Fin SAMPLESIZE) :
    Except Fault (Nat × String) :=
  match times[i][j]? with
  | some value => .ok (csv.1 + 1, csv.2 ++ csvLine csv.1 i value)
  | none => .error (.outOfBounds j)

/-- The loops that write the file. -/
def writeCsv (measurements : Nat) (times : Times) : Except Fault String := do
  let csv ← (List.range measurements).foldlM
    (fun csv j => (List.finRange SAMPLESIZE).foldlM (writeLine times j) csv) (0, "")
  pure csv.2

/-- `main` behind the options; it returns the file. -/
def main (measurements : Nat) : Session kind String := do
  match ← TimingProxy.ask with
  | .connected => do
      modify fun socket => { socket with established := true }
      TimingProxy.emit .connected
      let times ← measure measurements (Vector.replicate SAMPLESIZE [])
      modify fun socket => { socket with established := false }
      match writeCsv measurements times with
      | .ok csv => pure csv
      | .error fault => throw (.exception fault)
  | .thrown fault => throw (.exception fault)
  | _ => throw .waiting

/-! ## The file -/

/-- The measurements of some rounds in the order in which they have been made. -/
def inOrder (rounds : List (Vector UInt64 SAMPLESIZE)) : List UInt64 :=
  rounds.flatMap fun round => [round[0], round[1]]

end TestClient

end NetworkTiming
