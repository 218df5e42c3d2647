import NetworkTiming.TimingProxy.Stages

/-!
# The test server

`TestServer` answers whatever it reads, with one of two responses and behind a delay that
depends on the first byte.  How much it has read it does not look at, and neither whether
anything has been read at all.
-/

namespace NetworkTiming

open TimingProxy (Accepts)

variable {kind : KindOfSocket}

namespace TestServer

/-- `BUFSIZE`. -/
abbrev BUFSIZE : Nat := 1024

/-- `write_buf_a` and `write_buf_b`. -/
def writeBuf (letter : UInt8) : List UInt8 := letter :: List.replicate (BUFSIZE - 1) 0

/-- `chosen_write_buf`, by the first byte of `read_buf`. -/
def chosenWriteBuf (first : UInt8) : List UInt8 :=
  if first % 2 = 0 then writeBuf 97 else writeBuf 98

/-- What the server waits for. -/
inductive Stage
  /-- `ss.read`. -/
  | reading
  /-- `ss.write`, with the bytes that are still to be sent. -/
  | writing (rest : List UInt8)
  /-- A call has thrown, and the connection has been closed. -/
  | closed
  deriving DecidableEq

end TestServer

/-- The loop of `main`. -/
structure TestServer where
  readBuf : Vector UInt8 TestServer.BUFSIZE
  stage : TestServer.Stage
  deriving DecidableEq

namespace TestServer

/-- The client has been accepted; nothing has been written to `read_buf`. -/
def accepted (readBuf : Vector UInt8 BUFSIZE) : TestServer := ⟨readBuf, .reading⟩

/-- What the server goes on with behind a read. -/
def respond (readBuf : Vector UInt8 BUFSIZE) : TestServer :=
  ⟨readBuf, .writing (chosenWriteBuf readBuf[0])⟩

/-- What an answer of the environment leads to. -/
def step (server : TestServer) (answer : Answer kind) : Option TestServer :=
  match server.stage, answer with
  | .reading, .received bytes =>
      if bytes ≠ [] ∧ bytes.length ≤ BUFSIZE then
        some (respond (overwrite server.readBuf bytes))
      else none
  -- the end of the stream is not told from a request
  | .reading, .closed => some (respond server.readBuf)
  | .writing rest, .accepted count =>
      if Accepts rest count then
        some { server with stage :=
          if count ≠ rest.length then .writing (rest.drop count) else .reading }
      else none
  | .reading, .failed _ | .writing _, .failed _ => some { server with stage := .closed }
  | _, _ => none

theorem length_writeBuf (letter : UInt8) : (writeBuf letter).length = BUFSIZE := by
  rw [writeBuf, List.length_cons, List.length_replicate]
  rfl

theorem length_chosenWriteBuf (first : UInt8) : (chosenWriteBuf first).length = BUFSIZE := by
  unfold chosenWriteBuf
  split <;> exact length_writeBuf _

/-- A whole request decides about the response with its first byte. -/
theorem getElem_overwrite_cons
    (readBuf : Vector UInt8 BUFSIZE) (first : UInt8) (rest : List UInt8) :
    (overwrite readBuf (first :: rest))[0] = first := by
  rw [overwrite, Vector.getElem_ofFn]
  rfl

end TestServer

end NetworkTiming
