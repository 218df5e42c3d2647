import NetworkTiming.TimingProxy.Resumption
import NetworkTiming.TimingProxy.Service

/-!
# The control parser and its stages

The service reads its two lines one chunk at a time.  It arrives where `getProxyTarget`
returns, with the same target, or raises the exception that `getProxyTarget` throws.
-/

namespace NetworkTiming

open Interactive TimingProxy

namespace Service

variable {kind : KindOfSocket} {inetPton : InetPton} {service : Service kind}

/-- The answers that deliver some chunks. -/
def receiving (chunks : List Chunk) : List (ServiceAnswer kind) :=
  chunks.map fun chunk => .received chunk.val

/-- A line is read at some stages, and `goOn` is entered with what has been read. -/
structure ReadsLine
    (inetPton : InetPton)
    (service : Service kind)
    (reading : List UInt8 → ServiceStage kind)
    (goOn : List UInt8 → Service kind) : Prop where
  /-- Without the end of the line, the service waits for more. -/
  waits : ∀ str, newline ∉ str → goOn str = service.enter (reading str)
  /-- A chunk is put behind what has been read. -/
  reads : ∀ str (chunk : Chunk),
    (service.enter (reading str)).step inetPton (.received chunk.val) =
      some (goOn (str ++ cString chunk.val))

theorem step_readHost (str : List UInt8) (chunk : Chunk) :
    (service.enter (.readHost str)).step inetPton (.received chunk.val) =
      some (service.getHost (str ++ cString chunk.val)) := by
  change (if chunk.val ≠ [] ∧ chunk.val.length ≤ 1024 then _ else _) = _
  rw [if_pos chunk.property]
  apply congrArg some
  unfold getHost
  split <;> rfl

theorem step_readPort (str : List UInt8) (chunk : Chunk) :
    (service.enter (.readPort str)).step inetPton (.received chunk.val) =
      some (service.getPort (str ++ cString chunk.val)) := by
  change (if chunk.val ≠ [] ∧ chunk.val.length ≤ 1024 then _ else _) = _
  rw [if_pos chunk.property]
  apply congrArg some
  unfold getPort
  split
  · cases stoi (line (str ++ cString chunk.val)) <;> rfl
  · rfl

theorem readsLine_host (inetPton : InetPton) (service : Service kind) :
    ReadsLine inetPton service .readHost service.getHost where
  waits str incomplete := by rw [getHost, if_neg incomplete]
  reads := step_readHost

theorem readsLine_port (inetPton : InetPton) (service : Service kind) :
    ReadsLine inetPton service .readPort service.getPort where
  waits str incomplete := by rw [getPort, if_neg incomplete]
  reads := step_readPort

/-- With some chunks, the service has read as far as `getline` has when it returns. -/
def LineRead
    (inetPton : InetPton)
    (goOn : List UInt8 → Service kind)
    (str : List UInt8) (chunks unread : List Chunk)
    (head rest : List UInt8) : Prop :=
  ∃ used whole, chunks = used ++ unread ∧
    Machine.run (step inetPton) (goOn str) (receiving used) = some (goOn whole) ∧
    newline ∈ whole ∧ head = line whole ∧ rest = tail whole

/-- The stages of a line go on with the line that `getline` returns. -/
theorem getline_reads
    {reading : List UInt8 → ServiceStage kind} {goOn : List UInt8 → Service kind}
    {passes : Nat} {str : List UInt8} {chunks : List Chunk} {proxy : TimingProxy kind}
    (reads : ReadsLine inetPton service reading goOn)
    (answers : proxy.answers = deliveries chunks) :
    Ensures
      (fun read final => ∃ unread, final.answers = deliveries unread ∧
        LineRead inetPton goOn str chunks unread read.1 read.2)
      (fun reason _ => ∀ fault, reason ≠ .exception fault)
      (getline passes str : Session kind _) proxy := by
  induction passes generalizing str chunks proxy with
  | zero =>
      intro fault same
      cases same
  | succ passes inductionHypothesis =>
      rw [getline]
      by_cases ended : newline ∈ str
      · rw [if_pos ended]
        exact ⟨chunks, answers, [], str, rfl, rfl, ended, rfl, rfl⟩
      · rw [if_neg ended]
        cases chunks with
        | nil =>
            rw [ensures_bind, ServerSocket.read_waiting_ensures answers]
            intro fault same
            cases same
        | cons chunk chunks =>
            rw [ensures_bind, ServerSocket.read_ensures answers chunk.property]
            refine (inductionHypothesis rfl).mono ?_ fun _ _ stopped => stopped
            rintro ⟨head, rest⟩ final ⟨unread, left, used, whole, rfl, reached, read⟩
            refine ⟨unread, left, chunk :: used, whole, rfl, ?_, read⟩
            rw [receiving, List.map_cons, Machine.run_cons, reads.waits str ended,
              reads.reads, Option.bind_some]
            exact reached

/-- The service with the target that has been read. -/
def targeting (service : Service kind) (connectHost : List UInt8) (connectPort : Int) :
    Service kind :=
  { service with
    stage := .accept .client
    connectHost := connectHost
    connectPort := connectPort }

/-- With some chunks, the service arrives at a state. -/
def Arrives
    (inetPton : InetPton)
    (service : Service kind)
    (chunks : List Chunk)
    (final : Service kind) : Prop :=
  ∃ used, used <+: chunks ∧
    Machine.run (step inetPton) service (receiving used) = some final

theorem LineRead.arrives
    {goOn : List UInt8 → Service kind} {str head rest : List UInt8}
    {chunks unread : List Chunk} {final : Service kind}
    (read : LineRead inetPton goOn str chunks unread head rest)
    (follows : ∀ whole, newline ∈ whole → head = line whole → rest = tail whole →
      Arrives inetPton (goOn whole) unread final) :
    Arrives inetPton (goOn str) chunks final := by
  obtain ⟨used, whole, rfl, reached, complete, sameHead, sameRest⟩ := read
  obtain ⟨more, isPrefix, arrived⟩ := follows whole complete sameHead sameRest
  refine ⟨used ++ more, (List.prefix_append_right_inj used).mpr isPrefix, ?_⟩
  rw [receiving, List.map_append, Machine.run_append]
  rw [receiving] at reached
  rw [reached]
  exact arrived

/-- The service arrives where `getProxyTarget` returns, with the same target, or raises
the same exception. -/
theorem getProxyTarget_arrives
    {passes : Nat} {chunks : List Chunk} {proxy : TimingProxy kind}
    (service : Service kind)
    (answers : proxy.answers = deliveries chunks) :
    Ensures
      (fun target _ => Arrives inetPton (service.getHost []) chunks
        (service.targeting target.1 target.2))
      (fun reason _ => ∀ fault, reason = .exception fault → ∃ host,
        Arrives inetPton (service.getHost []) chunks
          ({ service with connectHost := host }.raise fault))
      (getProxyTarget passes : Session kind _) proxy := by
  rw [getProxyTarget, ensures_bind]
  refine (getline_reads (readsLine_host inetPton service) answers).mono ?_
    fun reason _ stopped fault thrown => absurd thrown (stopped fault)
  rintro ⟨host, tail⟩ middle ⟨unread, left, hostRead⟩
  rw [ensures_bind]
  have portReads := readsLine_port inetPton { service with connectHost := host }
  refine (getline_reads portReads left).mono ?_
    fun reason _ stopped fault thrown => absurd thrown (stopped fault)
  rintro ⟨portLine, behind⟩ final ⟨unreadBehind, leftBehind, portRead⟩
  have arrives (final : Service kind)
      (ends : ∀ whole, newline ∈ whole → portLine = line whole →
        { service with connectHost := host }.getPort whole = final) :
      Arrives inetPton (service.getHost []) chunks final := by
    apply hostRead.arrives
    intro whole complete sameHost sameTail
    rw [getHost, if_pos complete, ← sameHost, ← sameTail]
    apply portRead.arrives
    intro whole complete samePort _sameRest
    exact ⟨[], List.nil_prefix, congrArg some (ends whole complete samePort)⟩
  cases accepted : stoi portLine with
  | ok port =>
      simp only [accepted]
      refine arrives (service.targeting host port) fun whole complete samePort => ?_
      rw [getPort, if_pos complete, ← samePort, accepted]
      rfl
  | error fault =>
      simp only [accepted]
      rintro other ⟨⟩
      refine ⟨host, arrives _ fun whole complete samePort => ?_⟩
      rw [getPort, if_pos complete, ← samePort, accepted]

/-- However the reads cut the two lines, the service goes on to accept the client, with
the target of the lines. -/
theorem getHost_arrives_of_lines
    (inetPton : InetPton)
    (service : Service kind)
    (host : List UInt8) (port : UInt16) (rest : List UInt8)
    (chunks : List Chunk)
    (single : newline ∉ host)
    (noNul : 0 ∉ host)
    (stream : bytesOf chunks =
      host ++ newline :: (Decimal.encode port.toNat ++ newline :: rest)) :
    Arrives inetPton (service.getHost []) chunks
      (service.targeting host port.toNat) := by
  obtain ⟨final, returned⟩ := @getProxyTarget_returns kind (chunks.length + 1)
    service.proxy host port rest chunks [] single noNul stream (Nat.lt_succ_self _)
  have arrives := @getProxyTarget_arrives kind inetPton (chunks.length + 1) chunks
    { service.proxy with answers := deliveries chunks ++ [] } service (List.append_nil _)
  rw [Ensures, returned] at arrives
  exact arrives

end Service

end NetworkTiming
