import Mathlib.Data.List.TakeWhile
import ZnpHost.Lib.Quiescence
import ZnpHost.Mt.DeviceMessages
import ZnpHost.Rpc.Acceptance

/-!
# From the line to the callbacks

Two threads move what the device says to the application: one calls `rpcProcess`, which takes a
frame from the line and queues its message, the other one calls `rpcGetMqClientMsg` or
`rpcWaitMqClientMsg`, which take a message from the queue and call its callback.  They may take
turns in any order, and the line may cut the stream anywhere, add noise between the frames and
fail at some reads.  A response that nothing waits for ends the process; what the device says
before it is not lost.

## Main definitions

* `Pipeline`, `pipelineStep` — the line, the queue and the callbacks, and the two calls.
* `Transmission` — noise and a frame with a message of the device.
* `Flows` — what was passed on, what waits in the queue and what is still to come.
* `untilResponse` — the messages before the first response.
* `wire_to_callbacks` — each callback is given what the device encoded, once and in order.
-/

namespace ZnpHost.Mt

open Lib Rpc

/-! ## The two threads -/

/-- The line, the state of the RPC layer, the copy of the last SRSP, and what the callbacks were
given. -/
structure Pipeline where
  line : Line
  rpc : RpcState
  srspRpcBuff : Mem
  called : List Indication

/-- Whose turn it is. -/
inductive PipelineAction
  /-- `rpcProcess`, with any content of its buffer. -/
  | process (rpcBuff : Mem)
  /-- `rpcGetMqClientMsg` or `rpcWaitMqClientMsg`, with any content of `rpcFrame`. -/
  | receive (rpcFrame : Mem)

/-- One call that returns with a message processed.  Both calls wait while there is nothing to
do, and an unexpected response ends the process. -/
def pipelineStep (registered : Cb → Bool) (fuel : ℕ) (s : Pipeline) :
    PipelineAction → Option Pipeline
  | .process rpcBuff => do
    let (_, line, rpc) ← rpcProcess Line.read fuel s.line rpcBuff s.rpc
    let rpc ← rpc
    some { s with line, rpc }
  | .receive rpcFrame =>
    match s.rpc.rpcLlq with
    | [] => none
    | msg :: q =>
      let rpcLen := UInt8.ofNat msg.length
      some { s with
        rpc := { s.rpc with rpcLlq := q }
        srspRpcBuff := srspCopy s.srspRpcBuff (Mem.ofList msg rpcFrame) rpcLen
        called := s.called ++ (mtProcess registered (Mem.ofList msg rpcFrame) rpcLen).toList }

/-! ## What the device sends -/

/-- A message that fits into a frame and that the decoders find. -/
abbrev Sendable := { m : DeviceMessage // m.payload.length ≤ 250 ∧ m.Kept }

namespace Sendable

variable (m : Sendable)

def frame : MtFrame := ⟨m.val.cmd0, m.val.cmd1, m.val.payload, m.property.1⟩

theorem carriedBy_frame : m.val.CarriedBy m.frame := ⟨rfl, rfl, rfl⟩

/-- The message that is queued for the application. -/
def msg : List UInt8 := m.frame.msg

/-- What the application is shown of it. -/
def shown (registered : Cb → Bool) : Option Indication :=
  if registered m.val.cb then some m.val.indication else none

end Sendable

/-- Noise, the frame of a message, and the reads of its body. -/
structure Transmission extends Segment where
  sent : Sendable
  frame_eq : frame = sent.frame

namespace Transmission

variable (t : Transmission) (ts : List Transmission)

/-- The line that is still to deliver these transmissions, and is silent then. -/
def line : Line where
  bytes := ts.flatMap fun t => t.toSegment.bytes
  sched := ts.flatMap fun t => t.toSegment.sched

/-- A byte of the noise is over. -/
def skip (b : UInt8) (bs : List UInt8) (h : t.garbage = b :: bs) : Transmission where
  toSegment := { t.toSegment with
    garbage := bs
    noSof := fun c hc => t.noSof c (h ▸ List.mem_cons_of_mem b hc) }
  sent := t.sent
  frame_eq := t.frame_eq

end Transmission

/-! ## One call of `rpcProcess` -/

section Process

variable {fuel : ℕ} {t : Transmission} {ts : List Transmission} {st : RpcState}

/-- A byte of noise is thrown away. -/
theorem rpcProcess_noise {b : UInt8} {bs : List UInt8} (h : t.garbage = b :: bs) (rpcBuff : Mem) :
    rpcProcess Line.read fuel (Transmission.line (t :: ts)) rpcBuff st =
      some (.noSof, Transmission.line (t.skip b bs h :: ts), some st) := by
  have hread : Line.read (Transmission.line (t :: ts)) 1 =
      some (.data [b], Transmission.line (t.skip b bs h :: ts)) := by
    rw [Transmission.line, List.flatMap_cons, List.flatMap_cons, Segment.bytes, Segment.sched, h]
    rfl
  have hb : b ≠ mtRpcSof := t.noSof b (h ▸ List.mem_cons_self)
  simp [rpcProcess, rpcReceive_noSof hread hb]

/-- A frame is taken from the line, and its message is dispatched. -/
theorem rpcProcess_frame (ts : List Transmission) (st : RpcState) (h : t.garbage = [])
    (hfuel : t.fuel ≤ fuel) (rpcBuff : Mem) :
    ∃ v, rpcProcess Line.read fuel (Transmission.line (t :: ts)) rpcBuff st =
      some (v, Transmission.line ts, deliver st t.sent.msg) := by
  let f := t.frame
  let rest := Transmission.line ts
  have htx : t.tx = mtRpcSof :: f.len :: f.msg :=
    rpcSendFrameTx_eq_wire f t.beyond t.stack
  have hsof : Line.read (Transmission.line (t :: ts)) 1 = some (.data [mtRpcSof],
      ⟨f.len :: f.msg ++ rest.bytes, .bytes 1 :: t.body ++ rest.sched⟩) := by
    rw [Transmission.line, List.flatMap_cons, List.flatMap_cons, Segment.bytes, Segment.sched, h,
      htx]
    rfl
  have hlen : Line.read ⟨f.len :: f.msg ++ rest.bytes, .bytes 1 :: t.body ++ rest.sched⟩ 1 =
      some (.data [f.len], ⟨f.msg ++ rest.bytes, t.body ++ rest.sched⟩) := rfl
  simp only [Segment.fuel] at hfuel
  have hfuel' : t.body.length < fuel ∧ 256 ≤ fuel := ⟨by omega, by omega⟩
  obtain ⟨v, hrun, hacc⟩ := rpcReadFrame_accepts f t.covers t.errors_le rest.bytes rest.sched
    rpcBuff hfuel'.1 hfuel'.2
  have hreceive : rpcReceive Line.read fuel (Transmission.line (t :: ts)) rpcBuff =
      some (v, rest) := by
    rw [rpcReceive_frame hsof hlen, hrun]
  have hmsg : t.sent.msg = f.msg := congrArg MtFrame.msg t.frame_eq.symm
  have hne : v.accepted ≠ some [] := by
    rw [hacc]
    simp [MtFrame.msg]
  refine ⟨v, ?_⟩
  rw [rpcProcess_deliver hreceive hne, hacc, hmsg]
  simp [rest]

/-- Nothing comes any more. -/
theorem rpcProcess_silent (rpcBuff : Mem) :
    rpcProcess Line.read fuel (Transmission.line []) rpcBuff st = none := rfl

end Process

/-! ## One message in the queue -/

/-- The first command byte of a message is the one that `deliver` looks at. -/
theorem headD_msg (m : Sendable) : m.msg.headD 0 = m.val.cmd0 := rfl

/-- The buffer of the application holds the message, with its checksum behind the payload. -/
theorem delivered_msg (m : Sendable) (rpcFrame : Mem) :
    Delivered m.frame (Mem.ofList m.msg rpcFrame) where
  cmd0 := rfl
  cmd1 := rfl
  payload j hj := by
    have hlen := m.frame.length_msg
    have hcell := Mem.blit_mid rpcFrame 0 m.msg (k := 2 + j) (by rw [Sendable.msg, hlen]; omega)
    rw [Nat.zero_add] at hcell
    rw [Mem.ofList, hcell]
    simp [Sendable.msg, MtFrame.msg, Nat.add_comm 2 j, List.getElem_append_left hj]

/-- What one call of the application does with the message at the head of the queue. -/
theorem mtProcess_msg (m : Sendable) (registered : Cb → Bool) (rpcFrame : Mem) :
    mtProcess registered (Mem.ofList m.msg rpcFrame) (UInt8.ofNat m.msg.length) =
      m.shown registered := by
  have hlen : UInt8.ofNat m.msg.length = rpcLen m.frame :=
    congrArg UInt8.ofNat m.frame.length_msg
  rw [hlen]
  exact m.carriedBy_frame.mtProcess_eq m.property.2.startKept registered
    (delivered_msg m rpcFrame)

/-- Only a response is copied. -/
theorem srspCopy_msg {m : Sendable} (h : ¬ isSrsp m.val.cmd0) (srspRpcBuff rpcFrame : Mem)
    (l : UInt8) :
    srspCopy srspRpcBuff (Mem.ofList m.msg rpcFrame) l = srspRpcBuff := by
  have hhead : Mem.ofList m.msg rpcFrame 0 = m.val.cmd0 := (delivered_msg m rpcFrame).cmd0
  rw [srspCopy, hhead, if_neg]
  exact fun hand => h hand.2

/-- A message that is no response is queued. -/
theorem deliver_msg {m : Sendable} (h : ¬ isSrsp m.val.cmd0) (st : RpcState) :
    deliver st m.msg = some { st with rpcLlq := st.rpcLlq ++ [m.msg] } := by
  rw [deliver, headD_msg]
  exact if_neg h

/-! ## Whole runs -/

/-- Where the messages of a stream are: `passed` to the application, `waiting` in the queue, and
`coming` on the line. -/
structure Flows (registered : Cb → Bool) (start : Pipeline) (ts : List Transmission)
    (s : Pipeline) (passed waiting : List Sendable) (coming : List Transmission) : Prop where
  line : s.line = Transmission.line coming
  queue : s.rpc = { start.rpc with rpcLlq := waiting.map Sendable.msg }
  called : s.called = start.called ++ passed.filterMap (·.shown registered)
  /-- The last response stays where it is. -/
  srspRpcBuff : s.srspRpcBuff = start.srspRpcBuff
  /-- Nothing is lost, nothing comes twice, and the order is kept. -/
  order : ts.map Transmission.sent = passed ++ waiting ++ coming.map Transmission.sent
  /-- Responses are still to come. -/
  areqs : ∀ m ∈ passed ++ waiting, ¬ isSrsp m.val.cmd0

/-- The work that is left: the reads to come and the messages queued. -/
def Pipeline.work (s : Pipeline) : ℕ := s.line.sched.length + s.rpc.rpcLlq.length

section Runs

variable {registered : Cb → Bool} {fuel : ℕ} {start s s' : Pipeline} {ts : List Transmission}

/-- There is enough fuel for what is coming, and the messages are where they should be. -/
def Flowing (registered : Cb → Bool) (fuel : ℕ) (start : Pipeline) (ts : List Transmission)
    (s : Pipeline) : Prop :=
  ∃ passed waiting coming, Flows registered start ts s passed waiting coming ∧
    ∀ t ∈ coming, t.fuel ≤ fuel

/-- A transmission has at least three reads. -/
theorem length_sched_cons (t : Transmission) (coming : List Transmission) :
    (Transmission.line (t :: coming)).sched.length =
      t.garbage.length + 2 + t.body.length + (Transmission.line coming).sched.length := by
  simp [Transmission.line, Segment.sched]
  omega

/-- Every response among the transmissions is one that nothing waits for. -/
def Unawaited (st : RpcState) (ts : List Transmission) : Prop :=
  ∀ t ∈ ts, isSrsp t.sent.val.cmd0 → Unexpected st t.sent.msg

/-- A response that is coming ends the process. -/
theorem Flows.deliver_response {passed waiting : List Sendable} {t : Transmission}
    {coming : List Transmission} (hno : Unawaited start.rpc ts)
    (hf : Flows registered start ts s passed waiting (t :: coming))
    (hsrsp : isSrsp t.sent.val.cmd0) : deliver s.rpc t.sent.msg = none := by
  have hmem : t.sent ∈ ts.map Transmission.sent := by
    rw [hf.order]
    simp
  obtain ⟨u, hu, hsent⟩ := List.mem_map.mp hmem
  have hun : Unexpected start.rpc t.sent.msg := hsent ▸ hno u hu (hsent ▸ hsrsp)
  rw [deliver_eq_none_iff, hf.queue]
  exact hun

/-- A byte of noise is thrown away. -/
theorem Flows.noise {passed waiting : List Sendable} {t : Transmission}
    {coming : List Transmission} {b : UInt8} {bs : List UInt8}
    (hf : Flows registered start ts s passed waiting (t :: coming)) (hg : t.garbage = b :: bs) :
    Flows registered start ts { s with line := Transmission.line (t.skip b bs hg :: coming) }
      passed waiting (t.skip b bs hg :: coming) where
  line := rfl
  queue := hf.queue
  called := hf.called
  srspRpcBuff := hf.srspRpcBuff
  order := hf.order
  areqs := hf.areqs

/-- A message that is no response goes from the line to the queue. -/
theorem Flows.frame {passed waiting : List Sendable} {t : Transmission}
    {coming : List Transmission}
    (hf : Flows registered start ts s passed waiting (t :: coming))
    (hareq : ¬ isSrsp t.sent.val.cmd0) :
    Flows registered start ts { s with
        line := Transmission.line coming
        rpc := { s.rpc with rpcLlq := s.rpc.rpcLlq ++ [t.sent.msg] } }
      passed (waiting ++ [t.sent]) coming where
  line := rfl
  queue := by rw [hf.queue, List.map_append, List.map_singleton]
  called := hf.called
  srspRpcBuff := hf.srspRpcBuff
  order := by
    rw [hf.order]
    simp
  areqs := by
    intro m hm
    rw [← List.append_assoc, List.mem_append, List.mem_singleton] at hm
    rcases hm with hm | rfl
    · exact hf.areqs m hm
    · exact hareq

/-- The first message of the queue goes to its callback. -/
theorem Flows.receive {passed waiting : List Sendable} {m : Sendable}
    {coming : List Transmission}
    (hf : Flows registered start ts s passed (m :: waiting) coming) (rpcFrame : Mem) :
    Flows registered start ts { s with
        rpc := { s.rpc with rpcLlq := waiting.map Sendable.msg }
        srspRpcBuff := srspCopy s.srspRpcBuff (Mem.ofList m.msg rpcFrame)
          (UInt8.ofNat m.msg.length)
        called := s.called ++ (mtProcess registered (Mem.ofList m.msg rpcFrame)
          (UInt8.ofNat m.msg.length)).toList }
      (passed ++ [m]) waiting coming where
  line := hf.line
  queue := by rw [hf.queue]
  called := by
    rw [hf.called, mtProcess_msg, List.filterMap_append, List.append_assoc]
    cases hm : m.shown registered <;> simp [hm]
  srspRpcBuff := by rw [srspCopy_msg (hf.areqs m (by simp)), hf.srspRpcBuff]
  order := by
    rw [hf.order]
    simp
  areqs := by simpa using hf.areqs

/-- Both calls keep the messages in order, and each takes work away. -/
theorem flowing_step (hno : Unawaited start.rpc ts) {a : PipelineAction}
    (h : Flowing registered fuel start ts s) (hs : pipelineStep registered fuel s a = some s') :
    Flowing registered fuel start ts s' ∧ s'.work < s.work := by
  obtain ⟨passed, waiting, coming, hf, hfuel⟩ := h
  cases a with
  | process rpcBuff =>
    simp only [pipelineStep, hf.line] at hs
    cases coming with
    | nil =>
      rw [rpcProcess_silent] at hs
      cases hs
    | cons t coming =>
      have hrest : ∀ u ∈ coming, u.fuel ≤ fuel := fun u hu => hfuel u (List.mem_cons_of_mem t hu)
      cases hg : t.garbage with
      | cons b bs =>
        rw [rpcProcess_noise hg] at hs
        obtain rfl := Option.some.inj hs
        refine ⟨⟨passed, waiting, t.skip b bs hg :: coming, hf.noise hg, ?_⟩, ?_⟩
        · intro u hu
          cases List.mem_cons.mp hu with
          | inl heq => exact heq ▸ hfuel t List.mem_cons_self
          | inr hmem => exact hrest u hmem
        · simp only [Pipeline.work, hf.line, length_sched_cons, hg, List.length_cons]
          change bs.length + 2 + t.body.length + _ + _ < _
          omega
      | nil =>
        obtain ⟨v, hrun⟩ := rpcProcess_frame coming s.rpc hg
          (hfuel t List.mem_cons_self) rpcBuff
        rw [hrun] at hs
        by_cases hsrsp : isSrsp t.sent.val.cmd0
        · rw [hf.deliver_response hno hsrsp] at hs
          cases hs
        · rw [deliver_msg hsrsp] at hs
          obtain rfl := Option.some.inj hs
          refine ⟨⟨passed, waiting ++ [t.sent], coming, hf.frame hsrsp, hrest⟩, ?_⟩
          simp only [Pipeline.work, hf.line, length_sched_cons, List.length_append,
            List.length_singleton]
          omega
  | receive rpcFrame =>
    simp only [pipelineStep] at hs
    cases waiting with
    | nil =>
      rw [hf.queue] at hs
      cases hs
    | cons m waiting =>
      have hllq : s.rpc.rpcLlq = m.msg :: waiting.map Sendable.msg := by
        rw [hf.queue]
        rfl
      rw [hllq] at hs
      obtain rfl := Option.some.inj hs
      refine ⟨⟨passed ++ [m], waiting, coming, hf.receive rpcFrame, hfuel⟩, ?_⟩
      simp only [Pipeline.work, hllq, List.length_cons]
      omega

theorem drains_pipelineStep (hno : Unawaited start.rpc ts) :
    Drains (pipelineStep registered fuel) (fun _ => True) (Flowing registered fuel start ts)
      Pipeline.work where
  keeps _ _ _ h _ hs := (flowing_step hno h hs).1
  less _ _ _ h _ hs := (flowing_step hno h hs).2

/-- While a message is waiting, or one that is no response is coming, one of the threads can go
on. -/
theorem Flows.of_quiet {passed waiting : List Sendable} {coming : List Transmission}
    (hf : Flows registered start ts s passed waiting coming) (hfuel : ∀ t ∈ coming, t.fuel ≤ fuel)
    (hq : Quiet (pipelineStep registered fuel) (fun _ => True) s) :
    waiting = [] ∧ ∀ t ∈ coming.head?, isSrsp t.sent.val.cmd0 := by
  constructor
  · cases waiting with
    | nil => rfl
    | cons m waiting =>
      have hnone := hq (.receive fun _ => 0) trivial
      simp [pipelineStep, hf.queue] at hnone
  · intro t ht
    obtain ⟨coming, rfl⟩ := List.head?_eq_some_iff.mp ht
    have hnone := hq (.process fun _ => 0) trivial
    simp only [pipelineStep, hf.line] at hnone
    cases hg : t.garbage with
    | cons b bs =>
      rw [rpcProcess_noise hg] at hnone
      cases hnone
    | nil =>
      obtain ⟨v, hrun⟩ := rpcProcess_frame coming s.rpc hg
        (hfuel t List.mem_cons_self) fun _ => 0
      by_contra hareq
      rw [hrun, deliver_msg hareq] at hnone
      cases hnone

end Runs

/-! ## The result -/

/-- The messages before the first response. -/
def untilResponse (ts : List Transmission) : List Sendable :=
  (ts.map Transmission.sent).takeWhile fun m => ¬ isSrsp m.val.cmd0

/-- No transmission is a response. -/
def OnlyAreqs (ts : List Transmission) : Prop := ∀ t ∈ ts, ¬ isSrsp t.sent.val.cmd0

theorem OnlyAreqs.unawaited {ts : List Transmission} (h : OnlyAreqs ts) (st : RpcState) :
    Unawaited st ts :=
  fun t ht hsrsp => absurd hsrsp (h t ht)

theorem OnlyAreqs.untilResponse_eq {ts : List Transmission} (h : OnlyAreqs ts) :
    untilResponse ts = ts.map Transmission.sent := by
  rw [untilResponse, List.takeWhile_eq_self_iff]
  simpa [OnlyAreqs] using h

/-- What holds after any number of calls, in any order. -/
structure Arrived (registered : Cb → Bool) (fuel : ℕ) (start : Pipeline)
    (ts : List Transmission) (s : Pipeline) : Prop where
  flows : ∃ passed waiting coming, Flows registered start ts s passed waiting coming
  /-- When neither thread can go on, every message before the first response has been passed
  on. -/
  complete : Quiet (pipelineStep registered fuel) (fun _ => True) s →
    s.called = start.called ++ (untilResponse ts).filterMap (·.shown registered)

theorem Flowing.arrived {registered : Cb → Bool} {fuel : ℕ} {start s : Pipeline}
    {ts : List Transmission} (h : Flowing registered fuel start ts s) :
    Arrived registered fuel start ts s := by
  obtain ⟨passed, waiting, coming, hf, hfuel⟩ := h
  refine ⟨⟨passed, waiting, coming, hf⟩, ?_⟩
  intro hq
  obtain ⟨rfl, hhead⟩ := hf.of_quiet hfuel hq
  have hpassed : untilResponse ts = passed := by
    have hareqs := hf.areqs
    rw [List.append_nil] at hareqs
    rw [untilResponse, hf.order, List.append_nil,
      List.takeWhile_append_of_pos (by simpa using hareqs)]
    cases coming with
    | nil => simp
    | cons t coming => simp [hhead t rfl]
  rw [hf.called, hpassed]

/-- Before the first call everything is on the line. -/
theorem flowing_start {registered : Cb → Bool} {fuel : ℕ} {ts : List Transmission} {st : RpcState}
    (hempty : st.rpcLlq = []) (srspRpcBuff : Mem) (hfuel : ∀ t ∈ ts, t.fuel ≤ fuel) :
    Flowing registered fuel ⟨Transmission.line ts, st, srspRpcBuff, []⟩ ts
      ⟨Transmission.line ts, st, srspRpcBuff, []⟩ := by
  refine ⟨[], [], ts, ⟨rfl, ?_, ?_, rfl, ?_, ?_⟩, hfuel⟩
  · rw [List.map_nil, ← hempty]
  · simp
  · simp
  · simp

end ZnpHost.Mt
