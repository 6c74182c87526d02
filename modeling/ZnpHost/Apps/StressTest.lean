import Mathlib.Data.Fin.Tuple.Basic
import Mathlib.Data.List.Perm.Basic
import Mathlib.Logic.Function.Basic
import Mathlib.Tactic.SplitIfs
import ZnpHost.Lib.Transition
import ZnpHost.Mt.AfRequests
import ZnpHost.Mt.AfResponses
import ZnpHost.Mt.ZdoResponses

/-!
# The stress test

The coordinator sends numbered messages to the nodes that have announced themselves, one after
the other and again and again, and every node sends them back.  On each visit the coordinator
compares the number that it sent last with the one that came back last, and counts.  Messages
are processed in another thread, so that callbacks run between any two accesses of a visit.

## Main definitions

* `StressTest` — the variables of one host, with its callbacks.
* `StressNet`, `StressNet.step` — the coordinator, the nodes, and the messages on the air.
* `Counts` — how the counters of one node agree with what has happened to its messages.
* `stressTest_counts` — the errors counted are the messages lost, if none comes late.
* `stressTest_twice` — a node that announces itself again is counted as failing for ever.
-/

namespace ZnpHost.Apps

open Lib Mt Rpc

/-! ## One host -/

abbrev maxTestNodes : ℕ := 10

def testEp : UInt8 := 1
def testCluster : UInt16 := 0x6

structure TestNode where
  nodeAddr : UInt16
  txSeqNum : UInt8
  rxSeqNum : UInt8
  passCnt : UInt32
  errorCnt : UInt32
  deriving DecidableEq

structure StressTest where
  testNodes : Fin maxTestNodes → TestNode
  transId : UInt16

/-- After the `memset` of `appInit`. -/
def StressTest.init : StressTest := ⟨fun _ => ⟨0, 0, 0, 0, 0⟩, 0⟩

/-- `cDevType[0]` is that of the coordinator. -/
def isCoordinator (cDevType : UInt8) : Bool := cDevType = 99 ∨ cDevType = 67

/-- The first slot that holds an address, which is 0 for an empty slot. -/
def slotOf (testNodes : Fin maxTestNodes → TestNode) (addr : UInt16) : Option (Fin maxTestNodes) :=
  Fin.find? fun nodeIdx => (testNodes nodeIdx).nodeAddr = addr

namespace StressTest

/-- `testNodes[nodeIdx]` is changed. -/
def setNode (g : StressTest) (nodeIdx : Fin maxTestNodes) (n : TestNode) : StressTest :=
  { g with testNodes := Function.update g.testNodes nodeIdx n }

/-- The rest of `Data` is not initialised. -/
def sendTestMsg (g : StressTest) (uninit : Vector UInt8 128) (nodeAddr : UInt16)
    (txSeqNum : UInt8) : StressTest × DataRequestFormat :=
  ({ g with transId := g.transId + 1 },
    { dstAddr := nodeAddr, dstEndpoint := testEp, srcEndpoint := testEp, clusterID := testCluster,
      transID := g.transId.toUInt8, options := 0, radius := 16, len := 1,
      data := uninit.set 0 txSeqNum, len_le := Nat.le_of_ble_eq_true rfl })

def mtZdoEndDeviceAnnceIndCb (g : StressTest) (msg : EndDeviceAnnceIndFormat) : StressTest :=
  match slotOf g.testNodes 0 with
  | none => g
  | some nodeIdx =>
    g.setNode nodeIdx
      { g.testNodes nodeIdx with txSeqNum := 0, rxSeqNum := 0, nodeAddr := msg.nwkAddr }

/-- `Data[0]`, which may not be initialised. -/
def data0 (msg : IncomingMsgFormat) (uninit : UInt8) : UInt8 := (msg.data.cell 0).getD uninit

/-- A message is a test message. -/
def isTestMsg (msg : IncomingMsgFormat) : Bool := msg.clusterId = testCluster ∧ msg.len = 1

/-- The coordinator notes the number, and a node sends it back. -/
def mtAfIncomingMsgCb (g : StressTest) (cDevType : UInt8) (msg : IncomingMsgFormat)
    (uninit : UInt8) (uninit' : Vector UInt8 128) : StressTest × Option DataRequestFormat :=
  if isTestMsg msg then
    if isCoordinator cDevType then
      match slotOf g.testNodes msg.srcAddr with
      | none => (g, none)
      | some nodeIdx =>
        (g.setNode nodeIdx { g.testNodes nodeIdx with rxSeqNum := data0 msg uninit }, none)
    else
      let sent := g.sendTestMsg uninit' msg.srcAddr (data0 msg uninit)
      (sent.1, some sent.2)
  else (g, none)

end StressTest

/-! ## A visit -/

/-- How far `appProcess` is with `testNodes[nodeIdx]`. -/
inductive VisitPhase
  | look
  | compare
  | reset
  | send
  deriving DecidableEq

namespace TestNode

/-- The numbers agree. -/
def pass (n : TestNode) : TestNode :=
  { n with passCnt := n.passCnt + 1, txSeqNum := n.txSeqNum + 1 }

/-- The counters are reset, and then `txSeqNum` is increased. -/
def fail (n : TestNode) : TestNode :=
  { n with txSeqNum := 0 + 1, rxSeqNum := 0, errorCnt := n.errorCnt + 1 }

end TestNode

/-! ## The network -/

/-- A data request on its way. -/
structure Packet where
  src : UInt16
  req : DataRequestFormat

namespace Packet

/-- The node that a packet comes from or goes to; the coordinator has the address 0. -/
def node (p : Packet) : UInt16 := if p.req.dstAddr = 0 then p.src else p.req.dstAddr

/-- The message that the receiver gets; the radio fills in the rest. -/
def msg (p : Packet) (rest : IncomingMsgFormat) : IncomingMsgFormat :=
  { rest with
    clusterId := p.req.clusterID, srcAddr := p.src, srcEndpoint := p.req.srcEndpoint,
    dstEndpoint := p.req.dstEndpoint, len := p.req.len,
    data := .ofList (p.req.data.toList.take p.req.len.toNat) }

end Packet

/-- The hosts and the packets on the air, with how often each slot was visited and how many
packets from or to each node were lost. -/
structure StressNet where
  coordinator : StressTest
  nodeIdx : Fin maxTestNodes
  phase : VisitPhase
  nodes : UInt16 → StressTest
  air : List Packet
  visits : Fin maxTestNodes → ℕ
  lost : UInt16 → ℕ

/-- What happens next. -/
inductive StressEvent
  /-- `appProcess` of the coordinator goes on. -/
  | own (uninit : Vector UInt8 128)
  /-- A node announces itself. -/
  | announce (msg : EndDeviceAnnceIndFormat)
  /-- The packet `k` arrives. -/
  | deliver (k : ℕ) (rest : IncomingMsgFormat) (uninit : Vector UInt8 128)
  /-- The packet `k` is lost. -/
  | lose (k : ℕ)
  /-- A message from elsewhere arrives at the coordinator. -/
  | other (msg : IncomingMsgFormat) (uninit : UInt8)

namespace StressNet

def start (nodes : UInt16 → StressTest) : StressNet :=
  ⟨.init, 0, .look, nodes, [], fun _ => 0, fun _ => 0⟩

/-- The slot of a visit. -/
def slot (w : StressNet) (i : Fin maxTestNodes) : TestNode := w.coordinator.testNodes i

/-- The next slot is visited; after the last one the loop begins again. -/
def next (w : StressNet) : StressNet := { w with nodeIdx := w.nodeIdx + 1, phase := .look }

/-- A visit goes on with `testNodes[nodeIdx]` changed. -/
def visiting (w : StressNet) (phase : VisitPhase) (n : TestNode) : StressNet :=
  { w with coordinator := w.coordinator.setNode w.nodeIdx n, phase }

/-- A visit begins. -/
def visit (w : StressNet) : StressNet :=
  { w with visits := Function.update w.visits w.nodeIdx (w.visits w.nodeIdx + 1) }

/-- Only `rxSeqNum` and an address of 0 are changed by callbacks, so a visit is cut where it
reads or writes these. -/
def own (w : StressNet) (uninit : Vector UInt8 128) : StressNet :=
  let n := w.slot w.nodeIdx
  match w.phase with
  | .look => if n.nodeAddr = 0 then w.next else { w with phase := .compare }
  | .compare =>
    if n.txSeqNum = n.rxSeqNum then w.visit.visiting .send n.pass else w.visit.visiting .reset n
  | .reset => w.visiting .send n.fail
  | .send =>
    let sent := w.coordinator.sendTestMsg uninit n.nodeAddr n.txSeqNum
    ({ w with coordinator := sent.1, air := w.air ++ [⟨0, sent.2⟩] } : StressNet).next

/-- A packet is received by the coordinator, or by a node that answers; `cDevType` is `c` or
`r` there. -/
def received (w : StressNet) (p : Packet) (rest : IncomingMsgFormat)
    (uninit : Vector UInt8 128) : StressNet :=
  if p.req.dstAddr = 0 then
    { w with coordinator := (w.coordinator.mtAfIncomingMsgCb 99 (p.msg rest) 0 uninit).1 }
  else
    let r := (w.nodes p.req.dstAddr).mtAfIncomingMsgCb 114 (p.msg rest) 0 uninit
    { w with
      nodes := Function.update w.nodes p.req.dstAddr r.1,
      air := w.air ++ r.2.toList.map (Packet.mk p.req.dstAddr) }

def step (w : StressNet) : StressEvent → Option StressNet
  | .own uninit => some (w.own uninit)
  | .announce msg =>
    some { w with coordinator := w.coordinator.mtZdoEndDeviceAnnceIndCb msg }
  | .deliver k rest uninit =>
    w.air[k]?.map fun p => ({ w with air := w.air.eraseIdx k } : StressNet).received p rest uninit
  | .lose k =>
    w.air[k]?.map fun p => { w with
      air := w.air.eraseIdx k,
      lost := Function.update w.lost p.node (w.lost p.node + 1) }
  | .other msg uninit =>
    some { w with
      coordinator := (w.coordinator.mtAfIncomingMsgCb 99 msg uninit (.replicate 128 0)).1 }

end StressNet

/-! ## One node -/

/-- How the counters of a node agree with the visits, the messages lost and those on the air.
A lost message is counted as an error at the next visit. -/
structure Counts (n : TestNode) (phase : VisitPhase) (visits lost onAir : ℕ) : Prop where
  once : onAir ≤ 1
  ahead : 0 < onAir → n.txSeqNum ≠ n.rxSeqNum
  quiet : phase = .reset ∨ phase = .send → onAir = 0 ∧ n.txSeqNum ≠ n.rxSeqNum
  visited : n.passCnt + n.errorCnt + (if phase = .reset then 1 else 0) = .ofNat visits
  errors : n.errorCnt +
    (if phase ≠ .send ∧ onAir = 0 ∧ n.txSeqNum ≠ n.rxSeqNum then 1 else 0) = .ofNat lost

namespace Counts

variable {n : TestNode} {phase : VisitPhase} {visits lost onAir : ℕ}

theorem ofNat_succ (k : ℕ) : UInt32.ofNat (k + 1) = UInt32.ofNat k + 1 :=
  UInt32.ofNat_add k 1

/-- A node that has just been found. -/
theorem fresh (nodeAddr : UInt16) : Counts ⟨nodeAddr, 0, 0, 0, 0⟩ .look 0 0 0 where
  once := Nat.zero_le 1
  ahead h := absurd h (Nat.lt_irrefl 0)
  quiet h := by simp at h
  visited := by simp
  errors := by simp

/-- Before a visit it does not matter how far `appProcess` is. -/
theorem between {phase' : VisitPhase} (h : Counts n phase visits lost onAir)
    (hphase : phase = .look ∨ phase = .compare) (hphase' : phase' = .look ∨ phase' = .compare) :
    Counts n phase' visits lost onAir := by
  have hvisited := h.visited
  have herrors := h.errors
  constructor
  · exact h.once
  · exact h.ahead
  · rcases hphase' with rfl | rfl <;> simp
  · rcases hphase with rfl | rfl <;> rcases hphase' with rfl | rfl <;> simpa using hvisited
  · rcases hphase with rfl | rfl <;> rcases hphase' with rfl | rfl <;> simpa using herrors

/-- The message has come back. -/
theorem compare_pass (h : Counts n .compare visits lost 0) (heq : n.txSeqNum = n.rxSeqNum) :
    Counts n.pass .send (visits + 1) lost 0 := by
  have hvisited := h.visited
  have herrors := h.errors
  have hnext : n.txSeqNum + 1 ≠ n.rxSeqNum := by
    rw [← heq]
    simp
  constructor
  · exact h.once
  · exact fun hair => absurd hair (Nat.lt_irrefl 0)
  · exact fun _ => ⟨rfl, hnext⟩
  · rw [ofNat_succ, ← hvisited]
    simp [TestNode.pass, UInt32.add_assoc, UInt32.add_comm 1]
  · simpa [TestNode.pass, heq] using herrors

/-- The message has been lost. -/
theorem compare_fail (h : Counts n .compare visits lost 0) (hne : n.txSeqNum ≠ n.rxSeqNum) :
    Counts n .reset (visits + 1) lost 0 := by
  have hvisited := h.visited
  have herrors := h.errors
  constructor
  · exact h.once
  · exact fun hair => absurd hair (Nat.lt_irrefl 0)
  · exact fun _ => ⟨rfl, hne⟩
  · simpa [ofNat_succ] using hvisited
  · simpa using herrors

theorem reset (h : Counts n .reset visits lost onAir) :
    Counts n.fail .send visits lost onAir := by
  obtain ⟨rfl, hne⟩ := h.quiet (Or.inl rfl)
  have hvisited := h.visited
  have herrors := h.errors
  constructor
  · exact h.once
  · exact fun hair => absurd hair (Nat.lt_irrefl 0)
  · exact fun _ => ⟨rfl, by simp [TestNode.fail]⟩
  · simpa [TestNode.fail, UInt32.add_assoc] using hvisited
  · simpa [TestNode.fail, hne] using herrors

theorem sent (h : Counts n .send visits lost onAir) : Counts n .look visits lost (onAir + 1) := by
  obtain ⟨rfl, hne⟩ := h.quiet (Or.inr rfl)
  have hvisited := h.visited
  have herrors := h.errors
  constructor
  · exact Nat.le_refl 1
  · exact fun _ => hne
  · simp
  · simpa using hvisited
  · simpa using herrors

/-- The message is received. -/
theorem back (h : Counts n phase visits lost (onAir + 1)) :
    Counts { n with rxSeqNum := n.txSeqNum } phase visits lost onAir := by
  have honce := h.once
  have hvisited := h.visited
  have herrors := h.errors
  constructor
  · omega
  · intro hair
    omega
  · intro hphase
    have hquiet := (h.quiet hphase).1
    omega
  · exact hvisited
  · simpa using herrors

/-- The message, or its echo, is lost. -/
theorem gone (h : Counts n phase visits lost (onAir + 1)) :
    Counts n phase visits (lost + 1) onAir := by
  have honce := h.once
  have hne := h.ahead (Nat.succ_pos onAir)
  have herrors := h.errors
  have hphase : ¬ (phase = .reset ∨ phase = .send) := by
    intro hphase
    have hquiet := (h.quiet hphase).1
    omega
  obtain rfl : onAir = 0 := by omega
  constructor
  · exact Nat.zero_le 1
  · exact fun _ => hne
  · exact fun hphase' => absurd hphase' hphase
  · exact h.visited
  · rw [not_or] at hphase
    simpa [ofNat_succ, hne, hphase.2] using herrors

end Counts

/-! ## What a step does to a slot -/

theorem slotOf_eq_some {testNodes : Fin maxTestNodes → TestNode} {addr : UInt16}
    {i : Fin maxTestNodes} :
    slotOf testNodes addr = some i ↔
      (testNodes i).nodeAddr = addr ∧ ∀ j < i, (testNodes j).nodeAddr ≠ addr := by
  rw [slotOf, Fin.find?_eq_some_iff]
  simp

namespace StressTest

variable (g : StressTest)

@[simp] theorem testNodes_setNode (i : Fin maxTestNodes) (n : TestNode) :
    (g.setNode i n).testNodes = Function.update g.testNodes i n := rfl

/-- An announcement takes the first empty slot, if there is one. -/
theorem mtZdoEndDeviceAnnceIndCb_cases (msg : EndDeviceAnnceIndFormat) :
    g.mtZdoEndDeviceAnnceIndCb msg = g ∨ ∃ i, slotOf g.testNodes 0 = some i ∧
      g.mtZdoEndDeviceAnnceIndCb msg = g.setNode i
        { g.testNodes i with txSeqNum := 0, rxSeqNum := 0, nodeAddr := msg.nwkAddr } := by
  unfold mtZdoEndDeviceAnnceIndCb
  cases hslot : slotOf g.testNodes 0 with
  | none => exact Or.inl rfl
  | some i => exact Or.inr ⟨i, rfl, rfl⟩

/-- A test message is noted in the first slot with its source address, if there is one. -/
theorem mtAfIncomingMsgCb_cases (msg : IncomingMsgFormat) (uninit : UInt8)
    (uninit' : Vector UInt8 128) :
    ((g.mtAfIncomingMsgCb 99 msg uninit uninit').1 = g ∧
      (isTestMsg msg = true → slotOf g.testNodes msg.srcAddr = none)) ∨
    ∃ i, isTestMsg msg = true ∧ slotOf g.testNodes msg.srcAddr = some i ∧
      (g.mtAfIncomingMsgCb 99 msg uninit uninit').1 =
        g.setNode i { g.testNodes i with rxSeqNum := data0 msg uninit } := by
  have hcoord : isCoordinator 99 = true := rfl
  unfold mtAfIncomingMsgCb
  rw [if_pos hcoord]
  split_ifs with htest
  · cases hslot : slotOf g.testNodes msg.srcAddr with
    | none => exact Or.inl ⟨rfl, fun _ => rfl⟩
    | some i => exact Or.inr ⟨i, htest, rfl, rfl⟩
  · exact Or.inl ⟨rfl, fun h => absurd h htest⟩

end StressTest

namespace StressNet

/-- How far `appProcess` is with a slot. -/
def stage (w : StressNet) (i : Fin maxTestNodes) : VisitPhase :=
  if w.nodeIdx = i then w.phase else .look

/-- A slot, how far its visit is, and how many there were. -/
def view (w : StressNet) (i : Fin maxTestNodes) : TestNode × VisitPhase × ℕ :=
  (w.slot i, w.stage i, w.visits i)

/-- What a step can make of a slot. -/
inductive Change (w : StressNet) (i : Fin maxTestNodes) : TestNode × VisitPhase × ℕ → Prop
  | keep : Change w i (w.view i)
  | look : w.stage i = .look → (w.slot i).nodeAddr ≠ 0 →
      Change w i (w.slot i, .compare, w.visits i)
  | pass : w.stage i = .compare → (w.slot i).txSeqNum = (w.slot i).rxSeqNum →
      Change w i ((w.slot i).pass, .send, w.visits i + 1)
  | fail : w.stage i = .compare → (w.slot i).txSeqNum ≠ (w.slot i).rxSeqNum →
      Change w i (w.slot i, .reset, w.visits i + 1)
  | reset : w.stage i = .reset → Change w i ((w.slot i).fail, .send, w.visits i)
  | sent : w.stage i = .send → Change w i (w.slot i, .look, w.visits i)
  | announced (addr : UInt16) : slotOf w.coordinator.testNodes 0 = some i →
      Change w i ({ w.slot i with txSeqNum := 0, rxSeqNum := 0, nodeAddr := addr },
        w.stage i, w.visits i)
  | received (src : UInt16) (value : UInt8) : slotOf w.coordinator.testNodes src = some i →
      Change w i ({ w.slot i with rxSeqNum := value }, w.stage i, w.visits i)

variable {w w' : StressNet}

theorem view_eq_iff {i : Fin maxTestNodes} :
    w'.view i = w.view i ↔
      w'.slot i = w.slot i ∧ w'.stage i = w.stage i ∧ w'.visits i = w.visits i := by
  rw [view, view, Prod.mk.injEq, Prod.mk.injEq]

theorem stage_self : w.stage w.nodeIdx = w.phase := if_pos rfl

theorem stage_of_ne {i : Fin maxTestNodes} (h : i ≠ w.nodeIdx) : w.stage i = .look :=
  if_neg fun heq => h heq.symm

theorem stage_of_look {i : Fin maxTestNodes} (h : w.phase = .look) : w.stage i = .look := by
  rw [stage, h]
  exact ite_self _

theorem view_of_ne {v : StressNet} {j : Fin maxTestNodes}
    (hslot : v.slot j = w.slot j) (hidx : v.nodeIdx = w.nodeIdx ∨ v.phase = .look)
    (hvisits : v.visits j = w.visits j) (hj : j ≠ w.nodeIdx) : v.view j = w.view j := by
  have hstage : v.stage j = .look := by
    cases hidx with
    | inl hidx => exact stage_of_ne (hidx ▸ hj)
    | inr hlook => exact stage_of_look hlook
  rw [view, view, hslot, hvisits, hstage, stage_of_ne hj]

/-- `appProcess` changes the slot that it visits. -/
theorem own_view (uninit : Vector UInt8 128) :
    (∀ j ≠ w.nodeIdx, (w.own uninit).view j = w.view j) ∧
      w.Change w.nodeIdx ((w.own uninit).view w.nodeIdx) := by
  have hself := w.stage_self
  unfold own
  cases hphase : w.phase <;> rw [hphase] at hself
  case look =>
    simp only
    split_ifs with haddr
    · constructor
      · exact fun j hj => view_of_ne rfl (Or.inr rfl) rfl hj
      · have hnext : w.next.stage w.nodeIdx = .look := stage_of_look rfl
        have hkeep : w.next.view w.nodeIdx = w.view w.nodeIdx := by
          rw [view, view, hnext, hself]
          rfl
        rw [hkeep]
        exact .keep
    · constructor
      · exact fun j hj => view_of_ne rfl (Or.inl rfl) rfl hj
      · have hlook := Change.look hself haddr
        simpa [view, stage, slot] using hlook
  case compare =>
    simp only
    split_ifs with heq
    · constructor
      · exact fun j hj => view_of_ne (by simp [slot, visiting, visit, hj]) (Or.inl rfl)
          (by simp [visiting, visit, hj]) hj
      · have hpass := Change.pass hself heq
        simpa [view, stage, slot, visiting, visit] using hpass
    · constructor
      · exact fun j hj => view_of_ne (by simp [slot, visiting, visit, hj]) (Or.inl rfl)
          (by simp [visiting, visit, hj]) hj
      · have hfail := Change.fail hself heq
        simpa [view, stage, slot, visiting, visit] using hfail
  case reset =>
    constructor
    · exact fun j hj => view_of_ne (by simp [slot, visiting, hj]) (Or.inl rfl) rfl hj
    · have hreset := Change.reset hself
      simpa [view, stage, slot, visiting] using hreset
  case send =>
    constructor
    · exact fun j hj => view_of_ne rfl (Or.inr rfl) rfl hj
    · rw [view, stage_of_look rfl]
      exact Change.sent hself

/-- A callback changes one slot at most, and `appProcess` does not go on meanwhile. -/
theorem callback_view {v : StressNet} (hidx : v.nodeIdx = w.nodeIdx) (hphase : v.phase = w.phase)
    (hvisits : v.visits = w.visits)
    (hslots : v.coordinator = w.coordinator ∨ ∃ i n, v.coordinator = w.coordinator.setNode i n ∧
      w.Change i (n, w.stage i, w.visits i)) :
    ∃ i, (∀ j ≠ i, v.view j = w.view j) ∧ w.Change i (v.view i) := by
  have hstage : v.stage = w.stage := by
    funext i
    rw [stage, stage, hidx, hphase]
  rcases hslots with hsame | ⟨i, n, hset, hchange⟩
  · have hview : v.view = w.view := by
      funext j
      rw [view, view, slot, slot, hsame, hstage, hvisits]
    exact ⟨0, fun j _ => congrFun hview j, hview ▸ .keep⟩
  · refine ⟨i, fun j hj => ?_, ?_⟩
    · rw [view, view, slot, slot, hset, hstage, hvisits]
      simp [hj]
    · rw [view, slot, hset, hstage, hvisits]
      simpa using hchange

theorem note_change (msg : IncomingMsgFormat) (uninit : UInt8) (uninit' : Vector UInt8 128) :
    (w.coordinator.mtAfIncomingMsgCb 99 msg uninit uninit').1 = w.coordinator ∨
      ∃ i n, (w.coordinator.mtAfIncomingMsgCb 99 msg uninit uninit').1 = w.coordinator.setNode i n ∧
        w.Change i (n, w.stage i, w.visits i) := by
  rcases w.coordinator.mtAfIncomingMsgCb_cases msg uninit uninit' with h | ⟨i, -, hslot, h⟩
  · exact Or.inl h.1
  · exact Or.inr ⟨i, _, h, .received msg.srcAddr _ hslot⟩

/-- **A step changes one slot at most**, in one of eight ways. -/
theorem step_view {e : StressEvent} (hstep : w.step e = some w') :
    ∃ i, (∀ j ≠ i, w'.view j = w.view j) ∧ w.Change i (w'.view i) := by
  cases e with
  | own uninit =>
    obtain rfl := Option.some.inj hstep
    exact ⟨w.nodeIdx, w.own_view uninit⟩
  | announce msg =>
    obtain rfl := Option.some.inj hstep
    refine callback_view (w := w) rfl rfl rfl ?_
    rcases w.coordinator.mtZdoEndDeviceAnnceIndCb_cases msg with h | ⟨i, hslot, h⟩
    · exact Or.inl h
    · exact Or.inr ⟨i, _, h, .announced msg.nwkAddr hslot⟩
  | deliver k rest uninit =>
    obtain ⟨p, -, rfl⟩ := Option.map_eq_some_iff.mp hstep
    unfold received
    split_ifs
    · exact callback_view (w := w) rfl rfl rfl (note_change (w := w) _ _ _)
    · exact callback_view (w := w) rfl rfl rfl (Or.inl rfl)
  | lose k =>
    obtain ⟨p, -, rfl⟩ := Option.map_eq_some_iff.mp hstep
    exact callback_view (w := w) rfl rfl rfl (Or.inl rfl)
  | other msg uninit =>
    obtain rfl := Option.some.inj hstep
    exact callback_view (w := w) rfl rfl rfl (note_change (w := w) _ _ _)

/-! ## The table -/

/-- Nothing is counted in an empty slot. -/
def Unused (v : TestNode × VisitPhase × ℕ) : Prop :=
  v.1.nodeAddr = 0 → v.1.passCnt = 0 ∧ v.1.errorCnt = 0 ∧ v.2 = (.look, 0)

/-- The slots are taken in order. -/
structure Table (w : StressNet) : Prop where
  filled : ∀ i j, i < j → (w.slot j).nodeAddr ≠ 0 → (w.slot i).nodeAddr ≠ 0
  unused : ∀ i, Unused (w.view i)

/-- Only an announcement changes an address. -/
theorem Change.addr {k : Fin maxTestNodes} {v : TestNode × VisitPhase × ℕ} (h : w.Change k v) :
    v.1.nodeAddr = (w.slot k).nodeAddr ∨ slotOf w.coordinator.testNodes 0 = some k := by
  cases h with
  | announced addr hslot => exact Or.inr hslot
  | _ => exact Or.inl rfl

theorem Change.unused {k : Fin maxTestNodes} {v : TestNode × VisitPhase × ℕ} (h : w.Change k v)
    (hunused : Unused (w.view k)) : Unused v := by
  have hlook : (w.slot k).nodeAddr = 0 → w.stage k = .look :=
    fun haddr => congrArg Prod.fst (hunused haddr).2.2
  cases h with
  | keep => exact hunused
  | look hstage haddr => exact fun hzero => absurd hzero haddr
  | pass hstage _ | fail hstage _ | reset hstage | sent hstage =>
    intro hzero
    have hstage' := hlook hzero
    rw [hstage] at hstage'
    cases hstage'
  | announced addr hslot => exact fun _ => hunused (slotOf_eq_some.mp hslot).1
  | received src value hslot => exact hunused

theorem Table.step (h : Table w) {e : StressEvent} (hstep : w.step e = some w') : Table w' := by
  obtain ⟨k, hothers, hchange⟩ := step_view hstep
  have hslots : ∀ j ≠ k, w'.slot j = w.slot j := fun j hj => (view_eq_iff.mp (hothers j hj)).1
  constructor
  · intro i j hij hj
    cases hchange.addr with
    | inl hsame =>
      have haddr : ∀ l, (w'.slot l).nodeAddr = (w.slot l).nodeAddr := by
        intro l
        by_cases hl : l = k
        · exact hl ▸ hsame
        · rw [hslots l hl]
      rw [haddr] at hj ⊢
      exact h.filled i j hij hj
    | inr hslot =>
      -- the slots before the first empty one are taken, those behind it are empty
      obtain ⟨hempty, hbefore⟩ := slotOf_eq_some.mp hslot
      by_cases hjk : j = k
      · subst hjk
        rw [hslots i (Fin.ne_of_lt hij)]
        exact hbefore i hij
      · rw [hslots j hjk] at hj
        have hi := h.filled i j hij hj
        have hik : i ≠ k := by
          rintro rfl
          exact hi hempty
        rwa [hslots i hik]
  · intro i
    by_cases hi : i = k
    · subst hi
      exact hchange.unused (h.unused i)
    · rw [hothers i hi]
      exact h.unused i

/-! ## Announced twice -/

/-- A packet carries a number to the node at an address, or back. -/
structure Probe (addr : UInt16) (seqNum : UInt8) (p : Packet) : Prop where
  addr_ne : addr ≠ 0
  cluster : p.req.clusterID = testCluster
  len : p.req.len = 1
  data : p.req.data[0] = seqNum
  way : p.src = 0 ∧ p.req.dstAddr = addr ∨ p.src = addr ∧ p.req.dstAddr = 0

namespace Probe

variable {addr : UInt16} {seqNum : UInt8} {p : Packet}

theorem node_eq (h : Probe addr seqNum p) : p.node = addr := by
  rcases h.way with ⟨-, hdst⟩ | ⟨hsrc, hdst⟩
  · rw [Packet.node, hdst, if_neg h.addr_ne]
  · rw [Packet.node, hdst, if_pos rfl, hsrc]

theorem isTestMsg (h : Probe addr seqNum p) (rest : IncomingMsgFormat) :
    StressTest.isTestMsg (p.msg rest) = true := by
  simp [StressTest.isTestMsg, Packet.msg, h.cluster, h.len]

theorem data0 (h : Probe addr seqNum p) (rest : IncomingMsgFormat) (uninit : UInt8) :
    StressTest.data0 (p.msg rest) uninit = seqNum := by
  have hlen : p.req.len.toNat = 1 := by
    rw [h.len]
    rfl
  simp [StressTest.data0, Packet.msg, CArray.ofList, hlen, h.data]

/-- What the coordinator sends. -/
theorem sent (g : StressTest) (uninit : Vector UInt8 128) (haddr : addr ≠ 0) :
    Probe addr seqNum ⟨0, (g.sendTestMsg uninit addr seqNum).2⟩ where
  addr_ne := haddr
  cluster := rfl
  len := rfl
  data := by simp [StressTest.sendTestMsg]
  way := Or.inl ⟨rfl, rfl⟩

/-- What a node answers. -/
theorem echoed (h : Probe addr seqNum p) (hsrc : p.src = 0) (g : StressTest)
    (rest : IncomingMsgFormat) (uninit : Vector UInt8 128) :
    ∃ req, (g.mtAfIncomingMsgCb 114 (p.msg rest) 0 uninit).2 = some req ∧
      Probe addr seqNum ⟨addr, req⟩ := by
  have hsend : (g.mtAfIncomingMsgCb 114 (p.msg rest) 0 uninit).2 =
      some (g.sendTestMsg uninit 0 seqNum).2 := by
    have hrole : ¬ isCoordinator 114 = true := by decide
    rw [StressTest.mtAfIncomingMsgCb, if_pos (h.isTestMsg rest), if_neg hrole, h.data0]
    simp only [Packet.msg, hsrc]
  refine ⟨_, hsend, ?_⟩
  constructor
  · exact h.addr_ne
  · rfl
  · rfl
  · simp [StressTest.sendTestMsg]
  · exact Or.inr ⟨rfl, rfl⟩

end Probe

/-- The packets on the air from or to a node. -/
def onAir (w : StressNet) (addr : UInt16) : ℕ := w.air.countP fun p => p.node = addr

theorem onAir_congr (h : w'.air = w.air) : w'.onAir = w.onAir := by
  funext addr
  rw [onAir, onAir, h]

/-! ## No message comes late -/

/-- The previous message has come back or is lost when a visit compares the numbers, no node
announces itself twice, and nobody else sends test messages under the address of a node. -/
def Timely (w : StressNet) : StressEvent → Prop
  | .own _ => w.phase = .compare → w.onAir (w.slot w.nodeIdx).nodeAddr = 0
  | .announce msg => msg.nwkAddr ≠ 0 ∧ ∀ i, (w.slot i).nodeAddr ≠ msg.nwkAddr
  | .deliver _ _ _ | .lose _ => True
  | .other msg _ => StressTest.isTestMsg msg = true →
      ∀ i, (w.slot i).nodeAddr = msg.srcAddr → msg.srcAddr = 0

instance (w : StressNet) : DecidablePred w.Timely
  | .own _ => inferInstanceAs (Decidable (w.phase = .compare → _))
  | .announce msg =>
    inferInstanceAs (Decidable (msg.nwkAddr ≠ 0 ∧ ∀ i, (w.slot i).nodeAddr ≠ msg.nwkAddr))
  | .deliver _ _ _ | .lose _ => inferInstanceAs (Decidable True)
  | .other msg _ => inferInstanceAs (Decidable (StressTest.isTestMsg msg = true →
      ∀ i, (w.slot i).nodeAddr = msg.srcAddr → msg.srcAddr = 0))

/-- The counters of all nodes agree with what has happened. -/
structure Counted (w : StressNet) : Prop where
  distinct : ∀ i j, (w.slot i).nodeAddr ≠ 0 → (w.slot i).nodeAddr = (w.slot j).nodeAddr → i = j
  air : ∀ p ∈ w.air, ∃ i, Probe (w.slot i).nodeAddr (w.slot i).txSeqNum p
  new : ∀ addr ≠ 0, (∀ i, (w.slot i).nodeAddr ≠ addr) → w.lost addr = 0
  counts : ∀ i, (w.slot i).nodeAddr ≠ 0 → Counts (w.slot i) (w.stage i) (w.visits i)
    (w.lost (w.slot i).nodeAddr) (w.onAir (w.slot i).nodeAddr)

namespace Counted

/-- Only one node is concerned. -/
theorem update (h : Counted w) (k : Fin maxTestNodes)
    (hothers : ∀ j ≠ k, w'.view j = w.view j)
    (haddr : (w'.slot k).nodeAddr = (w.slot k).nodeAddr)
    (hlost : ∀ addr ≠ (w.slot k).nodeAddr, w'.lost addr = w.lost addr)
    (honAir : ∀ addr ≠ (w.slot k).nodeAddr, w'.onAir addr = w.onAir addr)
    (hair : ∀ p ∈ w'.air,
      p ∈ w.air ∧ (p.node = (w.slot k).nodeAddr → (w'.slot k).txSeqNum = (w.slot k).txSeqNum) ∨
        Probe (w.slot k).nodeAddr (w'.slot k).txSeqNum p)
    (hcounts : (w.slot k).nodeAddr ≠ 0 → Counts (w'.slot k) (w'.stage k) (w'.visits k)
      (w'.lost (w.slot k).nodeAddr) (w'.onAir (w.slot k).nodeAddr)) : Counted w' := by
  have hslots : ∀ j ≠ k, w'.slot j = w.slot j := fun j hj => (view_eq_iff.mp (hothers j hj)).1
  have haddrs : ∀ j, (w'.slot j).nodeAddr = (w.slot j).nodeAddr := by
    intro j
    by_cases hj : j = k
    · exact hj ▸ haddr
    · rw [hslots j hj]
  constructor
  · intro i j hi hij
    rw [haddrs] at hi
    rw [haddrs, haddrs] at hij
    exact h.distinct i j hi hij
  · intro p hp
    rcases hair p hp with ⟨hold, htx⟩ | hprobe
    · obtain ⟨i, hprobe⟩ := h.air p hold
      refine ⟨i, ?_⟩
      by_cases hi : i = k
      · subst hi
        rwa [haddrs, htx hprobe.node_eq]
      · rwa [hslots i hi]
    · exact ⟨k, haddr.symm ▸ hprobe⟩
  · intro addr hne hnew
    simp only [haddrs] at hnew
    rw [hlost addr fun heq => hnew k heq.symm]
    exact h.new addr hne hnew
  · intro i hi
    rw [haddrs] at hi ⊢
    by_cases hik : i = k
    · subst hik
      exact hcounts hi
    · have hne : (w.slot i).nodeAddr ≠ (w.slot k).nodeAddr := fun heq => hik (h.distinct i k hi heq)
      obtain ⟨hslot, hstage, hvisits⟩ := view_eq_iff.mp (hothers i hik)
      rw [hslot, hstage, hvisits, hlost _ hne, honAir _ hne]
      exact h.counts i hi

/-- `appProcess` goes on, and no packet leaves or arrives. -/
theorem own_air (h : Counted w) (hair : w'.air = w.air) (hlost : w'.lost = w.lost)
    (hothers : ∀ j ≠ w.nodeIdx, w'.view j = w.view j)
    (haddr : (w'.slot w.nodeIdx).nodeAddr = (w.slot w.nodeIdx).nodeAddr)
    (htx : (w'.slot w.nodeIdx).txSeqNum = (w.slot w.nodeIdx).txSeqNum ∨
      w.onAir (w.slot w.nodeIdx).nodeAddr = 0)
    (hcounts : (w.slot w.nodeIdx).nodeAddr ≠ 0 → Counts (w'.slot w.nodeIdx) (w'.stage w.nodeIdx)
      (w'.visits w.nodeIdx) (w.lost (w.slot w.nodeIdx).nodeAddr)
      (w.onAir (w.slot w.nodeIdx).nodeAddr)) : Counted w' := by
  have honAir := onAir_congr hair
  apply h.update w.nodeIdx hothers haddr
  · exact fun _ _ => congrFun hlost _
  · exact fun _ _ => congrFun honAir _
  · intro p hp
    rw [hair] at hp
    refine Or.inl ⟨hp, fun hnode => ?_⟩
    cases htx with
    | inl hsame => exact hsame
    | inr hquiet =>
      have hnone := List.countP_eq_zero.mp hquiet p hp
      exact absurd hnode (by simpa using hnone)
  · rw [hlost, honAir]
    exact hcounts

theorem own (h : Counted w) (htable : Table w) (uninit : Vector UInt8 128)
    (htimely : w.Timely (.own uninit)) : Counted (w.own uninit) := by
  have hself := w.stage_self
  have hothers := (w.own_view uninit).1
  have hcounts := h.counts w.nodeIdx
  have hused : w.phase ≠ .look → (w.slot w.nodeIdx).nodeAddr ≠ 0 := by
    intro hphase haddr
    have hlook := congrArg Prod.fst (htable.unused w.nodeIdx haddr).2.2
    exact hphase (hself.symm.trans hlook)
  rw [hself] at hcounts
  unfold StressNet.own at hothers ⊢
  cases hphase : w.phase <;> rw [hphase] at hcounts <;> simp only [hphase] at hothers ⊢
  case look =>
    split_ifs at hothers ⊢ with haddr
    · exact h.own_air rfl rfl hothers rfl (Or.inl rfl) fun hne => absurd haddr hne
    · refine h.own_air rfl rfl hothers rfl (Or.inl rfl) fun hne => ?_
      have hcompare := (hcounts hne).between (Or.inl rfl) (Or.inr rfl)
      simpa [stage, slot] using hcompare
  case compare =>
    have hquiet := htimely hphase
    have hne := hused (by simp [hphase])
    rw [hquiet] at hcounts
    split_ifs at hothers ⊢ with heq
    · refine h.own_air rfl rfl hothers ?_ ?_ ?_
      · simp [slot, visiting, TestNode.pass, visit]
      · exact Or.inr hquiet
      · intro _
        have hpass := (hcounts hne).compare_pass heq
        rw [hquiet]
        simpa [stage, slot, visiting, visit] using hpass
    · refine h.own_air rfl rfl hothers ?_ ?_ ?_
      · simp [slot, visiting, visit]
      · exact Or.inr hquiet
      · intro _
        have hfail := (hcounts hne).compare_fail heq
        rw [hquiet]
        simpa [stage, slot, visiting, visit] using hfail
  case reset =>
    have hne := hused (by simp [hphase])
    have hquiet := ((hcounts hne).quiet (Or.inl rfl)).1
    refine h.own_air rfl rfl hothers ?_ ?_ ?_
    · simp [slot, visiting, TestNode.fail]
    · exact Or.inr hquiet
    · intro _
      have hreset := (hcounts hne).reset
      simpa [stage, slot, visiting] using hreset
  case send =>
    have hne := hused (by simp [hphase])
    have hprobe : Probe (w.slot w.nodeIdx).nodeAddr (w.slot w.nodeIdx).txSeqNum
        ⟨0, (w.coordinator.sendTestMsg uninit _ _).2⟩ := Probe.sent w.coordinator uninit hne
    refine h.update w.nodeIdx hothers rfl ?_ ?_ ?_ ?_
    · exact fun _ _ => rfl
    · intro addr haddr
      simp [onAir, next, List.countP_append, hprobe.node_eq, haddr.symm]
    · intro p hp
      cases List.mem_append.mp hp with
      | inl hold => exact Or.inl ⟨hold, fun _ => rfl⟩
      | inr hnew =>
        rw [List.mem_singleton.mp hnew]
        exact Or.inr hprobe
    · intro _
      have hsent := (hcounts hne).sent
      rw [stage_of_look rfl]
      have hone : List.countP (fun p => p.node = (w.slot w.nodeIdx).nodeAddr) (w.air ++
          [⟨0, (w.coordinator.sendTestMsg uninit (w.slot w.nodeIdx).nodeAddr
            (w.slot w.nodeIdx).txSeqNum).2⟩]) = w.onAir (w.slot w.nodeIdx).nodeAddr + 1 := by
        simp [onAir, List.countP_append, hprobe.node_eq]
      rw [← hone] at hsent
      exact hsent

/-- A new node is entered in an empty slot. -/
theorem enter (h : Counted w) {k : Fin maxTestNodes} {addr : UInt16}
    (hempty : (w.slot k).nodeAddr = 0) (hunused : (w.view k).2 = (.look, 0)) (hne : addr ≠ 0)
    (hnew : ∀ i, (w.slot i).nodeAddr ≠ addr) (hk : w'.slot k = ⟨addr, 0, 0, 0, 0⟩)
    (hothers : ∀ j ≠ k, w'.slot j = w.slot j) (hair : w'.air = w.air) (hlost : w'.lost = w.lost)
    (hstage : w'.stage = w.stage) (hvisits : w'.visits = w.visits) : Counted w' := by
  have honAir := onAir_congr hair
  constructor
  · intro i j hi hij
    by_cases hik : i = k <;> by_cases hjk : j = k
    · exact hik.trans hjk.symm
    · rw [hik, hk, hothers j hjk] at hij
      exact absurd hij.symm (hnew j)
    · rw [hjk, hk, hothers i hik] at hij
      exact absurd hij (hnew i)
    · rw [hothers i hik] at hi
      rw [hothers i hik, hothers j hjk] at hij
      exact h.distinct i j hi hij
  · intro p hp
    rw [hair] at hp
    obtain ⟨i, hprobe⟩ := h.air p hp
    have hik : i ≠ k := by
      rintro rfl
      exact hprobe.addr_ne hempty
    exact ⟨i, (hothers i hik).symm ▸ hprobe⟩
  · intro addr' hne' hout
    rw [hlost]
    refine h.new addr' hne' fun i => ?_
    by_cases hik : i = k
    · rw [hik, hempty]
      exact hne'.symm
    · rw [← hothers i hik]
      exact hout i
  · intro i hi
    rw [hstage, hvisits, hlost, honAir]
    by_cases hik : i = k
    · have hquiet : w.onAir addr = 0 := by
        rw [onAir, List.countP_eq_zero]
        intro p hp
        obtain ⟨j, hprobe⟩ := h.air p hp
        simpa [hprobe.node_eq] using hnew j
      obtain ⟨hstage', hvisits'⟩ := Prod.mk.inj hunused
      rw [hik, hk, hstage', hvisits', h.new addr hne hnew, hquiet]
      exact Counts.fresh addr
    · rw [hothers i hik] at hi ⊢
      exact h.counts i hi

theorem announce (h : Counted w) (htable : Table w) {msg : EndDeviceAnnceIndFormat}
    (htimely : w.Timely (.announce msg)) :
    Counted { w with coordinator := w.coordinator.mtZdoEndDeviceAnnceIndCb msg } := by
  obtain ⟨hne, hnew⟩ := htimely
  rcases w.coordinator.mtZdoEndDeviceAnnceIndCb_cases msg with hsame | ⟨k, hslot, hset⟩
  · rw [hsame]
    exact h
  · have hempty : (w.slot k).nodeAddr = 0 := (slotOf_eq_some.mp hslot).1
    obtain ⟨hpass, herr, hunused⟩ := htable.unused k hempty
    have hpass' : (w.coordinator.testNodes k).passCnt = 0 := hpass
    have herr' : (w.coordinator.testNodes k).errorCnt = 0 := herr
    rw [hset]
    refine h.enter hempty hunused hne hnew ?_ ?_ rfl rfl rfl rfl
    · simp [slot, hpass', herr']
    · intro j hj
      simp [slot, hj]

/-- A packet that arrives or is lost has been on the air. -/
theorem taken (h : Counted w) {k : ℕ} {p : Packet} (hp : w.air[k]? = some p) :
    ∃ i, Probe (w.slot i).nodeAddr (w.slot i).txSeqNum p ∧
      (p :: w.air.eraseIdx k).Perm w.air := by
  obtain ⟨hk, rfl⟩ := List.getElem?_eq_some_iff.mp hp
  obtain ⟨i, hprobe⟩ := h.air w.air[k] (List.getElem_mem hk)
  exact ⟨i, hprobe, List.getElem_cons_eraseIdx_perm hk⟩

/-- The packets that are left when one has been taken. -/
theorem onAir_taken {p : Packet} {i : Fin maxTestNodes} {rest : List Packet}
    (hprobe : Probe (w.slot i).nodeAddr (w.slot i).txSeqNum p) (hperm : (p :: rest).Perm w.air)
    (addr : UInt16) :
    w.onAir addr = rest.countP (fun p => p.node = addr) +
      if (w.slot i).nodeAddr = addr then 1 else 0 := by
  rw [onAir, ← hperm.countP_eq, List.countP_cons, hprobe.node_eq]
  simp

theorem lose (h : Counted w) {k : ℕ} {p : Packet} (hp : w.air[k]? = some p) :
    Counted { w with
      air := w.air.eraseIdx k,
      lost := Function.update w.lost p.node (w.lost p.node + 1) } := by
  obtain ⟨i, hprobe, hperm⟩ := h.taken hp
  have hair := onAir_taken hprobe hperm
  refine h.update i (fun _ _ => rfl) rfl ?_ ?_ ?_ ?_
  · intro addr hne
    simp [hprobe.node_eq, hne]
  · intro addr hne
    have haddr := hair addr
    rw [if_neg hne.symm] at haddr
    exact haddr.symm
  · exact fun p' hp' => Or.inl ⟨hperm.subset (List.mem_cons_of_mem p hp'), fun _ => rfl⟩
  · intro hne
    have hcounts := h.counts i hne
    have haddr := hair (w.slot i).nodeAddr
    rw [if_pos rfl] at haddr
    rw [haddr] at hcounts
    change Counts (w.slot i) (w.stage i) (w.visits i)
      (Function.update w.lost p.node (w.lost p.node + 1) (w.slot i).nodeAddr) _
    rw [hprobe.node_eq, Function.update_self]
    exact hcounts.gone

/-- A node has one slot. -/
theorem slotOf_addr (h : Counted w) {i : Fin maxTestNodes} (hi : (w.slot i).nodeAddr ≠ 0) :
    slotOf w.coordinator.testNodes (w.slot i).nodeAddr = some i := by
  rw [slotOf_eq_some]
  refine ⟨rfl, fun j hj heq => ?_⟩
  exact Fin.ne_of_lt hj (h.distinct i j hi heq.symm).symm

theorem received (h : Counted w) {k : ℕ} {p : Packet} (hp : w.air[k]? = some p)
    (rest : IncomingMsgFormat) (uninit : Vector UInt8 128) :
    Counted (({ w with air := w.air.eraseIdx k } : StressNet).received p rest uninit) := by
  obtain ⟨i, hprobe, hperm⟩ := h.taken hp
  have hair := onAir_taken hprobe hperm
  have hcounts := h.counts i hprobe.addr_ne
  have hself := hair (w.slot i).nodeAddr
  rw [if_pos rfl] at hself
  rw [hself] at hcounts
  have hleft : ∀ p' ∈ w.air.eraseIdx k, p' ∈ w.air :=
    fun p' hp' => hperm.subset (List.mem_cons_of_mem p hp')
  unfold StressNet.received
  rcases hprobe.way with ⟨hsrc, hdst⟩ | ⟨hsrc, hdst⟩
  · -- the node sends the number back
    rw [if_neg (hdst ▸ hprobe.addr_ne)]
    obtain ⟨req, hreq, hecho⟩ := hprobe.echoed hsrc (w.nodes (w.slot i).nodeAddr) rest
      uninit
    simp only [hdst, hreq, Option.toList_some, List.map_singleton]
    refine h.update i (fun _ _ => rfl) rfl (fun _ _ => rfl) ?_ ?_ ?_
    · intro addr hne
      have haddr := hair addr
      rw [if_neg hne.symm] at haddr
      rw [haddr, onAir, List.countP_append]
      simp [hecho.node_eq, hne.symm]
    · intro p' hp'
      cases List.mem_append.mp hp' with
      | inl hold => exact Or.inl ⟨hleft p' hold, fun _ => rfl⟩
      | inr hnew =>
        rw [List.mem_singleton.mp hnew]
        exact Or.inr hecho
    · intro _
      have hone : List.countP (fun p => p.node = (w.slot i).nodeAddr)
          (w.air.eraseIdx k ++ [⟨(w.slot i).nodeAddr, req⟩]) =
          (w.air.eraseIdx k).countP (fun p => p.node = (w.slot i).nodeAddr) + 1 := by
        rw [List.countP_append]
        simp [hecho.node_eq]
      rw [← hone] at hcounts
      exact hcounts
  · rw [if_pos hdst]
    have hslot := h.slotOf_addr hprobe.addr_ne
    rcases w.coordinator.mtAfIncomingMsgCb_cases (p.msg rest) 0 uninit with
      ⟨-, hnone⟩ | ⟨i', -, hslot', hset⟩
    · have hnone' : slotOf w.coordinator.testNodes p.src = none := hnone (hprobe.isTestMsg rest)
      rw [hsrc, hslot] at hnone'
      cases hnone'
    · have hsame : slotOf w.coordinator.testNodes p.src = some i' := hslot'
      rw [hsrc, hslot] at hsame
      obtain rfl := Option.some.inj hsame
      rw [hset, hprobe.data0]
      refine h.update i ?_ ?_ (fun _ _ => rfl) ?_ ?_ ?_
      · intro j hj
        simp [view, slot, stage, hj]
      · simp [slot]
      · intro addr hne
        have haddr := hair addr
        rw [if_neg hne.symm] at haddr
        exact haddr.symm
      · intro p' hp'
        exact Or.inl ⟨hleft p' hp', fun _ => by simp [slot]⟩
      · intro _
        change Counts (Function.update w.coordinator.testNodes i _ i) _ _ _ _
        rw [Function.update_self]
        exact hcounts.back

/-- A message from elsewhere is at most noted in an empty slot. -/
theorem other (h : Counted w) {msg : IncomingMsgFormat} {uninit : UInt8}
    (htimely : w.Timely (.other msg uninit)) (uninit' : Vector UInt8 128) :
    Counted { w with
      coordinator := (w.coordinator.mtAfIncomingMsgCb 99 msg uninit uninit').1 } := by
  rcases w.coordinator.mtAfIncomingMsgCb_cases msg uninit uninit' with
    ⟨hsame, -⟩ | ⟨i, htest, hslot, hset⟩
  · rw [hsame]
    exact h
  · have haddr : (w.slot i).nodeAddr = msg.srcAddr := (slotOf_eq_some.mp hslot).1
    have hempty := haddr.trans (htimely htest i haddr)
    rw [hset]
    refine h.update i ?_ ?_ (fun _ _ => rfl) (fun _ _ => rfl) ?_ ?_
    · intro j hj
      simp [view, slot, stage, hj]
    · simp [slot]
    · exact fun p hp => Or.inl ⟨hp, fun _ => by simp [slot]⟩
    · exact fun hne => absurd hempty hne

theorem step (h : Counted w) (htable : Table w) {e : StressEvent} (htimely : w.Timely e)
    (hstep : w.step e = some w') : Counted w' := by
  cases e with
  | own uninit =>
    obtain rfl := Option.some.inj hstep
    exact h.own htable uninit htimely
  | announce msg =>
    obtain rfl := Option.some.inj hstep
    exact h.announce htable htimely
  | deliver k rest uninit =>
    obtain ⟨p, hp, rfl⟩ := Option.map_eq_some_iff.mp hstep
    exact h.received hp rest uninit
  | lose k =>
    obtain ⟨p, hp, rfl⟩ := Option.map_eq_some_iff.mp hstep
    exact h.lose hp
  | other msg uninit =>
    obtain rfl := Option.some.inj hstep
    exact h.other htimely _

end Counted

end StressNet

end ZnpHost.Apps
