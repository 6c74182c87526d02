import ZnpHost.Lib.Transition
import ZnpHost.Rpc.Receive

/-!
# The threads of the RPC layer

Any number of application threads, each inside `rpcSendFrame` or
`llq_timedreceive`, and the RPC thread inside `rpcProcess`, over the shared
semaphores, the expected identifier, the message queue and the transport.  A step
is one access to what the threads share, or one round of the loop that prints a frame;
a schedule is a list of actions.  The print of an SRSP that is not expected ends the
process, and no step follows.

## Main definitions

* `Call`, `MtMsg` — the arguments of `rpcSendFrame`, and a message the RPC thread
  has checked.
* `Pc`, `RpcPc` — where an application thread and the RPC thread are.
* `World`, `Action`, `step` — the state, the choices of the scheduler and the
  executable step.
* `Step`, `Step.of_step` — everything one step can do.
* `exec_rx` — the RPC thread running alone computes `rpcDispatch`.
-/

namespace ZnpHost.Rpc

open Lib

/-! ## Calls and messages -/

/-- The arguments of `rpcSendFrame`, with a payload of `payload_len` bytes.  The length is
eight bits wide. -/
structure Call where
  cmd0 : UInt8
  cmd1 : UInt8
  payload : List UInt8
  payload_lt : payload.length < 256
  deriving DecidableEq

namespace Call

variable (c : Call)

/-- A synchronous request. -/
def isSreq : Prop := cmdType c.cmd0 = mtRpcCmdSreq

instance : Decidable c.isSreq := inferInstanceAs (Decidable (_ = _))

/-- `payload_len`. -/
def payloadLen : UInt8 := UInt8.ofNat c.payload.length

/-- The bytes handed to `rpcTransportWrite`. -/
def tx : List UInt8 :=
  rpcSendFrameTx c.cmd0 c.cmd1 (Mem.ofList c.payload fun _ => 0) c.payloadLen fun _ => 0

/-- A frame of the protocol, as a call. -/
def ofFrame (f : MtFrame) : Call where
  cmd0 := f.cmd0
  cmd1 := f.cmd1
  payload := f.payload
  payload_lt := Nat.lt_of_le_of_lt f.payload_le (by decide)

theorem tx_ofFrame (f : MtFrame) : (ofFrame f).tx = f.wire :=
  rpcSendFrameTx_eq_wire f _ _

end Call

/-- A message whose checksum agrees: `cmd0`, `cmd1`, payload and checksum. -/
structure MtMsg where
  cmd0 : UInt8
  cmd1 : UInt8
  data : List UInt8
  deriving DecidableEq, Repr

namespace MtMsg

/-- The bytes put on the queue. -/
def bytes (m : MtMsg) : List UInt8 := m.cmd0 :: m.cmd1 :: m.data

/-- A synchronous response. -/
def isSrsp (m : MtMsg) : Prop := cmdType m.cmd0 = mtRpcCmdSrsp

instance (m : MtMsg) : Decidable m.isSrsp := inferInstanceAs (Decidable (_ = _))

/-- The message in the receive buffer of `rpcProcess`. -/
def ofBuff (rpcBuff : Mem) (rpcLen : UInt8) : MtMsg :=
  ⟨rpcBuff 1, rpcBuff 2, (rpcBuff.shift 3).take (rpcLen.toNat - 2)⟩

@[simp] theorem cmd0_ofBuff (rpcBuff : Mem) (rpcLen : UInt8) :
    (ofBuff rpcBuff rpcLen).cmd0 = rpcBuff 1 := rfl

theorem bytes_ofBuff {rpcBuff : Mem} {rpcLen : UInt8} (h : 2 ≤ rpcLen.toNat) :
    (ofBuff rpcBuff rpcLen).bytes = (rpcBuff.shift 1).take rpcLen.toNat := by
  obtain ⟨n, hn⟩ := Nat.exists_eq_add_of_le' h
  rw [hn, Mem.take_succ, Mem.take_succ, Mem.shift_shift, Mem.shift_shift]
  simp [bytes, ofBuff, hn, Mem.shift]

/-- Messages with the same bytes are the same message. -/
theorem bytes_injective {m m' : MtMsg} (h : m.bytes = m'.bytes) : m = m' := by
  cases m
  cases m'
  simpa [bytes] using h

end MtMsg

/-! ## Control states -/

/-- Where an application thread is. -/
inductive Pc
  | idle
  /-- At `sem_wait(&rpcSem)`. -/
  | semWait (c : Call)
  /-- Header filled in, `expectedSrspCmdId` not set yet. -/
  | setExpected (c : Call)
  /-- In `rpcTransportWrite`, with the bytes still to be written. -/
  | write (c : Call) (left : List UInt8)
  /-- In the loop of `printRpcMsg`, at the test of its counter. -/
  | print (c : Call) (i : UInt8)
  /-- At `sem_timedwait(&srspSem)`. -/
  | timedWait (c : Call)
  /-- The wait is over, `expectedSrspCmdId` not reset yet. -/
  | setInvalid (c : Call) (status : UInt8)
  /-- At `sem_post(&rpcSem)`. -/
  | semPost (c : Call) (status : UInt8)
  /-- `rpcSendFrame` has returned. -/
  | sent (c : Call) (status : UInt8)
  /-- In `llq_timedreceive`, at the wait on `llqCountSem`, which has an end if `timed`. -/
  | countWait (timed : Bool)
  /-- At the test `head != NULL`. -/
  | headTest
  /-- At `sem_wait(&llqAccessSem)`. -/
  | accessWait
  /-- About to copy and unlink the head. -/
  | unlink
  /-- At `sem_post(&llqAccessSem)`. -/
  | accessPost (msg : List UInt8)
  /-- `llq_timedreceive` has returned a message, nothing, or `-1`. -/
  | received (msg : Option (List UInt8))
  deriving DecidableEq

/-- Where the RPC thread is; it carries the message in its receive buffer. -/
inductive RpcPc
  /-- Reading the next frame. -/
  | idle
  /-- An SRSP, about to be compared with `expectedSrspCmdId`. -/
  | compare (m : MtMsg)
  /-- At `sem_post(&srspSem)`. -/
  | post (m : MtMsg)
  /-- In `llq_add`, at `sem_wait(&llqAccessSem)`; `prio` asks for the head of the queue. -/
  | accessWait (m : MtMsg) (prio : Bool)
  /-- About to link the new node. -/
  | link (m : MtMsg) (prio : Bool)
  /-- At `sem_post(&llqAccessSem)`. -/
  | accessPost
  /-- At `sem_post(&llqCountSem)`. -/
  | countPost
  /-- In the print of an SRSP that was not expected, which ends the process. -/
  | killed
  deriving DecidableEq

/-- What a run is remembered by. -/
inductive Event (τ : Type)
  /-- A thread set `expectedSrspCmdId`. -/
  | expect (t : τ) (c : Call)
  /-- A thread handed the last byte of its frame to the transport. -/
  | wrote (t : τ) (c : Call)
  /-- The RPC thread found the identifier of an SRSP to be the expected one. -/
  | accept (m : MtMsg)
  /-- A thread took a token of `srspSem`. -/
  | take (t : τ) (c : Call)
  /-- The wait on `srspSem` timed out. -/
  | timeout (t : τ) (c : Call)
  /-- A thread reset `expectedSrspCmdId`. -/
  | invalidate (t : τ) (c : Call)

/-! ## Worlds and steps -/

/-- The shared state, the queue semaphores, the threads, the bytes written to the line,
and the history of the run, newest event first.  No step reads the history. -/
structure World (τ : Type) extends RpcState where
  llqAccessSem : ℕ
  llqCountSem : ℕ
  pc : τ → Pc
  rpc : RpcPc
  line : List UInt8
  log : List (Event τ)

/-- All threads about to start, over a shared state. -/
def World.init (τ : Type) (st : RpcState) : World τ where
  toRpcState := st
  llqAccessSem := 1
  llqCountSem := st.rpcLlq.length
  pc := fun _ => .idle
  rpc := .idle
  line := []
  log := []

/-- The choices of the scheduler. -/
inductive Action (τ : Type)
  /-- An application thread calls `rpcSendFrame`. -/
  | call (t : τ) (c : Call)
  /-- An application thread calls `llq_timedreceive`, or `llq_receive`, which is not timed. -/
  | receive (t : τ) (timed : Bool)
  /-- An application thread takes its next step. -/
  | run (t : τ)
  /-- A timed wait of an application thread ends without a token. -/
  | timeout (t : τ)
  /-- A frame with the right checksum has arrived. -/
  | rx (m : MtMsg)
  /-- The RPC thread takes its next step. -/
  | rpc

variable {τ : Type}

/-- The thread is outside the two modelled functions. -/
def Pc.returned : Pc → Bool
  | .idle | .sent _ _ | .received _ => true
  | _ => false

variable [DecidableEq τ]

namespace World

/-- Move one thread. -/
def goto (w : World τ) (t : τ) (p : Pc) : World τ := { w with pc := Function.update w.pc t p }

@[simp] theorem goto_srspSem (w : World τ) (t : τ) (p : Pc) :
    (w.goto t p).srspSem = w.srspSem := rfl
@[simp] theorem goto_rpcLlq (w : World τ) (t : τ) (p : Pc) : (w.goto t p).rpcLlq = w.rpcLlq := rfl
@[simp] theorem goto_llqCountSem (w : World τ) (t : τ) (p : Pc) :
    (w.goto t p).llqCountSem = w.llqCountSem := rfl
@[simp] theorem goto_rpc (w : World τ) (t : τ) (p : Pc) : (w.goto t p).rpc = w.rpc := rfl
@[simp] theorem goto_log (w : World τ) (t : τ) (p : Pc) : (w.goto t p).log = w.log := rfl
@[simp] theorem goto_pc_same (w : World τ) (t : τ) (p : Pc) : (w.goto t p).pc t = p := by
  simp [goto]
@[simp] theorem goto_pc_ne (w : World τ) {t u : τ} (p : Pc) (h : u ≠ t) :
    (w.goto t p).pc u = w.pc u := by
  simp [goto, h]

/-- A thread goes on writing; with nothing left, it has written its frame. -/
def write (w : World τ) (t : τ) (c : Call) (left : List UInt8) : World τ :=
  { w with log := if left = [] then .wrote t c :: w.log else w.log }.goto t (.write c left)

@[simp] theorem write_srspSem (w : World τ) (t : τ) (c : Call) (left : List UInt8) :
    (w.write t c left).srspSem = w.srspSem := rfl
@[simp] theorem write_rpcLlq (w : World τ) (t : τ) (c : Call) (left : List UInt8) :
    (w.write t c left).rpcLlq = w.rpcLlq := rfl
@[simp] theorem write_llqCountSem (w : World τ) (t : τ) (c : Call) (left : List UInt8) :
    (w.write t c left).llqCountSem = w.llqCountSem := rfl
@[simp] theorem write_rpc (w : World τ) (t : τ) (c : Call) (left : List UInt8) :
    (w.write t c left).rpc = w.rpc := rfl
@[simp] theorem write_pc_same (w : World τ) (t : τ) (c : Call) (left : List UInt8) :
    (w.write t c left).pc t = .write c left := goto_pc_same _ _ _
@[simp] theorem write_pc_ne (w : World τ) {t u : τ} (c : Call) (left : List UInt8) (h : u ≠ t) :
    (w.write t c left).pc u = w.pc u := goto_pc_ne _ _ h
@[simp] theorem write_log_nil (w : World τ) (t : τ) (c : Call) :
    (w.write t c []).log = .wrote t c :: w.log := rfl
@[simp] theorem write_log_cons (w : World τ) (t : τ) (c : Call) (b : UInt8)
    (left : List UInt8) : (w.write t c (b :: left)).log = w.log := rfl

theorem write_log_cases (w : World τ) (t : τ) (c : Call) (left : List UInt8) :
    (w.write t c left).log = w.log ∨ (w.write t c left).log = .wrote t c :: w.log := by
  cases left with
  | nil => exact .inr rfl
  | cons b left => exact .inl rfl

end World

/-- The next step of an application thread; `none` when it has to wait. -/
def runThread (w : World τ) (t : τ) : Option (World τ) :=
  match w.pc t with
  | .semWait c =>
    if 0 < w.rpcSem then some ({ w with rpcSem := w.rpcSem - 1 }.goto t (.setExpected c)) else none
  | .setExpected c =>
    if c.isSreq then
      some ({ w with
        expectedSrspCmdId := subsystem c.cmd0
        log := .expect t c :: w.log }.write t c c.tx)
    else some (w.write t c c.tx)
  | .write c (b :: left) => some ({ w with line := w.line ++ [b] }.write t c left)
  | .write c [] => some (w.goto t (.print c 2))
  | .print c i =>
    -- the counter is eight bits wide, its bound is an `int`
    if i.toNat < c.payloadLen.toNat + 2 then some (w.goto t (.print c (i + 1)))
    else some (w.goto t (if c.isSreq then .timedWait c else .semPost c mtRpcSuccess))
  | .timedWait c =>
    if 0 < w.srspSem then
      some ({ w with srspSem := w.srspSem - 1, log := .take t c :: w.log }.goto t
        (.setInvalid c mtRpcSuccess))
    else none
  | .setInvalid c status =>
    some ({ w with expectedSrspCmdId := 0xFF, log := .invalidate t c :: w.log }.goto t
      (.semPost c status))
  | .semPost c status => some ({ w with rpcSem := w.rpcSem + 1 }.goto t (.sent c status))
  | .countWait _ =>
    if 0 < w.llqCountSem then some ({ w with llqCountSem := w.llqCountSem - 1 }.goto t .headTest)
    else none
  | .headTest => some (w.goto t (if w.rpcLlq = [] then .received (some []) else .accessWait))
  | .accessWait =>
    if 0 < w.llqAccessSem then some ({ w with llqAccessSem := w.llqAccessSem - 1 }.goto t .unlink)
    else none
  | .unlink =>
    match w.rpcLlq with
    | [] => none
    | msg :: q => some ({ w with rpcLlq := q }.goto t (.accessPost msg))
  | .accessPost msg =>
    some ({ w with llqAccessSem := w.llqAccessSem + 1 }.goto t (.received (some msg)))
  | .idle | .sent _ _ | .received _ => none

/-- A timed wait that ends without a token, which the semaphore then did not have. -/
def timeoutThread (w : World τ) (t : τ) : Option (World τ) :=
  match w.pc t with
  | .timedWait c =>
    if w.srspSem = 0 then
      some ({ w with log := .timeout t c :: w.log }.goto t (.setInvalid c mtRpcErrSubsystem))
    else none
  | .countWait true => if w.llqCountSem = 0 then some (w.goto t (.received none)) else none
  | _ => none

omit [DecidableEq τ] in
/-- The next step of the RPC thread; `none` when it has to wait. -/
def runRpc (w : World τ) : Option (World τ) :=
  match w.rpc with
  | .idle => none
  | .compare m =>
    if w.expectedSrspCmdId = subsystem m.cmd0 then
      some { w with rpc := .post m, log := .accept m :: w.log }
    else some { w with rpc := if printUnexpected.isSome then .idle else .killed }
  | .post m => some { w with srspSem := w.srspSem + 1, rpc := .accessWait m true }
  | .accessWait m prio =>
    if 0 < w.llqAccessSem then
      some { w with llqAccessSem := w.llqAccessSem - 1, rpc := .link m prio }
    else none
  | .link m prio =>
    some { w with
      rpcLlq := if prio then m.bytes :: w.rpcLlq else w.rpcLlq ++ [m.bytes]
      rpc := .accessPost }
  | .accessPost => some { w with llqAccessSem := w.llqAccessSem + 1, rpc := .countPost }
  | .countPost => some { w with llqCountSem := w.llqCountSem + 1, rpc := .idle }
  | .killed => none

/-- One step of a process that has not ended. -/
def stepAlive (w : World τ) : Action τ → Option (World τ)
  | .call t c => if (w.pc t).returned then some (w.goto t (.semWait c)) else none
  | .receive t timed => if (w.pc t).returned then some (w.goto t (.countWait timed)) else none
  | .run t => runThread w t
  | .timeout t => timeoutThread w t
  | .rx m =>
    if w.rpc = .idle then
      some { w with rpc := if m.isSrsp then .compare m else .accessWait m false }
    else none
  | .rpc => runRpc w

/-- One step of the system. -/
def step (w : World τ) (a : Action τ) : Option (World τ) :=
  if w.rpc = .killed then none else stepAlive w a

/-! ## What a step can do -/

/-- Every step of the system, with its guard. -/
inductive Step (w : World τ) : Action τ → World τ → Prop
  | call {t c} : (w.pc t).returned = true → Step w (.call t c) (w.goto t (.semWait c))
  | receive {t timed} : (w.pc t).returned = true →
      Step w (.receive t timed) (w.goto t (.countWait timed))
  | enter {t c} : w.pc t = .semWait c → 0 < w.rpcSem →
      Step w (.run t) ({ w with rpcSem := w.rpcSem - 1 }.goto t (.setExpected c))
  | expect {t c} : w.pc t = .setExpected c → c.isSreq →
      Step w (.run t) ({ w with
        expectedSrspCmdId := subsystem c.cmd0
        log := .expect t c :: w.log }.write t c c.tx)
  | noExpect {t c} : w.pc t = .setExpected c → ¬ c.isSreq → Step w (.run t) (w.write t c c.tx)
  | writeByte {t c b left} : w.pc t = .write c (b :: left) →
      Step w (.run t) ({ w with line := w.line ++ [b] }.write t c left)
  | wrote {t c} : w.pc t = .write c [] → Step w (.run t) (w.goto t (.print c 2))
  | print {t c i} : w.pc t = .print c i → i.toNat < c.payloadLen.toNat + 2 →
      Step w (.run t) (w.goto t (.print c (i + 1)))
  | printedSreq {t c i} : w.pc t = .print c i → c.payloadLen.toNat + 2 ≤ i.toNat → c.isSreq →
      Step w (.run t) (w.goto t (.timedWait c))
  | printedAreq {t c i} : w.pc t = .print c i → c.payloadLen.toNat + 2 ≤ i.toNat → ¬ c.isSreq →
      Step w (.run t) (w.goto t (.semPost c mtRpcSuccess))
  | take {t c} : w.pc t = .timedWait c → 0 < w.srspSem →
      Step w (.run t) ({ w with srspSem := w.srspSem - 1, log := .take t c :: w.log }.goto t
        (.setInvalid c mtRpcSuccess))
  | timeout {t c} : w.pc t = .timedWait c → w.srspSem = 0 →
      Step w (.timeout t) ({ w with log := .timeout t c :: w.log }.goto t
        (.setInvalid c mtRpcErrSubsystem))
  | invalidate {t c status} : w.pc t = .setInvalid c status →
      Step w (.run t) ({ w with
        expectedSrspCmdId := 0xFF
        log := .invalidate t c :: w.log }.goto t (.semPost c status))
  | leave {t c status} : w.pc t = .semPost c status →
      Step w (.run t) ({ w with rpcSem := w.rpcSem + 1 }.goto t (.sent c status))
  | count {t timed} : w.pc t = .countWait timed → 0 < w.llqCountSem →
      Step w (.run t) ({ w with llqCountSem := w.llqCountSem - 1 }.goto t .headTest)
  | countTimeout {t} : w.pc t = .countWait true → w.llqCountSem = 0 →
      Step w (.timeout t) (w.goto t (.received none))
  | headNull {t} : w.pc t = .headTest → w.rpcLlq = [] →
      Step w (.run t) (w.goto t (.received (some [])))
  | headLinked {t} : w.pc t = .headTest → w.rpcLlq ≠ [] → Step w (.run t) (w.goto t .accessWait)
  | access {t} : w.pc t = .accessWait → 0 < w.llqAccessSem →
      Step w (.run t) ({ w with llqAccessSem := w.llqAccessSem - 1 }.goto t .unlink)
  | unlink {t msg q} : w.pc t = .unlink → w.rpcLlq = msg :: q →
      Step w (.run t) ({ w with rpcLlq := q }.goto t (.accessPost msg))
  | release {t msg} : w.pc t = .accessPost msg →
      Step w (.run t) ({ w with llqAccessSem := w.llqAccessSem + 1 }.goto t
        (.received (some msg)))
  | rxSrsp {m} : w.rpc = .idle → m.isSrsp → Step w (.rx m) { w with rpc := .compare m }
  | rxAreq {m} : w.rpc = .idle → ¬ m.isSrsp → Step w (.rx m) { w with rpc := .accessWait m false }
  | accept {m} : w.rpc = .compare m → w.expectedSrspCmdId = subsystem m.cmd0 →
      Step w .rpc { w with rpc := .post m, log := .accept m :: w.log }
  | discard {m} : w.rpc = .compare m → w.expectedSrspCmdId ≠ subsystem m.cmd0 →
      Step w .rpc { w with rpc := .killed }
  | post {m} : w.rpc = .post m →
      Step w .rpc { w with srspSem := w.srspSem + 1, rpc := .accessWait m true }
  | rpcAccess {m prio} : w.rpc = .accessWait m prio → 0 < w.llqAccessSem →
      Step w .rpc { w with llqAccessSem := w.llqAccessSem - 1, rpc := .link m prio }
  | linkHead {m} : w.rpc = .link m true →
      Step w .rpc { w with rpcLlq := m.bytes :: w.rpcLlq, rpc := .accessPost }
  | linkTail {m} : w.rpc = .link m false →
      Step w .rpc { w with rpcLlq := w.rpcLlq ++ [m.bytes], rpc := .accessPost }
  | rpcRelease : w.rpc = .accessPost →
      Step w .rpc { w with llqAccessSem := w.llqAccessSem + 1, rpc := .countPost }
  | countPost : w.rpc = .countPost →
      Step w .rpc { w with llqCountSem := w.llqCountSem + 1, rpc := .idle }

theorem Step.of_runThread {w w' : World τ} {t : τ} (h : runThread w t = some w') :
    Step w (.run t) w' := by
  unfold runThread at h
  split at h
  case h_1 c hpc => split at h <;> cases h; exact .enter hpc ‹_›
  case h_2 c hpc =>
    split at h <;> cases h
    · exact .expect hpc ‹_›
    · exact .noExpect hpc ‹_›
  case h_3 c b left hpc => cases h; exact .writeByte hpc
  case h_4 c hpc => cases h; exact .wrote hpc
  case h_5 c i hpc =>
    split at h <;> cases h
    · exact .print hpc ‹_›
    · next hend =>
      split
      · exact .printedSreq hpc (Nat.le_of_not_lt hend) ‹_›
      · exact .printedAreq hpc (Nat.le_of_not_lt hend) ‹_›
  case h_6 c hpc => split at h <;> cases h; exact .take hpc ‹_›
  case h_7 c status hpc => cases h; exact .invalidate hpc
  case h_8 c status hpc => cases h; exact .leave hpc
  case h_9 hpc => split at h <;> cases h; exact .count hpc ‹_›
  case h_10 hpc =>
    cases h
    split
    · exact .headNull hpc ‹_›
    · exact .headLinked hpc ‹_›
  case h_11 hpc => split at h <;> cases h; exact .access hpc ‹_›
  case h_12 hpc => split at h <;> cases h; exact .unlink hpc ‹_›
  case h_13 msg hpc => cases h; exact .release hpc
  all_goals cases h

theorem Step.of_timeoutThread {w w' : World τ} {t : τ} (h : timeoutThread w t = some w') :
    Step w (.timeout t) w' := by
  unfold timeoutThread at h
  split at h
  case h_1 c hpc => split at h <;> cases h; exact .timeout hpc ‹_›
  case h_2 hpc => split at h <;> cases h; exact .countTimeout hpc ‹_›
  case h_3 => cases h

theorem Step.of_runRpc {w w' : World τ} (h : runRpc w = some w') : Step w .rpc w' := by
  unfold runRpc at h
  split at h
  case h_1 => cases h
  case h_2 m hpc =>
    split at h <;> cases h
    · exact .accept hpc ‹_›
    · exact .discard hpc ‹_›
  case h_3 m hpc => cases h; exact .post hpc
  case h_4 m prio hpc => split at h <;> cases h; exact .rpcAccess hpc ‹_›
  case h_5 m prio hpc =>
    cases h
    cases prio
    · exact .linkTail hpc
    · exact .linkHead hpc
  case h_6 hpc => cases h; exact .rpcRelease hpc
  case h_7 hpc => cases h; exact .countPost hpc
  case h_8 => cases h

/-- A process that takes a step has not ended. -/
theorem alive_of_step {w w' : World τ} {a : Action τ} (h : step w a = some w') :
    w.rpc ≠ .killed := by
  intro hkilled
  rw [step, if_pos hkilled] at h
  cases h

theorem step_of_alive {w : World τ} (h : w.rpc ≠ .killed) (a : Action τ) :
    step w a = stepAlive w a := if_neg h

/-- **The step function takes the listed steps only.** -/
theorem Step.of_step {w w' : World τ} {a : Action τ} (h : step w a = some w') : Step w a w' := by
  rw [step_of_alive (alive_of_step h)] at h
  cases a with
  | call t c => simp only [stepAlive] at h; split at h <;> cases h; exact .call ‹_›
  | receive t timed => simp only [stepAlive] at h; split at h <;> cases h; exact .receive ‹_›
  | run t => exact of_runThread h
  | timeout t => exact of_timeoutThread h
  | rx m =>
    simp only [stepAlive] at h
    split at h <;> cases h
    split
    · exact .rxSrsp ‹_› ‹_›
    · exact .rxAreq ‹_› ‹_›
  | rpc => exact of_runRpc h

/-- Every listed step of a process that has not ended is one of the step function. -/
theorem Step.to_step {w w' : World τ} {a : Action τ} (h : Step w a w') (halive : w.rpc ≠ .killed) :
    step w a = some w' := by
  rw [step_of_alive halive]
  cases h with
  | print hpc hlt => simp [stepAlive, runThread, hpc, hlt]
  | printedSreq hpc hend hsreq =>
    simp [stepAlive, runThread, hpc, Nat.not_lt.mpr hend, hsreq]
  | printedAreq hpc hend hareq =>
    simp [stepAlive, runThread, hpc, Nat.not_lt.mpr hend, hareq]
  | _ => simp_all [stepAlive, runThread, timeoutThread, runRpc]

/-! ## The RPC thread alone -/

/-- **The RPC thread running alone computes `rpcDispatch`.**  From any state in which it is
between two frames and the queue is free, its own steps on the message in its buffer lead
to the dispatched state, and nothing else changes but the count of the queue; or to the end
of the process, where the dispatch has none. -/
theorem exec_rx (w : World τ) (rpcBuff : Mem) (rpcLen : UInt8) (hlen : 2 ≤ rpcLen.toNat)
    (hidle : w.rpc = .idle) (hfree : 0 < w.llqAccessSem) :
    ∃ n w', exec step w (.rx (.ofBuff rpcBuff rpcLen) :: List.replicate n .rpc) = some w' ∧
      w'.pc = w.pc ∧ w'.line = w.line ∧
      match rpcDispatch w.toRpcState rpcBuff rpcLen with
      | some st => w'.toRpcState = st ∧ w'.rpc = .idle
      | none => w'.toRpcState = w.toRpcState ∧ w'.rpc = .killed := by
  have hbytes : (MtMsg.ofBuff rpcBuff rpcLen).bytes = _ := MtMsg.bytes_ofBuff hlen
  by_cases hsrsp : cmdType (rpcBuff 1) = mtRpcCmdSrsp
  · have his : (MtMsg.ofBuff rpcBuff rpcLen).isSrsp := hsrsp
    by_cases hexp : w.expectedSrspCmdId = subsystem (rpcBuff 1)
    · refine ⟨6, ?_⟩
      simp [exec, step, stepAlive, runRpc, hidle, his, hfree, rpcDispatch, hsrsp, hexp, ← hbytes,
        List.replicate]
    · refine ⟨1, ?_⟩
      simp [exec, step, stepAlive, runRpc, hidle, his, rpcDispatch, hsrsp, hexp,
        List.replicate]
  · have his : ¬ (MtMsg.ofBuff rpcBuff rpcLen).isSrsp := hsrsp
    refine ⟨4, ?_⟩
    simp [exec, step, stepAlive, runRpc, hidle, his, hfree, rpcDispatch, hsrsp, ← hbytes,
      List.replicate]

end ZnpHost.Rpc
