import ZnpHost.Lib.Transition
import ZnpHost.Rpc.Llq

/-!
# Threads on one queue

Any number of threads, each of which adds messages with `llq_add` and takes them with
`llq_receive` or `llq_timedreceive`, on one opened queue.  A step is one operation on a
semaphore, the test of the head, or the part of a function that holds the lock.

## Main definitions

* `LlqPc` — where a thread is.
* `LlqWorld`, `LlqAction`, `llqStep` — the state, the choices of the scheduler and of
  `malloc`, and the executable step.
* `LlqStep`, `LlqStep.of_step` — everything one step can do.
-/

namespace ZnpHost.Rpc

open Lib

/-- What `llq_timedreceive` returns. -/
inductive Received
  /-- `-1`: the wait timed out. -/
  | timedOut
  /-- `0`: nothing was linked at the head. -/
  | nothing
  | message (e : Entry)
  deriving DecidableEq

/-- Where a thread is. -/
inductive LlqPc
  | idle
  /-- In `llq_add`, at `sem_wait(&llqAccessSem)`. -/
  | addWait (data : List UInt8) (prio : ℤ)
  /-- About to link the new node. -/
  | addLink (data : List UInt8) (prio : ℤ)
  /-- At `sem_post(&llqAccessSem)`. -/
  | addRelease
  /-- At `sem_post(&llqCountSem)`. -/
  | addCount
  /-- `llq_add` has returned. -/
  | added
  /-- At the wait on `llqCountSem`, in `llq_timedreceive` or, not timed, in `llq_receive`. -/
  | countWait (timed : Bool)
  /-- At the test `head != NULL`. -/
  | headTest
  /-- At `sem_wait(&llqAccessSem)`. -/
  | accessWait
  /-- About to copy and unlink the head. -/
  | unlink
  /-- At `sem_post(&llqAccessSem)`. -/
  | release (e : Entry)
  /-- `llq_timedreceive` or `llq_receive` has returned. -/
  | received (r : Received)
  deriving DecidableEq

namespace LlqPc

/-- The thread is in neither function. -/
def returned : LlqPc → Bool
  | idle | added | received _ => true
  | _ => false

/-- The thread holds `llqAccessSem`. -/
def inside : LlqPc → Bool
  | addLink _ _ | addRelease | unlink | release _ => true
  | _ => false

/-- The thread passed the wait on `llqCountSem` and has not unlinked a message yet. -/
def passed : LlqPc → Bool
  | headTest | accessWait | unlink => true
  | _ => false

/-- The thread linked its message and has not posted `llqCountSem` yet. -/
def unposted : LlqPc → Bool
  | addRelease | addCount => true
  | _ => false

end LlqPc

/-- The queue and its semaphores, the threads, and a record of the run: the messages linked,
and the messages copied out with the threads that received them. -/
structure LlqWorld (τ : Type) where
  llq : Llq
  llqAccessSem : ℕ
  llqCountSem : ℕ
  pc : τ → LlqPc
  added : List Entry
  returned : List (τ × Entry)

/-- The state after `llq_open`. -/
def LlqWorld.opened (τ : Type) (temp : Option ℕ) : LlqWorld τ where
  llq := .opened temp
  llqAccessSem := 1
  llqCountSem := 0
  pc := fun _ => .idle
  added := []
  returned := []

/-- The choices of the scheduler. -/
inductive LlqAction (τ : Type)
  /-- A thread calls `llq_add`. -/
  | add (t : τ) (data : List UInt8) (prio : ℤ)
  /-- A thread calls `llq_timedreceive` or `llq_receive`. -/
  | receive (t : τ) (timed : Bool)
  /-- A thread links its node, which `malloc` put at address `a`. -/
  | link (t : τ) (a : ℕ)
  /-- A thread takes another step. -/
  | run (t : τ)
  /-- `sem_timedwait` gives up. -/
  | timeout (t : τ)

variable {τ : Type}

namespace LlqWorld

/-- The next message to be linked; its serial number is the number of those linked before. -/
def entry (w : LlqWorld τ) (data : List UInt8) : Entry := ⟨w.added.length, data⟩

variable [DecidableEq τ]

/-- Move one thread. -/
def goto (w : LlqWorld τ) (t : τ) (p : LlqPc) : LlqWorld τ :=
  { w with pc := Function.update w.pc t p }

@[simp] theorem goto_llq (w : LlqWorld τ) (t : τ) (p : LlqPc) : (w.goto t p).llq = w.llq := rfl
@[simp] theorem goto_llqAccessSem (w : LlqWorld τ) (t : τ) (p : LlqPc) :
    (w.goto t p).llqAccessSem = w.llqAccessSem := rfl
@[simp] theorem goto_llqCountSem (w : LlqWorld τ) (t : τ) (p : LlqPc) :
    (w.goto t p).llqCountSem = w.llqCountSem := rfl
@[simp] theorem goto_added (w : LlqWorld τ) (t : τ) (p : LlqPc) :
    (w.goto t p).added = w.added := rfl
@[simp] theorem goto_returned (w : LlqWorld τ) (t : τ) (p : LlqPc) :
    (w.goto t p).returned = w.returned := rfl
@[simp] theorem goto_pc (w : LlqWorld τ) (t : τ) (p : LlqPc) :
    (w.goto t p).pc = Function.update w.pc t p := rfl

end LlqWorld

variable [DecidableEq τ]

/-- A thread links its message. -/
def linkThread (w : LlqWorld τ) (t : τ) (a : ℕ) : Option (LlqWorld τ) :=
  match w.pc t with
  | .addLink data prio =>
    if (w.llq.heap a).isNone then
      (link w.llq a (w.entry data) prio).map fun llq =>
        { w with llq, added := w.added ++ [w.entry data] }.goto t .addRelease
    else none
  | _ => none

/-- The next step of a thread other than linking a node; `none` when it has to wait. -/
def runLlqThread (w : LlqWorld τ) (t : τ) : Option (LlqWorld τ) :=
  match w.pc t with
  | .addWait data prio =>
    if 0 < w.llqAccessSem then
      some ({ w with llqAccessSem := w.llqAccessSem - 1 }.goto t (.addLink data prio))
    else none
  | .addRelease => some ({ w with llqAccessSem := w.llqAccessSem + 1 }.goto t .addCount)
  | .addCount => some ({ w with llqCountSem := w.llqCountSem + 1 }.goto t .added)
  | .countWait _ =>
    if 0 < w.llqCountSem then some ({ w with llqCountSem := w.llqCountSem - 1 }.goto t .headTest)
    else none
  | .headTest =>
    some (w.goto t (if w.llq.head.isNone then .received .nothing else .accessWait))
  | .accessWait =>
    if 0 < w.llqAccessSem then some ({ w with llqAccessSem := w.llqAccessSem - 1 }.goto t .unlink)
    else none
  | .unlink =>
    (unlinkHead w.llq).map fun r =>
      { w with llq := r.2, returned := w.returned ++ [(t, r.1)] }.goto t (.release r.1)
  | .release e =>
    some ({ w with llqAccessSem := w.llqAccessSem + 1 }.goto t (.received (.message e)))
  | .idle | .addLink _ _ | .added | .received _ => none

/-- One step of the system. -/
def llqStep (w : LlqWorld τ) : LlqAction τ → Option (LlqWorld τ)
  | .add t data prio => if (w.pc t).returned then some (w.goto t (.addWait data prio)) else none
  | .receive t timed => if (w.pc t).returned then some (w.goto t (.countWait timed)) else none
  | .link t a => linkThread w t a
  | .run t => runLlqThread w t
  | .timeout t => if w.pc t = .countWait true then some (w.goto t (.received .timedOut)) else none

/-- Every step of the system, with its guard. -/
inductive LlqStep (w : LlqWorld τ) : LlqAction τ → LlqWorld τ → Prop
  | add {t data prio} : (w.pc t).returned = true →
      LlqStep w (.add t data prio) (w.goto t (.addWait data prio))
  | receive {t timed} : (w.pc t).returned = true →
      LlqStep w (.receive t timed) (w.goto t (.countWait timed))
  | addEnter {t data prio} : w.pc t = .addWait data prio → 0 < w.llqAccessSem →
      LlqStep w (.run t)
        ({ w with llqAccessSem := w.llqAccessSem - 1 }.goto t (.addLink data prio))
  | link {t a data prio llq} : w.pc t = .addLink data prio → w.llq.heap a = none →
      Rpc.link w.llq a (w.entry data) prio = some llq →
      LlqStep w (.link t a)
        ({ w with llq, added := w.added ++ [w.entry data] }.goto t .addRelease)
  | addLeave {t} : w.pc t = .addRelease →
      LlqStep w (.run t) ({ w with llqAccessSem := w.llqAccessSem + 1 }.goto t .addCount)
  | post {t} : w.pc t = .addCount →
      LlqStep w (.run t) ({ w with llqCountSem := w.llqCountSem + 1 }.goto t .added)
  | pass {t timed} : w.pc t = .countWait timed → 0 < w.llqCountSem →
      LlqStep w (.run t) ({ w with llqCountSem := w.llqCountSem - 1 }.goto t .headTest)
  | timeout {t} : w.pc t = .countWait true →
      LlqStep w (.timeout t) (w.goto t (.received .timedOut))
  | headNull {t} : w.pc t = .headTest → w.llq.head = none →
      LlqStep w (.run t) (w.goto t (.received .nothing))
  | headLinked {t} : w.pc t = .headTest → w.llq.head ≠ none →
      LlqStep w (.run t) (w.goto t .accessWait)
  | enter {t} : w.pc t = .accessWait → 0 < w.llqAccessSem →
      LlqStep w (.run t) ({ w with llqAccessSem := w.llqAccessSem - 1 }.goto t .unlink)
  | unlink {t e llq} : w.pc t = .unlink → unlinkHead w.llq = some (e, llq) →
      LlqStep w (.run t) ({ w with llq, returned := w.returned ++ [(t, e)] }.goto t (.release e))
  | leave {t e} : w.pc t = .release e →
      LlqStep w (.run t)
        ({ w with llqAccessSem := w.llqAccessSem + 1 }.goto t (.received (.message e)))

variable {w w' : LlqWorld τ}

theorem LlqStep.of_runLlqThread {t : τ} (h : runLlqThread w t = some w') :
    LlqStep w (.run t) w' := by
  unfold runLlqThread at h
  split at h
  case h_1 data prio hpc => split at h <;> cases h; exact .addEnter hpc ‹_›
  case h_2 hpc => cases h; exact .addLeave hpc
  case h_3 hpc => cases h; exact .post hpc
  case h_4 timed hpc => split at h <;> cases h; exact .pass hpc ‹_›
  case h_5 hpc =>
    cases h
    cases hhead : w.llq.head with
    | none => exact .headNull hpc hhead
    | some a => exact .headLinked hpc (by simp [hhead])
  case h_6 hpc => split at h <;> cases h; exact .enter hpc ‹_›
  case h_7 hpc =>
    obtain ⟨⟨e, llq⟩, hunlink, rfl⟩ := Option.map_eq_some_iff.mp h
    exact .unlink hpc hunlink
  case h_8 e hpc => cases h; exact .leave hpc
  all_goals cases h

/-- A step is one of the listed ones. -/
theorem LlqStep.of_step {a : LlqAction τ} (h : llqStep w a = some w') : LlqStep w a w' := by
  cases a with
  | add t data prio =>
    simp only [llqStep] at h
    split at h <;> cases h
    exact .add ‹_›
  | receive t timed =>
    simp only [llqStep] at h
    split at h <;> cases h
    exact .receive ‹_›
  | link t a =>
    simp only [llqStep, linkThread] at h
    split at h
    case h_1 data prio hpc =>
      split at h
      case isTrue hfree =>
        obtain ⟨llq, hlink, rfl⟩ := Option.map_eq_some_iff.mp h
        exact .link hpc (by simpa using hfree) hlink
      case isFalse => cases h
    case h_2 => cases h
  | run t => exact .of_runLlqThread h
  | timeout t =>
    simp only [llqStep] at h
    split at h <;> cases h
    exact .timeout ‹_›

end ZnpHost.Rpc
