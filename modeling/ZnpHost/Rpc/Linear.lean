import ZnpHost.Lib.Atomic
import ZnpHost.Lib.Observation
import ZnpHost.Rpc.Conservation
import ZnpHost.Rpc.Deque

/-!
# The queue as an atomic object

However the steps of the threads on a queue are interleaved, the calls return what they would
if each of them acted on a list in a single step: `llq_add` where it links its node, and
`llq_receive` where it unlinks the head.  So the messages of one sender that are not urgent are
received in the order in which it added them, by whichever threads.

## Main definitions

* `queueSpec` — what the calls do to the list.
* `llqEvents` — the calls, effects and returns among the steps of the threads.
* `Linearizes` — how a state of the queue shows the object.
* `llq_linearizable` — every run is one of the atomic object.
* `SenderOrder`, `llq_sender_order` — what the senders can rely on.
-/

namespace ZnpHost.Rpc

open Lib

variable {τ : Type} [DecidableEq τ]

/-! ## The object -/

/-- A call on the queue. -/
inductive LlqOp
  | add (m : Message)
  | receive
  deriving DecidableEq

/-- What a call returns. -/
inductive LlqRet
  | added
  | message (data : List UInt8)
  /-- The null pointer at the head. -/
  | nothing
  | timedOut
  deriving DecidableEq

/-- What is queued, with the senders. -/
abbrev Mail (τ : Type) := List (τ × Message)

/-- The message goes to the front. -/
def urgentMail (x : τ × Message) : Bool := x.2.urgent

/-- The list after a call with the given result. -/
def queueSpec (q : Mail τ) (t : τ) : LlqOp → LlqRet → Option (Mail τ)
  | .add m, .added => some (enqueue urgentMail q (t, m))
  | .receive, .message data =>
    match q with
    | [] => none
    | x :: q => if x.2.data = data then some q else none
  | .receive, .timedOut => some q
  | _, _ => none

/-- An event of a thread on the queue. -/
abbrev LlqEvent (τ : Type) := ObjEvent τ LlqOp LlqRet

/-- What a step shows of the calls in progress. -/
def llqEvents (w : LlqWorld τ) : LlqAction τ → List (LlqEvent τ)
  | .add t data prio => [.invoke t (.add ⟨prio, data⟩)]
  | .receive t _ => [.invoke t .receive]
  | .link t _ =>
    match w.pc t with
    | .addLink data prio => [.effect t (.add ⟨prio, data⟩) .added]
    | _ => []
  | .run t =>
    match w.pc t with
    | .addCount => [.respond t .added]
    | .headTest =>
      if w.llq.head.isNone then [.effect t .receive .nothing, .respond t .nothing] else []
    | .unlink =>
      match unlinkHead w.llq with
      | some (e, _) => [.effect t .receive (.message e.data)]
      | none => []
    | .release e => [.respond t (.message e.data)]
    | _ => []
  | .timeout t => [.effect t .receive .timedOut, .respond t .timedOut]

/-- How far a thread is with its call. -/
def LlqPc.phase : LlqPc → Phase LlqOp LlqRet
  | idle | added | received _ => .idle
  | addWait data prio | addLink data prio => .called (.add ⟨prio, data⟩)
  | addRelease | addCount => .done .added
  | countWait _ | headTest | accessWait | unlink => .called .receive
  | release e => .done (.message e.data)

/-- The object that a state of the queue shows. -/
structure Linearizes (w : LlqWorld τ) (A : Atomic (Mail τ) τ LlqOp LlqRet) : Prop where
  list : ∃ l : List (ℕ × Entry), w.llq.Represents l ∧
    l.map (fun x => x.2.data) = A.obj.map fun x => x.2.data
  phase : ∀ t, A.phase t = (w.pc t).phase

theorem LlqPc.phase_of_returned {p : LlqPc} (h : p.returned = true) : p.phase = .idle := by
  cases p <;> simp_all [returned, phase]

omit [DecidableEq τ] in
theorem linearizes_opened (temp : Option ℕ) :
    Linearizes (LlqWorld.opened τ temp) (.init τ LlqOp LlqRet []) where
  list := ⟨[], .opened temp, rfl⟩
  phase _ := rfl

/-! ## Steps -/

section Steps

variable {w : LlqWorld τ} {A : Atomic (Mail τ) τ LlqOp LlqRet} {t : τ}

/-- What the list becomes when a node is linked. -/
theorem Llq.Represents.of_link {hndl hndl' : Llq} {l : List (ℕ × Entry)} {a : ℕ} {e : Entry}
    {prio : ℤ} (h : hndl.Represents l) (ha : hndl.heap a = none)
    (hlink : Rpc.link hndl a e prio = some hndl') :
    hndl'.Represents (if prio = 1 then (a, e) :: l else l ++ [(a, e)]) := by
  by_cases hprio : prio = 1
  · rw [Rpc.link, if_pos hprio, Option.some.injEq] at hlink
    rw [if_pos hprio, ← hlink]
    exact h.addToHead ha e
  · obtain ⟨hndl₁, hadd, hrep⟩ := h.addToTail ha e
    rw [Rpc.link, if_neg hprio, hadd, Option.some.injEq] at hlink
    rw [if_neg hprio, ← hlink]
    exact hrep

/-- The phase of the thread that moves. -/
theorem phase_update {x : LlqWorld τ} {p : LlqPc} (h : ∀ u, A.phase u = (x.pc u).phase) (u : τ) :
    Function.update A.phase t p.phase u = ((x.goto t p).pc u).phase := by
  by_cases hu : u = t
  · subst hu
    simp
  · simp [hu, h u]

/-- A step inside a call. -/
theorem Linearizes.goto {x : LlqWorld τ} {p : LlqPc} (h : Linearizes w A) (hllq : x.llq = w.llq)
    (hpc : x.pc = w.pc) (hp : p.phase = (w.pc t).phase) : Linearizes (x.goto t p) A where
  list := hllq ▸ h.list
  phase u := by
    rw [← phase_update (A := A) (fun v => by rw [hpc, h.phase v]) u, hp, ← h.phase t,
      Function.update_eq_self]

/-- A call or a return: the thread is in another phase. -/
theorem Linearizes.move {x : LlqWorld τ} {p : LlqPc} {q : Mail τ} (h : Linearizes w A)
    (hpc : x.pc = w.pc)
    (hlist : ∃ l : List (ℕ × Entry), x.llq.Represents l ∧
      l.map (fun x => x.2.data) = q.map fun x => x.2.data) :
    Linearizes (x.goto t p) ⟨q, Function.update A.phase t p.phase⟩ where
  list := hlist
  phase u := phase_update (fun v => by rw [hpc, h.phase v]) u

/-- An event that leaves the object alone. -/
theorem exec_one {e : LlqEvent τ} {p : Phase LlqOp LlqRet}
    (he : ∀ t o r, e ≠ .effect t o r) (hp : threadStep (A.phase e.thread) e = some p) :
    exec (atomicStep queueSpec) A [e] = some ⟨A.obj, Function.update A.phase e.thread p⟩ := by
  cases e with
  | effect t o r => exact absurd rfl (he t o r)
  | invoke t o | respond t r =>
    simp only [ObjEvent.thread] at hp
    simp [exec, atomicStep, ObjEvent.thread, hp]

/-- An operation takes effect. -/
theorem exec_effect {o : LlqOp} {r : LlqRet} {q : Mail τ} (hphase : A.phase t = .called o)
    (hspec : queueSpec A.obj t o r = some q) :
    exec (atomicStep queueSpec) A [.effect t o r] =
      some ⟨q, Function.update A.phase t (.done r)⟩ := by
  simp [exec, atomicStep, threadStep, ObjEvent.thread, hphase, hspec]

variable [Fintype τ] {w' : LlqWorld τ} {a : LlqAction τ}

/-- **One step** of the queue is a step of the object, or several, or none. -/
theorem Linearizes.step (h : Linearizes w A) (hw : Conserved w) (hs : LlqStep w a w') :
    ∃ A', exec (atomicStep queueSpec) A (llqEvents w a) = some A' ∧ Linearizes w' A' := by
  have hphase := h.phase
  cases hs with
  | @add t data prio hret =>
    have hidle : A.phase t = .idle := by rw [hphase, LlqPc.phase_of_returned hret]
    exact ⟨_, exec_one (by simp) (by simp [threadStep, ObjEvent.thread, hidle, LlqPc.phase]),
      h.move rfl h.list⟩
  | @receive t timed hret =>
    have hidle : A.phase t = .idle := by rw [hphase, LlqPc.phase_of_returned hret]
    exact ⟨_, exec_one (by simp) (by simp [threadStep, ObjEvent.thread, hidle, LlqPc.phase]),
      h.move (p := .countWait timed) rfl h.list⟩
  | @link t x data prio llq hpc hfree hlink =>
    have hcalled : A.phase t = .called (.add ⟨prio, data⟩) := by rw [hphase, hpc]; rfl
    obtain ⟨l, hrep, hdata⟩ := h.list
    have hrep' := hrep.of_link hfree hlink
    simp only [llqEvents, hpc]
    refine ⟨_, exec_effect hcalled rfl, h.move (p := .addRelease) rfl ⟨_, hrep', ?_⟩⟩
    by_cases hprio : prio = 1
    · simp [enqueue, urgentMail, Message.urgent, hprio, hdata, LlqWorld.entry]
    · simp [enqueue, urgentMail, Message.urgent, hprio, hdata, LlqWorld.entry]
  | @unlink t e llq hpc hunlink =>
    have hcalled : A.phase t = .called .receive := by rw [hphase, hpc]; rfl
    obtain ⟨l, hrep, hdata⟩ := h.list
    obtain ⟨⟨x, e'⟩, l, rfl⟩ : ∃ x l', l = x :: l' := by
      apply List.exists_cons_of_ne_nil
      intro hnil
      obtain ⟨l', hl⟩ := hw.ledger
      exact hl.head_ne_none (t := t) (by rw [hpc]; rfl) (hrep.head_eq_none_iff.mpr hnil)
    obtain ⟨hndl, hunlink', hrep'⟩ := hrep.unlinkHead
    obtain ⟨rfl, rfl⟩ : e = e' ∧ llq = hndl := by simpa using hunlink.symm.trans hunlink'
    obtain ⟨m, q, hq⟩ : ∃ m q, A.obj = m :: q := by
      cases hobj : A.obj with
      | nil => simp [hobj] at hdata
      | cons m q => exact ⟨m, q, rfl⟩
    simp only [hq, List.map_cons, List.cons.injEq] at hdata
    have hspec : queueSpec A.obj t .receive (.message e.data) = some q := by
      simp [queueSpec, hq, hdata.1]
    simp only [llqEvents, hpc, hunlink]
    exact ⟨_, exec_effect hcalled hspec, h.move (p := .release e) rfl ⟨l, hrep', hdata.2⟩⟩
  | @post t hpc =>
    have hdone : A.phase t = .done .added := by rw [hphase, hpc]; rfl
    simp only [llqEvents, hpc]
    exact ⟨_, exec_one (by simp) (by simp [threadStep, ObjEvent.thread, hdone, LlqPc.phase]),
      h.move (p := .added) rfl h.list⟩
  | @leave t e hpc =>
    have hdone : A.phase t = .done (.message e.data) := by rw [hphase, hpc]; rfl
    simp only [llqEvents, hpc]
    exact ⟨_, exec_one (by simp) (by simp [threadStep, ObjEvent.thread, hdone, LlqPc.phase]),
      h.move (p := .received (.message e)) rfl h.list⟩
  | @timeout t hpc =>
    have hcalled : A.phase t = .called .receive := by rw [hphase, hpc]; rfl
    refine ⟨_, ?_, h.move (p := .received .timedOut) rfl h.list⟩
    simp [llqEvents, exec, atomicStep, threadStep, ObjEvent.thread, hcalled, queueSpec,
      LlqPc.phase]
  | @headNull t hpc hnull =>
    obtain ⟨l, hl⟩ := hw.ledger
    exact absurd hnull (hl.head_ne_none (t := t) (by rw [hpc]; rfl))
  | @headLinked t hpc hne =>
    have hsome : w.llq.head.isNone = false := by
      cases hhead : w.llq.head with
      | none => exact absurd hhead hne
      | some x => rfl
    simp only [llqEvents, hpc, hsome]
    exact ⟨A, rfl, h.goto rfl rfl (by rw [hpc]; rfl)⟩
  | addEnter hpc | addLeave hpc | pass hpc | enter hpc =>
    simp only [llqEvents, hpc]
    exact ⟨A, rfl, h.goto rfl rfl (by rw [hpc]; rfl)⟩

end Steps

/-! ## Orders -/

/-- The messages added, in order of effect. -/
def addedMail (effs : List (τ × LlqOp × LlqRet)) : Mail τ :=
  effs.filterMap fun e => match e.2.1 with
    | .add m => some (e.1, m)
    | .receive => none

/-- The messages received, in order of effect. -/
def receivedData (effs : List (τ × LlqOp × LlqRet)) : List (List UInt8) :=
  effs.filterMap fun e => match e.2.2 with
    | .message data => some data
    | .added | .nothing | .timedOut => none

/-- The messages received are those added first, the urgent ones aside. -/
structure InOrder (effs : List (τ × LlqOp × LlqRet)) (received q : Mail τ) : Prop where
  data : received.map (fun x => x.2.data) = receivedData effs
  fifo : received.filter (!urgentMail ·) ++ q.filter (!urgentMail ·) =
    (addedMail effs).filter (!urgentMail ·)
  noLoss : (received ++ q).Perm (addedMail effs)

omit [DecidableEq τ] in
theorem InOrder.step {effs : List (τ × LlqOp × LlqRet)} {received q q' : Mail τ}
    {e : τ × LlqOp × LlqRet} (h : InOrder effs received q) (he : seqStep queueSpec q e = some q') :
    ∃ received', InOrder (effs ++ [e]) received' q' := by
  obtain ⟨hdata, hfifo, hnoLoss⟩ := h
  obtain ⟨t, o, r⟩ := e
  cases o with
  | add m =>
    cases r with
    | added =>
      simp only [seqStep, queueSpec, Option.some.injEq] at he
      subst he
      have hadded : addedMail (effs ++ [(t, .add m, .added)]) = addedMail effs ++ [(t, m)] := by
        simp [addedMail]
      refine ⟨received, by simp [hdata, receivedData], ?_, ?_⟩
      · rw [hadded, filter_enqueue, ← List.append_assoc, hfifo, List.filter_append]
      · rw [hadded]
        have hperm : (enqueue urgentMail q (t, m)).Perm (q ++ [(t, m)]) := by
          rw [enqueue]
          split
          · exact (List.perm_append_singleton _ _).symm
          · exact .refl _
        refine (hperm.append_left _).trans ?_
        rw [← List.append_assoc]
        exact hnoLoss.append_right _
    | _ => cases he
  | receive =>
    have hadded : addedMail (effs ++ [(t, .receive, r)]) = addedMail effs := by simp [addedMail]
    cases r with
    | message data =>
      cases q with
      | nil => cases he
      | cons x q =>
        simp only [seqStep, queueSpec] at he
        split at he <;> cases he
        refine ⟨received ++ [x], ?_, ?_, ?_⟩
        · simpa [hdata, receivedData]
        · rw [hadded, ← hfifo, List.filter_append, List.append_assoc, ← List.filter_append]
          rfl
        · rw [hadded, List.append_assoc]
          exact hnoLoss
    | timedOut =>
      simp only [seqStep, queueSpec, Option.some.injEq] at he
      subst he
      exact ⟨received, by simp [hdata, receivedData], by rw [hadded, hfifo], by rwa [hadded]⟩
    | _ => cases he

omit [DecidableEq τ] in
/-- **A sequential use keeps the order.** -/
theorem InOrder.exec {effs more : List (τ × LlqOp × LlqRet)} {received q q' : Mail τ}
    (h : InOrder effs received q) (he : exec (seqStep queueSpec) q more = some q') :
    ∃ received', InOrder (effs ++ more) received' q' := by
  induction more generalizing effs received q with
  | nil =>
    simp only [Lib.exec, Option.some.injEq] at he
    subst he
    rw [List.append_nil]
    exact ⟨received, h⟩
  | cons e more ih =>
    obtain ⟨q₁, h₁, hrest⟩ := Option.bind_eq_some_iff.mp he
    obtain ⟨received₁, hnext⟩ := h.step h₁
    obtain ⟨received', hall⟩ := ih hnext hrest
    rw [List.append_assoc] at hall
    exact ⟨received', hall⟩

/-- What a sender has queued, or others received from it, the urgent messages aside. -/
def fromSender (t : τ) (q : Mail τ) : List Message :=
  ((q.filter fun x => x.1 = t).map Prod.snd).filter (!·.urgent)

theorem fromSender_append (t : τ) (q q' : Mail τ) :
    fromSender t (q ++ q') = fromSender t q ++ fromSender t q' := by
  simp [fromSender]

/-- Leaving the urgent messages out first makes no difference. -/
theorem fromSender_filter (t : τ) (q : Mail τ) :
    fromSender t (q.filter (!urgentMail ·)) = fromSender t q := by
  simp only [fromSender, List.filter_map, List.filter_filter]
  congr 1
  apply List.filter_congr
  intro x _
  simp only [urgentMail, Function.comp]
  cases x.2.urgent <;> simp

theorem InOrder.fromSender {effs : List (τ × LlqOp × LlqRet)} {received q : Mail τ}
    (h : InOrder effs received q) (t : τ) :
    fromSender t (addedMail effs) = fromSender t received ++ Rpc.fromSender t q := by
  rw [← fromSender_filter t (addedMail effs), ← h.fifo, fromSender_append, fromSender_filter,
    fromSender_filter]

/-- The messages among the calls of a thread. -/
def mailOf (ops : List LlqOp) : List Message :=
  ops.filterMap fun o => match o with
    | .add m => some m
    | .receive => none

/-- What a thread added is what its calls did. -/
theorem fromSender_addedMail (t : τ) (effs : List (τ × LlqOp × LlqRet)) :
    fromSender t (addedMail effs) =
      (mailOf ((effs.filter fun e => e.1 = t).map fun e => e.2.1)).filter (!·.urgent) := by
  rw [fromSender]
  congr 1
  induction effs with
  | nil => rfl
  | cons e effs ih =>
    obtain ⟨u, o, r⟩ := e
    by_cases hu : u = t
    · cases o with
      | add m => simpa [addedMail, mailOf, hu] using ih
      | receive => simpa [addedMail, mailOf, hu] using ih
    · cases o with
      | add m => simpa [addedMail, mailOf, hu] using ih
      | receive => simpa [addedMail, mailOf, hu] using ih

/-! ## Every run -/

section Runs

variable [Fintype τ]

/-- The calls and returns of a schedule after `llq_open`, and the steps in which the calls take
effect. -/
def llqHistory (τ : Type) [DecidableEq τ] (temp : Option ℕ) (as : List (LlqAction τ)) :
    List (LlqEvent τ) :=
  outputs llqStep llqEvents (LlqWorld.opened τ temp) as

/-- The history is a run of the atomic object. -/
theorem exec_llqHistory {temp : Option ℕ} {as : List (LlqAction τ)} {w : LlqWorld τ}
    (h : exec llqStep (LlqWorld.opened τ temp) as = some w) :
    ∃ A, exec (atomicStep queueSpec) (.init τ LlqOp LlqRet []) (llqHistory τ temp as) = some A ∧
      Linearizes w A := by
  have hstep : ∀ (w : LlqWorld τ) A a w', Conserved w ∧ Linearizes w A → llqStep w a = some w' →
      ∃ A', exec (atomicStep queueSpec) A (llqEvents w a) = some A' ∧
        Conserved w' ∧ Linearizes w' A' := by
    rintro w A a w' ⟨hw, hA⟩ hs
    obtain ⟨A', hA', hlin⟩ := hA.step hw (.of_step hs)
    exact ⟨A', hA', hw.step (.of_step hs), hlin⟩
  obtain ⟨A, hA, -, hlin⟩ :=
    exec_outputs_simulates hstep ⟨conserved_opened temp, linearizes_opened temp⟩ h
  exact ⟨A, hA, hlin⟩

/-- **The queue is linearizable.**  In every run, by any number of threads in any order, each
call takes effect in one step between its call and its return; the effects in their order are a
sequential use of a list that leaves the messages that are linked, and every thread gets the
results of its own calls. -/
theorem llq_linearizable {temp : Option ℕ} {as : List (LlqAction τ)} {w : LlqWorld τ}
    (h : exec llqStep (LlqWorld.opened τ temp) as = some w) :
    ∃ q, exec (seqStep queueSpec) [] (effects (llqHistory τ temp as)) = some q ∧
      (∃ l : List (ℕ × Entry), w.llq.Represents l ∧
        l.map (fun x => x.2.data) = q.map fun x => x.2.data) ∧
      ∀ t, exec threadStep .idle (eventsOf t (llqHistory τ temp as)) = some (w.pc t).phase := by
  obtain ⟨A, hA, hlin⟩ := exec_llqHistory h
  refine ⟨A.obj, exec_effects hA, hlin.list, ?_⟩
  intro t
  rw [← hlin.phase t]
  exact exec_thread hA t

/-- A message that the thread has passed to `llq_add` and not linked. -/
def LlqPc.unlinked (p : LlqPc) : List Message := mailOf p.phase.pending

/-- What the senders can rely on, when `received` has been received and `q` is queued. -/
structure SenderOrder (es : List (LlqEvent τ)) (w : LlqWorld τ) (received q : Mail τ) : Prop where
  data : received.map (fun x => x.2.data) = receivedData (effects es)
  list : ∃ l : List (ℕ × Entry), w.llq.Represents l ∧
    l.map (fun x => x.2.data) = q.map fun x => x.2.data
  noLoss : (received ++ q).Perm (addedMail (effects es))
  /-- The messages a sender has passed to `llq_add`, the urgent ones aside, are those received
  from it, those that are queued, and one that is not linked yet, in this order. -/
  calls : ∀ t, (mailOf (invoked (eventsOf t es))).filter (!·.urgent) =
    fromSender t received ++ fromSender t q ++ (w.pc t).unlinked.filter (!·.urgent)

/-- **Messages of one sender stay in order**, however many threads add and receive. -/
theorem llq_sender_order {temp : Option ℕ} {as : List (LlqAction τ)} {w : LlqWorld τ}
    (h : exec llqStep (LlqWorld.opened τ temp) as = some w) :
    ∃ received q, SenderOrder (llqHistory τ temp as) w received q := by
  obtain ⟨A, hA, hlin⟩ := exec_llqHistory h
  have hstart : InOrder ([] : List (τ × LlqOp × LlqRet)) [] [] := ⟨rfl, rfl, .refl _⟩
  obtain ⟨received, horder⟩ := hstart.exec (exec_effects hA)
  rw [List.nil_append] at horder
  refine ⟨received, A.obj, horder.data, hlin.list, horder.noLoss, ?_⟩
  intro t
  have hcalls := invoked_eq (exec_thread hA t)
  have hmail : mailOf (invoked (eventsOf t (llqHistory τ temp as))) =
      mailOf (((effects (llqHistory τ temp as)).filter fun e => e.1 = t).map fun e => e.2.1) ++
        (w.pc t).unlinked := by
    rw [LlqPc.unlinked, ← hlin.phase t, mailOf, mailOf, mailOf, ← List.filterMap_append,
      ← effects_eventsOf, ← hcalls]
    rfl
  rw [hmail, List.filter_append, ← fromSender_addedMail, horder.fromSender]

end Runs

/-- The run in which one thread adds two messages and another one receives the urgent one. -/
theorem exec_addTwoReceiveOne :
    exec llqStep (LlqWorld.opened Bool none) addTwoReceiveOne = some afterAddTwoReceiveOne :=
  (Option.some_get (x := exec llqStep _ addTwoReceiveOne) rfl).symm

/-- It leaves the first message, as the list does. -/
theorem llq_linearizable_addTwoReceiveOne :
    ∃ q, exec (seqStep queueSpec) [] (effects (llqHistory Bool none addTwoReceiveOne)) = some q ∧
      q = [(false, ⟨0, [1]⟩)] := by
  obtain ⟨q, hq, -⟩ := llq_linearizable exec_addTwoReceiveOne
  have hrun : exec (seqStep queueSpec) [] (effects (llqHistory Bool none addTwoReceiveOne)) =
      some [(false, ⟨0, [1]⟩)] := by decide +kernel
  exact ⟨q, hq, Option.some.inj (hq.symm.trans hrun)⟩

/-- The sender's message that is not urgent stays queued. -/
theorem llq_sender_order_addTwoReceiveOne : ∃ received q : Mail Bool,
    SenderOrder (llqHistory Bool none addTwoReceiveOne) afterAddTwoReceiveOne received q :=
  llq_sender_order exec_addTwoReceiveOne

end ZnpHost.Rpc
