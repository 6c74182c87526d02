import ZnpHost.Lib.Observation
import ZnpHost.Rpc.Exclusion

/-!
# What is sent is on the line

The line carries the frames of the calls of `rpcSendFrame`, each as a whole and once.  The
threads take turns in any order, but the frames of one thread are on the line in the order of
its calls.

## Main definitions

* `callsMade`, `callsWritten` — the calls of a schedule, and those whose frames are written.
* `Pc.unsent` — the call whose frame is not yet written.
* `LineCarries` — the line as the frames of calls in the order of each thread.
* `lineCarries_of_exec` — every run keeps it so.
-/

namespace ZnpHost.Rpc

open Lib

variable {τ : Type}

/-! ## Calls -/

/-- The calls of `rpcSendFrame` in a schedule. -/
def callsMade (as : List (Action τ)) : List (τ × Call) :=
  as.filterMap fun
    | .call t c => some (t, c)
    | _ => none

/-- The calls that have written all their bytes, the first one first. -/
def callsWritten : List (Event τ) → List (τ × Call)
  | [] => []
  | .wrote t c :: log => callsWritten log ++ [(t, c)]
  | _ :: log => callsWritten log

/-- A call whose frame is not yet written as a whole. -/
def Pc.unsent : Pc → List Call
  | .semWait c | .setExpected c | .write c (_ :: _) => [c]
  | _ => []

@[simp] theorem Pc.unsent_semWait (c : Call) : (Pc.semWait c).unsent = [c] := rfl
@[simp] theorem Pc.unsent_write_nil (c : Call) : (Pc.write c []).unsent = [] := rfl
@[simp] theorem Pc.unsent_write_cons (c : Call) (b : UInt8) (left : List UInt8) :
    (Pc.write c (b :: left)).unsent = [c] := rfl

theorem sentFrames_eq (log : List (Event τ)) :
    sentFrames log = (callsWritten log).flatMap fun x => x.2.tx := by
  induction log with
  | nil => rfl
  | cons e log ih => cases e <;> simp [sentFrames, callsWritten, ih]

theorem Pc.unsent_of_returned {p : Pc} (h : p.returned = true) : p.unsent = [] := by
  cases p <;> simp_all [returned, unsent]

variable [DecidableEq τ]

/-- The calls of one thread. -/
def callsOf (t : τ) (l : List (τ × Call)) : List Call :=
  (l.filter fun x => x.1 = t).map Prod.snd

@[simp] theorem callsOf_append (t : τ) (l l' : List (τ × Call)) :
    callsOf t (l ++ l') = callsOf t l ++ callsOf t l' := by
  simp [callsOf]

@[simp] theorem callsOf_same (t : τ) (c : Call) : callsOf t [(t, c)] = [c] := by
  simp [callsOf]

theorem callsOf_ne {t u : τ} (c : Call) (h : u ≠ t) : callsOf t [(u, c)] = [] := by
  simp [callsOf, h]

/-! ## The order of each thread -/

variable {w w' : World τ} {as : List (Action τ)} {a : Action τ} {t : τ} {c : Call}

/-- The calls of every thread are written in their order, all but the one in progress. -/
def CallOrder (w : World τ) (as : List (Action τ)) : Prop :=
  ∀ t, callsOf t (callsMade as) = callsOf t (callsWritten w.log) ++ (w.pc t).unsent

omit [DecidableEq τ] in
theorem callsMade_append (as bs : List (Action τ)) :
    callsMade (as ++ bs) = callsMade as ++ callsMade bs := List.filterMap_append

/-- A step that leaves the calls alone. -/
theorem CallOrder.keep (h : CallOrder w as) (hmade : callsMade [a] = [])
    (hlog : callsWritten w'.log = callsWritten w.log)
    (hunsent : ∀ t, (w'.pc t).unsent = (w.pc t).unsent) : CallOrder w' (as ++ [a]) := by
  intro t
  rw [callsMade_append, hmade, List.append_nil, hlog, hunsent]
  exact h t

theorem CallOrder.goto {x : World τ} {p : Pc} (h : CallOrder w as) (hmade : callsMade [a] = [])
    (hlog : callsWritten x.log = callsWritten w.log) (hpc : x.pc = w.pc)
    (hp : p.unsent = (w.pc t).unsent) : CallOrder (x.goto t p) (as ++ [a]) :=
  h.keep hmade hlog fun u => by rw [goto_congr Pc.unsent (by rw [hpc, hp]) u, hpc]

/-- A thread that writes on; with its last byte the call moves from `unsent` to the log. -/
theorem CallOrder.write {x : World τ} {left : List UInt8} (h : CallOrder w as)
    (hmade : callsMade [a] = []) (hlog : callsWritten x.log = callsWritten w.log)
    (hpc : x.pc = w.pc) (hp : (w.pc t).unsent = [c]) :
    CallOrder (x.write t c left) (as ++ [a]) := by
  intro u
  have hu := h u
  rw [callsMade_append, hmade, List.append_nil, hu]
  cases left with
  | nil =>
    by_cases hut : u = t
    · subst hut
      simp [callsWritten, hlog, hp]
    · simp [callsWritten, hlog, hpc, hut, callsOf_ne c (Ne.symm hut)]
  | cons b left =>
    by_cases hut : u = t
    · subst hut
      simp [hlog, hp]
    · simp [hlog, hpc, hut]

theorem CallOrder.step (h : CallOrder w as) (hs : Step w a w') : CallOrder w' (as ++ [a]) := by
  cases hs with
  | @call t c hret =>
    intro u
    have hu := h u
    rw [callsMade_append, callsOf_append, hu]
    by_cases hut : u = t
    · subst hut
      simp [Pc.unsent_of_returned hret, callsMade]
    · simp [hut, callsMade, callsOf_ne c (Ne.symm hut)]
  | receive hret => exact h.goto rfl rfl rfl (Pc.unsent_of_returned hret).symm
  | expect hpc => exact h.write rfl rfl rfl (by rw [hpc]; rfl)
  | noExpect hpc => exact h.write rfl rfl rfl (by rw [hpc]; rfl)
  | writeByte hpc => exact h.write rfl rfl rfl (by rw [hpc]; rfl)
  | rxSrsp | rxAreq | accept | discard | post | rpcAccess | linkHead | linkTail | rpcRelease
  | countPost => exact h.keep rfl rfl fun _ => rfl
  | wrote hpc | print hpc | printedSreq hpc | printedAreq hpc | enter hpc | take hpc | timeout hpc
  | invalidate hpc
  | leave hpc | count hpc | countTimeout hpc | headNull hpc | headLinked hpc | access hpc
  | unlink hpc | release hpc => exact h.goto rfl rfl rfl (by rw [hpc]; rfl)

/-! ## The line -/

/-- The line carries the frames of the calls `sent`, and the beginning `cut` of one that is
being written. -/
structure LineCarries (as : List (Action τ)) (w : World τ) (sent : List (τ × Call))
    (cut : List UInt8) : Prop where
  line : w.line = sent.flatMap (fun x => x.2.tx) ++ cut
  /-- The calls of each thread are among them in their order, but for the one in progress. -/
  inOrder : ∀ t, callsOf t (callsMade as) = callsOf t sent ++ (w.pc t).unsent
  cut : cut = [] ∨ ∃ t c left, left ≠ [] ∧ w.pc t = .write c left ∧ cut ++ left = c.tx

/-- **Every frame is on the line once and as a whole**, those of each thread in order. -/
theorem lineCarries_of_exec {q : List (List UInt8)}
    (h : exec step (World.init τ { rpcOpen with rpcLlq := q }) as = some w) :
    ∃ sent cut, LineCarries as w sent cut := by
  have hinv : Exclusion w ∧ CallOrder w ([] ++ as) := by
    refine exec_schedule_invariant (I := fun w as => Exclusion w ∧ CallOrder w as) ?_ ?_ h
    · intro w as a w' hi hs
      exact ⟨hi.1.step (.of_step hs), hi.2.step (.of_step hs)⟩
    · exact ⟨exclusion_init q, fun _ => rfl⟩
  obtain ⟨cut, hcut⟩ := hinv.1.framed
  refine ⟨callsWritten w.log, cut, ?_, hinv.2, ?_⟩
  · rw [hcut.line, sentFrames_eq]
  · by_cases hnone : ∀ t, (w.pc t).writing = none
    · exact .inl (hcut.between hnone)
    · obtain ⟨t, ht⟩ := not_forall.mp hnone
      obtain ⟨⟨c, left⟩, hwriting⟩ := Option.ne_none_iff_exists'.mp ht
      refine .inr ⟨t, c, left, ?_⟩
      have hwhole := hcut.writing t c left hwriting
      cases hpc : w.pc t with
      | write d rest =>
        cases rest with
        | nil => simp [hpc, Pc.writing] at hwriting
        | cons b rest =>
          simp only [hpc, Pc.writing, Option.some.injEq, Prod.mk.injEq] at hwriting
          obtain ⟨rfl, rfl⟩ := hwriting
          exact ⟨List.cons_ne_nil _ _, rfl, hwhole⟩
      | _ => simp [hpc, Pc.writing] at hwriting

end ZnpHost.Rpc
