import ZnpHost.Lib.Transition

/-!
# Atomic objects

An object on which any number of threads call operations.  The atomic object takes every
operation in one step between its call and its return; an implementation is linearizable if the
calls and returns of its runs, with such a step put between them, are a run of the atomic one.

## Main definitions

* `ObjEvent` — a call, the step in which an operation takes effect, and a return.
* `Atomic`, `atomicStep` — the object and the threads in the midst of a call.
* `effects`, `seqStep` — the operations in the order in which they take effect.
* `threadStep` — what one thread sees: calls and returns in turn.
* `exec_effects`, `exec_thread` — both can be read off a run of the atomic object.
* `invoked_eq` — a thread's operations take effect in the order of its calls.
-/

namespace ZnpHost.Lib

variable {σ τ ο ρ : Type}

/-- An event of a thread. -/
inductive ObjEvent (τ ο ρ : Type)
  | invoke (t : τ) (o : ο)
  | effect (t : τ) (o : ο) (r : ρ)
  | respond (t : τ) (r : ρ)

namespace ObjEvent

/-- The thread. -/
def thread : ObjEvent τ ο ρ → τ
  | invoke t _ | effect t _ _ | respond t _ => t

end ObjEvent

/-- How far a thread is with an operation. -/
inductive Phase (ο ρ : Type)
  | idle
  | called (o : ο)
  /-- The operation has taken effect, with this result. -/
  | done (r : ρ)
  deriving DecidableEq

/-- The object and the threads. -/
structure Atomic (σ τ ο ρ : Type) where
  obj : σ
  phase : τ → Phase ο ρ

/-- No thread has called an operation yet. -/
def Atomic.init (τ ο ρ : Type) (s : σ) : Atomic σ τ ο ρ := ⟨s, fun _ => .idle⟩

section Steps

variable [DecidableEq τ] [DecidableEq ο] [DecidableEq ρ]

/-- What one thread sees of its calls. -/
def threadStep (p : Phase ο ρ) : ObjEvent τ ο ρ → Option (Phase ο ρ)
  | .invoke _ o => if p = .idle then some (.called o) else none
  | .effect _ o r => if p = .called o then some (.done r) else none
  | .respond _ r => if p = .done r then some .idle else none

/-- An operation takes effect. -/
def seqStep (spec : σ → τ → ο → ρ → Option σ) (s : σ) (e : τ × ο × ρ) : Option σ :=
  spec s e.1 e.2.1 e.2.2

/-- The atomic object: `spec s t o r` is the object after `t` has done `o` with result `r`. -/
def atomicStep (spec : σ → τ → ο → ρ → Option σ) (A : Atomic σ τ ο ρ) (e : ObjEvent τ ο ρ) :
    Option (Atomic σ τ ο ρ) :=
  (threadStep (A.phase e.thread) e).bind fun p =>
    match e with
    | .effect t o r =>
      (spec A.obj t o r).map fun s => ⟨s, Function.update A.phase t p⟩
    | .invoke t _ | .respond t _ => some ⟨A.obj, Function.update A.phase t p⟩

/-- The operations that took effect, in order. -/
def effects (es : List (ObjEvent τ ο ρ)) : List (τ × ο × ρ) :=
  es.filterMap fun e => match e with
    | .effect t o r => some (t, o, r)
    | .invoke _ _ | .respond _ _ => none

/-- The events of a thread. -/
def eventsOf (t : τ) (es : List (ObjEvent τ ο ρ)) : List (ObjEvent τ ο ρ) :=
  es.filter fun e => e.thread = t

variable {spec : σ → τ → ο → ρ → Option σ} {A A' : Atomic σ τ ο ρ} {es : List (ObjEvent τ ο ρ)}

/-- A step of the atomic object is one of the thread. -/
theorem atomicStep_phase {e : ObjEvent τ ο ρ} (h : atomicStep spec A e = some A') :
    threadStep (A.phase e.thread) e = some (A'.phase e.thread) ∧
      ∀ t, t ≠ e.thread → A'.phase t = A.phase t := by
  obtain ⟨p, hp, hrest⟩ := Option.bind_eq_some_iff.mp h
  cases e with
  | invoke t o | respond t r =>
    simp only [Option.some.injEq] at hrest
    subst hrest
    exact ⟨by simpa [ObjEvent.thread] using hp, fun u hu => Function.update_of_ne hu _ _⟩
  | effect t o r =>
    obtain ⟨s, -, rfl⟩ := Option.map_eq_some_iff.mp hrest
    exact ⟨by simpa [ObjEvent.thread] using hp, fun u hu => Function.update_of_ne hu _ _⟩

/-- **The operations in the order in which they take effect** are a sequential run. -/
theorem exec_effects (h : exec (atomicStep spec) A es = some A') :
    exec (seqStep spec) A.obj (effects es) = some A'.obj := by
  induction es generalizing A with
  | nil =>
    simp only [exec, Option.some.injEq] at h
    rw [h]
    rfl
  | cons e es ih =>
    obtain ⟨A₁, h₁, hrest⟩ := Option.bind_eq_some_iff.mp h
    have hrun := ih hrest
    obtain ⟨p, hp, hobj⟩ := Option.bind_eq_some_iff.mp h₁
    cases e with
    | invoke t o | respond t r =>
      simp only [Option.some.injEq] at hobj
      subst hobj
      exact hrun
    | effect t o r =>
      obtain ⟨s, hs, rfl⟩ := Option.map_eq_some_iff.mp hobj
      have hseq : seqStep spec A.obj (t, o, r) = some s := hs
      change exec (seqStep spec) A.obj ((t, o, r) :: effects es) = _
      rw [exec, hseq, Option.bind_some, hrun]

/-- **A thread calls and returns in turn**, and every operation that returns took effect in
between, once, with the result returned. -/
theorem exec_thread (h : exec (atomicStep spec) A es = some A') (t : τ) :
    exec threadStep (A.phase t) (eventsOf t es) = some (A'.phase t) := by
  induction es generalizing A with
  | nil =>
    simp only [exec, Option.some.injEq] at h
    rw [h]
    rfl
  | cons e es ih =>
    obtain ⟨A₁, h₁, hrest⟩ := Option.bind_eq_some_iff.mp h
    have hrun := ih hrest
    obtain ⟨hthread, hother⟩ := atomicStep_phase h₁
    by_cases ht : e.thread = t
    · subst ht
      rw [eventsOf, List.filter_cons_of_pos (by simp), exec, hthread, Option.bind_some]
      exact hrun
    · rw [eventsOf, List.filter_cons_of_neg (by simpa using ht), ← hother t (Ne.symm ht)]
      exact hrun

/-! ## One thread -/

/-- The operations called, in order. -/
def invoked (es : List (ObjEvent τ ο ρ)) : List ο :=
  es.filterMap fun e => match e with
    | .invoke _ o => some o
    | .effect _ _ _ | .respond _ _ => none

/-- The operation that is called and has not taken effect. -/
def Phase.pending : Phase ο ρ → List ο
  | .called o => [o]
  | .idle | .done _ => []

omit [DecidableEq τ] in
/-- A thread's operations take effect in the order of its calls; the last one may be pending. -/
theorem invoked_eq {p p' : Phase ο ρ} (h : exec threadStep p es = some p') :
    p.pending ++ invoked es = (effects es).map (fun e => e.2.1) ++ p'.pending := by
  induction es generalizing p with
  | nil =>
    simp only [exec, Option.some.injEq] at h
    rw [h]
    exact List.append_nil _
  | cons e es ih =>
    obtain ⟨p₁, h₁, hrest⟩ := Option.bind_eq_some_iff.mp h
    have hrun := ih hrest
    cases e with
    | invoke t o =>
      simp only [threadStep] at h₁
      split at h₁ <;> cases h₁
      subst p
      exact hrun
    | effect t o r =>
      simp only [threadStep] at h₁
      split at h₁ <;> cases h₁
      subst p
      exact congrArg (o :: ·) hrun
    | respond t r =>
      simp only [threadStep] at h₁
      split at h₁ <;> cases h₁
      subst p
      exact hrun

omit [DecidableEq ο] [DecidableEq ρ] in
/-- The effects of a thread are among its events. -/
theorem effects_eventsOf (t : τ) (es : List (ObjEvent τ ο ρ)) :
    effects (eventsOf t es) = (effects es).filter fun e => e.1 = t := by
  induction es with
  | nil => rfl
  | cons e es ih =>
    rw [eventsOf, List.filter_cons]
    by_cases ht : e.thread = t
    · rw [if_pos (by simpa using ht)]
      cases e with
      | invoke u o | respond u r => exact ih
      | effect u o r =>
        change (u, o, r) :: effects (eventsOf t es) = ((u, o, r) :: effects es).filter _
        rw [ih, List.filter_cons_of_pos (by simpa [ObjEvent.thread] using ht)]
    · rw [if_neg (by simpa using ht)]
      cases e with
      | invoke u o | respond u r => exact ih
      | effect u o r =>
        change effects (eventsOf t es) = ((u, o, r) :: effects es).filter _
        rw [ih, List.filter_cons_of_neg (by simpa [ObjEvent.thread] using ht)]

end Steps

end ZnpHost.Lib
