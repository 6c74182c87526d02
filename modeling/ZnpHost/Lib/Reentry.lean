import ZnpHost.Lib.Transition

/-!
# Callbacks that are entered again

A callback works on global data and may issue requests.  While a request waits, at most one
message is delivered, and its callback runs on top of the one that waits.  A callback is given
by what it does on entry, up to its loop, and by what one round of the loop does.

## Main definitions

* `Callback` — entry and round, over any messages, globals, local variables and requests.
* `CallStack` — the globals, the callbacks that have not returned, and what was recorded.
* `Callback.step` — a message is delivered, a wait ends without one, or a round runs.
* `Callback.step_deliver`, `Callback.step_lapse`, `Callback.step_round` — what a step can do.
-/

namespace ZnpHost.Lib

/-- A callback for messages `μ`, with globals `γ`, local variables `ι` and requests `ρ`. -/
structure Callback (μ γ ι ρ : Type) where
  /-- The globals and the local variables at the loop; `none` if it has returned. -/
  enter : μ → γ → γ × Option ι
  /-- The globals after a round, and the local variables with the request that was issued;
  `none` if it has returned. -/
  round : ι → γ → γ × Option (ι × Option ρ)

/-- The callbacks that have not returned, the innermost first. -/
structure CallStack (μ γ ι ρ : Type) where
  glob : γ
  stack : List ι
  /-- The innermost callback waits for a message. -/
  waiting : Bool
  /-- The messages delivered and the requests issued, in order. -/
  delivered : List μ
  requests : List ρ

/-- What happens next. -/
inductive CallEvent (μ : Type)
  /-- A wait delivers a message; where no callback runs, the main loop waits. -/
  | deliver (m : μ)
  /-- A request ends without a message for this callback. -/
  | lapse
  /-- The innermost callback runs a round of its loop, or returns. -/
  | round

namespace Callback

variable {μ γ ι ρ : Type} (cb : Callback μ γ ι ρ)

/-- The globals before anything was delivered. -/
def start (g : γ) (requests : List ρ) : CallStack μ γ ι ρ := ⟨g, [], false, [], requests⟩

/-- The callback is entered. -/
def entered (m : μ) (s : CallStack μ γ ι ρ) : CallStack μ γ ι ρ where
  glob := (cb.enter m s.glob).1
  stack := (cb.enter m s.glob).2.toList ++ s.stack
  waiting := false
  delivered := s.delivered ++ [m]
  requests := s.requests

/-- The callback with local variables `l` runs a round on top of `rest`. -/
def ran (l : ι) (rest : List ι) (s : CallStack μ γ ι ρ) : CallStack μ γ ι ρ :=
  match cb.round l s.glob with
  | (g, none) => { s with glob := g, stack := rest }
  | (g, some (l', req)) =>
    { s with
      glob := g
      stack := l' :: rest
      waiting := req.isSome
      requests := s.requests ++ req.toList }

def step (s : CallStack μ γ ι ρ) : CallEvent μ → Option (CallStack μ γ ι ρ)
  | .deliver m => if s.stack.isEmpty || s.waiting then some (cb.entered m s) else none
  | .lapse => if s.waiting then some { s with waiting := false } else none
  | .round =>
    match s.stack, s.waiting with
    | l :: rest, false => some (cb.ran l rest s)
    | _, _ => none

variable {cb} {s s' : CallStack μ γ ι ρ}

/-! ## What a step can do -/

theorem step_deliver {m : μ} (h : cb.step s (.deliver m) = some s') : s' = cb.entered m s := by
  simp only [step] at h
  split at h
  · exact (Option.some.inj h).symm
  · cases h

theorem step_lapse (h : cb.step s .lapse = some s') : s' = { s with waiting := false } := by
  simp only [step] at h
  split at h
  · exact (Option.some.inj h).symm
  · cases h

theorem step_round (h : cb.step s .round = some s') :
    ∃ l rest, s.stack = l :: rest ∧ s' = cb.ran l rest s := by
  simp only [step] at h
  split at h
  · rename_i l rest hstack _
    exact ⟨l, rest, hstack, (Option.some.inj h).symm⟩
  · cases h

/-- A round after which the callback has returned. -/
theorem ran_return {l : ι} {g : γ} (rest : List ι) (h : cb.round l s.glob = (g, none)) :
    cb.ran l rest s = { s with glob := g, stack := rest } := by
  rw [ran, h]

/-- A round after which it goes on. -/
theorem ran_goOn {l l' : ι} {g : γ} {req : Option ρ} (rest : List ι)
    (h : cb.round l s.glob = (g, some (l', req))) :
    cb.ran l rest s =
      { s with
        glob := g
        stack := l' :: rest
        waiting := req.isSome
        requests := s.requests ++ req.toList } := by
  rw [ran, h]

end Callback

end ZnpHost.Lib
