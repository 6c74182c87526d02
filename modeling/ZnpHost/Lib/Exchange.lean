import Mathlib.Algebra.GroupWithZero.Nat
import Mathlib.Data.List.Perm.Basic
import ZnpHost.Lib.Quiescence
import ZnpHost.Lib.Reentry

/-!
# Callbacks whose requests are answered

The requests of a callback bring messages, which are delivered in any order: in the main loop, or
while a request waits.  Other messages come from outside.

## Main definitions

* `Exchange` — a callback, and the messages that each request brings.
* `Exchange.step` — a message comes from outside, or the callbacks go on.
* `Asks` — what a message makes the callback ask, and what a running one has still to ask.
* `Weighs` — a weight of the messages that bounds all that follows from them.
* `Exchange.settles` — the exchange comes to rest, and then everything that follows from the
  messages from outside has been delivered and asked.
-/

namespace ZnpHost.Lib

variable {μ γ ι ρ : Type}

/-- A callback and its environment. -/
structure Exchange (μ γ ι ρ : Type) where
  cb : Callback μ γ ι ρ
  /-- The messages that a request brings. -/
  answer : ρ → List μ

/-- The callbacks, the messages that wait for delivery, and those that came from outside. -/
structure Exchanging (μ γ ι ρ : Type) where
  calls : CallStack μ γ ι ρ
  pending : List μ
  arrived : List μ

/-- What happens next. -/
inductive ExchangeEvent (μ : Type)
  /-- A message comes from outside. -/
  | arrive (m : μ)
  /-- The message at this place is delivered. -/
  | deliver (k : ℕ)
  | lapse
  | round

/-- The event does not come from outside. -/
def ExchangeEvent.Own : ExchangeEvent μ → Prop
  | arrive _ => False
  | _ => True

namespace Exchange

variable (x : Exchange μ γ ι ρ)

/-- Before the first message. -/
def start (g : γ) : Exchanging μ γ ι ρ := ⟨Callback.start g [], [], []⟩

/-- The callbacks go on with `calls`; new requests are answered. -/
def goOn (s : Exchanging μ γ ι ρ) (calls : CallStack μ γ ι ρ) : Exchanging μ γ ι ρ where
  calls := calls
  pending := s.pending ++ (calls.requests.drop s.calls.requests.length).flatMap x.answer
  arrived := s.arrived

def step (s : Exchanging μ γ ι ρ) : ExchangeEvent μ → Option (Exchanging μ γ ι ρ)
  | .arrive m => some { s with pending := s.pending ++ [m], arrived := s.arrived ++ [m] }
  | .deliver k => s.pending[k]?.bind fun m =>
    (x.cb.step s.calls (.deliver m)).map (x.goOn { s with pending := s.pending.eraseIdx k })
  | .lapse => (x.cb.step s.calls .lapse).map (x.goOn s)
  | .round => (x.cb.step s.calls .round).map (x.goOn s)

end Exchange

/-! ## What is asked -/

/-- A message makes the callback ask `asks`; a callback that runs has still to ask `owes`, in at
most `left` rounds. -/
structure Asks (cb : Callback μ γ ι ρ) (asks : μ → List ρ) (owes : ι → List ρ) (left : ι → ℕ) :
    Prop where
  enter : ∀ m g, (cb.enter m g).2.toList.flatMap owes = asks m
  ret : ∀ l g, (cb.round l g).2 = none → owes l = []
  goOn : ∀ l g l' req, (cb.round l g).2 = some (l', req) →
    owes l = req.toList ++ owes l' ∧ left l' < left l

/-- What a request takes: a wait, and what it brings. -/
def Exchange.price (x : Exchange μ γ ι ρ) (weight : μ → ℕ) (r : ρ) : ℕ :=
  1 + ((x.answer r).map weight).sum

/-- What a running callback takes. -/
def Exchange.effort (x : Exchange μ γ ι ρ) (owes : ι → List ρ) (left : ι → ℕ) (weight : μ → ℕ)
    (l : ι) : ℕ :=
  1 + left l + ((owes l).map (x.price weight)).sum

/-- The weight of a message bounds all that follows from it. -/
def Weighs (x : Exchange μ γ ι ρ) (owes : ι → List ρ) (left : ι → ℕ) (weight : μ → ℕ) : Prop :=
  ∀ m g, ((x.cb.enter m g).2.toList.map (x.effort owes left weight)).sum < weight m

/-- All the messages that follow from a message, itself among them. -/
def Follows (x : Exchange μ γ ι ρ) (asks : μ → List ρ) (follow : μ → List μ) : Prop :=
  ∀ m, follow m = m :: ((asks m).flatMap x.answer).flatMap follow

namespace Exchange

variable {x : Exchange μ γ ι ρ} {asks : μ → List ρ} {owes : ι → List ρ} {left : ι → ℕ}
  {weight : μ → ℕ} {follow : μ → List μ} {s s' : Exchanging μ γ ι ρ} {g : γ}

/-! ## What a step can do -/

/-- A wait that ends, or a callback that returns, asks nothing. -/
theorem goOn_same (calls : CallStack μ γ ι ρ) (h : calls.requests = s.calls.requests) :
    x.goOn s calls = { s with calls } := by
  simp [goOn, h]

theorem step_deliver {k : ℕ} (h : x.step s (.deliver k) = some s') :
    ∃ m, (m :: s.pending.eraseIdx k).Perm s.pending ∧
      s' = { s with calls := x.cb.entered m s.calls, pending := s.pending.eraseIdx k } := by
  obtain ⟨m, hm, hcalls⟩ := Option.bind_eq_some_iff.mp h
  obtain ⟨calls, hstep, rfl⟩ := Option.map_eq_some_iff.mp hcalls
  obtain rfl := Callback.step_deliver hstep
  obtain ⟨hk, rfl⟩ := List.getElem?_eq_some_iff.mp hm
  exact ⟨s.pending[k], List.getElem_cons_eraseIdx_perm hk, goOn_same _ rfl⟩

theorem step_lapse (h : x.step s .lapse = some s') :
    s.calls.waiting = true ∧ s' = { s with calls := { s.calls with waiting := false } } := by
  obtain ⟨calls, hstep, rfl⟩ := Option.map_eq_some_iff.mp h
  have hwaiting : s.calls.waiting = true := by
    by_contra hnot
    simp [Callback.step, hnot] at hstep
  obtain rfl := Callback.step_lapse hstep
  exact ⟨hwaiting, goOn_same _ rfl⟩

/-- A round: the callback returns, or it goes on with what it has asked. -/
theorem step_round (h : x.step s .round = some s') :
    s.calls.waiting = false ∧ ∃ l rest, s.calls.stack = l :: rest ∧
      ((x.cb.round l s.calls.glob).2 = none ∧
          s'.calls.stack = rest ∧ s'.calls.waiting = false ∧
          s'.calls.requests = s.calls.requests ∧ s'.pending = s.pending ∨
        ∃ l' req, (x.cb.round l s.calls.glob).2 = some (l', req) ∧
          s'.calls.stack = l' :: rest ∧ s'.calls.waiting = req.isSome ∧
          s'.calls.requests = s.calls.requests ++ req.toList ∧
          s'.pending = s.pending ++ req.toList.flatMap x.answer) ∧
      s'.calls.delivered = s.calls.delivered ∧ s'.arrived = s.arrived ∧
      s'.calls.glob = (x.cb.round l s.calls.glob).1 := by
  obtain ⟨calls, hstep, rfl⟩ := Option.map_eq_some_iff.mp h
  have hwaiting : s.calls.waiting = false := by
    by_contra hnot
    simp [Callback.step, hnot] at hstep
  obtain ⟨l, rest, hstack, rfl⟩ := Callback.step_round hstep
  refine ⟨hwaiting, l, rest, hstack, ?_⟩
  cases hround : x.cb.round l s.calls.glob with
  | mk g r =>
    cases r with
    | none =>
      rw [Callback.ran_return rest hround]
      exact ⟨.inl ⟨rfl, rfl, hwaiting, rfl, by simp [goOn]⟩, rfl, rfl, rfl⟩
    | some p =>
      rw [Callback.ran_goOn rest hround]
      exact ⟨.inr ⟨p.1, p.2, rfl, rfl, rfl, rfl, by simp [goOn]⟩, rfl, rfl, rfl⟩

/-! ## What is asked and delivered -/

/-- What a request leads to. -/
def brings (x : Exchange μ γ ι ρ) (follow : μ → List μ) (r : ρ) : List μ :=
  (x.answer r).flatMap follow

/-- What was asked and is still to be asked is what the messages delivered make the callback ask;
what was delivered and is still to be delivered follows from the messages from outside. -/
structure Inv (x : Exchange μ γ ι ρ) (asks : μ → List ρ) (owes : ι → List ρ)
    (follow : μ → List μ) (s : Exchanging μ γ ι ρ) : Prop where
  asked : (s.calls.requests ++ s.calls.stack.flatMap owes).Perm (s.calls.delivered.flatMap asks)
  follows : (s.calls.delivered ++ (s.pending.flatMap follow ++
      (s.calls.stack.flatMap owes).flatMap (x.brings follow))).Perm (s.arrived.flatMap follow)

theorem inv_start (g : γ) : x.Inv asks owes follow (start g) := ⟨.refl _, .refl _⟩

theorem inv_arrive (m : μ) (h : x.Inv asks owes follow s) :
    x.Inv asks owes follow
      { s with pending := s.pending ++ [m], arrived := s.arrived ++ [m] } where
  asked := h.asked
  follows := by
    simp only [List.flatMap_append, List.flatMap_singleton, List.append_assoc]
    have hswap := (@List.perm_append_comm _ (follow m)
      ((s.calls.stack.flatMap owes).flatMap (x.brings follow))).append_left
        (s.calls.delivered ++ s.pending.flatMap follow)
    have happ := h.follows.append_right (follow m)
    simp only [List.append_assoc] at hswap happ
    exact hswap.trans happ

theorem inv_deliver {m : μ} {pending : List μ} (hasks : Asks x.cb asks owes left)
    (hfollows : Follows x asks follow) (hpending : (m :: pending).Perm s.pending)
    (h : x.Inv asks owes follow s) :
    x.Inv asks owes follow { s with calls := x.cb.entered m s.calls, pending } where
  asked := by
    simp only [Callback.entered, List.flatMap_append, hasks.enter, List.flatMap_singleton]
    have hswap := (@List.perm_append_comm _ (asks m)
      (s.calls.stack.flatMap owes)).append_left s.calls.requests
    have happ := h.asked.append_right (asks m)
    rw [List.append_assoc] at happ
    exact hswap.trans happ
  follows := by
    simp only [Callback.entered, List.flatMap_append, hasks.enter]
    have hsame : m :: ((asks m).flatMap (x.brings follow)) = follow m := by
      rw [hfollows m, List.flatMap_assoc]
      rfl
    have hmove : ([m] ++ (pending.flatMap follow ++ (asks m).flatMap (x.brings follow))).Perm
        (s.pending.flatMap follow) := by
      refine .trans ?_ (hpending.flatMap_right follow)
      rw [List.flatMap_cons, ← hsame, List.singleton_append, List.cons_append]
      exact List.perm_append_comm.cons m
    have hall := (hmove.append_right
      ((s.calls.stack.flatMap owes).flatMap (x.brings follow))).append_left s.calls.delivered
    simp only [List.append_assoc] at hall ⊢
    exact hall.trans h.follows

theorem inv_round (hasks : Asks x.cb asks owes left) (hstep : x.step s .round = some s')
    (h : x.Inv asks owes follow s) : x.Inv asks owes follow s' := by
  obtain ⟨-, l, rest, hstack, hround, hdelivered, harrived, -⟩ := step_round hstep
  have hasked := h.asked
  have hfollow := h.follows
  rw [hstack, List.flatMap_cons] at hasked hfollow
  rcases hround with ⟨hret, hstack', -, hreq, hpend⟩ | ⟨l', req, hgo, hstack', -, hreq, hpend⟩
  · rw [hasks.ret l _ hret, List.nil_append] at hasked hfollow
    constructor
    · rwa [hstack', hreq, hdelivered]
    · rwa [hstack', hpend, hdelivered, harrived]
  · rw [(hasks.goOn l _ l' req hgo).1] at hasked hfollow
    constructor
    · rw [hstack', hreq, hdelivered, List.flatMap_cons]
      simpa [List.append_assoc] using hasked
    · rw [hstack', hpend, hdelivered, harrived, List.flatMap_cons]
      have hbring : (req.toList.flatMap x.answer).flatMap follow =
          req.toList.flatMap (x.brings follow) := by
        rw [List.flatMap_assoc]
        rfl
      simpa [List.append_assoc, hbring] using hfollow

/-- The invariant of the steps. -/
theorem inv_step (hasks : Asks x.cb asks owes left) (hfollows : Follows x asks follow)
    (h : x.Inv asks owes follow s) {e : ExchangeEvent μ} (hstep : x.step s e = some s') :
    x.Inv asks owes follow s' := by
  cases e with
  | arrive m =>
    obtain rfl := Option.some.inj hstep
    exact inv_arrive m h
  | deliver k =>
    obtain ⟨m, hpending, rfl⟩ := step_deliver hstep
    exact inv_deliver hasks hfollows hpending h
  | lapse =>
    obtain ⟨-, rfl⟩ := step_lapse hstep
    exact ⟨h.asked, h.follows⟩
  | round => exact inv_round hasks hstep h

/-! ## Coming to rest -/

/-- What is left to do. -/
def work (x : Exchange μ γ ι ρ) (owes : ι → List ρ) (left : ι → ℕ) (weight : μ → ℕ)
    (s : Exchanging μ γ ι ρ) : ℕ :=
  (s.pending.map weight).sum + (s.calls.stack.map (x.effort owes left weight)).sum +
    if s.calls.waiting then 1 else 0

theorem work_round (hasks : Asks x.cb asks owes left) (hstep : x.step s .round = some s') :
    x.work owes left weight s' < x.work owes left weight s := by
  obtain ⟨hwaiting, l, rest, hstack, hround, -⟩ := step_round hstep
  simp only [work, hstack, hwaiting, List.map_cons, List.sum_cons]
  rcases hround with ⟨-, hstack', hwait, -, hpend⟩ | ⟨l', req, hgo, hstack', hwait, -, hpend⟩
  · simp only [hstack', hwait, hpend, effort]
    omega
  · obtain ⟨howes, hleft⟩ := hasks.goOn l _ l' req hgo
    rw [hstack', hwait, hpend]
    cases req with
    | none =>
      simp only [Option.toList_none, List.nil_append] at howes
      simp only [effort, howes, Option.toList_none, List.flatMap_nil, List.append_nil,
        List.map_cons, List.sum_cons, Option.isSome_none]
      omega
    | some r =>
      simp only [Option.toList_some, List.singleton_append] at howes
      simp only [effort, howes, price, Option.toList_some, List.flatMap_singleton,
        List.map_append, List.sum_append, List.map_cons, List.sum_cons, Option.isSome_some]
      simp only [if_true, Bool.false_eq_true, if_false]
      omega

theorem work_deliver {m : μ} {pending : List μ} (hweighs : Weighs x owes left weight)
    (hpending : (m :: pending).Perm s.pending) :
    x.work owes left weight { s with calls := x.cb.entered m s.calls, pending } <
      x.work owes left weight s := by
  have hsum := (hpending.map weight).sum_nat
  have hlight := hweighs m s.calls.glob
  simp only [List.map_cons, List.sum_cons] at hsum
  simp only [work, Callback.entered, List.map_append, List.sum_append, Bool.false_eq_true, if_false]
  omega

/-- Every step of the callbacks takes work away. -/
theorem drains (hasks : Asks x.cb asks owes left) (hweighs : Weighs x owes left weight) :
    Drains x.step ExchangeEvent.Own (fun _ => True) (x.work owes left weight) where
  keeps := fun _ _ _ _ _ _ => trivial
  less := by
    intro s e s' _ hown hstep
    cases e with
    | arrive m => exact hown.elim
    | deliver k =>
      obtain ⟨m, hpending, rfl⟩ := step_deliver hstep
      exact work_deliver hweighs hpending
    | lapse =>
      obtain ⟨hwaiting, rfl⟩ := step_lapse hstep
      simp [work, hwaiting]
    | round => exact work_round hasks hstep

/-- At rest no callback runs, and no message waits. -/
theorem empty_of_quiet (h : Quiet x.step ExchangeEvent.Own s) :
    s.calls.stack = [] ∧ s.pending = [] := by
  have hlapse := h .lapse trivial
  have hround := h .round trivial
  have hdeliver := h (.deliver 0) trivial
  have hwaiting : s.calls.waiting = false := by
    by_contra hnot
    simp [step, Callback.step, hnot] at hlapse
  have hstack : s.calls.stack = [] := by
    cases hs : s.calls.stack with
    | nil => rfl
    | cons l rest => simp [step, Callback.step, hs, hwaiting] at hround
  refine ⟨hstack, ?_⟩
  cases hp : s.pending with
  | nil => rfl
  | cons m ms => simp [step, Callback.step, hp, hstack] at hdeliver

/-- Where no callback runs and no message waits, it is at rest. -/
theorem quiet_of_empty (hstack : s.calls.stack = []) (hwaiting : s.calls.waiting = false)
    (hpending : s.pending = []) : Quiet x.step ExchangeEvent.Own s := by
  intro e hown
  cases e with
  | arrive m => exact hown.elim
  | deliver k => simp [step, hpending]
  | lapse => simp [step, Callback.step, hwaiting]
  | round => simp [step, Callback.step, hstack]

/-- **An exchange settles.**  Its own steps come to an end under every scheduling; at rest
everything that follows from the messages from outside has been delivered, once, and everything
that these messages make the callback ask has been asked, once. -/
theorem settles (hasks : Asks x.cb asks owes left) (hweighs : Weighs x owes left weight)
    (hfollows : Follows x asks follow) (hrun : Reachable x.step (start g) s) :
    (∀ es s', (∀ e ∈ es, e.Own) → exec x.step s es = some s' →
      es.length ≤ x.work owes left weight s) ∧
    (Quiet x.step ExchangeEvent.Own s →
      s.calls.delivered.Perm (s.arrived.flatMap follow) ∧
      s.calls.requests.Perm (s.calls.delivered.flatMap asks)) := by
  constructor
  · intro es s' hown hexec
    exact (drains hasks hweighs).length_le trivial hown hexec
  · intro hquiet
    have hinv : x.Inv asks owes follow s :=
      hrun.invariant (inv_start g) fun _ _ _ h _ hs => inv_step hasks hfollows h hs
    obtain ⟨hstack, hpending⟩ := empty_of_quiet hquiet
    have hasked := hinv.asked
    have hfollow := hinv.follows
    rw [hstack, List.flatMap_nil, List.append_nil] at hasked
    rw [hstack, hpending, List.flatMap_nil, List.flatMap_nil, List.flatMap_nil, List.append_nil,
      List.append_nil] at hfollow
    exact ⟨hfollow, hasked⟩

end Exchange

end ZnpHost.Lib
