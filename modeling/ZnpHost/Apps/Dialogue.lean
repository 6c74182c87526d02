import Mathlib.Algebra.Order.BigOperators.Group.List
import ZnpHost.Apps.SendCmd

/-!
# What is typed is what is sent

For every attribute of a command a line is typed for each of its values; a length that is too
large for its list is refused and typed again.  The dialogue then ends, the request function
is called, and it sends the values that were typed, in their order.

## Main definitions

* `Dialogue` — the lines typed for a command.
* `Asked` — the state in which an attribute is asked for.
* `Dialogue.ends` — the loop gets to the end of the attributes.
* `valuesOf`, `Sends` — the values of the lines, and what the request function sends.
* `typed_is_sent` — the two agree.
-/

namespace ZnpHost.Apps

open Lib Mt

/-! ## The lines -/

/-- The lines typed for the attributes of a command: those that are `refused`, which are lengths,
and one for each value. -/
structure Dialogue (atts : List CmdAtt) (refused lines : ℕ → List Answer) : Prop where
  named : ∀ j, ∀ a ∈ atts[j]?, ∀ ans ∈ lines j, (valueOf a.size (line ans.value)).isSome
  scalar : ∀ j, ∀ a ∈ atts[j]?, a.isList = 0 → (lines j).length = 1
  list : ∀ j, ∀ a ∈ atts[j]?, a.isList ≠ 0 → ∃ p ∈ atts[j - 1]?, ∃ ans bs,
    lines (j - 1) = [ans] ∧ valueOf p.size (line ans.value) = some bs ∧
      (lines j).length = leNat bs ∧ leNat bs < a.isList
  refused : ∀ j, ∀ ans ∈ refused j, ∃ p ∈ atts[j]?, ∃ a ∈ atts[j + 1]?, p.isList = 0 ∧
    a.isList ≠ 0 ∧ ∃ bs, valueOf p.size (line ans.value) = some bs ∧ a.isList ≤ leNat bs

/-- All lines from attribute `k` on. -/
def linesFrom (atts : List CmdAtt) (refused lines : ℕ → List Answer) (k : ℕ) : List Answer :=
  (List.range' k (atts.length - k)).flatMap fun j => refused j ++ lines j

/-- The texts of the lines that are kept. -/
def texts (lines : ℕ → List Answer) (j : ℕ) : List (List UInt8) :=
  (lines j).map fun ans => line ans.value

variable {atts : List CmdAtt} {refused lines : ℕ → List Answer} {a p : CmdAtt} {k n : ℕ}
  {s s' : InputState} {ans : Answer} {more rest : List Answer} {bs : List UInt8}

theorem linesFrom_of_lt (hk : k < atts.length) : linesFrom atts refused lines k =
    refused k ++ (lines k ++ linesFrom atts refused lines (k + 1)) := by
  obtain ⟨m, hm⟩ : ∃ m, atts.length - k = m + 1 := ⟨atts.length - k - 1, by omega⟩
  have hrest : atts.length - (k + 1) = m := by omega
  rw [linesFrom, linesFrom, hm, hrest, List.range'_succ, List.flatMap_cons, List.append_assoc]

/-! ## Rounds -/

/-- Attribute `k` is asked for, and these answers are to come. -/
structure Asked (atts : List CmdAtt) (lines : ℕ → List Answer) (k : ℕ) (answers : List Answer)
    (s : InputState) : Prop where
  inv : Inv atts s
  x_eq : s.x = k
  answers_eq : s.answers = answers
  entered : ∀ j < k, s.entered j = texts lines j

/-- A value that is not a list is typed. -/
theorem scalar_round (hreg : Regular atts) (hinv : Inv atts s) (ha : atts[s.x]? = some a)
    (hlist : a.isList = 0) (hans : s.answers = ans :: more) :
    ∃ s', inputRound atts s = some (.inl s') ∧ Inv atts s' ∧ s'.x = s.x + 1 ∧
      s'.answers = more ∧ s'.entered = Function.update s.entered s.x [line ans.value] := by
  have hround : ∃ s', scalarRound a s = some s' ∧ s'.x = s.x + 1 ∧ s'.answers = more ∧
      s'.entered = Function.update s.entered s.x [line ans.value] := by
    simp [scalarRound, hans]
  obtain ⟨s', hs', hx, hmore, hentered⟩ := hround
  have hinput : inputRound atts s = some (.inl s') := by simp [inputRound, ha, hlist, hs']
  exact ⟨s', hinput, hinv.round hreg hinput, hx, hmore, hentered⟩

/-- The length of the list that is asked for is the value in front of it. -/
theorem listLen_of_entered (hreg : Regular atts) (hinv : Inv atts s) (ha : atts[s.x]? = some a)
    (hlist : a.isList ≠ 0) (hp : atts[s.x - 1]? = some p)
    (hentered : s.entered (s.x - 1) = [line ans.value])
    (hvalue : valueOf p.size (line ans.value) = some bs) :
    listLen (prevAttSize atts s.x) s = leNat bs := by
  obtain ⟨q, hbefore, -⟩ := hinv.before hreg ha hlist
  obtain rfl : q = p := Option.some.inj (hbefore.att.symm.trans hp)
  have hprev : prevAttSize atts s.x = q.size := by simp [prevAttSize, hp]
  have hholds := hinv.done.holds (s.x - 1) (Nat.sub_lt hbefore.pos Nat.one_pos) q hp 0
    (line ans.value) (by simp [hentered]) bs hvalue
  rw [hprev, listLen_eq hbefore.size hbefore.place, ← hholds.1, Nat.mul_zero, Nat.add_zero]

/-- An element of a list is typed. -/
theorem listRounds_cons (m tempPos : ℕ) (hans : s.answers = ans :: more) :
    ∃ s₁ t, listRounds a (m + 1) tempPos s = listRounds a m t s₁ ∧ s₁.x = s.x ∧
      s₁.answers = more ∧
      s₁.entered = Function.update s.entered s.x (s.entered s.x ++ [line ans.value]) := by
  simp only [listRounds, hans]
  exact ⟨_, _, rfl, rfl, rfl, rfl⟩

/-- All elements are typed. -/
theorem listRounds_answers (xs : List Answer) (tempPos : ℕ) (hans : s.answers = xs ++ more) :
    ∃ s', listRounds a xs.length tempPos s = some s' ∧ s'.x = s.x + 1 ∧ s'.answers = more ∧
      s'.entered s.x = s.entered s.x ++ xs.map (fun ans => line ans.value) ∧
      ∀ j, j ≠ s.x → s'.entered j = s.entered j := by
  induction xs generalizing s tempPos with
  | nil => exact ⟨_, rfl, rfl, hans, (List.append_nil _).symm, fun _ _ => rfl⟩
  | cons ans xs ih =>
    obtain ⟨s₁, t, hfirst, hx₁, hans₁, hentered₁⟩ := listRounds_cons xs.length tempPos hans
    obtain ⟨s', hrun, hx, hmore, hself, hother⟩ := ih t hans₁
    rw [hx₁, hentered₁] at hself
    rw [hx₁] at hx hother
    refine ⟨s', hfirst.trans hrun, hx, hmore, ?_, ?_⟩
    · simpa using hself
    · intro j hj
      rw [hother j hj, hentered₁, Function.update_of_ne hj]

namespace Asked

/-- A value is typed. -/
theorem next_scalar (h : Asked atts lines k (ans :: more) s) (hreg : Regular atts)
    (ha : atts[k]? = some a) (hlist : a.isList = 0) (hline : lines k = [ans]) :
    ∃ s', Reaches (inputRound atts) s s' ∧ Asked atts lines (k + 1) more s' := by
  obtain rfl := h.x_eq
  obtain ⟨s', hround, hinv, hx, hmore, hentered⟩ :=
    scalar_round hreg h.inv ha hlist h.answers_eq
  refine ⟨s', .step hround (.refl s'), hinv, hx, hmore, ?_⟩
  intro j hj
  by_cases hself : j = s.x
  · rw [hentered, hself, Function.update_self, texts, hline]
    rfl
  · rw [hentered, Function.update_of_ne hself]
    exact h.entered j (by omega)

/-- A list is typed. -/
theorem next_list (h : Asked atts lines k (lines k ++ more) s) (hreg : Regular atts)
    (ha : atts[k]? = some a) (hlist : a.isList ≠ 0) (hp : atts[k - 1]? = some p)
    (hbefore : lines (k - 1) = [ans]) (hvalue : valueOf p.size (line ans.value) = some bs)
    (hlen : (lines k).length = leNat bs) (hshort : leNat bs < a.isList) :
    ∃ s', Reaches (inputRound atts) s s' ∧ Asked atts lines (k + 1) more s' := by
  obtain rfl := h.x_eq
  have hpos : s.x - 1 < s.x := Nat.sub_lt (hreg.list ha hlist).2.1 Nat.one_pos
  have hkept : s.entered (s.x - 1) = [line ans.value] := by
    rw [h.entered _ hpos, texts, hbefore]
    rfl
  have hcount := listLen_of_entered hreg h.inv ha hlist hp hkept hvalue
  let s₀ : InputState := { s with entered := Function.update s.entered s.x [] }
  have hans : s₀.answers = lines s.x ++ more := h.answers_eq
  obtain ⟨s', hrun, hx, hmore, hself, hother⟩ := listRounds_answers (a := a) _ s.currentPos hans
  have hround : inputRound atts s = some (.inl s') := by
    rw [hlen] at hrun
    simp [inputRound, ha, hlist, hcount, Nat.not_le_of_lt hshort, s₀, hrun]
  refine ⟨s', .step hround (.refl s'), h.inv.round hreg hround, hx, hmore, ?_⟩
  intro j hj
  by_cases hlast : j = s.x
  · rw [hlast]
    refine hself.trans ?_
    simp [s₀, texts]
  · rw [hother j hlast]
    change Function.update s.entered s.x [] j = _
    rw [Function.update_of_ne hlast]
    exact h.entered j (by omega)

/-- Lengths that are too large are refused. -/
theorem next_refused (hreg : Regular atts) (hp : atts[k]? = some p) (hscalar : p.isList = 0)
    (ha : atts[k + 1]? = some a) (hlist : a.isList ≠ 0) (xs : List Answer)
    (hxs : ∀ ans ∈ xs, ∃ bs, valueOf p.size (line ans.value) = some bs ∧ a.isList ≤ leNat bs)
    (h : Asked atts lines k (xs ++ more) s) :
    ∃ s', Reaches (inputRound atts) s s' ∧ Asked atts lines k more s' := by
  induction xs generalizing s with
  | nil => exact ⟨s, .refl s, h⟩
  | cons ans xs ih =>
    obtain rfl := h.x_eq
    obtain ⟨bs, hvalue, hlong⟩ := hxs ans List.mem_cons_self
    obtain ⟨s₁, hround₁, hinv₁, hx₁, hmore₁, hentered₁⟩ :=
      scalar_round hreg h.inv hp hscalar h.answers_eq
    have ha₁ : atts[s₁.x]? = some a := hx₁ ▸ ha
    have hp₁ : atts[s₁.x - 1]? = some p := by rw [hx₁, Nat.add_sub_cancel, hp]
    have hkept : s₁.entered (s₁.x - 1) = [line ans.value] := by
      rw [hx₁, Nat.add_sub_cancel, hentered₁, Function.update_self]
    have hcount := listLen_of_entered hreg hinv₁ ha₁ hlist hp₁ hkept hvalue
    -- the index goes back to the length
    let s₂ : InputState :=
      { s₁ with x := s₁.x - 1, currentPos := s₁.currentPos - prevAttSize atts s₁.x }
    have hround₂ : inputRound atts s₁ = some (.inl s₂) := by
      simp [inputRound, ha₁, hlist, hcount, hlong, s₂]
    have hasked : Asked atts lines s.x (xs ++ more) s₂ := by
      constructor
      · exact hinv₁.round hreg hround₂
      · change s₁.x - 1 = s.x
        omega
      · exact hmore₁
      · intro j hj
        change s₁.entered j = _
        rw [hentered₁, Function.update_of_ne (Nat.ne_of_lt hj)]
        exact h.entered j hj
    obtain ⟨s', hreach, hdone⟩ :=
      ih (fun ans' hmem => hxs ans' (List.mem_cons_of_mem _ hmem)) hasked
    exact ⟨s', .step hround₁ (.step hround₂ hreach), hdone⟩

end Asked

/-! ## The dialogue -/

namespace Dialogue

/-- One attribute. -/
theorem next (h : Dialogue atts refused lines) (hreg : Regular atts) (ha : atts[k]? = some a)
    (hs : Asked atts lines k (refused k ++ (lines k ++ more)) s) :
    ∃ s', Reaches (inputRound atts) s s' ∧ Asked atts lines (k + 1) more s' := by
  by_cases hlist : a.isList = 0
  · -- what is refused first
    have hready : ∃ s₁, Reaches (inputRound atts) s s₁ ∧
        Asked atts lines k (lines k ++ more) s₁ := by
      cases hnone : refused k with
      | nil =>
        rw [hnone] at hs
        exact ⟨s, .refl s, hs⟩
      | cons ans xs =>
        obtain ⟨p, hp, b, hb, -, hblist, -⟩ := h.refused k ans (by simp [hnone])
        obtain rfl : a = p := Option.some.inj (ha.symm.trans hp)
        refine Asked.next_refused hreg ha hlist hb hblist (refused k) ?_ hs
        intro ans' hmem
        obtain ⟨q, hq, d, hd, -, -, hlong⟩ := h.refused k ans' hmem
        obtain rfl : a = q := Option.some.inj (ha.symm.trans hq)
        obtain rfl : b = d := Option.some.inj (hb.symm.trans hd)
        exact hlong
    obtain ⟨s₁, hreach, hasked⟩ := hready
    obtain ⟨ans, hline⟩ := List.length_eq_one_iff.mp (h.scalar k a ha hlist)
    rw [hline] at hasked
    obtain ⟨s', hnext, hdone⟩ := hasked.next_scalar hreg ha hlist hline
    exact ⟨s', hreach.trans hnext, hdone⟩
  · have hnone : refused k = [] := by
      cases hr : refused k with
      | nil => rfl
      | cons ans xs =>
        obtain ⟨p, hp, -, -, hscalar, -⟩ := h.refused k ans (by simp [hr])
        obtain rfl : a = p := Option.some.inj (ha.symm.trans hp)
        exact absurd hscalar hlist
    obtain ⟨p, hp, ans, bs, hbefore, hvalue, hlen, hshort⟩ := h.list k a ha hlist
    rw [hnone] at hs
    exact hs.next_list hreg ha hlist hp hbefore hvalue hlen hshort

/-- **The dialogue gets to the end of the attributes.** -/
theorem ends (h : Dialogue atts refused lines) (hreg : Regular atts) (m : ℕ) :
    ∀ k s, k + m = atts.length → Asked atts lines k (linesFrom atts refused lines k ++ rest) s →
      ∃ s', Reaches (inputRound atts) s s' ∧ Asked atts lines atts.length rest s' := by
  induction m with
  | zero =>
    intro k s hk hs
    obtain rfl : k = atts.length := hk
    exact ⟨s, .refl s, by simpa [linesFrom] using hs⟩
  | succ m ih =>
    intro k s hk hs
    have hlt : k < atts.length := by omega
    rw [linesFrom_of_lt hlt, List.append_assoc, List.append_assoc] at hs
    obtain ⟨s₁, hreach, hasked⟩ := h.next hreg (List.getElem?_eq_getElem hlt) hs
    obtain ⟨s', hrest, hdone⟩ := ih (k + 1) s₁ (by omega) hasked
    exact ⟨s', hreach.trans hrest, hdone⟩

/-- So `inputCmd` calls `sendCmd`, with every line kept. -/
theorem inputCmd_eq (h : Dialogue atts refused lines) (hreg : Regular atts) (heap : Mem)
    (tem : UInt32) (rest : List Answer) :
    ∃ s n, (∀ fuel, n ≤ fuel →
      inputCmd atts fuel heap tem (linesFrom atts refused lines 0 ++ rest) = some s) ∧
      s.answers = rest ∧ ∀ j < atts.length, s.entered j = texts lines j := by
  obtain ⟨s, hreach, hdone⟩ := h.ends hreg atts.length 0
    ⟨0, 0, heap, tem, linesFrom atts refused lines 0 ++ rest, [], fun _ => []⟩ (by omega)
    ⟨inv_start atts heap tem _, rfl, rfl, fun j hj => absurd hj (Nat.not_lt_zero j)⟩
  have hend : inputRound atts s = some (.inr s) := by
    simp [inputRound, hdone.x_eq]
  obtain ⟨n, hn⟩ := hreach.runLoop hend
  exact ⟨s, n, hn, hdone.answers_eq, hdone.entered⟩

end Dialogue

/-! ## What is sent -/

/-- The most bytes that the values of a command can have. -/
def payloadMax (atts : List CmdAtt) : ℕ :=
  (atts.map fun a => a.size * if a.isList = 0 then 1 else a.isList - 1).sum

/-- A request that fits into the block fits into a frame. -/
theorem payloadMax_le : ∀ c ∈ commands, requestSize c.atts < 256 → payloadMax c.atts ≤ 250 := by
  decide +kernel

theorem length_encode_itemsAt {r : Ptr} (hfacts : TableFacts atts) (hfit : ListsFit atts r) :
    (encode (itemsAt atts r)).length ≤ payloadMax atts := by
  have hmax : payloadMax atts =
      (atts.zipIdx.map fun x => x.1.size * if x.1.isList = 0 then 1 else x.1.isList - 1).sum := by
    rw [payloadMax]
    conv_lhs => rw [← List.zipIdx_map_fst 0 atts]
    rw [List.map_map]
    rfl
  rw [hmax, encode, itemsAt, List.flatMap_map, List.length_flatMap]
  apply List.sum_le_sum
  rintro ⟨a, j⟩ hmem
  have ha : atts[j]? = some a := List.mem_zipIdx_iff_getElem?.mp hmem
  rw [encode_itemAt (hfacts.sizes a (List.mem_of_getElem? ha)) (hfit j a ha), Mem.length_take]
  apply Nat.mul_le_mul_left
  by_cases hlist : a.isList = 0
  · simp [valueCount, hlist]
  · have hlt := hfit j a ha hlist
    simp only [valueCount, if_neg hlist]
    omega

theorem length_sentBytes (index : ℕ) (bs : List UInt8) :
    (sentBytes index bs).length ≤ bs.length := by
  rw [sentBytes]
  split
  · exact List.length_take_le' _ _
  · exact Nat.le_refl _

/-- The request function sends these bytes, if it counts right. -/
structure Sends (req : AnyRequest) (bs : List UInt8) : Prop where
  stores : req.build.stores = bs
  short : bs.length ≤ 250
  passed : ¬ req.Miscounted → ∀ block, req.build.passed block = bs

theorem Sends.of_stores {req : AnyRequest} (hstores : req.build.stores = bs)
    (hshort : bs.length ≤ 250) : Sends req bs where
  stores := hstores
  short := hshort
  passed hcounted block := by
    have hcount := AnyRequest.count hcounted
    have hle : req.build.cmdLen ≤ 255 := by
      rw [← hcount, hstores]
      exact Nat.le_trans hshort (by decide)
    rw [req.build.passed_eq_stores hcount hle, hstores]

/-- The values of the lines, one attribute after the other. -/
def valuesOf (atts : List CmdAtt) (lines : ℕ → List Answer) : List UInt8 :=
  typedBytes atts (texts lines)

theorem typedBytes_congr {f g : ℕ → List (List UInt8)} (h : ∀ j < atts.length, f j = g j) :
    typedBytes atts f = typedBytes atts g := by
  apply List.flatMap_congr
  rintro ⟨a, j⟩ hmem
  have hj : j < atts.length :=
    (List.getElem?_eq_some_iff.mp (List.mem_zipIdx_iff_getElem?.mp hmem)).1
  simp only [h j hj]

/-- **What is typed is what is sent.**  Whatever lengths are refused on the way, the dialogue of a
command ends, and the request function that `sendCmd` calls sends the values of the lines, all of
them and in the order in which they were asked for. -/
theorem typed_is_sent {index : ℕ} {c : Cmd} (hc : commands[index]? = some c)
    {refused lines : ℕ → List Answer} (h : Dialogue c.atts refused lines)
    (hroom : requestSize c.atts < 256) (hlists : ∀ j ∈ oddLists c.atts, lines j ≠ [])
    (heap : Mem) (tem : UInt32) (rest : List Answer) :
    ∃ s req n, (∀ fuel, n ≤ fuel →
      inputCmd c.atts fuel heap tem (linesFrom c.atts refused lines 0 ++ rest) = some s) ∧
      s.answers = rest ∧ requestOf index s.input = some req ∧
      Sends req (sentBytes index (valuesOf c.atts lines)) := by
  have hfacts := tableFacts (List.mem_of_getElem? hc)
  obtain ⟨s, n, hrun, hanswers, hentered⟩ := h.inputCmd_eq hfacts.regular heap tem rest
  have hlength : ∀ j, ∀ a ∈ c.atts[j]?, s.entered j = texts lines j :=
    fun j a ha => hentered j (List.getElem?_eq_some_iff.mp ha).1
  have hfits : Fits c.atts s := by
    constructor
    case room => exact hroom
    case lists =>
      intro j hj
      have hlt : j < c.atts.length := Nat.lt_of_succ_lt (mem_oddLists.mp hj).1
      rw [hentered j hlt]
      simpa [texts] using hlists j hj
    case named =>
      intro j a ha l hl
      rw [hlength j a ha] at hl
      obtain ⟨ans, hans, rfl⟩ := List.mem_map.mp hl
      exact h.named j a ha ans hans
  have hshort : ∀ j, ∀ a ∈ c.atts[j]?, a.isList ≠ 0 → s.counts j < a.isList := by
    intro j a ha hlist
    obtain ⟨_, _, _, _, _, _, hlen, hlt⟩ := h.list j a ha hlist
    rw [InputState.counts, hlength j a ha, texts, List.length_map, hlen]
    exact hlt
  have hlaid := (laidOut_iff hc (hrun n (Nat.le_refl n))).mpr hfits
  obtain ⟨hfit, hencode⟩ := hlaid.encode_itemsAt hfacts hshort
  obtain ⟨req, hreq, hstores⟩ := requestOf_stores hc s.input hfit
  have htyped : typedBytes c.atts s.entered = valuesOf c.atts lines := typedBytes_congr hentered
  rw [hencode, htyped] at hstores
  refine ⟨s, req, n, hrun, hanswers, hreq, .of_stores hstores ?_⟩
  have hmax := (length_encode_itemsAt hfacts hfit).trans
    (payloadMax_le c (List.mem_of_getElem? hc) hroom)
  rw [hencode, htyped] at hmax
  exact (length_sentBytes index _).trans hmax

/-- The length of 32 clusters is refused. -/
def matchDescRefused : ℕ → List Answer
  | 3 => (matchDescAnswers.drop 3).take 1
  | _ => []

/-- One cluster in each list. -/
def matchDescLines : ℕ → List Answer
  | 0 => matchDescAnswers.take 1
  | 1 => (matchDescAnswers.drop 1).take 1
  | 2 => (matchDescAnswers.drop 2).take 1
  | j + 3 => (matchDescAnswers.drop (j + 4)).take 1

theorem dialogue_matchDesc : Dialogue matchDesc.atts matchDescRefused matchDescLines := by
  have hcases : ∀ j a, matchDesc.atts[j]? = some a → j < 7 :=
    fun j a ha => (List.getElem?_eq_some_iff.mp ha).1
  constructor
  case named =>
    have hnamed : ∀ j < 7, ∀ a ∈ matchDesc.atts[j]?, ∀ ans ∈ matchDescLines j,
        (valueOf a.size (line ans.value)).isSome := by decide +kernel
    exact fun j a ha => hnamed j (hcases j a ha) a ha
  case scalar =>
    have hscalar : ∀ j < 7, ∀ a ∈ matchDesc.atts[j]?, a.isList = 0 →
        (matchDescLines j).length = 1 := by decide +kernel
    exact fun j a ha => hscalar j (hcases j a ha) a ha
  case list =>
    intro j a ha hlist
    have hj := hcases j a ha
    have hwhich : ∀ j < 7, ∀ a ∈ matchDesc.atts[j]?, a.isList ≠ 0 → a.isList = 16 ∧
        (j = 4 ∨ j = 6) := by decide +kernel
    obtain ⟨hmax, rfl | rfl⟩ := hwhich j hj a ha hlist
    all_goals
      refine ⟨_, rfl, _, [1], rfl, by decide +kernel, rfl, ?_⟩
      rw [hmax]
      decide
  case refused =>
    intro j ans hans
    by_cases hj : j = 3
    · subst hj
      obtain rfl := List.mem_singleton.mp hans
      exact ⟨_, rfl, _, rfl, rfl, by decide, [32], by decide +kernel, by decide⟩
    · simp [matchDescRefused] at hans

/-- The clusters are found in the request. -/
theorem typed_is_sent_matchDesc : ∃ s req n, (∀ fuel, n ≤ fuel →
    inputCmd matchDesc.atts fuel (fun _ => 238) 7
      (linesFrom matchDesc.atts matchDescRefused matchDescLines 0 ++ []) = some s) ∧
    s.answers = [] ∧ requestOf 35 s.input = some req ∧
    Sends req [0, 0, 0xAB, 0x12, 0x04, 0x01, 1, 6, 0, 1, 0x01, 0x05] := by
  have hlists : ∀ j ∈ oddLists matchDesc.atts, matchDescLines j ≠ [] := by decide +kernel
  have hvalues : sentBytes 35 (valuesOf matchDesc.atts matchDescLines) =
      [0, 0, 0xAB, 0x12, 0x04, 0x01, 1, 6, 0, 1, 0x01, 0x05] := by decide +kernel
  rw [← hvalues]
  exact typed_is_sent getElem?_matchDesc dialogue_matchDesc (by decide +kernel) hlists _ _ _

end ZnpHost.Apps
