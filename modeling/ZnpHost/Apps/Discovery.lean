import Mathlib.Data.Finset.Card
import Mathlib.Data.List.Perm.Basic
import ZnpHost.Apps.Collection
import ZnpHost.Lib.Traversal

/-!
# A discovery round of `nwkTopology`

A round asks the coordinator and then every router that a response lists as a child.  The
routers answer in any order, inside a request or in the main loop, or not at all.

## Main definitions

* `Network` — the routers, the coordinator among them, and their responses.
* `Network.asks` — the routers a response makes the callback ask.
* `Network.step` — a router that was asked answers, or the application goes on.
* `Discovers` — every router is asked at most once, and the table is large enough.
* `discovery_iff` — this holds in every round if and only if each router that is reached is
  listed in one place.
-/

namespace ZnpHost.Apps

open Lib Mt Rpc NwkTopology

/-! ## Networks -/

/-- The routers that can answer, and their responses. -/
structure Network where
  routers : Finset UInt16
  coordinator : 0 ∈ routers
  rsp : UInt16 → LqiRsp
  fits : ∀ a ∈ routers, (rsp a).Fits

/-- The address asked for a neighbour. -/
def routerAddr (item : NeighborLqiListItemFormat) : Option UInt16 :=
  if selects (devRelation item) && devType item = deviceTypeRouter then some item.networkAddress
  else none

/-- The addresses asked from neighbour `i` on. -/
def LqiRsp.asksFrom (msg : LqiRsp) (i : ℕ) : List UInt16 :=
  (msg.neighbors.drop i).filterMap routerAddr

/-- The addresses a response makes the callback ask. -/
def LqiRsp.asks (msg : LqiRsp) : List UInt16 :=
  if msg.status = mtRpcSuccess then msg.asksFrom 0 else []

/-- The routers a router's response makes the callback ask. -/
def Network.asks (net : Network) (a : UInt16) : List UInt16 :=
  (net.rsp a).asks.filter (· ∈ net.routers)

/-! ## Rounds -/

/-- A round: the callbacks, and the routers that have answered, in order. -/
structure Round where
  calls : CallStack LqiRsp Topology Locals StartIndexReqFormat
  answered : List UInt16

/-- What happens next in a round. -/
inductive RoundEvent
  | answer (a : UInt16)
  | lapse
  | run

/-- The router that answers. -/
def RoundEvent.answers : RoundEvent → List UInt16
  | .answer a => [a]
  | .lapse => []
  | .run => []

/-- The addresses of the requests, in order. -/
def Round.asked (r : Round) : List UInt16 := r.calls.requests.map (·.dstAddr)

/-- `nodeCount = 0` and the request to the coordinator. -/
def Round.start (nodeList : ℕ → Node) : Round :=
  ⟨Callback.start (.start nodeList) [⟨0, 0⟩], []⟩

namespace Network

variable (net : Network)

/-- What the event is for the callbacks. -/
def event : RoundEvent → CallEvent LqiRsp
  | .answer a => .deliver (net.rsp a)
  | .lapse => .lapse
  | .run => .round

/-- A router answers each request once. -/
def CanAnswer (r : Round) (e : RoundEvent) : Prop :=
  ∀ a ∈ e.answers, a ∈ net.routers ∧ r.answered.count a < r.asked.count a

instance (r : Round) (e : RoundEvent) : Decidable (net.CanAnswer r e) :=
  List.decidableBAll _ e.answers

def step (r : Round) (e : RoundEvent) : Option Round :=
  if net.CanAnswer r e then
    (mtZdoMgmtLqiRspCb.step r.calls (net.event e)).map fun calls =>
      ⟨calls, r.answered ++ e.answers⟩
  else none

/-- Every router is asked at most once, the number of requests is bounded, and no index is out
of range, in the callbacks and in the loops that print the table. -/
structure Discovers (r : Round) : Prop where
  once : (r.asked.filter (· ∈ net.routers)).Nodup
  requests_le : r.asked.length ≤ 1 + 11 * net.routers.card
  inRange : net.routers.card ≤ maxNodeList →
    (∀ k ∈ r.calls.glob.nodeIdx, k < maxNodeList) ∧
    (∀ c ∈ r.calls.glob.childIdx, c < maxChildren) ∧
    r.calls.glob.nodeCount.toNat ≤ maxNodeList ∧
    ∀ k < r.calls.glob.nodeCount.toNat,
      (r.calls.glob.nodeList k).childCount.toNat ≤ maxChildren

variable {net} {r r' : Round} {e : RoundEvent}

theorem step_eq_some (h : net.step r e = some r') :
    net.CanAnswer r e ∧ mtZdoMgmtLqiRspCb.step r.calls (net.event e) = some r'.calls ∧
      r'.answered = r.answered ++ e.answers := by
  simp only [step] at h
  split at h
  · rename_i hcan
    obtain ⟨calls, hcalls, rfl⟩ := Option.map_eq_some_iff.mp h
    exact ⟨hcan, hcalls, rfl⟩
  · cases h

theorem eventFits (h : net.CanAnswer r e) : EventFits (net.event e) := by
  cases e with
  | answer a => exact net.fits a (h a List.mem_cons_self).1
  | lapse => trivial
  | run => trivial

end Network

/-! ## What is asked -/

namespace LqiRsp

variable {msg : LqiRsp} {i : ℕ}

theorem asksFrom_succ (h : i < msg.count) :
    msg.asksFrom i = (routerAddr (msg.neighbor i h)).toList ++ msg.asksFrom (i + 1) := by
  have hi : i < msg.neighbors.length := by simpa using h
  have hget : msg.neighbors[i] = msg.neighbor i h := by simp [neighbors]
  rw [asksFrom, List.drop_eq_getElem_cons hi, hget, List.filterMap_cons]
  cases routerAddr (msg.neighbor i h) <;> rfl

theorem asksFrom_of_le (h : ¬ i < msg.count) : msg.asksFrom i = [] := by
  rw [asksFrom, List.drop_of_length_le (by simpa using h), List.filterMap_nil]

theorem length_asks_le : msg.asks.length ≤ msg.count := by
  by_cases h : msg.status = mtRpcSuccess
  · rw [asks, if_pos h]
    exact Nat.le_trans (List.length_filterMap_le _ _) (by simp)
  · simp [asks, h]

end LqiRsp

/-- The request that a round of the loop issues. -/
theorem Topology.request_visit (g : Topology) (k : UInt8) (item : NeighborLqiListItemFormat) :
    (g.visit selects k item).2.toList.map (·.dstAddr) = (routerAddr item).toList := by
  by_cases hsel : selects (devRelation item)
  · by_cases htype : devType item = deviceTypeRouter <;> simp [visit, routerAddr, hsel, htype]
  · simp [visit, routerAddr, hsel]

namespace Network

variable {net : Network} {r r' : Round} {e : RoundEvent} {nodeList : ℕ → Node}

/-- What the callbacks that are running have still to ask. -/
def toAsk (r : Round) : List UInt16 := r.calls.stack.flatMap fun l => l.msg.asksFrom l.i

/-- What was asked and what is still to be asked are what the responses list. -/
structure Inv (net : Network) (r : Round) : Prop where
  table : NwkTopology.Inv r.calls
  asked : (r.asked ++ toAsk r).Perm (askedBy (fun a => (net.rsp a).asks) 0 r.answered)
  delivered : r.calls.delivered.length = r.answered.length
  answered : ∀ a ∈ r.answered, a ∈ net.routers

theorem inv_start (nodeList : ℕ → Node) : net.Inv (.start nodeList) where
  table := fun _ => ⟨Filled.start nodeList, rfl⟩
  asked := .refl _
  delivered := rfl
  answered := by simp [Round.start]

theorem toAsk_entered (msg : LqiRsp) (r : Round) (answered : List UInt16) :
    toAsk ⟨mtZdoMgmtLqiRspCb.entered msg r.calls, answered⟩ = msg.asks ++ toAsk r := by
  by_cases hok : msg.status = mtRpcSuccess
  · simp [toAsk, Callback.entered, enter_success hok, LqiRsp.asks, hok]
  · simp [toAsk, Callback.entered, enter_fail hok, LqiRsp.asks, hok]

/-- A round of a loop asks what it was to ask next. -/
theorem asked_ran {l : Locals} {rest : List Locals} (hstack : r.calls.stack = l :: rest)
    (answered : List UInt16) :
    let r' : Round := ⟨mtZdoMgmtLqiRspCb.ran l rest r.calls, answered⟩
    r'.asked ++ toAsk r' = r.asked ++ toAsk r ∧
      r'.calls.delivered = r.calls.delivered := by
  by_cases hi : l.i < l.msg.count
  · rw [Callback.ran_goOn rest (round_goOn hi)]
    simp [Round.asked, toAsk, hstack, LqiRsp.asksFrom_succ hi, Topology.request_visit]
  · rw [Callback.ran_return rest (round_return hi)]
    simp [Round.asked, toAsk, hstack, LqiRsp.asksFrom_of_le hi]

theorem inv_step (h : net.Inv r) (hs : net.step r e = some r') : net.Inv r' := by
  obtain ⟨hcan, hcalls, hanswered⟩ := step_eq_some hs
  obtain ⟨calls, answered⟩ := r'
  simp only at hcalls hanswered
  subst hanswered
  have htable := NwkTopology.inv_step h.table (eventFits hcan) hcalls
  cases e with
  | answer a =>
    obtain rfl := Callback.step_deliver hcalls
    exact
      { table := htable
        asked := by
          rw [toAsk_entered, RoundEvent.answers, askedBy_concat]
          have hswap : ((net.rsp a).asks ++ toAsk r).Perm (toAsk r ++ (net.rsp a).asks) :=
            List.perm_append_comm
          refine (hswap.append_left r.asked).trans ?_
          rw [← List.append_assoc]
          exact h.asked.append_right _
        delivered := by simp [Callback.entered, RoundEvent.answers, h.delivered]
        answered := by
          intro b hb
          rcases List.mem_append.mp hb with hb | hb
          · exact h.answered b hb
          · exact (hcan b hb).1 }
  | lapse =>
    obtain rfl := Callback.step_lapse hcalls
    rw [RoundEvent.answers, List.append_nil]
    exact { h with table := htable }
  | run =>
    obtain ⟨l, rest, hstack, rfl⟩ := Callback.step_round hcalls
    rw [RoundEvent.answers, List.append_nil]
    obtain ⟨hasked, hdelivered⟩ := asked_ran hstack r.answered
    exact
      { table := htable
        asked := by
          rw [hasked]
          exact h.asked
        delivered := hdelivered ▸ h.delivered
        answered := h.answered }

/-- The invariant of a round. -/
theorem inv (hrun : Reachable net.step (.start nodeList) r) : net.Inv r :=
  hrun.invariant (inv_start nodeList) fun _ _ _ h _ hs => inv_step h hs

/-- The same for the routers that can answer. -/
theorem Inv.asked_routers (h : net.Inv r) :
    (r.asked.filter (· ∈ net.routers) ++ (toAsk r).filter (· ∈ net.routers)).Perm
      (askedBy net.asks 0 r.answered) := by
  have hperm := h.asked.filter (· ∈ net.routers)
  rw [List.filter_append, filter_askedBy (by simpa using net.coordinator)] at hperm
  exact hperm

/-! ## In a tree -/

/-- The routers that have answered are reached, and each has answered once. -/
structure TreeInv (net : Network) (r : Round) : Prop where
  nodup : r.answered.Nodup
  reached : ∀ a ∈ r.answered, Reached net.asks 0 a

/-- No router is asked twice. -/
theorem TreeInv.once (ht : net.TreeInv r) (h : net.Inv r) (htree : UniqueParent net.asks 0) :
    (r.asked.filter (· ∈ net.routers)).Nodup := by
  have hnodup := htree.nodup_askedBy ht.nodup ht.reached
  exact (h.asked_routers.nodup_iff.mpr hnodup).of_append_left

theorem treeInv_step (ht : net.TreeInv r) (h : net.Inv r) (htree : UniqueParent net.asks 0)
    (hs : net.step r e = some r') : net.TreeInv r' := by
  obtain ⟨hcan, -, hanswered⟩ := step_eq_some hs
  cases e with
  | answer a =>
    obtain ⟨hmem, hlt⟩ := hcan a List.mem_cons_self
    have hcount : (r.asked.filter (· ∈ net.routers)).count a = r.asked.count a :=
      List.count_filter (by simpa using hmem)
    have honce := List.nodup_iff_count_le_one.mp (ht.once h htree) a
    have hnew : a ∉ r.answered := List.count_eq_zero.mp (by omega)
    have hasked : a ∈ r.asked.filter (· ∈ net.routers) := List.count_pos_iff.mp (by omega)
    have hreached : Reached net.asks 0 a := reached_of_mem_askedBy ht.reached
      (h.asked_routers.mem_iff.mp (List.mem_append_left _ hasked))
    rw [RoundEvent.answers] at hanswered
    constructor
    · rw [hanswered, List.nodup_append_comm, List.singleton_append, List.nodup_cons]
      exact ⟨hnew, ht.nodup⟩
    · intro b hb
      rw [hanswered, List.mem_append, List.mem_singleton] at hb
      rcases hb with hb | rfl
      · exact ht.reached b hb
      · exact hreached
  | lapse =>
    rw [RoundEvent.answers, List.append_nil] at hanswered
    exact ⟨hanswered ▸ ht.nodup, hanswered ▸ ht.reached⟩
  | run =>
    rw [RoundEvent.answers, List.append_nil] at hanswered
    exact ⟨hanswered ▸ ht.nodup, hanswered ▸ ht.reached⟩

theorem treeInv (htree : UniqueParent net.asks 0)
    (hrun : Reachable net.step (.start nodeList) r) : net.TreeInv r := by
  have hstart : net.TreeInv (.start nodeList) := ⟨.nil, by simp [Round.start]⟩
  exact (hrun.invariant (I := fun r => net.Inv r ∧ net.TreeInv r) ⟨inv_start nodeList, hstart⟩
    fun _ _ _ h _ hs => ⟨inv_step h.1 hs, treeInv_step h.2 h.1 htree hs⟩).2

/-- Rounds in a tree. -/
theorem discovers_of_tree (htree : UniqueParent net.asks 0)
    (hrun : Reachable net.step (.start nodeList) r) : net.Discovers r := by
  have h := inv hrun
  have ht := treeInv htree hrun
  have hcard : r.answered.length ≤ net.routers.card := by
    rw [← List.toFinset_card_of_nodup ht.nodup]
    exact Finset.card_le_card fun a ha => h.answered a (List.mem_toFinset.mp ha)
  exact
    { once := ht.once h htree
      requests_le := by
        have hasks : ∀ a ∈ r.answered, (net.rsp a).asks.length ≤ 11 := by
          intro a ha
          exact LqiRsp.length_asks_le.trans (net.fits a (h.answered a ha))
        have hlen := h.asked.length_eq
        have hbound : (askedBy (fun a => (net.rsp a).asks) 0 r.answered).length ≤
            1 + 11 * r.answered.length := length_askedBy_le hasks
        rw [List.length_append] at hlen
        omega
      inRange := by
        intro hroom
        have hlog : (successes r.calls.delivered).length ≤ r.answered.length :=
          h.delivered ▸ List.length_filter_le _ _
        have hle : (successes r.calls.delivered).length ≤ maxNodeList := by omega
        obtain ⟨hfilled, hcount⟩ := h.table hle
        refine ⟨?_, ?_, ?_, ?_⟩
        · exact fun k hk => Nat.lt_of_lt_of_le (hfilled.nodeIdx_lt k hk) hle
        · exact fun c hc => Nat.lt_of_lt_of_le (hfilled.childIdx_lt c hc) (by decide)
        · exact hcount ▸ hle
        · exact fun k hk =>
            Nat.le_trans (hfilled.childCount_le (hcount ▸ hk)) (by decide) }

/-! ## Rounds that go on -/

variable {r₀ : Round} {l : Locals} {a b : UInt16}

/-- A round of the loop can run, after the request that waits has ended. -/
theorem canRun (hrun : Reachable net.step r₀ r) (hstack : r.calls.stack = [l]) :
    Reachable net.step r₀
      ⟨mtZdoMgmtLqiRspCb.ran l [] { r.calls with waiting := false }, r.answered⟩ := by
  obtain ⟨⟨glob, stack, waiting, delivered, requests⟩, answered⟩ := r
  simp only at hstack
  subst hstack
  have hnotwaiting : Reachable net.step r₀ ⟨⟨glob, [l], false, delivered, requests⟩, answered⟩ := by
    cases waiting with
    | false => exact hrun
    | true =>
      have hlapse : net.step ⟨⟨glob, [l], true, delivered, requests⟩, answered⟩ .lapse =
          some ⟨⟨glob, [l], false, delivered, requests⟩, answered⟩ := by
        simp [step, CanAnswer, RoundEvent.answers, event, Callback.step]
      exact hrun.tail trivial hlapse
  apply hnotwaiting.tail trivial (a := .run)
  simp [step, CanAnswer, RoundEvent.answers, event, Callback.step]

/-- The callback that is running can run to its end. -/
theorem canFinish (n : ℕ) (hrun : Reachable net.step r₀ r) (hstack : r.calls.stack = [l])
    (hn : l.msg.count - l.i ≤ n) :
    ∃ r', Reachable net.step r₀ r' ∧ r'.calls.stack = [] ∧ r'.answered = r.answered := by
  induction n generalizing r l with
  | zero =>
    have hround := canRun hrun hstack
    rw [Callback.ran_return [] (round_return (by omega))] at hround
    exact ⟨_, hround, rfl, rfl⟩
  | succ n ih =>
    have hround := canRun hrun hstack
    by_cases hi : l.i < l.msg.count
    · rw [Callback.ran_goOn [] (round_goOn hi)] at hround
      have hless : l.msg.count - (l.i + 1) ≤ n := by omega
      obtain ⟨r', hrun', hquiet', hanswered⟩ := ih hround rfl hless
      exact ⟨r', hrun', hquiet', hanswered⟩
    · rw [Callback.ran_return [] (round_return hi)] at hround
      exact ⟨_, hround, rfl, rfl⟩

/-- A router that was asked can answer. -/
theorem canAnswer (hrun : Reachable net.step r₀ r) (hquiet : r.calls.stack = [])
    (hmem : a ∈ net.routers) (hasked : a ∈ r.asked) :
    ∃ r', Reachable net.step r₀ r' ∧ r'.calls.stack = [] ∧ a ∈ r'.answered ∧
      r.answered ⊆ r'.answered := by
  by_cases hdone : a ∈ r.answered
  · exact ⟨r, hrun, hquiet, hdone, fun _ hb => hb⟩
  · have hlt : r.answered.count a < r.asked.count a := by
      rw [List.count_eq_zero.mpr hdone]
      exact List.count_pos_iff.mpr hasked
    have hstep : net.step r (.answer a) =
        some ⟨mtZdoMgmtLqiRspCb.entered (net.rsp a) r.calls, r.answered ++ [a]⟩ := by
      simp [step, CanAnswer, RoundEvent.answers, event, Callback.step, hquiet, hmem, hlt]
    have hnext := hrun.tail trivial hstep
    have hgrow : r.answered ⊆ r.answered ++ [a] := List.subset_append_left _ _
    by_cases hok : (net.rsp a).status = mtRpcSuccess
    · have hstack : (mtZdoMgmtLqiRspCb.entered (net.rsp a) r.calls).stack =
          [⟨net.rsp a, 0, r.calls.glob.nodeCount⟩] := by
        simp [Callback.entered, enter_success hok, hquiet]
      obtain ⟨r', hrun', hquiet', hanswered⟩ := canFinish _ hnext hstack (Nat.le_refl _)
      simp only at hanswered
      exact ⟨r', hrun', hquiet', by simp [hanswered], hanswered ▸ hgrow⟩
    · have hstack : (mtZdoMgmtLqiRspCb.entered (net.rsp a) r.calls).stack = [] := by
        simp [Callback.entered, enter_fail hok, hquiet]
      exact ⟨_, hnext, hstack, by simp, hgrow⟩

/-- While no callback is running, all that the responses list has been asked. -/
theorem asked_of_quiet (h : net.Inv r) (hquiet : r.calls.stack = []) :
    (r.asked.filter (· ∈ net.routers)).Perm (askedBy net.asks 0 r.answered) := by
  have hperm := h.asked_routers
  simp only [toAsk, hquiet, List.flatMap_nil, List.filter_nil, List.append_nil] at hperm
  exact hperm

/-- **A round can go on until any router that is reached has answered.** -/
theorem canReach (ha : Reached net.asks 0 a) (hrun : Reachable net.step (.start nodeList) r)
    (hquiet : r.calls.stack = []) :
    ∃ r', Reachable net.step (.start nodeList) r' ∧ r'.calls.stack = [] ∧ a ∈ r'.answered ∧
      r.answered ⊆ r'.answered := by
  induction ha with
  | refl =>
    have hasked : 0 ∈ r.asked.filter (· ∈ net.routers) :=
      (asked_of_quiet (inv hrun) hquiet).mem_iff.mpr List.mem_cons_self
    exact canAnswer hrun hquiet net.coordinator (List.mem_of_mem_filter hasked)
  | @tail b c _ hchild ih =>
    obtain ⟨r₁, hrun₁, hquiet₁, hb, hgrow₁⟩ := ih
    have hasked : c ∈ r₁.asked.filter (· ∈ net.routers) :=
      (asked_of_quiet (inv hrun₁) hquiet₁).mem_iff.mpr
        (List.mem_cons_of_mem _ (List.mem_flatMap.mpr ⟨b, hb, hchild⟩))
    obtain ⟨r₂, hrun₂, hquiet₂, hc, hgrow₂⟩ := canAnswer hrun₁ hquiet₁
      (by simpa using (List.mem_filter.mp hchild).2) (List.mem_of_mem_filter hasked)
    exact ⟨r₂, hrun₂, hquiet₂, hc, fun _ hd => hgrow₂ (hgrow₁ hd)⟩

end Network

/-- **Discovery is finite and stays in its table, asking every router at most once**, if and
only if each router that is reached from the coordinator is listed as a child in one place, and
the coordinator nowhere. -/
theorem discovery_iff (net : Network) :
    (∀ nodeList r, Reachable net.step (.start nodeList) r → net.Discovers r) ↔
      UniqueParent net.asks 0 := by
  constructor
  · intro hall
    apply uniqueParent_of_nodup
    intro a b ha hb
    obtain ⟨r₁, hrun₁, hquiet₁, hmem, -⟩ :=
      Network.canReach ha (Steps.refl : Reachable net.step (.start zeroNodes) _) rfl
    obtain ⟨r₂, hrun₂, hquiet₂, hmem₂, hgrow⟩ := Network.canReach hb hrun₁ hquiet₁
    have hperm := Network.asked_of_quiet (Network.inv hrun₂) hquiet₂
    exact ⟨r₂.answered, hgrow hmem, hmem₂, hperm.nodup_iff.mp (hall _ _ hrun₂).once⟩
  · exact fun htree _ _ hrun => Network.discovers_of_tree htree hrun

/-! ## Two routers that list each other -/

/-- The coordinator and a router, each of which lists the other as a child. -/
def twoRouters : Network where
  routers := {0, 1}
  coordinator := by decide
  rsp a := .ofNeighbors a [routerChild (if a = 0 then 1 else 0)] (Nat.le_of_ble_eq_true rfl)
  fits _ _ := Nat.le_of_ble_eq_true rfl

/-- The coordinator answers and has its router asked, which answers and has it asked again. -/
def askAgain : List RoundEvent :=
  [.answer 0, .run, .lapse, .run, .answer 1, .run, .lapse, .run]

/-- The two are asked again and again, until `nodeList` is left. -/
theorem discovery_twoRouters :
    ∃ r, Reachable twoRouters.step (.start zeroNodes) r ∧
      ¬ (r.asked.filter (· ∈ twoRouters.routers)).Nodup ∧
      twoRouters.routers.card ≤ maxNodeList ∧ ∃ k ∈ r.calls.glob.nodeIdx, maxNodeList ≤ k := by
  have hrun : (exec twoRouters.step (.start zeroNodes)
      ((List.replicate 32 askAgain).flatten ++ [.answer 0])).any (fun r =>
        ¬ (r.asked.filter (· ∈ twoRouters.routers)).Nodup ∧
          ∃ k ∈ r.calls.glob.nodeIdx, maxNodeList ≤ k) = true := by
    decide +kernel
  obtain ⟨r, hr, hfacts⟩ := (Option.any_eq_true _ _).mp hrun
  obtain ⟨hasked, hindex⟩ := of_decide_eq_true hfacts
  exact ⟨r, reachable_of_exec hr, hasked, by decide, hindex⟩

end ZnpHost.Apps
