import Mathlib.Data.List.TakeDrop
import ZnpHost.Apps.Topology

/-!
# What the callbacks collect

While callbacks run on top of each other the table has open rows: slots that hold a response
with some of its neighbours entered.  `nwkTopology` keeps the slot of each callback in a local
variable, so any number of rows can be open.  `dataSendRcv` uses `nodeList[nodeCount]`, so its
table is right if a single row is open at a time.

## Main definitions

* `Entry`, `Node.entry`, `LqiRsp.ownEntry` — what a slot shows, and what it should.
* `Filled` — the table holds the responses of a log, some of its rows being open.
* `Collects` — a slot for each successful response.
* `Apart` — a successful response is delivered when no callback is running.
* `nodeList_collects` — what `nwkTopology` collects always and `dataSendRcv` under `Apart`.
-/

namespace ZnpHost.Apps

open Lib Mt Rpc

/-! ## Entries -/

/-- What a slot of the table shows. -/
structure Entry where
  nodeAddr : UInt16
  type : UInt8
  children : List ChildNode
  deriving DecidableEq

def Node.entry (node : Node) : Entry :=
  ⟨node.nodeAddr, node.type, (List.range node.childCount.toNat).map node.childs⟩

/-- The slots below `nodeCount`. -/
def Topology.entries (g : Topology) : List Entry :=
  (List.range g.nodeCount.toNat).map fun k => (g.nodeList k).entry

namespace LqiRsp

/-- The neighbours, in order. -/
def neighbors (msg : LqiRsp) : List NeighborLqiListItemFormat :=
  List.ofFn fun i : Fin msg.count => msg.neighbor i i.isLt

/-- The children among the first `n` neighbours. -/
def children (msg : LqiRsp) (selects : UInt8 → Bool) (n : ℕ) : List ChildNode :=
  ((msg.neighbors.take n).filter fun item => selects (devRelation item)).map fun item =>
    ⟨item.networkAddress, devType item⟩

/-- The entry of a response when `n` of its neighbours are entered. -/
def partEntry (msg : LqiRsp) (selects : UInt8 → Bool) (n : ℕ) : Entry :=
  ⟨msg.srcAddr, if msg.srcAddr = 0 then deviceTypeCoordinator else deviceTypeRouter,
    msg.children selects n⟩

/-- The entry of a response. -/
def ownEntry (msg : LqiRsp) (selects : UInt8 → Bool) : Entry := msg.partEntry selects msg.count

/-- A response as a frame can carry it, with at most 11 neighbours. -/
def Fits (msg : LqiRsp) : Prop := msg.count ≤ 11

instance (msg : LqiRsp) : Decidable msg.Fits := inferInstanceAs (Decidable (_ ≤ _))

variable {msg : LqiRsp} {selects : UInt8 → Bool} {n : ℕ}

@[simp] theorem length_neighbors : msg.neighbors.length = msg.count := List.length_ofFn

theorem length_children_le : (msg.children selects n).length ≤ n := by
  rw [children, List.length_map]
  exact Nat.le_trans (List.length_filter_le _ _) (List.length_take_le _ _)

/-- One neighbour more. -/
theorem children_succ (h : n < msg.count) :
    msg.children selects (n + 1) = msg.children selects n ++
      if selects (devRelation (msg.neighbor n h)) then
        [⟨(msg.neighbor n h).networkAddress, devType (msg.neighbor n h)⟩] else [] := by
  have hn : n < msg.neighbors.length := by simpa using h
  have hget : msg.neighbors[n] = msg.neighbor n h := by simp [neighbors]
  rw [children, children, ← List.take_concat_get' msg.neighbors n hn, hget, List.filter_append,
    List.map_append]
  by_cases hsel : selects (devRelation (msg.neighbor n h)) <;> simp [hsel]

end LqiRsp

theorem Node.childCount_eq (node : Node) {entry : Entry} (h : node.entry = entry) :
    node.childCount.toNat = entry.children.length := by
  simp [← h, Node.entry]

namespace Topology

@[simp] theorem nodeCount_visit (g : Topology) (selects : UInt8 → Bool) (k : UInt8)
    (item : NeighborLqiListItemFormat) : (g.visit selects k item).1.nodeCount = g.nodeCount := by
  by_cases h : selects (devRelation item) <;> simp [visit, h, addChild, modifyNode]

/-- A child more. -/
theorem entry_addChild {g : Topology} {k : UInt8} (child : ChildNode)
    (h : (g.nodeList k.toNat).entry.children.length < 255) :
    ((g.addChild k child).nodeList k.toNat).entry =
      { (g.nodeList k.toNat).entry with
        children := (g.nodeList k.toNat).entry.children ++ [child] } := by
  have hcount := (g.nodeList k.toNat).childCount_eq rfl
  have hsucc : ((g.nodeList k.toNat).childCount + 1).toNat =
      (g.nodeList k.toNat).childCount.toNat + 1 := toNat_succ (by omega)
  have hold : ∀ c ∈ List.range (g.nodeList k.toNat).childCount.toNat,
      Function.update (g.nodeList k.toNat).childs (g.nodeList k.toNat).childCount.toNat child c =
        (g.nodeList k.toNat).childs c := by
    intro c hc
    exact Function.update_of_ne (Nat.ne_of_lt (List.mem_range.mp hc)) _ _
  simp [addChild, modifyNode, Node.entry, hsucc, List.range_succ, List.map_congr_left hold]

end Topology

/-! ## Open rows -/

/-- A slot whose response has `i` neighbours entered. -/
structure Row where
  slot : ℕ
  msg : LqiRsp
  i : ℕ

/-- The table holds the responses of the log, each in its slot; the neighbours of the open
rows are not all entered. -/
structure Filled (selects : UInt8 → Bool) (log : List LqiRsp) (g : Topology)
    (rows : List Row) : Prop where
  logged : ∀ row ∈ rows, log[row.slot]? = some row.msg
  part : ∀ row ∈ rows, row.i ≤ row.msg.count ∧
    (g.nodeList row.slot).entry = row.msg.partEntry selects row.i
  apart : (rows.map Row.slot).Nodup
  whole : ∀ k msg, log[k]? = some msg → k ∉ rows.map Row.slot →
    (g.nodeList k).entry = msg.ownEntry selects
  fits : ∀ msg ∈ log, msg.Fits
  nodeIdx_lt : ∀ k ∈ g.nodeIdx, k < log.length
  childIdx_lt : ∀ c ∈ g.childIdx, c < 11

namespace Filled

variable {selects : UInt8 → Bool} {log : List LqiRsp} {g : Topology} {rows : List Row}
  {row : Row} {msg : LqiRsp} {k : UInt8}

theorem start (nodeList : ℕ → Node) : Filled selects [] (.start nodeList) [] where
  logged := by simp
  part := by simp
  apart := .nil
  whole := by simp
  fits := by simp
  nodeIdx_lt := by simp [Topology.start]
  childIdx_lt := by simp [Topology.start]

/-- The table does not depend on `nodeCount`. -/
theorem setNodeCount (h : Filled selects log g rows) (n : UInt8) :
    Filled selects log { g with nodeCount := n } rows := { h with }

theorem slot_lt (h : Filled selects log g rows) (hrow : row ∈ rows) : row.slot < log.length :=
  (List.getElem?_eq_some_iff.mp (h.logged row hrow)).1

/-- A row is opened in the first free slot. -/
theorem newNode (h : Filled selects log g rows) (hk : k.toNat = log.length) (hfits : msg.Fits) :
    Filled selects (log ++ [msg]) (g.newNode k msg.srcAddr) (⟨k.toNat, msg, 0⟩ :: rows) where
  logged := by
    intro row hrow
    rcases List.mem_cons.mp hrow with rfl | hrow
    · simp [hk]
    · rw [List.getElem?_append_left (h.slot_lt hrow)]
      exact h.logged row hrow
  part := by
    intro row hrow
    rcases List.mem_cons.mp hrow with rfl | hrow
    · constructor
      · exact Nat.zero_le _
      · simp [Topology.newNode, Topology.modifyNode, Node.entry, LqiRsp.partEntry,
          LqiRsp.children]
    · have hne : row.slot ≠ k.toNat := hk ▸ Nat.ne_of_lt (h.slot_lt hrow)
      have hold : (g.newNode k msg.srcAddr).nodeList row.slot = g.nodeList row.slot :=
        Function.update_of_ne hne _ _
      rw [hold]
      exact h.part row hrow
  apart := by
    rw [List.map_cons, List.nodup_cons]
    constructor
    · intro hmem
      obtain ⟨row, hrow, hslot⟩ := List.mem_map.mp hmem
      exact Nat.ne_of_lt (h.slot_lt hrow) (hslot.trans hk)
    · exact h.apart
  whole := by
    intro j m hj hclosed
    simp only [List.map_cons, List.mem_cons, not_or] at hclosed
    have hold : (g.newNode k msg.srcAddr).nodeList j = g.nodeList j :=
      Function.update_of_ne hclosed.1 _ _
    have hlt : j < log.length := by
      have := (List.getElem?_eq_some_iff.mp hj).1
      have hne := hclosed.1
      rw [List.length_append, List.length_singleton] at this
      omega
    rw [List.getElem?_append_left hlt] at hj
    rw [hold]
    exact h.whole j m hj hclosed.2
  fits := by
    intro m hm
    rcases List.mem_append.mp hm with hm | hm
    · exact h.fits m hm
    · exact List.mem_singleton.mp hm ▸ hfits
  nodeIdx_lt := by
    intro j hj
    rw [List.length_append, List.length_singleton]
    rcases List.mem_cons.mp hj with rfl | hj
    · omega
    · exact Nat.lt_succ_of_lt (h.nodeIdx_lt j hj)
  childIdx_lt := h.childIdx_lt

/-- An open row moves on when its slot alone is changed. -/
theorem progress (h : Filled selects log g (row :: rows)) (hi : row.i < row.msg.count)
    {g' : Topology} (hold : ∀ j ≠ row.slot, g'.nodeList j = g.nodeList j)
    (hnew : (g'.nodeList row.slot).entry = row.msg.partEntry selects (row.i + 1))
    (hnodeIdx : ∀ j ∈ g'.nodeIdx, j < log.length) (hchildIdx : ∀ c ∈ g'.childIdx, c < 11) :
    Filled selects log g' ({ row with i := row.i + 1 } :: rows) where
  logged := by simpa using h.logged
  part := by
    intro r hr
    rcases List.mem_cons.mp hr with rfl | hr
    · exact ⟨hi, hnew⟩
    · have hne : r.slot ≠ row.slot := by
        intro heq
        exact (List.nodup_cons.mp h.apart).1 (heq ▸ List.mem_map_of_mem hr)
      rw [hold _ hne]
      exact h.part r (List.mem_cons_of_mem _ hr)
  apart := by simpa using h.apart
  whole := by
    intro j m hj hclosed
    have hne : j ≠ row.slot := by
      intro heq
      exact hclosed (heq ▸ List.mem_cons_self)
    rw [hold j hne]
    exact h.whole j m hj hclosed
  fits := h.fits
  nodeIdx_lt := hnodeIdx
  childIdx_lt := hchildIdx

/-- The next neighbour of an open row is entered. -/
theorem visit (h : Filled selects log g (row :: rows)) (hk : k.toNat = row.slot)
    (hi : row.i < row.msg.count) :
    Filled selects log (g.visit selects k (row.msg.neighbor row.i hi)).1
      ({ row with i := row.i + 1 } :: rows) := by
  obtain ⟨-, hentry⟩ := h.part row List.mem_cons_self
  have hnext := @LqiRsp.children_succ row.msg selects row.i hi
  by_cases hsel : selects (devRelation (row.msg.neighbor row.i hi))
  · simp only [Topology.visit, if_pos hsel] at hnext ⊢
    have hfits : row.msg.count ≤ 11 :=
      h.fits _ (List.mem_of_getElem? (h.logged row List.mem_cons_self))
    have hshort : (g.nodeList k.toNat).entry.children.length ≤ row.i := by
      rw [hk, hentry]
      exact LqiRsp.length_children_le
    have hcCount := (g.nodeList k.toNat).childCount_eq rfl
    apply h.progress hi
    · intro j hj
      exact Function.update_of_ne (hk ▸ hj) _ _
    · have hadd := Topology.entry_addChild (g := g) (k := k)
        ⟨(row.msg.neighbor row.i hi).networkAddress, devType (row.msg.neighbor row.i hi)⟩
        (by omega)
      rw [hk, hentry] at hadd
      simp only [hadd, LqiRsp.partEntry, hnext]
    · intro j hj
      rcases List.mem_cons.mp hj with rfl | hj
      · exact hk ▸ h.slot_lt List.mem_cons_self
      · exact h.nodeIdx_lt j hj
    · intro c hc
      rcases List.mem_cons.mp hc with rfl | hc
      · omega
      · exact h.childIdx_lt c hc
  · simp only [Topology.visit, if_neg hsel, List.append_nil] at hnext ⊢
    apply h.progress hi
    · exact fun _ _ => rfl
    · rw [hentry, LqiRsp.partEntry, LqiRsp.partEntry, hnext]
    · exact h.nodeIdx_lt
    · exact h.childIdx_lt

/-- A row whose neighbours are all entered is closed. -/
theorem close (h : Filled selects log g (row :: rows)) (hi : ¬ row.i < row.msg.count) :
    Filled selects log g rows where
  logged := fun r hr => h.logged r (List.mem_cons_of_mem _ hr)
  part := fun r hr => h.part r (List.mem_cons_of_mem _ hr)
  apart := (List.nodup_cons.mp h.apart).2
  whole := by
    intro j m hj hclosed
    by_cases hslot : j = row.slot
    · subst hslot
      obtain ⟨hle, hentry⟩ := h.part row List.mem_cons_self
      have hm : row.msg = m :=
        Option.some.inj ((h.logged row List.mem_cons_self).symm.trans hj)
      rw [hentry, LqiRsp.ownEntry, ← hm, Nat.le_antisymm hle (Nat.le_of_not_lt hi)]
    · exact h.whole j m hj (by simpa [hslot] using hclosed)
  fits := h.fits
  nodeIdx_lt := h.nodeIdx_lt
  childIdx_lt := h.childIdx_lt

/-- No slot has more children than neighbours. -/
theorem childCount_le (h : Filled selects log g rows) {j : ℕ} (hj : j < log.length) :
    (g.nodeList j).childCount.toNat ≤ 11 := by
  by_cases hopen : j ∈ rows.map Row.slot
  · obtain ⟨row, hrow, rfl⟩ := List.mem_map.mp hopen
    obtain ⟨hle, hentry⟩ := h.part row hrow
    rw [Node.childCount_eq _ hentry]
    exact Nat.le_trans LqiRsp.length_children_le
      (Nat.le_trans hle (h.fits _ (List.mem_of_getElem? (h.logged row hrow))))
  · have hget := List.getElem?_eq_getElem hj
    rw [Node.childCount_eq _ (h.whole j _ hget hopen)]
    exact Nat.le_trans LqiRsp.length_children_le (h.fits _ (List.mem_of_getElem? hget))

end Filled

/-! ## Runs -/

/-- The successful responses, in the order in which they were delivered. -/
def successes (delivered : List LqiRsp) : List LqiRsp :=
  delivered.filter fun msg => msg.status = mtRpcSuccess

/-- Every successful response has one slot with its own entry, and `nodeCount` counts them. -/
structure Collects (selects : UInt8 → Bool) (maxChildren : ℕ) (g : Topology)
    (delivered : List LqiRsp) : Prop where
  nodeCount : g.nodeCount.toNat = (successes delivered).length
  entries : g.entries.Perm ((successes delivered).map fun msg => msg.ownEntry selects)
  nodeIdx_lt : ∀ k ∈ g.nodeIdx, k < maxNodeList
  childIdx_lt : ∀ c ∈ g.childIdx, c < maxChildren

/-- The responses have at most 11 neighbours. -/
def EventFits : CallEvent LqiRsp → Prop
  | .deliver msg => msg.Fits
  | _ => True

instance : DecidablePred EventFits := fun e =>
  match e with
  | .deliver msg => inferInstanceAs (Decidable msg.Fits)
  | .lapse => inferInstanceAs (Decidable True)
  | .round => inferInstanceAs (Decidable True)

/-- A successful response is delivered when no callback is running. -/
def Apart {ι : Type} (s : CallStack LqiRsp Topology ι StartIndexReqFormat) :
    CallEvent LqiRsp → Prop
  | .deliver msg => s.stack = [] ∨ msg.status ≠ mtRpcSuccess
  | _ => True

instance {ι : Type} (s : CallStack LqiRsp Topology ι StartIndexReqFormat) :
    DecidablePred (Apart s) := fun e =>
  match e with
  | .deliver _ =>
    have := decidable_of_iff (s.stack.isEmpty = true) List.isEmpty_iff
    inferInstanceAs (Decidable (_ ∨ _))
  | .lapse => inferInstanceAs (Decidable True)
  | .round => inferInstanceAs (Decidable True)

theorem successes_concat (delivered : List LqiRsp) (msg : LqiRsp) :
    successes (delivered ++ [msg]) =
      successes delivered ++ if msg.status = mtRpcSuccess then [msg] else [] := by
  by_cases h : msg.status = mtRpcSuccess <;> simp [successes, h]

/-- A table without open rows. -/
theorem Filled.collects {selects : UInt8 → Bool} {maxChildren : ℕ} {g : Topology}
    {delivered : List LqiRsp} (h : Filled selects (successes delivered) g [])
    (hcount : g.nodeCount.toNat = (successes delivered).length)
    (hlen : (successes delivered).length ≤ maxNodeList) (hmax : 11 ≤ maxChildren) :
    Collects selects maxChildren g delivered where
  nodeCount := hcount
  entries := by
    have heq : g.entries = (successes delivered).map fun msg => msg.ownEntry selects := by
      apply List.ext_getElem
      · simp [Topology.entries, hcount]
      · intro k hk hk'
        rw [List.length_map] at hk'
        have hwhole := h.whole k _ (List.getElem?_eq_getElem hk') (by simp)
        simpa [Topology.entries] using hwhole
    rw [heq]
  nodeIdx_lt := fun k hk => Nat.lt_of_lt_of_le (h.nodeIdx_lt k hk) hlen
  childIdx_lt := fun c hc => Nat.lt_of_lt_of_le (h.childIdx_lt c hc) hmax

namespace NwkTopology

variable {msg : LqiRsp} {g : Topology} {l : Locals}

theorem enter_success (h : msg.status = mtRpcSuccess) :
    mtZdoMgmtLqiRspCb.enter msg g =
      ({ g with nodeCount := g.nodeCount + 1 }.newNode g.nodeCount msg.srcAddr,
        some ⟨msg, 0, g.nodeCount⟩) := if_pos h

theorem enter_fail (h : msg.status ≠ mtRpcSuccess) :
    mtZdoMgmtLqiRspCb.enter msg g = (g, none) := if_neg h

theorem round_goOn (h : l.i < l.msg.count) :
    mtZdoMgmtLqiRspCb.round l g =
      ((g.visit selects l.localNodeCount (l.msg.neighbor l.i h)).1,
        some ({ l with i := l.i + 1 },
          (g.visit selects l.localNodeCount (l.msg.neighbor l.i h)).2)) := dif_pos h

theorem round_return (h : ¬ l.i < l.msg.count) :
    mtZdoMgmtLqiRspCb.round l g = (g, none) := dif_neg h

/-- The row of a callback. -/
def Locals.row (l : Locals) : Row := ⟨l.localNodeCount.toNat, l.msg, l.i⟩

/-- While the table has room for the responses, each callback has its own open row. -/
def Inv (s : CallStack LqiRsp Topology Locals StartIndexReqFormat) : Prop :=
  (successes s.delivered).length ≤ maxNodeList →
    Filled selects (successes s.delivered) s.glob (s.stack.map Locals.row) ∧
    s.glob.nodeCount.toNat = (successes s.delivered).length

theorem inv_step {s s' : CallStack LqiRsp Topology Locals StartIndexReqFormat}
    {e : CallEvent LqiRsp} (h : Inv s) (he : EventFits e)
    (hs : mtZdoMgmtLqiRspCb.step s e = some s') : Inv s' := by
  cases e with
  | deliver m =>
    obtain rfl := Callback.step_deliver hs
    intro hroom
    by_cases hok : m.status = mtRpcSuccess
    · simp only [Callback.entered, enter_success hok, successes_concat, if_pos hok] at hroom ⊢
      rw [List.length_append, List.length_singleton] at hroom
      obtain ⟨hfilled, hcount⟩ := h (by omega)
      have hroom' : (successes s.delivered).length + 1 ≤ 64 := hroom
      constructor
      · exact (hfilled.setNodeCount _).newNode hcount he
      · rw [List.length_append, List.length_singleton, ← hcount]
        exact toNat_succ (by omega)
    · simp only [Callback.entered, enter_fail hok, successes_concat, if_neg hok,
        List.append_nil] at hroom ⊢
      exact h hroom
  | lapse =>
    obtain rfl := Callback.step_lapse hs
    exact h
  | round =>
    obtain ⟨l, rest, hstack, rfl⟩ := Callback.step_round hs
    by_cases hi : l.i < l.msg.count
    · rw [Callback.ran_goOn rest (round_goOn hi)]
      intro hroom
      obtain ⟨hfilled, hcount⟩ := h hroom
      rw [hstack] at hfilled
      constructor
      · exact hfilled.visit rfl hi
      · simp only [Topology.nodeCount_visit]
        exact hcount
    · rw [Callback.ran_return rest (round_return hi)]
      intro hroom
      obtain ⟨hfilled, hcount⟩ := h hroom
      rw [hstack] at hfilled
      exact ⟨hfilled.close hi, hcount⟩

end NwkTopology

namespace DataSendRcv

variable {msg : LqiRsp} {g : Topology} {l : Locals}

theorem enter_success (h : msg.status = mtRpcSuccess) :
    mtZdoMgmtLqiRspCb.enter msg g =
      (g.newNode g.nodeCount msg.srcAddr, some ⟨msg, 0⟩) := if_pos h

theorem enter_fail (h : msg.status ≠ mtRpcSuccess) :
    mtZdoMgmtLqiRspCb.enter msg g = (g, none) := if_neg h

theorem round_goOn (h : l.i < l.msg.count) :
    mtZdoMgmtLqiRspCb.round l g =
      ((g.visit selects g.nodeCount (l.msg.neighbor l.i h)).1,
        some ({ l with i := l.i + 1 },
          (g.visit selects g.nodeCount (l.msg.neighbor l.i h)).2)) := dif_pos h

theorem round_return (h : ¬ l.i < l.msg.count) :
    mtZdoMgmtLqiRspCb.round l g = ({ g with nodeCount := g.nodeCount + 1 }, none) := dif_neg h

/-- The row of the callback that is running. -/
def Locals.row (g : Topology) (l : Locals) : Row := ⟨g.nodeCount.toNat, l.msg, l.i⟩

/-- At most one callback is running, in the slot that `nodeCount` has not counted yet. -/
def Inv (s : CallStack LqiRsp Topology Locals StartIndexReqFormat) : Prop :=
  s.stack.length ≤ 1 ∧
    ((successes s.delivered).length ≤ maxNodeList →
      Filled selects (successes s.delivered) s.glob (s.stack.map (Locals.row s.glob)) ∧
      s.glob.nodeCount.toNat + s.stack.length = (successes s.delivered).length)

theorem inv_step {s s' : CallStack LqiRsp Topology Locals StartIndexReqFormat}
    {e : CallEvent LqiRsp} (h : Inv s) (he : EventFits e) (hapart : Apart s e)
    (hs : mtZdoMgmtLqiRspCb.step s e = some s') : Inv s' := by
  obtain ⟨hone, h⟩ := h
  cases e with
  | deliver m =>
    obtain rfl := Callback.step_deliver hs
    by_cases hok : m.status = mtRpcSuccess
    · have hempty : s.stack = [] := hapart.resolve_right (not_not_intro hok)
      simp only [Inv, Callback.entered, enter_success hok, successes_concat, if_pos hok, hempty]
      constructor
      · exact Nat.le_refl 1
      · intro hroom
        rw [List.length_append, List.length_singleton] at hroom
        obtain ⟨hfilled, hcount⟩ := h (by omega)
        rw [hempty] at hfilled hcount
        constructor
        · exact hfilled.newNode hcount he
        · simpa [Topology.newNode, Topology.modifyNode] using hcount
    · simp only [Inv, Callback.entered, enter_fail hok, successes_concat, if_neg hok,
        List.append_nil]
      exact ⟨hone, h⟩
  | lapse =>
    obtain rfl := Callback.step_lapse hs
    exact ⟨hone, h⟩
  | round =>
    obtain ⟨l, rest, hstack, rfl⟩ := Callback.step_round hs
    rw [hstack] at hone h
    have hrest : rest = [] := List.length_eq_zero_iff.mp (by simpa using hone)
    subst hrest
    by_cases hi : l.i < l.msg.count
    · rw [Callback.ran_goOn [] (round_goOn hi)]
      constructor
      · exact Nat.le_refl 1
      · intro hroom
        obtain ⟨hfilled, hcount⟩ := h hroom
        have hvisit := hfilled.visit (k := s.glob.nodeCount) rfl hi
        simp only [List.map_cons, List.map_nil, Locals.row, Topology.nodeCount_visit]
        exact ⟨hvisit, hcount⟩
    · rw [Callback.ran_return [] (round_return hi)]
      constructor
      · exact Nat.zero_le 1
      · intro hroom
        obtain ⟨hfilled, hcount⟩ := h hroom
        have hroom' : (successes s.delivered).length ≤ 64 := hroom
        constructor
        · exact (hfilled.close hi).setNodeCount _
        · simp only [List.length_singleton, List.length_nil, Nat.add_zero] at hcount ⊢
          rw [← hcount]
          exact toNat_succ (by omega)

end DataSendRcv

/-- **What the callbacks collect**, for any nesting of responses: `nwkTopology` gives every
successful response its own entry, and `dataSendRcv` does so if no successful response is
delivered inside the request of another one. -/
theorem nodeList_collects (nodeList : ℕ → Node) (requests : List StartIndexReqFormat) :
    (∀ s, Steps NwkTopology.mtZdoMgmtLqiRspCb.step (fun _ e => EventFits e)
        (Callback.start (.start nodeList) requests) s →
      s.stack = [] → (successes s.delivered).length ≤ maxNodeList →
      Collects NwkTopology.selects NwkTopology.maxChildren s.glob s.delivered) ∧
    (∀ s, Steps DataSendRcv.mtZdoMgmtLqiRspCb.step (fun s e => EventFits e ∧ Apart s e)
        (Callback.start (.start nodeList) requests) s →
      s.stack = [] → (successes s.delivered).length ≤ maxNodeList →
      Collects DataSendRcv.selects DataSendRcv.maxChildren s.glob s.delivered) := by
  constructor
  · intro s hrun hquiet hlen
    have hinv : NwkTopology.Inv s := hrun.invariant
      (fun _ => ⟨Filled.start nodeList, rfl⟩) fun _ _ _ h he hs => NwkTopology.inv_step h he hs
    obtain ⟨hfilled, hcount⟩ := hinv hlen
    rw [hquiet] at hfilled
    exact hfilled.collects hcount hlen (by decide)
  · intro s hrun hquiet hlen
    have hstart : DataSendRcv.Inv (Callback.start (.start nodeList) requests) :=
      ⟨Nat.zero_le 1, fun _ => ⟨Filled.start nodeList, rfl⟩⟩
    have hinv : DataSendRcv.Inv s := hrun.invariant hstart
      fun _ _ _ h he hs => DataSendRcv.inv_step h he.1 he.2 hs
    obtain ⟨hfilled, hcount⟩ := hinv.2 hlen
    rw [hquiet] at hfilled hcount
    exact hfilled.collects hcount hlen (by decide)

/-! ## Two responses -/

/-- A neighbour that is a child and a router. -/
def routerChild (networkAddress : UInt16) : NeighborLqiListItemFormat :=
  ⟨0, 0, networkAddress, 0x11, 0, 1, 255⟩

/-- `nodeList` before the first round. -/
def zeroNodes : ℕ → Node := fun _ => ⟨0, 0, 0, fun _ => ⟨0, 0⟩⟩

/-- The coordinator lists a router, which answers when the request has been given up. -/
def apartEvents : List (CallEvent LqiRsp) :=
  [.deliver (.ofNeighbors 0 [routerChild 0x1234] (by decide)), .round, .lapse, .round,
    .deliver (.ofNeighbors 0x1234 [routerChild 0x5678] (by decide)), .round, .lapse, .round]

/-- Then `dataSendRcv` collects both responses. -/
theorem nodeList_collects_apart : ∃ s,
    exec DataSendRcv.mtZdoMgmtLqiRspCb.step (Callback.start (.start zeroNodes) [⟨0, 0⟩])
      apartEvents = some s ∧
    (successes s.delivered).length = 2 ∧
    Collects DataSendRcv.selects DataSendRcv.maxChildren s.glob s.delivered := by
  have hrun : (exec DataSendRcv.mtZdoMgmtLqiRspCb.step
      (Callback.start (.start zeroNodes) [⟨0, 0⟩]) apartEvents).isSome = true := rfl
  have hsteps := (Steps.refl (C := fun s e => EventFits e ∧ Apart s e)).exec_of_meets
    (by decide) (Option.some_get hrun).symm
  exact ⟨_, (Option.some_get hrun).symm, rfl,
    (nodeList_collects zeroNodes [⟨0, 0⟩]).2 _ hsteps rfl (Nat.le_of_ble_eq_true rfl)⟩

/-- The coordinator lists a router, which answers inside the request. -/
def nestedEvents : List (CallEvent LqiRsp) :=
  [.deliver (.ofNeighbors 0 [routerChild 0x1234] (by decide)), .round,
    .deliver (.ofNeighbors 0x1234 [] (by decide)), .round, .round]

example : (exec NwkTopology.mtZdoMgmtLqiRspCb.step
      (Callback.start (.start zeroNodes) [⟨0, 0⟩]) nestedEvents).map (·.glob.entries) =
    some [⟨0, 0, [⟨0x1234, 1⟩]⟩, ⟨0x1234, 1, []⟩] := rfl

/-- In `dataSendRcv` the inner response takes the slot of the outer one. -/
theorem dataSendRcv_nested :
    ¬ ∀ (nodeList : ℕ → Node) (requests : List StartIndexReqFormat),
      ∀ s, Steps DataSendRcv.mtZdoMgmtLqiRspCb.step (fun _ e => EventFits e)
        (Callback.start (.start nodeList) requests) s →
      s.stack = [] → (successes s.delivered).length ≤ maxNodeList →
      s.glob.entries.Perm
        ((successes s.delivered).map fun msg => msg.ownEntry DataSendRcv.selects) := by
  intro hall
  have hrun : (exec DataSendRcv.mtZdoMgmtLqiRspCb.step
      (Callback.start (.start zeroNodes) [⟨0, 0⟩]) nestedEvents).isSome = true := rfl
  have hsteps := (Steps.refl (C := fun _ e => EventFits e)).exec_of_meets
    (by decide) (Option.some_get hrun).symm
  have hperm := hall zeroNodes [⟨0, 0⟩] _ hsteps rfl (Nat.le_of_ble_eq_true rfl)
  exact absurd hperm (of_decide_eq_false rfl)

end ZnpHost.Apps
