import Mathlib.Logic.Function.Basic
import ZnpHost.Lib.Reentry
import ZnpHost.Mt.ZdoRequests
import ZnpHost.Mt.ZdoResponses
import ZnpHost.Rpc.Frame

/-!
# The node lists of `nwkTopology` and `dataSendRcv`

Both examples enter the responses to `zdoMgmtLqiReq` in a table of nodes.  The callback
`mtZdoMgmtLqiRspCb` fills one slot of the table, and for every child that is a router it calls
`zdoMgmtLqiReq`, which waits for one message and processes it.  `nwkTopology` takes the slot at
the start of the callback, `dataSendRcv` at its end.

The model also records the indices used.

## Main definitions

* `LqiRsp` — a response whose list of neighbours is filled in.
* `Node`, `Topology` — `nodeList`, `nodeCount` and the indices used.
* `visit` — one round of the loop over the neighbours.
* `NwkTopology.mtZdoMgmtLqiRspCb`, `DataSendRcv.mtZdoMgmtLqiRspCb` — the callbacks.
-/

namespace ZnpHost.Apps

open Lib Mt Rpc

/-! ## Responses -/

/-- A response whose `NeighborLqiListCount` neighbours are filled in. -/
structure LqiRsp extends MgmtLqiRspFormat where
  filled : ∀ i < neighborLqiListCount.toNat, (neighborLqiList.cell i).isSome = true

namespace LqiRsp

/-- `NeighborLqiListCount`. -/
def count (msg : LqiRsp) : ℕ := msg.neighborLqiListCount.toNat

/-- `NeighborLqiList[i]`. -/
def neighbor (msg : LqiRsp) (i : ℕ) (h : i < msg.count) : NeighborLqiListItemFormat :=
  (msg.neighborLqiList.cell i).get (msg.filled i h)

/-- A successful response that lists the given neighbours. -/
def ofNeighbors (srcAddr : UInt16) (items : List NeighborLqiListItemFormat)
    (h : items.length < 256) : LqiRsp where
  srcAddr := srcAddr
  status := mtRpcSuccess
  neighborTableEntries := .ofNat items.length
  startIndex := 0
  neighborLqiListCount := .ofNat items.length
  neighborLqiList := .ofList items
  filled := by
    intro i hi
    have hlt : i < items.length := by
      rwa [UInt8.toNat_ofNat', Nat.mod_eq_of_lt h] at hi
    simp [CArray.ofList, hlt]

end LqiRsp

/-- `DevTyp_RxOnWhenIdle_Relat & 3`. -/
def devType (item : NeighborLqiListItemFormat) : UInt8 := item.devTypRxOnWhenIdleRelat &&& 3

/-- `(DevTyp_RxOnWhenIdle_Relat >> 4) & 7`. -/
def devRelation (item : NeighborLqiListItemFormat) : UInt8 :=
  (item.devTypRxOnWhenIdleRelat >>> 4) &&& 7

def deviceTypeCoordinator : UInt8 := 0x00
def deviceTypeRouter : UInt8 := 0x01

/-! ## The table -/

/-- `ChildNode_t`. -/
structure ChildNode where
  childAddr : UInt16
  type : UInt8
  deriving DecidableEq

/-- `Node_t`, with whatever `childs` holds beyond the children counted. -/
structure Node where
  nodeAddr : UInt16
  type : UInt8
  childCount : UInt8
  childs : ℕ → ChildNode

/-- `MAX_NODE_LIST`. -/
def maxNodeList : ℕ := 64

/-- `nodeList` and `nodeCount`, and the indices of `nodeList` and of `childs` that were used. -/
structure Topology where
  nodeList : ℕ → Node
  nodeCount : UInt8
  nodeIdx : List ℕ
  childIdx : List ℕ

/-- `nodeCount = 0`, with whatever `nodeList` holds. -/
def Topology.start (nodeList : ℕ → Node) : Topology := ⟨nodeList, 0, [], []⟩

namespace Topology

/-- A store to `nodeList[k]`. -/
def modifyNode (g : Topology) (k : UInt8) (f : Node → Node) : Topology :=
  { g with
    nodeList := Function.update g.nodeList k.toNat (f (g.nodeList k.toNat))
    nodeIdx := k.toNat :: g.nodeIdx }

/-- Address, type and number of children of a node. -/
def newNode (g : Topology) (k : UInt8) (srcAddr : UInt16) : Topology :=
  g.modifyNode k fun node =>
    { node with
      nodeAddr := srcAddr
      type := if srcAddr = 0 then deviceTypeCoordinator else deviceTypeRouter
      childCount := 0 }

/-- `childs[cCount]` and `ChildCount++`. -/
def addChild (g : Topology) (k : UInt8) (child : ChildNode) : Topology :=
  let cCount := (g.nodeList k.toNat).childCount
  { g.modifyNode k fun node =>
      { node with
        childs := Function.update node.childs cCount.toNat child
        childCount := node.childCount + 1 } with
    childIdx := cCount.toNat :: g.childIdx }

/-- A round of the loop over the neighbours, for slot `k` and the relations `selects`, with the
request it issues. -/
def visit (g : Topology) (selects : UInt8 → Bool) (k : UInt8)
    (item : NeighborLqiListItemFormat) : Topology × Option StartIndexReqFormat :=
  if selects (devRelation item) then
    (g.addChild k ⟨item.networkAddress, devType item⟩,
      if devType item = deviceTypeRouter then some ⟨item.networkAddress, 0⟩ else none)
  else (g, none)

end Topology

/-! ## The callbacks -/

namespace NwkTopology

/-- `MAX_CHILDREN`. -/
def maxChildren : ℕ := 20

/-- `devRelation == 1`. -/
def selects (relation : UInt8) : Bool := relation = 1

/-- The local variables of the callback. -/
structure Locals where
  msg : LqiRsp
  i : ℕ
  localNodeCount : UInt8

def mtZdoMgmtLqiRspCb : Callback LqiRsp Topology Locals StartIndexReqFormat where
  enter msg g :=
    let localNodeCount := g.nodeCount
    if msg.status = mtRpcSuccess then
      ({ g with nodeCount := g.nodeCount + 1 }.newNode localNodeCount msg.srcAddr,
        some { msg, i := 0, localNodeCount })
    else (g, none)
  round l g :=
    if h : l.i < l.msg.count then
      let (g, req) := g.visit selects l.localNodeCount (l.msg.neighbor l.i h)
      (g, some ({ l with i := l.i + 1 }, req))
    else (g, none)

end NwkTopology

namespace DataSendRcv

/-- The size of `childs`. -/
def maxChildren : ℕ := 256

/-- `devRelation == 1 || devRelation == 3`. -/
def selects (relation : UInt8) : Bool := relation = 1 || relation = 3

/-- The local variables of the callback. -/
structure Locals where
  msg : LqiRsp
  i : ℕ

def mtZdoMgmtLqiRspCb : Callback LqiRsp Topology Locals StartIndexReqFormat where
  enter msg g :=
    if msg.status = mtRpcSuccess then
      (g.newNode g.nodeCount msg.srcAddr, some { msg, i := 0 })
    else (g, none)
  round l g :=
    if h : l.i < l.msg.count then
      -- the slot is that of `nodeCount` as it is now, also after a request
      let (g, req) := g.visit selects g.nodeCount (l.msg.neighbor l.i h)
      (g, some ({ l with i := l.i + 1 }, req))
    else ({ g with nodeCount := g.nodeCount + 1 }, none)

end DataSendRcv

/-! ## Decoded responses -/

theorem length_exec_times {α : Type} (d : Reader α) (n : ℕ) (mem : Mem) (i : UInt8) :
    ((Reader.times n d).exec mem i).1.length = n := by
  induction n generalizing i with
  | zero => rfl
  | succ n ih =>
    simp only [Reader.times]
    rw [Reader.exec_bind, Reader.exec_bind]
    exact congrArg (· + 1) (ih _)

/-- The loop of a decoder fills the list. -/
theorem filled_exec_listIf {α : Type} {size : ℕ} {c : Prop} [Decidable c] (hc : c) (d : Reader α)
    (n : ℕ) (mem : Mem) (i : UInt8) :
    ∀ j < n, (((listIf c n d : Reader (CArray size α)).exec mem i).1.cell j).isSome = true := by
  intro j hj
  have hlen := length_exec_times d n mem i
  simp only [listIf, if_pos hc, Mt.list]
  rw [Reader.exec_bind]
  simp [Reader.exec, CArray.ofList, hlen, hj]

/-- **A response that `processMgmtLqiRsp` hands over is filled in**, unless it is shorter than
its fixed members. -/
theorem filled_processMgmtLqiRsp {rpcLen : UInt8} (h : rpcLen > 6) (mem : Mem) (i : UInt8) :
    let msg := ((processMgmtLqiRsp rpcLen).exec mem i).1
    ∀ j < msg.neighborLqiListCount.toNat, (msg.neighborLqiList.cell j).isSome = true := by
  simp only [processMgmtLqiRsp]
  repeat rw [Reader.exec_bind]
  exact filled_exec_listIf h _ _ _ _

end ZnpHost.Apps
