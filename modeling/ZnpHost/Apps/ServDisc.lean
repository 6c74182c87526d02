import Mathlib.Algebra.Order.BigOperators.Group.List
import Mathlib.Algebra.Order.Group.Nat
import Mathlib.Data.List.OfFn
import ZnpHost.Apps.Topology
import ZnpHost.Lib.Exchange

/-!
# Service discovery

`servDisc` asks every device that announces itself for its endpoints, and for the description of
each endpoint that the device lists.  A request of a callback waits for one message and processes
it, so that the callbacks of several devices run on top of each other.

## Main definitions

* `ActiveEpRsp` — a response whose list of endpoints is filled in.
* `ServDisc.mtZdoActiveEpRspCb`, `ServDisc.mtZdoEndDeviceAnnceIndCb` — the callbacks that ask.
* `ServDisc.mtZdoCb` — all callbacks of the application.
* `Devices`, `Devices.exchange` — the devices, and the application among them.
* `services_discovered` — every service is described, once.
-/

namespace ZnpHost.Apps

open Lib Mt Rpc

/-! ## Messages -/

/-- A response whose `ActiveEPCount` endpoints are filled in. -/
structure ActiveEpRsp extends ByteListRspFormat where
  filled : ∀ i < count.toNat, (list.cell i).isSome = true

namespace ActiveEpRsp

/-- `ActiveEPCount`. -/
def activeEPCount (msg : ActiveEpRsp) : ℕ := msg.count.toNat

/-- `ActiveEPList[i]`. -/
def activeEP (msg : ActiveEpRsp) (i : ℕ) (h : i < msg.activeEPCount) : UInt8 :=
  (msg.list.cell i).get (msg.filled i h)

/-- The endpoints, in order. -/
def endpoints (msg : ActiveEpRsp) : List UInt8 :=
  List.ofFn fun i : Fin msg.activeEPCount => msg.activeEP i i.isLt

end ActiveEpRsp

/-- **A response that `processActiveEpRsp` hands over is filled in**, unless it is shorter than
its fixed members. -/
theorem filled_processActiveEpRsp {rpcLen : UInt8} (h : rpcLen > 6) (mem : Mem) (i : UInt8) :
    let msg := ((processActiveEpRsp rpcLen).exec mem i).1
    ∀ j < msg.count.toNat, (msg.list.cell j).isSome = true := by
  simp only [processActiveEpRsp, byteListRsp]
  repeat rw [Reader.exec_bind]
  exact filled_exec_listIf h _ _ _ _

/-- The messages with a callback in `mtZdoCb`. -/
inductive ServMsg
  | stateChangeInd (newDevState : UInt8)
  | simpleDescRsp (msg : SimpleDescRspFormat)
  | activeEpRsp (msg : ActiveEpRsp)
  | endDeviceAnnceInd (msg : EndDeviceAnnceIndFormat)

/-! ## The callbacks -/

/-- `devState`, and the descriptions that were printed. -/
structure ServDisc where
  devState : UInt8
  described : List SimpleDescRspFormat

/-- The local variables of the callbacks that ask. -/
inductive ServLocals
  | activeEpRspCb (msg : ActiveEpRsp) (i : ℕ)
  | endDeviceAnnceIndCb (msg : EndDeviceAnnceIndFormat) (asked : Bool)

namespace ServDisc

def mtZdoStateChangeIndCb (newDevState : UInt8) (g : ServDisc) : ServDisc :=
  { g with devState := newDevState }

def mtZdoSimpleDescRspCb (msg : SimpleDescRspFormat) (g : ServDisc) : ServDisc :=
  if msg.status = mtRpcSuccess then { g with described := g.described ++ [msg] } else g

/-- A round of the loop over the endpoints. -/
def mtZdoActiveEpRspCb (msg : ActiveEpRsp) (i : ℕ) : Option (ServLocals × Option ZdoRequest) :=
  if h : i < msg.activeEPCount then
    some (.activeEpRspCb msg (i + 1), some (.simpleDescReq
      { dstAddr := msg.nwkAddr, nwkAddrOfInterest := msg.nwkAddr, endpoint := msg.activeEP i h }))
  else none

/-- The request, and the return. -/
def mtZdoEndDeviceAnnceIndCb (msg : EndDeviceAnnceIndFormat) (asked : Bool) :
    Option (ServLocals × Option ZdoRequest) :=
  if asked then none
  else some (.endDeviceAnnceIndCb msg true, some (.activeEpReq
    { dstAddr := msg.nwkAddr, nwkAddrOfInterest := msg.nwkAddr }))

/-- The callbacks that `appInit` registers. -/
def mtZdoCb : Callback ServMsg ServDisc ServLocals ZdoRequest where
  enter
    | .stateChangeInd newDevState, g => (mtZdoStateChangeIndCb newDevState g, none)
    | .simpleDescRsp msg, g => (mtZdoSimpleDescRspCb msg g, none)
    | .activeEpRsp msg, g =>
      (g, if msg.status = mtRpcSuccess then some (.activeEpRspCb msg 0) else none)
    | .endDeviceAnnceInd msg, g => (g, some (.endDeviceAnnceIndCb msg false))
  round
    | .activeEpRspCb msg i, g => (g, mtZdoActiveEpRspCb msg i)
    | .endDeviceAnnceIndCb msg asked, g => (g, mtZdoEndDeviceAnnceIndCb msg asked)

end ServDisc

/-! ## The devices -/

/-- What the devices answer to a request: one response, or none. -/
structure Devices where
  activeEp : AddrOfInterestReqFormat → Option ActiveEpRsp
  simpleDesc : SimpleDescReqFormat → Option SimpleDescRspFormat

namespace Devices

variable (net : Devices)

def answer : ZdoRequest → List ServMsg
  | .activeEpReq req => (net.activeEp req).toList.map .activeEpRsp
  | .simpleDescReq req => (net.simpleDesc req).toList.map .simpleDescRsp
  | _ => []

/-- The application among the devices. -/
def exchange : Exchange ServMsg ServDisc ServLocals ZdoRequest := ⟨ServDisc.mtZdoCb, net.answer⟩

end Devices

/-! ## What is asked -/

/-- The requests from endpoint `i` on. -/
def ActiveEpRsp.asksFrom (msg : ActiveEpRsp) (i : ℕ) : List ZdoRequest :=
  (msg.endpoints.drop i).map fun endpoint =>
    .simpleDescReq { dstAddr := msg.nwkAddr, nwkAddrOfInterest := msg.nwkAddr, endpoint }

/-- The request to a device that announces itself. -/
def askEndpoints (nwkAddr : UInt16) : AddrOfInterestReqFormat :=
  { dstAddr := nwkAddr, nwkAddrOfInterest := nwkAddr }

/-- What a message makes its callback ask. -/
def ServMsg.asks : ServMsg → List ZdoRequest
  | stateChangeInd _ => []
  | simpleDescRsp _ => []
  | activeEpRsp msg => if msg.status = mtRpcSuccess then msg.asksFrom 0 else []
  | endDeviceAnnceInd msg => [.activeEpReq (askEndpoints msg.nwkAddr)]

/-- What a callback has still to ask. -/
def ServLocals.owes : ServLocals → List ZdoRequest
  | activeEpRspCb msg i => msg.asksFrom i
  | endDeviceAnnceIndCb msg asked =>
    if asked then [] else [.activeEpReq (askEndpoints msg.nwkAddr)]

/-- The rounds that are left. -/
def ServLocals.left : ServLocals → ℕ
  | activeEpRspCb msg i => msg.activeEPCount - i
  | endDeviceAnnceIndCb _ asked => if asked then 0 else 1

theorem ActiveEpRsp.length_endpoints (msg : ActiveEpRsp) :
    msg.endpoints.length = msg.activeEPCount := List.length_ofFn

theorem ActiveEpRsp.asksFrom_succ {msg : ActiveEpRsp} {i : ℕ} (h : i < msg.activeEPCount) :
    msg.asksFrom i = .simpleDescReq
      { dstAddr := msg.nwkAddr, nwkAddrOfInterest := msg.nwkAddr, endpoint := msg.activeEP i h } ::
        msg.asksFrom (i + 1) := by
  have hi : i < msg.endpoints.length := by rwa [msg.length_endpoints]
  have hget : msg.endpoints[i] = msg.activeEP i h := by simp [endpoints]
  rw [asksFrom, List.drop_eq_getElem_cons hi, hget, List.map_cons]
  rfl

/-- The callbacks ask what they are said to. -/
theorem ServDisc.asks_mtZdoCb : Asks mtZdoCb ServMsg.asks ServLocals.owes ServLocals.left where
  enter := by
    intro m g
    cases m with
    | stateChangeInd newDevState => rfl
    | simpleDescRsp msg => rfl
    | activeEpRsp msg =>
      by_cases hok : msg.status = mtRpcSuccess <;> simp [ServDisc.mtZdoCb, ServMsg.asks, hok,
        ServLocals.owes]
    | endDeviceAnnceInd msg => rfl
  ret := by
    intro l g h
    cases l with
    | activeEpRspCb msg i =>
      simp only [ServDisc.mtZdoCb, ServDisc.mtZdoActiveEpRspCb] at h
      split at h
      · cases h
      · rename_i hi
        rw [ServLocals.owes, ActiveEpRsp.asksFrom, List.drop_of_length_le, List.map_nil]
        rw [msg.length_endpoints]
        exact Nat.le_of_not_lt hi
    | endDeviceAnnceIndCb msg asked =>
      cases asked with
      | true => rfl
      | false => cases h
  goOn := by
    intro l g l' req h
    cases l with
    | activeEpRspCb msg i =>
      simp only [ServDisc.mtZdoCb, ServDisc.mtZdoActiveEpRspCb] at h
      split at h
      · rename_i hi
        cases h
        constructor
        · exact ActiveEpRsp.asksFrom_succ hi
        · simp only [ServLocals.left]
          omega
      · cases h
    | endDeviceAnnceIndCb msg asked =>
      cases asked with
      | true => cases h
      | false =>
        cases h
        exact ⟨rfl, Nat.zero_lt_one⟩

namespace Devices

variable (net : Devices)

/-- What a message takes, with all that follows. -/
def weight : ServMsg → ℕ
  | .stateChangeInd _ => 1
  | .simpleDescRsp _ => 1
  | .activeEpRsp msg => activeEpWeight msg
  | .endDeviceAnnceInd msg =>
    4 + ((net.activeEp (askEndpoints msg.nwkAddr)).toList.map activeEpWeight).sum
where
  /-- A description takes a wait and a delivery. -/
  activeEpWeight (msg : ActiveEpRsp) : ℕ := 2 + 3 * msg.activeEPCount

/-- The messages that follow from a message. -/
def follow : ServMsg → List ServMsg
  | .stateChangeInd newDevState => [.stateChangeInd newDevState]
  | .simpleDescRsp msg => [.simpleDescRsp msg]
  | .activeEpRsp msg => .activeEpRsp msg :: (ServMsg.asks (.activeEpRsp msg)).flatMap net.answer
  | .endDeviceAnnceInd msg =>
    .endDeviceAnnceInd msg :: (net.activeEp (askEndpoints msg.nwkAddr)).toList.flatMap fun rsp =>
      .activeEpRsp rsp :: (ServMsg.asks (.activeEpRsp rsp)).flatMap net.answer

/-- Nothing follows from a description. -/
theorem follow_answer (req : SimpleDescReqFormat) :
    (net.answer (.simpleDescReq req)).flatMap net.follow = net.answer (.simpleDescReq req) := by
  cases h : net.simpleDesc req <;> simp [answer, follow, h]

theorem follow_descriptions (msg : ActiveEpRsp) :
    ((ServMsg.asks (.activeEpRsp msg)).flatMap net.answer).flatMap net.follow =
      (ServMsg.asks (.activeEpRsp msg)).flatMap net.answer := by
  by_cases hok : msg.status = mtRpcSuccess
  · simp [ServMsg.asks, hok, ActiveEpRsp.asksFrom, List.flatMap_map, List.flatMap_assoc,
      follow_answer]
  · simp [ServMsg.asks, hok]

theorem follows : Follows net.exchange ServMsg.asks net.follow := by
  intro m
  cases m with
  | stateChangeInd newDevState => rfl
  | simpleDescRsp msg => rfl
  | activeEpRsp msg =>
    change _ = _ :: ((ServMsg.asks (.activeEpRsp msg)).flatMap net.answer).flatMap net.follow
    rw [net.follow_descriptions]
    rfl
  | endDeviceAnnceInd msg =>
    change _ = _ :: ((ServMsg.asks (.endDeviceAnnceInd msg)).flatMap net.answer).flatMap net.follow
    simp only [ServMsg.asks, List.flatMap_singleton, answer, List.flatMap_map]
    rfl

/-- A description takes a wait and a delivery. -/
theorem price_simpleDescReq (req : SimpleDescReqFormat) :
    net.exchange.price net.weight (.simpleDescReq req) ≤ 2 := by
  cases h : net.simpleDesc req <;> simp [Exchange.price, exchange, answer, weight, h]

theorem weighs : Weighs net.exchange ServLocals.owes ServLocals.left net.weight := by
  intro m g
  cases m with
  | stateChangeInd newDevState => exact Nat.zero_lt_one
  | simpleDescRsp msg => exact Nat.zero_lt_one
  | activeEpRsp msg =>
    by_cases hok : msg.status = mtRpcSuccess
    · have hprice : ((msg.asksFrom 0).map (net.exchange.price net.weight)).sum ≤
          (msg.asksFrom 0).length * 2 := by
        have hsum := List.sum_le_card_nsmul ((msg.asksFrom 0).map (net.exchange.price net.weight)) 2
        rw [List.length_map] at hsum
        apply hsum
        intro n hn
        simp only [ActiveEpRsp.asksFrom, List.map_map, List.mem_map] at hn
        obtain ⟨endpoint, -, rfl⟩ := hn
        exact net.price_simpleDescReq _
      have hlen : (msg.asksFrom 0).length = msg.activeEPCount := by
        simp [ActiveEpRsp.asksFrom, msg.length_endpoints]
      rw [hlen] at hprice
      simp only [exchange, ServDisc.mtZdoCb, if_pos hok, Option.toList_some, List.map_singleton,
        List.sum_singleton, Exchange.effort, ServLocals.owes, ServLocals.left, weight,
        weight.activeEpWeight]
      change _ + ((msg.asksFrom 0).map (net.exchange.price net.weight)).sum < _
      omega
    · simp only [exchange, ServDisc.mtZdoCb, if_neg hok, Option.toList_none, List.map_nil,
        List.sum_nil, weight, weight.activeEpWeight]
      omega
  | endDeviceAnnceInd msg =>
    have hprice : net.exchange.price net.weight (.activeEpReq (askEndpoints msg.nwkAddr)) =
        1 + ((net.activeEp (askEndpoints msg.nwkAddr)).toList.map
          weight.activeEpWeight).sum := by
      simp only [Exchange.price, exchange, answer, List.map_map]
      rfl
    change 1 + 1 +
      (net.exchange.price net.weight (.activeEpReq (askEndpoints msg.nwkAddr)) + 0) + 0 < 4 + _
    rw [hprice]
    omega

end Devices

/-! ## What is described -/

/-- The description that a message brings. -/
def ServMsg.describes : ServMsg → List SimpleDescRspFormat
  | simpleDescRsp msg => if msg.status = mtRpcSuccess then [msg] else []
  | _ => []

namespace Devices

variable {net : Devices} {s s' : Exchanging ServMsg ServDisc ServLocals ZdoRequest}

/-- All descriptions delivered are printed. -/
theorem described_step {e : ExchangeEvent ServMsg}
    (h : s.calls.glob.described = s.calls.delivered.flatMap ServMsg.describes)
    (hstep : net.exchange.step s e = some s') :
    s'.calls.glob.described = s'.calls.delivered.flatMap ServMsg.describes := by
  cases e with
  | arrive m =>
    obtain rfl := Option.some.inj hstep
    exact h
  | deliver k =>
    obtain ⟨m, -, rfl⟩ := Exchange.step_deliver hstep
    simp only [Callback.entered, List.flatMap_append, List.flatMap_singleton, ← h]
    cases m with
    | simpleDescRsp msg =>
      by_cases hok : msg.status = mtRpcSuccess <;>
        simp [exchange, ServDisc.mtZdoCb, ServDisc.mtZdoSimpleDescRspCb, ServMsg.describes, hok]
    | _ => exact (List.append_nil _).symm
  | lapse =>
    obtain ⟨-, rfl⟩ := Exchange.step_lapse hstep
    exact h
  | round =>
    obtain ⟨-, l, rest, -, -, hdelivered, -, hglob⟩ := Exchange.step_round hstep
    have hsame : (net.exchange.cb.round l s.calls.glob).1 = s.calls.glob := by
      cases l <;> rfl
    rw [hglob, hdelivered, hsame, h]

variable (net)

/-- The descriptions of the endpoints that a response lists. -/
def services (msg : ActiveEpRsp) : List SimpleDescRspFormat :=
  if msg.status = mtRpcSuccess then
    msg.endpoints.flatMap fun endpoint =>
      (net.simpleDesc { dstAddr := msg.nwkAddr, nwkAddrOfInterest := msg.nwkAddr, endpoint }).toList
        |>.filter (·.status = mtRpcSuccess)
  else []

/-- The descriptions that a message leads to. -/
def servicesOf : ServMsg → List SimpleDescRspFormat
  | .stateChangeInd _ => []
  | .simpleDescRsp msg => [msg].filter (·.status = mtRpcSuccess)
  | .activeEpRsp msg => net.services msg
  | .endDeviceAnnceInd msg =>
    (net.activeEp (askEndpoints msg.nwkAddr)).toList.flatMap net.services

/-- The requests that a message leads to. -/
def requestsFor : ServMsg → List ZdoRequest
  | .endDeviceAnnceInd msg =>
    .activeEpReq (askEndpoints msg.nwkAddr) ::
      (net.activeEp (askEndpoints msg.nwkAddr)).toList.flatMap fun rsp =>
        ServMsg.asks (.activeEpRsp rsp)
  | m => m.asks

theorem describes_answer (req : SimpleDescReqFormat) :
    (net.answer (.simpleDescReq req)).flatMap ServMsg.describes =
      (net.simpleDesc req).toList.filter (·.status = mtRpcSuccess) := by
  cases h : net.simpleDesc req with
  | none => simp [answer, h]
  | some msg =>
    by_cases hok : msg.status = mtRpcSuccess <;> simp [answer, h, ServMsg.describes, hok]

theorem describes_activeEpRsp (msg : ActiveEpRsp) :
    ((ServMsg.asks (.activeEpRsp msg)).flatMap net.answer).flatMap ServMsg.describes =
      net.services msg := by
  by_cases hok : msg.status = mtRpcSuccess
  · simp [ServMsg.asks, services, hok, ActiveEpRsp.asksFrom, List.flatMap_map, List.flatMap_assoc,
      describes_answer]
  · simp [ServMsg.asks, services, hok]

theorem describes_follow (m : ServMsg) :
    (net.follow m).flatMap ServMsg.describes = net.servicesOf m := by
  cases m with
  | stateChangeInd newDevState => rfl
  | simpleDescRsp msg =>
    by_cases hok : msg.status = mtRpcSuccess <;>
      simp [follow, servicesOf, ServMsg.describes, hok]
  | activeEpRsp msg => exact net.describes_activeEpRsp msg
  | endDeviceAnnceInd msg =>
    have hrsp : ∀ rsp, ServMsg.describes (.activeEpRsp rsp) = [] := fun _ => rfl
    have hannce : ServMsg.describes (.endDeviceAnnceInd msg) = [] := rfl
    simp only [follow, servicesOf, List.flatMap_cons, List.flatMap_assoc, hrsp, hannce,
      List.nil_append]
    simp only [← List.flatMap_assoc, describes_activeEpRsp]

/-- A description makes nobody ask. -/
theorem asks_answer (req : SimpleDescReqFormat) :
    (net.answer (.simpleDescReq req)).flatMap ServMsg.asks = [] := by
  cases h : net.simpleDesc req <;> simp [answer, ServMsg.asks, h]

theorem asks_activeEpRsp (msg : ActiveEpRsp) :
    ((ServMsg.asks (.activeEpRsp msg)).flatMap net.answer).flatMap ServMsg.asks = [] := by
  by_cases hok : msg.status = mtRpcSuccess
  · simp [ServMsg.asks, hok, ActiveEpRsp.asksFrom, List.flatMap_map, List.flatMap_assoc,
      asks_answer]
  · simp [ServMsg.asks, hok]

theorem asks_follow (m : ServMsg) : (net.follow m).flatMap ServMsg.asks = net.requestsFor m := by
  cases m with
  | stateChangeInd newDevState => rfl
  | simpleDescRsp msg => rfl
  | activeEpRsp msg =>
    rw [follow, List.flatMap_cons, asks_activeEpRsp, List.append_nil]
    rfl
  | endDeviceAnnceInd msg =>
    rw [follow, List.flatMap_cons, List.flatMap_assoc]
    simp only [List.flatMap_cons, asks_activeEpRsp, List.append_nil]
    rfl

end Devices

/-- **Service discovery is complete.**  Whatever messages come from outside, and however the
responses of the devices are delivered, in the main loop or while a request waits, the callbacks
come to an end; then every device that announced itself has been asked for its endpoints once, every
endpoint it lists for its description once, and the descriptions printed are exactly those that
the devices have sent. -/
theorem services_discovered (net : Devices) {devState : UInt8}
    {s : Exchanging ServMsg ServDisc ServLocals ZdoRequest}
    (hrun : Reachable net.exchange.step (Exchange.start ⟨devState, []⟩) s) :
    (∃ n, ∀ es s', (∀ e ∈ es, e.Own) → exec net.exchange.step s es = some s' → es.length ≤ n) ∧
    (Quiet net.exchange.step ExchangeEvent.Own s →
      s.calls.requests.Perm (s.arrived.flatMap net.requestsFor) ∧
      s.calls.glob.described.Perm (s.arrived.flatMap net.servicesOf)) := by
  have hsettles := Exchange.settles ServDisc.asks_mtZdoCb net.weighs net.follows hrun
  constructor
  · exact ⟨_, hsettles.1⟩
  · intro hquiet
    obtain ⟨hdelivered, hasked⟩ := hsettles.2 hquiet
    constructor
    · have hperm := hasked.trans (hdelivered.flatMap_right ServMsg.asks)
      simpa only [List.flatMap_assoc, net.asks_follow] using hperm
    · have hdescribed : s.calls.glob.described = s.calls.delivered.flatMap ServMsg.describes :=
        hrun.invariant
          (I := fun s => s.calls.glob.described = s.calls.delivered.flatMap ServMsg.describes)
          rfl fun _ _ _ h _ hs => Devices.described_step h hs
      have hperm := hdelivered.flatMap_right ServMsg.describes
      rw [hdescribed]
      simpa only [List.flatMap_assoc, net.describes_follow] using hperm

/-! ## Two lamps -/

/-- The description of a lamp's endpoint. -/
def lamp (nwkAddr : UInt16) (endpoint : UInt8) : SimpleDescRspFormat where
  srcAddr := nwkAddr
  status := mtRpcSuccess
  nwkAddr := nwkAddr
  len := 10
  descriptor := some
    { endpoint, profileID := 0x0104, deviceID := 0x0100, deviceVersion := 1, numInClusters := 1
      inClusterList := .ofList [6], numOutClusters := 0, outClusterList := .empty }

/-- A lamp with two endpoints. -/
def twoEndpoints (nwkAddr : UInt16) : ActiveEpRsp where
  srcAddr := nwkAddr
  status := mtRpcSuccess
  nwkAddr := nwkAddr
  count := 2
  list := .ofList [1, 2]
  filled := fun i hi => by simpa [CArray.ofList] using hi

def lamps : Devices where
  activeEp req := some (twoEndpoints req.dstAddr)
  simpleDesc req := some (lamp req.dstAddr req.endpoint)

/-- Both announce themselves, and most responses come while a request waits. -/
def lampEvents : List (ExchangeEvent ServMsg) :=
  [0x1A62, 0x2B73].map (fun a => .arrive (.endDeviceAnnceInd ⟨a, a, 0x124B00, 0⟩)) ++
    [.deliver 0, .round, .deliver 0, .round, .deliver 0, .round, .deliver 0, .round, .deliver 0,
      .round, .deliver 0, .round, .round, .deliver 0, .round, .round, .round, .deliver 0]

/-- All four endpoints are described. -/
theorem services_discovered_lamps :
    ∃ s, exec lamps.exchange.step (Exchange.start ⟨0, []⟩) lampEvents = some s ∧
      s.calls.glob.described.Perm
        [lamp 0x1A62 1, lamp 0x1A62 2, lamp 0x2B73 1, lamp 0x2B73 2] := by
  have hsome : (exec lamps.exchange.step (Exchange.start ⟨0, []⟩) lampEvents).isSome = true := rfl
  have hexec := (Option.some_get hsome).symm
  have hquiet : Quiet lamps.exchange.step ExchangeEvent.Own (Option.get _ hsome) :=
    Exchange.quiet_of_empty rfl rfl rfl
  exact ⟨_, hexec, ((services_discovered lamps (reachable_of_exec hexec)).2 hquiet).2⟩

end ZnpHost.Apps
