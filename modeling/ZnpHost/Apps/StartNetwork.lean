import ZnpHost.Apps.Topology
import ZnpHost.Lib.Hex
import ZnpHost.Lib.Transition
import ZnpHost.Mt.RequestLine

/-!
# Starting the network

`startNetwork` is the same in four of the examples.  It asks what to do, writes the configuration
to the memory of the device, starts the network, and waits until the device has joined.  Each
of its calls returns with an answer, and may have processed messages that change `devState`.

## Main definitions

* `setNVStartup`, `setNVDevType`, `setNVPanID`, `setNVChanList` — the requests that configure.
* `StartNetwork`, `StartNetwork.step` — the function between two calls, and what a call leads to.
* `plan` — the requests that belong to the lines typed.
* `startNetwork_plan` — every run follows the plan, up to a request that fails.
-/

namespace ZnpHost.Apps

open Lib Mt Rpc

/-! ## The requests -/

def zcdNvStartupOption : UInt16 := 0x0003
def zcdNvPanid : UInt16 := 0x0083
def zcdNvChanlist : UInt16 := 0x0084
def zcdNvLogicalType : UInt16 := 0x0087

def zcdStartoptClearConfig : UInt8 := 0x01
def zcdStartoptClearState : UInt8 := 0x02

def deviceTypeEndDevice : UInt8 := 0x02

def newNetwork : UInt8 := 0x01
def restoredNetwork : UInt8 := 0x00

def devEndDevice : UInt8 := 6
def devRouter : UInt8 := 7
def devZbCoord : UInt8 := 9

/-- `setNVStartup`; the rest of `Value` is not initialised. -/
def setNVStartup (uninit : Vector UInt8 246) (startupOption : UInt8) : OsalNvWriteFormat where
  id := zcdNvStartupOption
  offset := 0
  len := 1
  value := uninit.set 0 startupOption
  len_le := Nat.le_of_ble_eq_true rfl

def setNVDevType (uninit : Vector UInt8 246) (devType : UInt8) : OsalNvWriteFormat where
  id := zcdNvLogicalType
  offset := 0
  len := 1
  value := uninit.set 0 devType
  len_le := Nat.le_of_ble_eq_true rfl

def setNVPanID (uninit : Vector UInt8 246) (panId : UInt32) : OsalNvWriteFormat where
  id := zcdNvPanid
  offset := 0
  len := 2
  value := (uninit.set 0 (panId &&& 0xFF).toUInt8).set 1 ((panId >>> 8) &&& 0xFF).toUInt8
  len_le := Nat.le_of_ble_eq_true rfl

/-- `BREAK_UINT32`. -/
def breakUint32 (x : UInt32) (byteNum : UInt32) : UInt8 := ((x >>> (byteNum * 8)) &&& 0xFF).toUInt8

def setNVChanList (uninit : Vector UInt8 246) (chanList : UInt32) : OsalNvWriteFormat where
  id := zcdNvChanlist
  offset := 0
  len := 4
  value := (((uninit.set 0 (breakUint32 chanList 0)).set 1 (breakUint32 chanList 1)).set 2
    (breakUint32 chanList 2)).set 3 (breakUint32 chanList 3)
  len_le := Nat.le_of_ble_eq_true rfl

/-- `registerAf`. -/
def registerAf (uninit : Vector UInt16 16) : RegisterFormat where
  endPoint := 1
  appProfId := 0x0104
  appDeviceId := 0x0100
  appDevVer := 1
  latencyReq := 0
  appNumInClusters := 1
  appInClusterList := uninit.set 0 0x0006
  appNumOutClusters := 0
  appOutClusterList := uninit
  appNumInClusters_le := Nat.le_of_ble_eq_true rfl
  appNumOutClusters_le := Nat.zero_le 16

/-! ## Lines -/

/-- The number in the digits that a text begins with, behind others that make `n`. -/
def readDecimal : ℕ → List UInt8 → ℕ
  | n, [] => n
  | n, c :: cs => if 48 ≤ c ∧ c ≤ 57 then readDecimal (10 * n + (c.toNat - 48)) cs else n

/-- `atoi`. -/
def atoi (s : List UInt8) : ℤ :=
  match s.dropWhile isSpace with
  | 45 :: cs => -(readDecimal 0 cs : ℤ)
  | 43 :: cs => readDecimal 0 cs
  | cs => readDecimal 0 cs

/-- `1 << n`; `undef` is what comes out where C leaves it open. -/
def channelMask (undef : UInt32) (n : ℤ) : UInt32 :=
  if 0 ≤ n ∧ n < 31 then .ofNat (1 <<< n.toNat) else undef

/-- `sCh[0]`. -/
def firstChar (l : List UInt8) : UInt8 := l.headD 0

/-- `y` or `Y`. -/
def isYes (l : List UInt8) : Bool := firstChar l = 121 ∨ firstChar l = 89

/-- `n` or `N`. -/
def isNo (l : List UInt8) : Bool := firstChar l = 110 ∨ firstChar l = 78

/-- The device type for `cDevType`. -/
def devTypeOf (l : List UInt8) : UInt8 :=
  if firstChar l = 99 ∨ firstChar l = 67 then deviceTypeCoordinator
  else if firstChar l = 114 ∨ firstChar l = 82 then deviceTypeRouter
  else deviceTypeEndDevice

/-- The device is what it was to be. -/
def isUp (devType devState : UInt8) : Bool :=
  (devType = deviceTypeCoordinator ∧ devState = devZbCoord) ∨
    (devType = deviceTypeRouter ∧ devState = devRouter) ∨
    (devType = deviceTypeEndDevice ∧ devState = devEndDevice)

/-! ## The function -/

/-- The call that the function is in. -/
inductive StartPhase
  | askNew
  | writeStartup
  | flushReset
  | askType
  | writeType
  | writePan
  | askChannel
  | writeChannel
  | register
  | init
  | waitUp
  | restore
  | returned (status : ℤ)

/-- What a call returns, and `devState` afterwards. -/
inductive StartEvent
  /-- `consoleGetLine`. -/
  | line (l : List UInt8)
  /-- A request. -/
  | status (s : UInt8) (devState : UInt8)
  /-- `rpcWaitMqClientMsg(5000)`. -/
  | waited (s : ℤ) (devState : UInt8)

/-- The variables, and the requests sent. -/
structure StartNetwork where
  phase : StartPhase
  devType : UInt8
  newNwk : Bool
  devState : UInt8
  sent : List Request

/-- What is on the stack, and what the shift gives where C leaves it open. -/
structure Undefined where
  value : Vector UInt8 246
  clusters : Vector UInt16 16
  shift : UInt32

namespace StartNetwork

/-- `devType` is not initialised. -/
def start (devType devState : UInt8) : StartNetwork := ⟨.askNew, devType, false, devState, []⟩

/-- A request is sent. -/
def send (s : StartNetwork) (phase : StartPhase) (req : Request) : StartNetwork :=
  { s with phase, sent := s.sent ++ [req] }

variable (u : Undefined)

def afterLine (s : StartNetwork) (l : List UInt8) : Option StartNetwork :=
  match s.phase with
  | .askNew =>
    if isNo l then some (s.send .writeStartup (.sys (.osalNvWrite (setNVStartup u.value 0))))
    else if isYes l then
      some ({ s with newNwk := true }.send .writeStartup (.sys (.osalNvWrite
        (setNVStartup u.value (zcdStartoptClearState ||| zcdStartoptClearConfig)))))
    else some s
  | .askType =>
    some ({ s with devType := devTypeOf l }.send .writeType (.sys (.osalNvWrite
      (setNVDevType u.value (devTypeOf l)))))
  | .askChannel =>
    some (s.send .writeChannel (.sys (.osalNvWrite
      (setNVChanList u.value (channelMask u.shift (atoi l))))))
  | _ => none

def afterStatus (s : StartNetwork) (status : UInt8) : Option StartNetwork :=
  match s.phase with
  | .writeStartup =>
    if status = mtRpcSuccess then some (s.send .flushReset (.sys (.resetReq ⟨1⟩)))
    else some { s with phase := .returned (-1) }
  | .writeType =>
    if status = mtRpcSuccess then
      some (s.send .writePan (.sys (.osalNvWrite (setNVPanID u.value 0xFFFF))))
    else some { s with phase := .returned 0 }
  | .writePan =>
    if status = mtRpcSuccess then some { s with phase := .askChannel }
    else some { s with phase := .returned (-1) }
  | .writeChannel =>
    if status = mtRpcSuccess then some (s.send .register (.af (.register (registerAf u.clusters))))
    else some { s with phase := .returned (-1) }
  | .register => some (s.send .init (.zdo .init))
  | .init =>
    if status = newNetwork ∨ status = restoredNetwork then some { s with phase := .waitUp }
    else some (s.send .restore (.sys (.osalNvWrite (setNVStartup u.value 0))))
  | .restore => some { s with phase := .returned (if s.devState < devEndDevice then -1 else 0) }
  | _ => none

def afterWait (s : StartNetwork) (status : ℤ) : Option StartNetwork :=
  match s.phase with
  | .flushReset =>
    if s.newNwk then some { s with phase := .askType }
    else some (s.send .register (.af (.register (registerAf u.clusters))))
  | .waitUp =>
    if isUp s.devType s.devState ∨ status = -1 then
      some (s.send .restore (.sys (.osalNvWrite (setNVStartup u.value 0))))
    else some s
  | _ => none

/-- A call returns. -/
def step (s : StartNetwork) : StartEvent → Option StartNetwork
  | .line l => s.afterLine u l
  | .status status devState => { s with devState }.afterStatus u status
  | .waited status devState => { s with devState }.afterWait u status

end StartNetwork

/-! ## The plan -/

/-- The fields that write a value to the memory of the device. -/
def nvItems (id : UInt16) (value : List UInt8) : List Item :=
  [.u16 id, .u8 0, .u8 (.ofNat value.length), .u8s value]

/-- The request that does. -/
def nvWrite (id : UInt16) (value : List UInt8) : Mt.Received where
  cmd0 := mtRpcCmdSreq ||| mtRpcSysSys
  cmd1 := mtSysOsalNvWrite
  items := nvItems id value

/-- A reset of type 1. -/
def softReset : Mt.Received := ⟨mtRpcCmdAreq ||| mtRpcSysSys, mtSysResetReq, [.u8 1]⟩

/-- The endpoint of the application. -/
def endpoint : Mt.Received where
  cmd0 := mtRpcCmdSreq ||| mtRpcSysAf
  cmd1 := mtAfRegister
  items := [.u8 1, .u16 0x0104, .u16 0x0100, .u8 1, .u8 0, .u8 1, .u16s [0x0006], .u8 0, .u16s []]

/-- `zdoInit`. -/
def startup : Mt.Received := ⟨mtRpcCmdSreq ||| mtRpcSysZdo, mtZdoStartupFromApp, [.u16 0]⟩

/-- The start itself: the endpoint, `zdoInit`, and the startup option put back. -/
def finishPlan : List Mt.Received := [endpoint, startup, nvWrite zcdNvStartupOption [0]]

section Plan

variable (undef : UInt32)

/-- The requests when the channel is asked for next. -/
def channelPlan : List (List UInt8) → List Mt.Received
  | [] => []
  | l :: _ => nvWrite zcdNvChanlist (leBytes 4 (channelMask undef (atoi l)).toNat) :: finishPlan

/-- The requests when the device type is asked for next. -/
def typePlan : List (List UInt8) → List Mt.Received
  | [] => []
  | l :: ls =>
    nvWrite zcdNvLogicalType [devTypeOf l] :: nvWrite zcdNvPanid [0xFF, 0xFF] ::
      channelPlan undef ls

/-- The requests that belong to the lines typed. -/
def plan : List (List UInt8) → List Mt.Received
  | [] => []
  | l :: ls =>
    if isNo l then nvWrite zcdNvStartupOption [0] :: softReset :: finishPlan
    else if isYes l then nvWrite zcdNvStartupOption [3] :: softReset :: typePlan undef ls
    else plan ls

end Plan

/-- The first elements of an array, one by one. -/
theorem take_toList {α : Type} {n k : ℕ} (a : Vector α n) (hk : k ≤ n) :
    a.toList.take k = List.ofFn fun i : Fin k => a[i.val] := by
  apply List.ext_getElem
  · simp [hk]
  · simp

theorem items_setNVStartup (uninit : Vector UInt8 246) (option : UInt8) :
    (setNVStartup uninit option).items = nvItems zcdNvStartupOption [option] := by
  simp [setNVStartup, OsalNvWriteFormat.items, firstBytes, nvItems, take_toList]

theorem items_setNVDevType (uninit : Vector UInt8 246) (devType : UInt8) :
    (setNVDevType uninit devType).items = nvItems zcdNvLogicalType [devType] := by
  simp [setNVDevType, OsalNvWriteFormat.items, firstBytes, nvItems, take_toList]

theorem items_setNVPanID (uninit : Vector UInt8 246) :
    (setNVPanID uninit 0xFFFF).items = nvItems zcdNvPanid [0xFF, 0xFF] := by
  simp [setNVPanID, OsalNvWriteFormat.items, firstBytes, nvItems, take_toList, List.ofFn_succ]
  decide

/-- The bytes of a number, low byte first. -/
theorem breakUint32_eq (x : UInt32) {k : UInt32} (hk : k.toNat < 4) :
    breakUint32 x k = .ofNat (x.toNat / 256 ^ k.toNat) := by
  have hshift : (k * 8).toNat % 32 = 8 * k.toNat := by
    have h8 : (8 : UInt32).toNat = 8 := rfl
    rw [UInt32.toNat_mul, h8]
    omega
  apply UInt8.toNat_inj.mp
  simp only [breakUint32, UInt32.toNat_toUInt8, UInt32.toNat_and, UInt32.toNat_shiftRight, hshift,
    Nat.shiftRight_eq_div_pow, Nat.pow_mul, UInt8.toNat_ofNat']
  exact (congrArg (· % 256) (Nat.and_two_pow_sub_one_eq_mod _ 8)).trans (Nat.mod_mod _ _)

theorem items_setNVChanList (uninit : Vector UInt8 246) (chanList : UInt32) :
    (setNVChanList uninit chanList).items = nvItems zcdNvChanlist (leBytes 4 chanList.toNat) := by
  simp [setNVChanList, OsalNvWriteFormat.items, firstBytes, nvItems, take_toList, List.ofFn_succ,
    breakUint32_eq, leBytes, Nat.div_div_eq_div_mul]

theorem items_registerAf (uninit : Vector UInt16 16) :
    (registerAf uninit).items =
      [.u8 1, .u16 0x0104, .u16 0x0100, .u8 1, .u8 0, .u8 1, .u16s [0x0006], .u8 0, .u16s []] := by
  simp [registerAf, RegisterFormat.items, firstWords, take_toList]

/-- A write, with the command bytes. -/
theorem received_osalNvWrite {req : OsalNvWriteFormat} {id : UInt16} {value : List UInt8}
    (hitems : req.items = nvItems id value) :
    (AnyRequest.built (.sys (.osalNvWrite req))).received = nvWrite id value :=
  congrArg (Mt.Received.mk _ _) hitems

theorem received_zdoInit : (AnyRequest.built (.zdo .init)).received = startup := rfl

theorem received_registerAf (uninit : Vector UInt16 16) :
    (AnyRequest.built (.af (.register (registerAf uninit)))).received = endpoint :=
  congrArg (Mt.Received.mk _ _) (items_registerAf uninit)

/-! ## Runs -/

/-- The line that is typed. -/
def StartEvent.lines : StartEvent → List (List UInt8)
  | .line l => [l]
  | _ => []

/-- The lines typed in a run. -/
def linesOf (es : List StartEvent) : List (List UInt8) := es.flatMap StartEvent.lines

/-- The item of the memory that is being written, where a refusal ends the function. -/
def StartPhase.writes : StartPhase → Option UInt16
  | .writeStartup => some zcdNvStartupOption
  | .writeType => some zcdNvLogicalType
  | .writePan => some zcdNvPanid
  | .writeChannel => some zcdNvChanlist
  | _ => none

/-- The start itself has begun. -/
def StartPhase.late : StartPhase → Bool
  | .register | .init | .waitUp | .restore | .returned _ => true
  | _ => false

namespace StartNetwork

/-- What has been sent, as the device reads it. -/
def requests (s : StartNetwork) : List Mt.Received :=
  s.sent.map fun req => (AnyRequest.built req).received

@[simp] theorem requests_send (s : StartNetwork) (phase : StartPhase) (req : Request) :
    (s.send phase req).requests = s.requests ++ [(AnyRequest.built req).received] := by
  simp [requests, send]

/-- What is still to be sent, if these lines are typed. -/
def todo (undef : UInt32) (s : StartNetwork) (ls : List (List UInt8)) : List Mt.Received :=
  match s.phase with
  | .askNew => plan undef ls
  | .writeStartup => softReset :: if s.newNwk then typePlan undef ls else finishPlan
  | .flushReset => if s.newNwk then typePlan undef ls else finishPlan
  | .askType => typePlan undef ls
  | .writeType => nvWrite zcdNvPanid [0xFF, 0xFF] :: channelPlan undef ls
  | .writePan | .askChannel => channelPlan undef ls
  | .writeChannel => finishPlan
  | .register => finishPlan.drop 1
  | .init | .waitUp => finishPlan.drop 2
  | .restore | .returned _ => []

/-- The function has followed the plan while `typed` was typed. -/
structure Follows (undef : UInt32) (s : StartNetwork) (typed : List (List UInt8)) : Prop where
  whole : ∀ ls, s.requests ++ s.todo undef ls = plan undef (typed ++ ls)
  fresh : s.phase = .askNew → s.newNwk = false
  writes : ∀ id, s.phase.writes = some id → ∃ value, s.requests.getLast? = some (nvWrite id value)
  ends : s.phase.late = true → finishPlan <:+ s.requests ++ s.todo undef []
  result : ∀ r, s.phase = .returned r → r = if s.devState < devEndDevice then -1 else 0

/-- The function has given up, with what it returns then. -/
structure Refused (undef : UInt32) (s : StartNetwork) (typed : List (List UInt8)) : Prop where
  part : s.requests <+: plan undef typed
  last : ∃ id value, s.requests.getLast? = some (nvWrite id value) ∧
    s.phase = .returned (if id = zcdNvLogicalType then 0 else -1)

variable {u : Undefined} {s s' : StartNetwork} {typed : List (List UInt8)}

theorem follows_start (undef : UInt32) (devType devState : UInt8) :
    Follows undef (start devType devState) [] where
  whole _ := rfl
  fresh _ := rfl
  writes _ h := nomatch h
  ends h := nomatch h
  result _ h := nomatch h

/-- Where the plan has been followed, part of it has been sent. -/
theorem Follows.part (h : Follows u.shift s typed) : s.requests <+: plan u.shift typed :=
  ⟨s.todo u.shift [], by simpa using h.whole []⟩

/-- What a callback does to `devState` does not matter before the end. -/
theorem Follows.devState (h : Follows u.shift s typed) (d : UInt8)
    (hrun : ∀ r, s.phase ≠ .returned r) : Follows u.shift { s with devState := d } typed where
  whole := h.whole
  fresh := h.fresh
  writes := h.writes
  ends := h.ends
  result r hr := absurd hr (hrun r)

/-- A write is refused. -/
theorem Follows.refused (h : Follows u.shift s typed) {id : UInt16}
    (hid : s.phase.writes = some id) {r : ℤ} (hr : r = if id = zcdNvLogicalType then 0 else -1) :
    Refused u.shift { s with phase := .returned r } typed where
  part := h.part
  last := by
    obtain ⟨value, hvalue⟩ := h.writes id hid
    exact ⟨id, value, hvalue, hr ▸ rfl⟩

/-- The next request of the plan is sent, after some of the variables have been set. -/
theorem Follows.send (h : Follows u.shift s typed) {s₁ : StartNetwork} (hsent : s₁.sent = s.sent)
    {phase : StartPhase} {req : Request} {more : List (List UInt8)}
    (htodo : ∀ ls, s.todo u.shift (more ++ ls) =
      (AnyRequest.built req).received :: (s₁.send phase req).todo u.shift ls)
    (hfresh : phase ≠ .askNew)
    (hwrites : ∀ id, phase.writes = some id →
      ∃ value, (AnyRequest.built req).received = nvWrite id value)
    (hends : phase.late = true → s.todo u.shift more = finishPlan ∨ s.phase.late = true ∧ more = [])
    (hresult : ∀ r, phase ≠ .returned r) :
    Follows u.shift (s₁.send phase req) (typed ++ more) := by
  have hsends : (s₁.send phase req).requests = s.requests ++ [(AnyRequest.built req).received] := by
    rw [requests_send, requests, hsent, requests]
  have hwhole : ∀ ls, (s₁.send phase req).requests ++ (s₁.send phase req).todo u.shift ls =
      s.requests ++ s.todo u.shift (more ++ ls) := by
    intro ls
    rw [hsends, htodo, List.append_assoc, List.singleton_append]
  constructor
  case whole =>
    intro ls
    rw [hwhole, h.whole, List.append_assoc]
  case fresh => exact fun hphase => absurd hphase hfresh
  case writes =>
    intro id hid
    obtain ⟨value, hvalue⟩ := hwrites id hid
    exact ⟨value, by rw [hsends, hvalue, List.getLast?_concat]⟩
  case ends =>
    intro hlate
    rw [hwhole, List.append_nil]
    cases hends hlate with
    | inl hfinish => exact hfinish ▸ List.suffix_append _ _
    | inr hbefore =>
      obtain ⟨hlate', rfl⟩ := hbefore
      exact h.ends hlate'
  case result => exact fun r hr => absurd hr (hresult r)

/-- Nothing is sent. -/
theorem Follows.quiet (h : Follows u.shift s typed) {phase : StartPhase}
    {more : List (List UInt8)}
    (htodo : ∀ ls, s.todo u.shift (more ++ ls) = { s with phase }.todo u.shift ls)
    (hfresh : phase = .askNew → s.newNwk = false) (hwrites : phase.writes = none)
    (hends : phase.late = true → s.phase.late = true ∧ more = [])
    (hresult : ∀ r, phase = .returned r → r = if s.devState < devEndDevice then -1 else 0) :
    Follows u.shift { s with phase } (typed ++ more) where
  whole ls := by
    rw [← htodo, List.append_assoc]
    exact h.whole (more ++ ls)
  fresh := hfresh
  writes id hid := nomatch hwrites.symm.trans hid
  ends hlate := by
    obtain ⟨hlate', rfl⟩ := hends hlate
    rw [← htodo]
    exact h.ends hlate'
  result := hresult

/-! ## Steps -/

theorem Follows.afterLine (h : Follows u.shift s typed) {l : List UInt8}
    (hstep : s.afterLine u l = some s') : Follows u.shift s' (typed ++ [l]) := by
  cases hphase : s.phase <;> simp only [StartNetwork.afterLine, hphase, reduceCtorEq] at hstep
  case askNew =>
    have hnew := h.fresh hphase
    split_ifs at hstep with hno hyes <;> cases hstep
    · apply h.send
      case hsent => rfl
      case htodo =>
        intro ls
        simp [todo, hphase, plan, hno, StartNetwork.send,
          received_osalNvWrite (items_setNVStartup _ _), hnew]
      case hwrites => rintro id ⟨⟩; exact ⟨_, received_osalNvWrite (items_setNVStartup _ _)⟩
      all_goals simp [StartPhase.late]
    · apply h.send
      case hsent => rfl
      case htodo =>
        intro ls
        simp [todo, hphase, plan, hno, hyes, StartNetwork.send,
          received_osalNvWrite (items_setNVStartup _ _)]
        rfl
      case hwrites => rintro id ⟨⟩; exact ⟨_, received_osalNvWrite (items_setNVStartup _ _)⟩
      all_goals simp [StartPhase.late]
    · have hsame : s = { s with phase := .askNew } := by rw [← hphase]
      rw [hsame]
      apply h.quiet
      case htodo =>
        intro ls
        simp [todo, hphase, plan, hno, hyes]
      case hfresh => exact fun _ => hnew
      case hwrites => rfl
      all_goals simp [StartPhase.late]
  case askType =>
    cases hstep
    apply h.send
    case hsent => rfl
    case htodo =>
      intro ls
      simp [todo, hphase, typePlan, StartNetwork.send,
        received_osalNvWrite (items_setNVDevType _ _)]
    case hwrites => rintro id ⟨⟩; exact ⟨_, received_osalNvWrite (items_setNVDevType _ _)⟩
    all_goals simp [StartPhase.late]
  case askChannel =>
    cases hstep
    apply h.send
    case hsent => rfl
    case htodo =>
      intro ls
      simp [todo, hphase, channelPlan, StartNetwork.send,
        received_osalNvWrite (items_setNVChanList _ _)]
    case hwrites => rintro id ⟨⟩; exact ⟨_, received_osalNvWrite (items_setNVChanList _ _)⟩
    all_goals simp [StartPhase.late]

theorem Follows.afterStatus (h : Follows u.shift s typed) {status : UInt8}
    (hstep : s.afterStatus u status = some s') :
    Follows u.shift s' typed ∨ status ≠ mtRpcSuccess ∧ Refused u.shift s' typed := by
  rw [← List.append_nil typed]
  cases hphase : s.phase <;> simp only [StartNetwork.afterStatus, hphase, reduceCtorEq] at hstep
  case writeStartup =>
    split_ifs at hstep with hok <;> cases hstep
    · left
      apply h.send
      case hsent => rfl
      case htodo =>
        intro ls
        simp only [todo, hphase, List.nil_append]
        rfl
      all_goals simp [StartPhase.late, StartPhase.writes]
    · refine Or.inr ⟨hok, ?_⟩
      rw [List.append_nil]
      exact h.refused (congrArg StartPhase.writes hphase) rfl
  case writeType =>
    split_ifs at hstep with hok <;> cases hstep
    · left
      apply h.send
      case hsent => rfl
      case htodo =>
        intro ls
        simp [todo, hphase, StartNetwork.send, received_osalNvWrite (items_setNVPanID _)]
      case hwrites => rintro id ⟨⟩; exact ⟨_, received_osalNvWrite (items_setNVPanID _)⟩
      all_goals simp [StartPhase.late]
    · refine Or.inr ⟨hok, ?_⟩
      rw [List.append_nil]
      exact h.refused (congrArg StartPhase.writes hphase) rfl
  case writePan =>
    split_ifs at hstep with hok <;> cases hstep
    · left
      apply h.quiet
      case htodo =>
        intro ls
        simp [todo, hphase]
      all_goals simp [StartPhase.late, StartPhase.writes]
    · refine Or.inr ⟨hok, ?_⟩
      rw [List.append_nil]
      exact h.refused (congrArg StartPhase.writes hphase) rfl
  case writeChannel =>
    split_ifs at hstep with hok <;> cases hstep
    · left
      apply h.send
      case hsent => rfl
      case htodo =>
        intro ls
        simp [todo, hphase, StartNetwork.send, received_registerAf,
          finishPlan]
      case hends => exact fun _ => Or.inl (by simp [todo, hphase])
      all_goals simp [StartPhase.writes]
    · refine Or.inr ⟨hok, ?_⟩
      rw [List.append_nil]
      exact h.refused (congrArg StartPhase.writes hphase) rfl
  case register =>
    cases hstep
    left
    apply h.send
    case hsent => rfl
    case htodo =>
      intro ls
      simp [todo, hphase, StartNetwork.send, received_zdoInit, finishPlan]
    all_goals simp [StartPhase.late, StartPhase.writes, hphase]
  case init =>
    left
    split_ifs at hstep with hnwk <;> cases hstep
    · apply h.quiet
      case htodo =>
        intro ls
        simp [todo, hphase]
      all_goals simp [StartPhase.late, StartPhase.writes, hphase]
    · apply h.send
      case hsent => rfl
      case htodo =>
        intro ls
        simp [todo, hphase, StartNetwork.send,
          received_osalNvWrite (items_setNVStartup _ _), finishPlan]
      all_goals simp [StartPhase.late, StartPhase.writes, hphase]
  case restore =>
    cases hstep
    left
    apply h.quiet
    case htodo =>
      intro ls
      simp [todo, hphase]
    case hresult => rintro r ⟨⟩; rfl
    all_goals simp [StartPhase.late, StartPhase.writes, hphase]

theorem Follows.afterWait (h : Follows u.shift s typed) {status : ℤ}
    (hstep : s.afterWait u status = some s') : Follows u.shift s' typed := by
  rw [← List.append_nil typed]
  cases hphase : s.phase <;> simp only [StartNetwork.afterWait, hphase, reduceCtorEq] at hstep
  case flushReset =>
    split_ifs at hstep with hnew <;> cases hstep
    · apply h.quiet
      case htodo =>
        intro ls
        simp [todo, hphase, hnew]
      all_goals simp [StartPhase.late, StartPhase.writes]
    · apply h.send
      case hsent => rfl
      case htodo =>
        intro ls
        simp [todo, hphase, StartNetwork.send, received_registerAf,
          finishPlan, hnew]
      case hends => exact fun _ => Or.inl (by simp [todo, hphase, hnew])
      all_goals simp [StartPhase.writes]
  case waitUp =>
    split_ifs at hstep with hup <;> cases hstep
    · apply h.send
      case hsent => rfl
      case htodo =>
        intro ls
        simp [todo, hphase, StartNetwork.send,
          received_osalNvWrite (items_setNVStartup _ _), finishPlan]
      all_goals simp [StartPhase.late, StartPhase.writes, hphase]
    · rw [List.append_nil]
      exact h

theorem Follows.step (h : Follows u.shift s typed) {e : StartEvent}
    (hstep : s.step u e = some s') :
    Follows u.shift s' (typed ++ e.lines) ∨
      (∃ status d, e = .status status d ∧ status ≠ mtRpcSuccess) ∧ Refused u.shift s' typed := by
  cases e with
  | line l => exact Or.inl (h.afterLine hstep)
  | status status d =>
    have hrun : ∀ r, s.phase ≠ .returned r := by
      intro r hr
      simp [StartNetwork.step, StartNetwork.afterStatus, hr] at hstep
    cases (h.devState d hrun).afterStatus hstep with
    | inl hgoes => exact Or.inl (by simpa [StartEvent.lines] using hgoes)
    | inr hrefused => exact Or.inr ⟨⟨status, d, rfl, hrefused.1⟩, hrefused.2⟩
  | waited status d =>
    have hrun : ∀ r, s.phase ≠ .returned r := by
      intro r hr
      simp [StartNetwork.step, StartNetwork.afterWait, hr] at hstep
    exact Or.inl (by simpa [StartEvent.lines] using (h.devState d hrun).afterWait hstep)

/-- After the function has returned nothing happens. -/
theorem step_returned {r : ℤ} (hphase : s.phase = .returned r) (e : StartEvent) :
    s.step u e = none := by
  cases e <;> simp [StartNetwork.step, afterLine, StartNetwork.afterStatus,
    StartNetwork.afterWait, hphase]

theorem Follows.run (h : Follows u.shift s typed) {es : List StartEvent}
    (hrun : exec (StartNetwork.step u) s es = some s') :
    Follows u.shift s' (typed ++ linesOf es) ∨
      (∃ before status d, es = before ++ [.status status d] ∧ status ≠ mtRpcSuccess) ∧
        Refused u.shift s' (typed ++ linesOf es) := by
  induction es generalizing s typed with
  | nil =>
    cases hrun
    left
    simpa [linesOf] using h
  | cons e es ih =>
    obtain ⟨s₁, hstep, hrest⟩ := Option.bind_eq_some_iff.mp hrun
    have hlines : linesOf (e :: es) = e.lines ++ linesOf es := rfl
    rw [hlines, ← List.append_assoc]
    cases h.step hstep with
    | inl hgoes =>
      cases ih hgoes hrest with
      | inl hfollows => exact Or.inl hfollows
      | inr hrefused =>
        obtain ⟨⟨before, status, d, rfl, hbad⟩, hwhere⟩ := hrefused
        exact Or.inr ⟨⟨e :: before, status, d, rfl, hbad⟩, hwhere⟩
    | inr hrefused =>
      obtain ⟨⟨status, d, rfl, hbad⟩, hwhere⟩ := hrefused
      obtain ⟨id, value, hlast, hphase⟩ := hwhere.last
      cases es with
      | nil =>
        cases hrest
        exact Or.inr ⟨⟨[], status, d, rfl, hbad⟩, by simpa [StartEvent.lines, linesOf] using hwhere⟩
      | cons e' es =>
        rw [exec, step_returned hphase] at hrest
        cases hrest

end StartNetwork

/-- **Starting the network.**  Whatever is typed, whatever the answers are and whatever happens
to `devState` in between, what has been sent is the beginning of the plan for the lines typed.
When the function returns, either the plan has been carried out, with the startup option put
back at the end, and the value tells whether the device has joined; or the write that was sent
last has been refused, and the value is -1, but 0 if that write was the one of the device type. -/
theorem startNetwork_plan {u : Undefined} {devType devState : UInt8} {es : List StartEvent}
    {s : StartNetwork} (h : exec (StartNetwork.step u) (.start devType devState) es = some s) :
    s.requests <+: plan u.shift (linesOf es) ∧
      ∀ r, s.phase = .returned r →
        (s.requests = plan u.shift (linesOf es) ∧ finishPlan <:+ s.requests ∧
          r = if s.devState < devEndDevice then -1 else 0) ∨
        ∃ before status d id value, es = before ++ [.status status d] ∧ status ≠ mtRpcSuccess ∧
          s.requests.getLast? = some (nvWrite id value) ∧
          r = if id = zcdNvLogicalType then 0 else -1 := by
  have hrun := (StartNetwork.follows_start u.shift devType devState).run h
  rw [List.nil_append] at hrun
  cases hrun with
  | inl hfollows =>
    refine ⟨hfollows.part, fun r hr => Or.inl ?_⟩
    have hdone : s.todo u.shift [] = [] := by simp [StartNetwork.todo, hr]
    have hwhole := hfollows.whole []
    have hends := hfollows.ends (by rw [hr]; rfl)
    rw [hdone, List.append_nil] at hwhole hends
    rw [List.append_nil] at hwhole
    exact ⟨hwhole, hends, hfollows.result r hr⟩
  | inr hrefused =>
    obtain ⟨⟨before, status, d, hes, hbad⟩, hwhere⟩ := hrefused
    refine ⟨hwhere.part, fun r hr => Or.inr ?_⟩
    obtain ⟨id, value, hlast, hphase⟩ := hwhere.last
    exact ⟨before, status, d, id, value, hes, hbad, hlast, by simpa [hr] using hphase⟩

/-- `?`, `y`, `c` and `11` are typed, and the device becomes a coordinator. -/
def coordinatorRun : List StartEvent :=
  [.line [63], .line [121], .status 0 0, .waited 0 0, .line [99], .status 0 0, .status 0 0,
    .line [49, 49], .status 0 0, .status 0 0, .status newNetwork 0, .waited 0 8, .waited 0 9,
    .status 0 9]

theorem startNetwork_plan_coordinator :
    ∃ s, exec (StartNetwork.step ⟨.replicate 246 0, .replicate 16 0, 0⟩) (.start 0 0)
        coordinatorRun = some s ∧
      s.requests <+: plan 0 (linesOf coordinatorRun) ∧
        ((s.requests = plan 0 (linesOf coordinatorRun) ∧ finishPlan <:+ s.requests ∧
            (0 : ℤ) = if s.devState < devEndDevice then -1 else 0) ∨
          ∃ before status d id value, coordinatorRun = before ++ [.status status d] ∧
            status ≠ mtRpcSuccess ∧ s.requests.getLast? = some (nvWrite id value) ∧
            (0 : ℤ) = if id = zcdNvLogicalType then 0 else -1) := by
  obtain ⟨s, hs, hphase⟩ : ∃ s, exec (StartNetwork.step ⟨.replicate 246 0, .replicate 16 0, 0⟩)
      (.start 0 0) coordinatorRun = some s ∧ s.phase = .returned 0 := ⟨_, rfl, rfl⟩
  have hplan := startNetwork_plan hs
  exact ⟨s, hs, hplan.1, hplan.2 0 hphase⟩

end ZnpHost.Apps
