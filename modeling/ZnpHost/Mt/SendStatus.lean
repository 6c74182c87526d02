import ZnpHost.Mt.AfRequests
import ZnpHost.Mt.OwnStatus
import ZnpHost.Mt.SapiRequests
import ZnpHost.Mt.SysRequests

/-!
# The result of a SYS, AF or SAPI request

The request functions of `mtSys.c`, `mtAf.c` and `mtSapi.c` send their frame, wait for the
response and return the status of the sending.  Those of `mtZdo.c` return the status byte of
the response instead.  A call is run on the threads of the RPC layer, with any interleaving
and any callback.

## Main definitions

* `SreqRequest` — the requests of the three modules.
* `sreqCall` — a request function, from its call to its return.
* `returnStatus`, `returnSrsp` — the two conventions for the result.
* `ReportsFailure` — a result of 0 means that the response says 0.
* `ZdoRequest.reportsFailure` — the second convention does this.
* `reportsFailure_iff` — when the first one does.
-/

namespace ZnpHost.Mt

open Lib Rpc

/-! ## Requests -/

/-- A call of a request function of `mtSys.c`, `mtAf.c` or `mtSapi.c`. -/
inductive SreqRequest
  | sys (req : SysRequest)
  | af (req : AfRequest)
  | sapi (req : SapiRequest)

/-- The buffer the function fills. -/
def SreqRequest.build : SreqRequest → Cmd
  | sys req => req.build
  | af req => req.build
  | sapi req => req.build

/-- The arguments it passes to `rpcSendFrame`; a payload that overruns the frame buffer there is
left out. -/
def SreqRequest.call (r : SreqRequest) (heap : Mem) : Option Call :=
  if h : (r.build.passed heap).length + rpcUartHdrLen.toNat < rpcMaxLen then
    some ⟨r.build.cmd0, r.build.cmd1, r.build.passed heap,
      Nat.lt_of_le_of_lt (Nat.le_add_right _ _) h⟩
  else none

/-! ## A call -/

/-- What happens next to a call: the steps of the RPC layer until `rpcSendFrame` returns and
until `rpcWaitMqClientMsg` has a message, what is behind the message in its buffer, and the
steps until the callback returns. -/
structure Schedule where
  sending : List (Action Unit)
  waiting : List (Action Unit)
  rest : Mem
  callback : List HostAction

section Call

variable (registered : Cb → Bool)

/-- `rpcSendFrame(...)`, with the status it returns. -/
def sendFrame (c : Call) (sending : List (Action Unit)) (s : Host) : Option (UInt8 × Host) := do
  let s ← hostStep registered s (.sendFrame c)
  let s ← exec (hostStep registered) s (sending.map .rpc)
  match s.world.pc () with
  | .sent _ status =>
    let s ← hostStep registered s .sendReturns
    some (status, s)
  | _ => none

/-- `rpcWaitMqClientMsg(50)`, with the message it takes from the queue. -/
def waitMqClientMsg (g : Schedule) (s : Host) : Option (Option (List UInt8) × Host) := do
  let s ← hostStep registered s (.waitMsg true)
  let s ← exec (hostStep registered) s (g.waiting.map .rpc)
  match s.world.pc () with
  | .received msg =>
    let s ← hostStep registered s (.waitReturns g.rest)
    let s ← exec (hostStep registered) s g.callback
    some (msg, s)
  | _ => none

/-- A request function: `status = rpcSendFrame(...)`, the wait if that succeeded, and the result
`ret` makes of the status and of `srspRpcBuff`. -/
def sreqCall (ret : UInt8 → Mem → UInt8) (c : Call) (g : Schedule) (s : Host) :
    Option (UInt8 × Option (List UInt8) × Host) := do
  let (status, s) ← sendFrame registered c g.sending s
  if status = mtRpcSuccess then
    let (msg, s) ← waitMqClientMsg registered g s
    some (ret status s.srspRpcBuff, msg, s)
  else some (status, none, s)

/-- SYS, AF and SAPI: `return status`. -/
def returnStatus (status : UInt8) (_srspRpcBuff : Mem) : UInt8 := status

/-- ZDO: `status = srspRpcBuff[2]` before it. -/
def returnSrsp (_status : UInt8) (srspRpcBuff : Mem) : UInt8 := srspRpcBuff 2

/-- A call of a request function of the three modules. -/
def SreqRequest.run (r : SreqRequest) (heap : Mem) (g : Schedule) (s : Host) :
    Option (UInt8 × Option (List UInt8) × Host) := do
  let c ← r.call heap
  sreqCall registered returnStatus c g s

/-- A call of a request function of `mtZdo.c`. -/
def ZdoRequest.run (r : ZdoRequest) (heap : Mem) (g : Schedule) (s : Host) :
    Option (UInt8 × Option (List UInt8) × Host) :=
  let q : ZdoCall := ⟨r, heap, s.world.log⟩
  sreqCall registered returnSrsp q.call g s

end Call

/-- The result 0 is given only if the status byte of the message the wait took is 0. -/
def ReportsFailure (ret : UInt8) (msg : List UInt8) : Prop := ret = 0 → msg[2]? = some 0

instance (ret : UInt8) (msg : List UInt8) : Decidable (ReportsFailure ret msg) :=
  inferInstanceAs (Decidable (_ → _))

/-! ## The two conventions -/

variable {registered : Cb → Bool} {g : Schedule} {s s' : Host} {c : Call} {ret : UInt8}
  {msg : List UInt8}

/-- A call whose wait has taken a message was sent. -/
theorem sreqCall_waited {f : UInt8 → Mem → UInt8}
    (h : sreqCall registered f c g s = some (ret, some msg, s')) :
    ret = f mtRpcSuccess s'.srspRpcBuff ∧
      ∃ s₁, waitMqClientMsg registered g s₁ = some (some msg, s') := by
  simp only [sreqCall, Option.bind_eq_bind, Option.bind_eq_some_iff] at h
  obtain ⟨⟨status, s₁⟩, -, h⟩ := h
  split at h
  case isTrue hok =>
    obtain ⟨⟨m, s₂⟩, hwait, h⟩ := Option.bind_eq_some_iff.mp h
    cases h
    exact ⟨by rw [hok], s₁, hwait⟩
  case isFalse => cases h

/-- A call that has waited returns 0, whatever the response says. -/
theorem run_returns_success {r : SreqRequest} {heap : Mem}
    (h : r.run registered heap g s = some (ret, some msg, s')) : ret = 0 := by
  obtain ⟨c, -, hcall⟩ := Option.bind_eq_some_iff.mp h
  exact (sreqCall_waited hcall).1

/-- An SRSP that calls no callback leaves its status byte in `srspRpcBuff[2]`. -/
theorem status_of_waitMqClientMsg (h : waitMqClientMsg registered g s = some (some msg, s'))
    (hcb : g.callback = [])
    (hsrsp : hasProcess (Mem.ofList msg g.rest 0) ∧ isSrsp (Mem.ofList msg g.rest 0))
    (hlong : 3 ≤ msg.length) (hshort : msg.length ≤ 255) :
    msg[2]? = some (s'.srspRpcBuff 2) := by
  simp only [waitMqClientMsg, Option.bind_eq_bind, Option.bind_eq_some_iff] at h
  obtain ⟨s₁, -, s₂, -, h⟩ := h
  split at h
  case h_1 m hpc =>
    simp only [hcb, exec, Option.bind_some] at h
    obtain ⟨s₃, hret, h⟩ := Option.bind_eq_some_iff.mp h
    cases h
    cases HostStep.of_hostStep hret with
    | waitFailed _ hnone =>
      rw [hpc] at hnone
      cases hnone
    | @waitReturns _ msg' _ _ hsome =>
      rw [hpc] at hsome
      cases hsome
      have hlen : (UInt8.ofNat msg.length).toNat = msg.length := by
        rw [UInt8.toNat_ofNat']
        omega
      have hback : (Mem.ofList msg g.rest).take msg.length = msg := by
        simpa [Mem.ofList] using Mem.take_blit_append g.rest msg []
      have hcopy := Mem.blit_mid s₂.srspRpcBuff 0 msg (k := 2) (by omega)
      have hget := List.getElem?_eq_getElem (l := msg) (i := 2) (by omega)
      rw [Nat.zero_add] at hcopy
      rw [hget]
      simp only [Host.process, srspCopy, if_pos hsrsp, hlen, hback, hcopy]
  case h_2 => cases h

/-- **A ZDO request reports the failure of the device**, if its response calls no callback. -/
theorem ZdoRequest.reportsFailure {r : ZdoRequest} {heap : Mem}
    (h : r.run registered heap g s = some (ret, some msg, s')) (hcb : g.callback = [])
    (hsrsp : hasProcess (Mem.ofList msg g.rest 0) ∧ isSrsp (Mem.ofList msg g.rest 0))
    (hlong : 3 ≤ msg.length) (hshort : msg.length ≤ 255) : ReportsFailure ret msg := by
  obtain ⟨hret, s₁, hwait⟩ := sreqCall_waited h
  have hstatus := status_of_waitMqClientMsg hwait hcb hsrsp hlong hshort
  intro hzero
  rw [hstatus, ← hzero, hret]
  rfl

/-! ## The exact condition -/

/-- **A SYS, AF or SAPI request reports the failure of the device exactly if there is none**: the
message its wait took says success. -/
theorem reportsFailure_iff {r : SreqRequest} {heap : Mem}
    (h : r.run registered heap g s = some (ret, some msg, s')) :
    ReportsFailure ret msg ↔ msg[2]? = some 0 := by
  have hret := run_returns_success h
  simp [ReportsFailure, hret]

/-! ## A refused write -/

/-- `sysOsalNvWrite` of one byte. -/
def nvWrite : SreqRequest :=
  .sys (.osalNvWrite ⟨0x0003, 0, 1, Vector.replicate 246 2, by decide⟩)

/-- The response to it. -/
def nvWriteSrsp (status : UInt8) : MtMsg :=
  ⟨mtRpcCmdSrsp ||| mtRpcSysSys, mtSysOsalNvWrite, [status, status ^^^ 0x68]⟩

/-- The request is answered in time. -/
def nvWriteRun (status : UInt8) : Schedule where
  sending := List.replicate 19 (.run ()) ++ .rx (nvWriteSrsp status) :: List.replicate 6 .rpc ++
    List.replicate 3 (.run ())
  waiting := List.replicate 5 (.run ())
  rest := fun _ => 0
  callback := []

/-- The request is accepted, and returns 0. -/
theorem reportsFailure_iff_nvWrite : ∃ s' : Host, ∃ ret msg,
    nvWrite.run (fun _ => false) (fun _ => 0) (nvWriteRun 0) (Host.init [] fun _ => 0) =
        some (ret, some msg, s') ∧ (ReportsFailure ret msg ↔ msg[2]? = some 0) := by
  have hrun : (nvWrite.run (fun _ => false) (fun _ => 0) (nvWriteRun 0)
      (Host.init [] fun _ => 0)).isSome = true := rfl
  refine ⟨_, _, _, (Option.some_get hrun).symm, ?_⟩
  exact reportsFailure_iff (Option.some_get hrun).symm

/-- The device refuses the write with status 1, and the request returns 0. -/
theorem nvWrite_hides_failure : ∃ s' : Host, ∃ ret msg,
    nvWrite.run (fun _ => false) (fun _ => 0) (nvWriteRun 1) (Host.init [] fun _ => 0) =
        some (ret, some msg, s') ∧ msg = (nvWriteSrsp 1).bytes ∧ ¬ ReportsFailure ret msg := by
  have hrun : (nvWrite.run (fun _ => false) (fun _ => 0) (nvWriteRun 1)
      (Host.init [] fun _ => 0)).isSome = true := rfl
  exact ⟨_, _, _, (Option.some_get hrun).symm, rfl, by decide⟩

end ZnpHost.Mt
