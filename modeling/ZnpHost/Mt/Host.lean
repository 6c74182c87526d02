import ZnpHost.Mt.Parser
import ZnpHost.Mt.ZdoRequests
import ZnpHost.Rpc.System

/-!
# The application thread

What the application thread does between its calls of the RPC layer: the request functions
of `mtZdo.c`, `rpcWaitMqClientMsg` with the dispatcher, and the callbacks, which may issue
requests themselves.  The functions in progress are a stack over the one thread of a `World`.

## Main definitions

* `ZdoCall`, `Fn` — a request in progress, and the functions on the stack.
* `Host`, `HostAction`, `hostStep` — the state, what may happen next and the executable step.
* `HostStep`, `HostStep.of_hostStep` — everything one step can do.
-/

namespace ZnpHost.Mt

open Lib Rpc

/-! ## Requests in progress -/

theorem ZdoRequest.cmdLen_le (r : ZdoRequest) : r.build.cmdLen ≤ 81 := by
  cases r with
  | matchDescReq req =>
    have hin := req.numInClusters_le
    have hout := req.numOutClusters_le
    simp only [build, zdoMatchDescReq]
    omega
  | endDeviceBindReq req =>
    have hin := req.numInClusters_le
    have hout := req.numOutClusters_le
    simp only [build, zdoEndDeviceBindReq]
    omega
  | userDescSet req =>
    have hlen := req.len_le
    simp only [build, zdoUserDescSet]
    omega
  | bindReq req =>
    simp only [build, zdoBindReq, BindReqFormat.addrmd, BindReqFormat.endP]
    split <;> simp
  | _ =>
    exact of_decide_eq_true rfl

/-- A call of a request function: its argument, what `malloc` returned, and the history of the
run when it was called. -/
structure ZdoCall where
  req : ZdoRequest
  heap : Mem
  before : List (Event Unit)

theorem ZdoCall.payload_lt (q : ZdoCall) : (q.req.build.payload q.heap).length < 256 := by
  have hlen := q.req.cmdLen_le
  simp only [Cmd.payload, Mem.length_take]
  omega

/-- The arguments it passes to `rpcSendFrame`. -/
def ZdoCall.call (q : ZdoCall) : Call where
  cmd0 := q.req.build.cmd0
  cmd1 := q.req.build.cmd1
  payload := q.req.build.payload q.heap
  payload_lt := q.payload_lt

/-- Every builder has the first command byte of a ZDO request. -/
theorem ZdoRequest.cmd0_build (r : ZdoRequest) : r.build.cmd0 = mtRpcCmdSreq ||| mtRpcSysZdo := by
  cases r <;> rfl

theorem ZdoCall.isSreq_call (q : ZdoCall) : q.call.isSreq := by
  change cmdType q.req.build.cmd0 = mtRpcCmdSreq
  rw [q.req.cmd0_build]
  decide

@[simp] theorem ZdoCall.subsystem_call (q : ZdoCall) : subsystem q.call.cmd0 = mtRpcSysZdo := by
  change subsystem q.req.build.cmd0 = mtRpcSysZdo
  rw [q.req.cmd0_build]
  decide

/-! ## The stack -/

/-- A function in progress on the application thread, with what is left of it to do. -/
inductive Fn
  /-- Code of the application: its main function or a callback. -/
  | code
  | rpcSendFrame
  | rpcWaitMqClientMsg
  /-- A request function that has called `rpcSendFrame`. -/
  | sends (q : ZdoCall)
  /-- A request function that has called `rpcWaitMqClientMsg`; it then returns
  `srspRpcBuff[2]`. -/
  | waits (q : ZdoCall)

/-- The RPC layer with one application thread, the buffer of the dispatcher and the stack. -/
structure Host where
  world : World Unit
  srspRpcBuff : Mem
  stack : List Fn

/-- The application is about to start, with any messages queued and anything in the buffer. -/
def Host.init (q : List (List UInt8)) (srspRpcBuff : Mem) : Host where
  world := World.init Unit { rpcOpen with rpcLlq := q }
  srspRpcBuff := srspRpcBuff
  stack := [.code]

/-- What may happen next. -/
inductive HostAction
  /-- Application code calls `rpcSendFrame` itself. -/
  | sendFrame (c : Call)
  /-- Application code calls `rpcWaitMqClientMsg` itself, or `rpcGetMqClientMsg`, whose wait is
  not timed. -/
  | waitMsg (timed : Bool)
  /-- Application code calls a request function. -/
  | request (req : ZdoRequest) (heap : Mem)
  /-- `rpcSendFrame` returns to its caller. -/
  | sendReturns
  /-- `llq_timedreceive` returns, and its message is processed; the rest of `rpcFrame` is not
  initialised. -/
  | waitReturns (rest : Mem)
  | callbackReturns
  | requestReturns
  /-- A step inside the RPC layer, of either thread. -/
  | rpc (a : Action Unit)

/-- The steps inside the RPC layer; a message is at most 255 bytes long, since `rpcLen` is eight
bits wide. -/
def inside : Action Unit → Prop
  | .call _ _ | .receive _ _ => False
  | .rx m => m.bytes.length ≤ 255
  | _ => True

instance (a : Action Unit) : Decidable (inside a) :=
  match a with
  | .call _ _ | .receive _ _ => inferInstanceAs (Decidable False)
  | .rx m => inferInstanceAs (Decidable (m.bytes.length ≤ 255))
  | .run _ | .timeout _ | .rpc => inferInstanceAs (Decidable True)

/-! ## Steps -/

namespace Host

variable (registered : Cb → Bool) (s : Host)

/-- `mtProcess(rpcFrame, rpcLen)` on a message from the queue: an SRSP is copied, and then the
callback runs. -/
def process (msg : List UInt8) (rest : Mem) (st : List Fn) : Host where
  world := s.world
  srspRpcBuff := srspCopy s.srspRpcBuff (Mem.ofList msg rest) (UInt8.ofNat msg.length)
  stack :=
    if (mtProcess registered (Mem.ofList msg rest) (UInt8.ofNat msg.length)).isSome then
      .code :: st
    else st

/-- Call a function of the RPC layer. -/
def enter (a : Action Unit) (st : List Fn) : Option Host :=
  (step s.world a).map fun w => { s with world := w, stack := st }

/-- `rpcSendFrame` has returned `status` to `st`. -/
def sendReturns (status : UInt8) : List Fn → Option Host
  | .sends q :: st =>
    if status = mtRpcSuccess then
      s.enter (.receive () true) (.rpcWaitMqClientMsg :: .waits q :: st)
    else some { s with stack := st }
  | st => some { s with stack := st }

end Host

/-- One step of the application and the RPC layer in a process that has not ended. -/
def hostStepAlive (registered : Cb → Bool) (s : Host) : HostAction → Option Host
  | .sendFrame c =>
    match s.stack with
    | .code :: st => s.enter (.call () c) (.rpcSendFrame :: .code :: st)
    | _ => none
  | .waitMsg timed =>
    match s.stack with
    | .code :: st => s.enter (.receive () timed) (.rpcWaitMqClientMsg :: .code :: st)
    | _ => none
  | .request req heap =>
    match s.stack with
    | .code :: st =>
      s.enter (.call () (ZdoCall.call ⟨req, heap, s.world.log⟩))
        (.rpcSendFrame :: .sends ⟨req, heap, s.world.log⟩ :: .code :: st)
    | _ => none
  | .sendReturns =>
    match s.stack, s.world.pc () with
    | .rpcSendFrame :: st, .sent _ status => s.sendReturns status st
    | _, _ => none
  | .waitReturns rest =>
    match s.stack, s.world.pc () with
    | .rpcWaitMqClientMsg :: st, .received none => some { s with stack := st }
    | .rpcWaitMqClientMsg :: st, .received (some msg) => some (s.process registered msg rest st)
    | _, _ => none
  | .callbackReturns =>
    match s.stack with
    | .code :: f :: st => some { s with stack := f :: st }
    | _ => none
  | .requestReturns =>
    match s.stack with
    | .waits _ :: st => some { s with stack := st }
    | _ => none
  | .rpc a => if inside a then s.enter a s.stack else none

/-- One step of the application and the RPC layer. -/
def hostStep (registered : Cb → Bool) (s : Host) (a : HostAction) : Option Host :=
  if s.world.rpc = .killed then none else hostStepAlive registered s a

/-- Every step, with its guard. -/
inductive HostStep (registered : Cb → Bool) (s : Host) : HostAction → Host → Prop
  | sendFrame {c st w} : s.stack = .code :: st → Step s.world (.call () c) w →
      HostStep registered s (.sendFrame c)
        { s with world := w, stack := .rpcSendFrame :: .code :: st }
  | waitMsg {timed st w} : s.stack = .code :: st → Step s.world (.receive () timed) w →
      HostStep registered s (.waitMsg timed)
        { s with world := w, stack := .rpcWaitMqClientMsg :: .code :: st }
  | request {req heap st w} : s.stack = .code :: st →
      Step s.world (.call () (ZdoCall.call ⟨req, heap, s.world.log⟩)) w →
      HostStep registered s (.request req heap)
        { s with
          world := w
          stack := .rpcSendFrame :: .sends ⟨req, heap, s.world.log⟩ :: .code :: st }
  | sendSucceeded {q st c w} : s.stack = .rpcSendFrame :: .sends q :: st →
      s.world.pc () = .sent c mtRpcSuccess → Step s.world (.receive () true) w →
      HostStep registered s .sendReturns
        { s with world := w, stack := .rpcWaitMqClientMsg :: .waits q :: st }
  | sendFailed {q st c status} : s.stack = .rpcSendFrame :: .sends q :: st →
      s.world.pc () = .sent c status → status ≠ mtRpcSuccess →
      HostStep registered s .sendReturns { s with stack := st }
  | sendReturns {st c status} : s.stack = .rpcSendFrame :: st → (∀ q st', st ≠ .sends q :: st') →
      s.world.pc () = .sent c status →
      HostStep registered s .sendReturns { s with stack := st }
  | waitFailed {st rest} : s.stack = .rpcWaitMqClientMsg :: st →
      s.world.pc () = .received none →
      HostStep registered s (.waitReturns rest) { s with stack := st }
  | waitReturns {st msg rest} : s.stack = .rpcWaitMqClientMsg :: st →
      s.world.pc () = .received (some msg) →
      HostStep registered s (.waitReturns rest) (s.process registered msg rest st)
  | callbackReturns {f st} : s.stack = .code :: f :: st →
      HostStep registered s .callbackReturns { s with stack := f :: st }
  | requestReturns {q st} : s.stack = .waits q :: st →
      HostStep registered s .requestReturns { s with stack := st }
  | rpc {a w} : inside a → Step s.world a w →
      HostStep registered s (.rpc a) { s with world := w }

theorem enter_eq_some {s s' : Host} {a : Action Unit} {st : List Fn}
    (h : s.enter a st = some s') :
    ∃ w, Step s.world a w ∧ s' = { s with world := w, stack := st } := by
  obtain ⟨w, hw, rfl⟩ := Option.map_eq_some_iff.mp h
  exact ⟨w, Step.of_step hw, rfl⟩

/-- **The step function takes the listed steps only.** -/
theorem HostStep.of_hostStep {registered : Cb → Bool} {s s' : Host} {a : HostAction}
    (h : hostStep registered s a = some s') : HostStep registered s a s' := by
  unfold hostStep at h
  split at h
  case isTrue => cases h
  cases a with
  | sendFrame c =>
    simp only [hostStepAlive] at h
    split at h
    case h_1 st hst =>
      obtain ⟨w, hw, rfl⟩ := enter_eq_some h
      exact .sendFrame hst hw
    case h_2 => cases h
  | waitMsg timed =>
    simp only [hostStepAlive] at h
    split at h
    case h_1 st hst =>
      obtain ⟨w, hw, rfl⟩ := enter_eq_some h
      exact .waitMsg hst hw
    case h_2 => cases h
  | request req heap =>
    simp only [hostStepAlive] at h
    split at h
    case h_1 st hst =>
      obtain ⟨w, hw, rfl⟩ := enter_eq_some h
      exact .request hst hw
    case h_2 => cases h
  | sendReturns =>
    simp only [hostStepAlive] at h
    split at h
    case h_1 st c status hst hpc =>
      unfold Host.sendReturns at h
      split at h
      case h_1 q st =>
        split at h
        · next hok =>
          obtain ⟨w, hw, rfl⟩ := enter_eq_some h
          exact .sendSucceeded hst (hok ▸ hpc) hw
        · next herr =>
          cases h
          exact .sendFailed hst hpc herr
      case h_2 hne =>
        cases h
        exact .sendReturns hst hne hpc
    case h_2 => cases h
  | waitReturns rest =>
    simp only [hostStepAlive] at h
    split at h
    case h_1 st hst hpc =>
      cases h
      exact .waitFailed hst hpc
    case h_2 st msg hst hpc =>
      cases h
      exact .waitReturns hst hpc
    case h_3 => cases h
  | callbackReturns =>
    simp only [hostStepAlive] at h
    split at h <;> cases h
    exact .callbackReturns ‹_›
  | requestReturns =>
    simp only [hostStepAlive] at h
    split at h <;> cases h
    exact .requestReturns ‹_›
  | rpc a =>
    simp only [hostStepAlive] at h
    split at h
    · next hin =>
      obtain ⟨w, hw, rfl⟩ := enter_eq_some h
      exact .rpc hin hw
    · cases h

end ZnpHost.Mt
