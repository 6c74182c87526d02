import ZnpHost.Mt.Orderly

/-!
# The status of a request

A request function of `mtZdo.c` returns `srspRpcBuff[2]` after its wait, whatever the wait
did.  This is the status of its own response as long as the response is the message taken
from the queue and no other SRSP is copied before the function reads the buffer.

## Main definitions

* `Settled` — the requests that wait for a callback to return find their status in the buffer.
* `Serving` — the invariant of a run of orderly steps; `status_of_orderly` is the result.
* `Misreads` — a request that is about to return the status of another.
-/

namespace ZnpHost.Mt

open Lib Rpc

variable {w w' : World Unit} {a : Action Unit} {m : MtMsg} {q : ZdoCall} {b : UInt8}
  {log : List (Event Unit)} {st : List Fn} {registered : Cb → Bool} {s s' : Host}

/-! ## The buffer -/

/-- A function below the one that runs: a request among them finds its status in byte `b`. -/
def settled (log : List (Event Unit)) (b : UInt8) : Fn → Prop
  | .code => True
  | .waits q => ∃ m, Answers q log m ∧ (payload m).head? = some b
  | _ => False

/-- All functions of the stack are settled. -/
def Settled (log : List (Event Unit)) (b : UInt8) (st : List Fn) : Prop :=
  ∀ f ∈ st, settled log b f

theorem Settled.mono (h : Settled w.log b st) (hlog : w.log <:+ w'.log) :
    Settled w'.log b st := by
  intro f hf
  have hset := h f hf
  cases f with
  | waits q =>
    obtain ⟨m, hans, hhead⟩ := hset
    exact ⟨m, hans.mono hlog, hhead⟩
  | _ => exact hset

/-- If no request is among them, the buffer may change. -/
theorem Settled.change (h : Settled log b st) {b' : UInt8}
    (hkeep : st.any Fn.isWaits → b' = b) : Settled log b' st := by
  intro f hf
  have hset := h f hf
  cases f with
  | waits q =>
    rw [hkeep (List.any_eq_true.mpr ⟨_, hf, rfl⟩)]
    exact hset
  | _ => exact hset

theorem Settled.cons {f : Fn} (hf : settled log b f) (h : Settled log b st) :
    Settled log b (f :: st) := by
  intro g hg
  cases List.mem_cons.mp hg with
  | inl heq => exact heq ▸ hf
  | inr hmem => exact h g hmem

theorem Settled.head {f : Fn} (h : Settled log b (f :: st)) : settled log b f :=
  h f List.mem_cons_self

theorem Settled.tail {f : Fn} (h : Settled log b (f :: st)) : Settled log b st :=
  fun g hg => h g (List.mem_cons_of_mem f hg)

/-- Copying a response puts its status in the third byte. -/
theorem srspCopy_answer (hans : Answers q log m) (hread : Readable m) (srspRpcBuff rest : Mem) :
    (payload m).head? = some
      (srspCopy srspRpcBuff (Mem.ofList m.bytes rest) (UInt8.ofNat m.bytes.length) 2) := by
  obtain ⟨cmd0, cmd1, data⟩ := m
  have hshort := hread.short
  have hnonempty := hread.nonempty
  rcases data with _ | ⟨status, _ | ⟨next, data⟩⟩
  · exact absurd rfl hnonempty
  · exact absurd rfl hnonempty
  have hbytes : (⟨cmd0, cmd1, status :: next :: data⟩ : MtMsg).bytes =
      cmd0 :: cmd1 :: status :: next :: data := rfl
  rw [hbytes] at hshort ⊢
  have hlen : (UInt8.ofNat (cmd0 :: cmd1 :: status :: next :: data).length).toNat =
      data.length + 4 := by
    simp only [List.length_cons] at hshort
    simp only [List.length_cons, UInt8.toNat_ofNat']
    omega
  have hcmd0 : Mem.ofList (cmd0 :: cmd1 :: status :: next :: data) rest 0 = cmd0 := rfl
  have hzdo : subsystem cmd0 = mtRpcSysZdo := hans.subsystem_eq.trans q.subsystem_call
  have hcopied : hasProcess cmd0 ∧ isSrsp cmd0 := ⟨.inl hzdo, hans.srsp⟩
  have hstatus := Mem.blit_mid srspRpcBuff 0
    ((Mem.ofList (cmd0 :: cmd1 :: status :: next :: data) rest).take (data.length + 4)) (k := 2)
    (by rw [Mem.length_take]; omega)
  rw [srspCopy, hcmd0, if_pos hcopied, hlen]
  rw [Mem.getElem_take] at hstatus
  exact congrArg some hstatus.symm

/-! ## The invariant -/

/-- The stack, over the thread inside the RPC layer and the status byte of the buffer. -/
inductive Fits (w : World Unit) (b : UInt8) : List Fn → Prop
  | settled {st : List Fn} : Settled w.log b st → Fits w b st
  | sendFrame {st : List Fn} : Settled w.log b (.code :: st) →
      Fits w b (.rpcSendFrame :: .code :: st)
  | waitMsg {st : List Fn} : Settled w.log b (.code :: st) →
      Fits w b (.rpcWaitMqClientMsg :: .code :: st)
  | sends {q : ZdoCall} {st : List Fn} : sending q w (w.pc ()) → Settled w.log b st →
      Fits w b (.rpcSendFrame :: .sends q :: st)
  | waits {q : ZdoCall} {st : List Fn} : waiting q w (w.pc ()) → Settled w.log b st →
      Fits w b (.rpcWaitMqClientMsg :: .waits q :: st)

/-- Application code runs only above settled functions. -/
theorem Fits.of_code (h : Fits w b (.code :: st)) : Settled w.log b (.code :: st) := by
  cases h with
  | settled hset => exact hset

theorem Fits.of_waits (h : Fits w b (.waits q :: st)) : Settled w.log b (.waits q :: st) := by
  cases h with
  | settled hset => exact hset

theorem Fits.of_sends (h : Fits w b (.rpcSendFrame :: .sends q :: st)) :
    sending q w (w.pc ()) ∧ Settled w.log b st := by
  cases h with
  | settled hset => exact hset.head.elim
  | sends hsend hset => exact ⟨hsend, hset⟩

/-- The invariant of a run of orderly steps. -/
structure Serving (s : Host) : Prop where
  layer : Layer s.world
  fits : Fits s.world (s.srspRpcBuff 2) s.stack

theorem serving_init (llq : List (List UInt8)) (srspRpcBuff : Mem) :
    Serving (Host.init llq srspRpcBuff) where
  layer := layer_init llq
  fits := by
    apply Fits.settled
    intro f hf
    rw [List.mem_singleton.mp hf]
    trivial

/-- A step inside the RPC layer. -/
theorem Fits.rpc (h : Fits w b st) (hl : Layer w) (hc : Clean w a) (hin : inside a)
    (hord : InOrder st w a) (hs : Step w a w') : Fits w' b st := by
  have hlog := log_suffix hs
  cases h with
  | settled hset => exact .settled (hset.mono hlog)
  | sendFrame hset => exact .sendFrame (hset.mono hlog)
  | waitMsg hset => exact .waitMsg (hset.mono hlog)
  | sends hsend hset => exact .sends (sending_step hsend hl hc hin hord hs) (hset.mono hlog)
  | waits hwait hset => exact .waits (waiting_step hwait hl hc hin hord hs) (hset.mono hlog)

/-- The processing of a message: the response to the request that waits, or a message that
leaves the buffer to the requests below. -/
theorem Fits.process {msg : List UInt8} {rest : Mem}
    (h : Fits s.world (s.srspRpcBuff 2) (.rpcWaitMqClientMsg :: st))
    (hpc : s.world.pc () = .received (some msg))
    (hkeep : (st.drop 1).any Fn.isWaits →
      ¬ (hasProcess (Mem.ofList msg rest 0) ∧ isSrsp (Mem.ofList msg rest 0))) :
    Fits s.world ((s.process registered msg rest st).srspRpcBuff 2)
      (s.process registered msg rest st).stack := by
  have hcopy : (st.drop 1).any Fn.isWaits →
      (s.process registered msg rest st).srspRpcBuff 2 = s.srspRpcBuff 2 := by
    intro hq
    simp only [Host.process, srspCopy, if_neg (hkeep hq)]
  have hset : Settled s.world.log ((s.process registered msg rest st).srspRpcBuff 2) st := by
    cases h with
    | settled hset => exact hset.head.elim
    | waitMsg hset => exact .cons trivial (hset.tail.change hcopy)
    | waits hwait hset =>
      rw [hpc] at hwait
      obtain ⟨m, hans, hread, rfl⟩ := hwait
      exact .cons ⟨m, hans, srspCopy_answer hans hread _ _⟩ (hset.change hcopy)
  apply Fits.settled
  unfold Host.process
  dsimp only
  split
  · exact .cons trivial hset
  · exact hset

theorem Serving.step {a : HostAction} (h : Serving s) (hord : Orderly s a)
    (hs : HostStep registered s a s') : Serving s' := by
  have hfits := h.fits
  cases hs with
  | sendFrame hst hstep =>
    rw [hst] at hfits
    exact ⟨h.layer.call hstep, .sendFrame (hfits.of_code.mono (log_suffix hstep))⟩
  | waitMsg hst hstep =>
    rw [hst] at hfits
    exact ⟨h.layer.receive hstep, .waitMsg (hfits.of_code.mono (log_suffix hstep))⟩
  | request hst hstep =>
    rw [hst] at hfits
    have hset := hfits.of_code.mono (log_suffix hstep)
    refine ⟨h.layer.call hstep, .sends ?_ hset⟩
    cases hstep with
    | call => exact ⟨rfl, List.suffix_refl _⟩
  | sendSucceeded hst hpc hstep =>
    rw [hst] at hfits
    obtain ⟨hsend, hset⟩ := hfits.of_sends
    rw [hpc] at hsend
    have hans := (hsend.2 rfl).step (fun _ hm => by cases hstep; exact hm) (by simp [hpc]) hstep
    refine ⟨h.layer.receive hstep, .waits ?_ (hset.mono (log_suffix hstep))⟩
    cases hstep with
    | receive => exact hans
  | sendFailed hst =>
    rw [hst] at hfits
    exact ⟨h.layer, .settled hfits.of_sends.2⟩
  | sendReturns hst hne =>
    rw [hst] at hfits
    cases hfits with
    | settled hset => exact hset.head.elim
    | sendFrame hset => exact ⟨h.layer, .settled hset⟩
    | sends => exact absurd rfl (hne _ _)
  | waitFailed hst hpc =>
    rw [hst] at hfits
    cases hfits with
    | settled hset => exact hset.head.elim
    | waitMsg hset => exact ⟨h.layer, .settled hset⟩
    | waits hwait =>
      rw [hpc] at hwait
      exact hwait.elim
  | waitReturns hst hpc =>
    rw [hst] at hfits
    refine ⟨h.layer, hfits.process hpc fun hwaits => hord _ (by rw [hpc]; rfl) ?_⟩
    rw [hst]
    exact hwaits
  | callbackReturns hst =>
    rw [hst] at hfits
    exact ⟨h.layer, .settled hfits.of_code.tail⟩
  | requestReturns hst =>
    rw [hst] at hfits
    exact ⟨h.layer, .settled hfits.of_waits.tail⟩
  | @rpc a w hin hstep =>
    refine ⟨h.layer.step hord.1 (fun m hm => ?_) hstep, hfits.rpc h.layer hord.1 hin hord.2 hstep⟩
    subst hm
    exact hin

/-- **A request returns the status of its own response** in every run of orderly steps, whatever
was queued and in the buffer before, whatever the callbacks do and however the two threads
interleave. -/
theorem status_of_orderly {llq : List (List UInt8)} {srspRpcBuff : Mem}
    (h : Steps (hostStep registered) Orderly (Host.init llq srspRpcBuff) s)
    (hst : s.stack = .waits q :: st) :
    ∃ m, Answers q s.world.log m ∧ (payload m).head? = some (s.srspRpcBuff 2) := by
  have hserving : Serving s := by
    apply h.invariant (serving_init llq srspRpcBuff)
    intro s a s' hi hord hs
    exact hi.step hord (.of_hostStep hs)
  have hfits := hserving.fits
  rw [hst] at hfits
  exact hfits.of_waits.head

/-- The response to `zdoInit`. -/
def startupSrsp (status : UInt8) : MtMsg :=
  ⟨mtRpcCmdSrsp ||| mtRpcSysZdo, mtZdoStartupFromApp, [status, status ^^^ 0x24]⟩

/-- `n` steps of the application thread inside the RPC layer. -/
def runSteps (n : ℕ) : List HostAction := List.replicate n (.rpc (.run ()))

/-- The RPC thread receives, accepts and queues an SRSP. -/
def answerSteps (m : MtMsg) : List HostAction :=
  .rpc (.rx m) :: List.replicate 6 (.rpc .rpc)

/-- `zdoInit` from its call to the read of the buffer, answered in time. -/
def initRun (status : UInt8) : List HostAction :=
  .request .init (fun _ => 0) :: runSteps 13 ++ answerSteps (startupSrsp status) ++ runSteps 3 ++
    .sendReturns :: runSteps 5 ++ [.waitReturns fun _ => 0]

/-- A message is queued, and the buffer holds another status. -/
def busyHost : Host := Host.init [[0x45, 0xC0, 9, 0x8D]] fun _ => 7

/-- One request, answered by its own response. -/
theorem status_of_orderly_init : ∃ (s : Host) (z : ZdoCall), s.stack = [.waits z, .code] ∧
    ∃ m, Answers z s.world.log m ∧ (payload m).head? = some (s.srspRpcBuff 2) := by
  have hmeets : Meets (hostStep fun _ => true) Orderly busyHost (initRun 1) := by decide +kernel
  have hrun : (exec (hostStep fun _ => true) busyHost (initRun 1)).isSome = true := rfl
  have hsteps := Steps.refl.exec_of_meets hmeets (Option.some_get hrun).symm
  exact ⟨_, _, rfl, status_of_orderly hsteps rfl⟩

/-! ## Statuses of other requests -/

theorem Answers.mem_accepted (h : Answers q log m) : m ∈ Rpc.accepted log := by
  obtain ⟨later, mid, earlier, hlog, -⟩ := h.accepted
  simp [Rpc.mem_accepted, hlog]

/-- The response to `zdoGetLinkKey`, whose callback gets the key. -/
def getLinkKeySrsp (status : UInt8) : MtMsg :=
  ⟨mtRpcCmdSrsp ||| mtRpcSysZdo, mtZdoGetLinkKey,
    status :: List.replicate 24 0 ++ [status ^^^ 0x59]⟩

/-- `zdoInit`, whose response is accepted in time but not linked when its wait ends. -/
def lateRun : List HostAction :=
  .request .init (fun _ => 0) :: runSteps 13 ++ (answerSteps (startupSrsp 1)).take 3 ++
    runSteps 3 ++ [.sendReturns, .rpc (.timeout ()), .waitReturns fun _ => 0]

/-- `zdoGetLinkKey`, whose callback calls `zdoInit`. -/
def nestedRun : List HostAction :=
  .request (.getLinkKey ⟨Vector.replicate 8 0⟩) (fun _ => 0) :: runSteps 25 ++
    answerSteps (getLinkKeySrsp 1) ++ runSteps 3 ++ .sendReturns :: runSteps 5 ++
    [.waitReturns fun _ => 0] ++ initRun 0 ++ [.requestReturns, .callbackReturns]

/-- The request is about to return 0 although its own response says 1 and no other SRSP
answers it. -/
structure Misreads (s : Host) (z : ZdoCall) (m : MtMsg) : Prop where
  returns : s.stack = [.waits z, .code]
  status : s.srspRpcBuff 2 = 0
  answered : Answers z s.world.log m
  own_status : (payload m).head? = some 1
  only : ∀ m', Answers z s.world.log m' → (payload m').head? ≠ some (s.srspRpcBuff 2)

/-- The buffer holds the status of nobody when the wait ends before the response is linked, and
that of another request when a callback issues one. -/
theorem status_of_other :
    (∃ s z, Reachable (hostStep fun _ => true) (Host.init [] fun _ => 0) s ∧
      Misreads s z (startupSrsp 1)) ∧
    ∃ s z, Reachable (hostStep fun _ => true) (Host.init [] fun _ => 0) s ∧
      Misreads s z (getLinkKeySrsp 1) := by
  constructor
  · have hrun : (exec (hostStep fun _ => true) (Host.init [] fun _ => 0) lateRun).isSome = true :=
      rfl
    refine ⟨_, _, reachable_of_exec (Option.some_get hrun).symm, rfl, rfl, ?_, rfl, ?_⟩
    · exact ⟨by decide, rfl, rfl, [_, _], [], _, rfl, by simp, List.nil_suffix⟩
    · intro m hm
      have hmem := hm.mem_accepted
      change m ∈ [startupSrsp 1] at hmem
      rw [List.mem_singleton.mp hmem]
      exact of_decide_eq_true rfl
  · have hrun : (exec (hostStep fun _ => true) (Host.init [] fun _ => 0) nestedRun).isSome = true :=
      rfl
    refine ⟨_, _, reachable_of_exec (Option.some_get hrun).symm, rfl, rfl, ?_, rfl, ?_⟩
    · exact ⟨by decide, rfl, rfl, [_, _, _, _, _, _, _], [], _, rfl, by simp, List.nil_suffix⟩
    · intro m hm
      have hmem := hm.mem_accepted
      have hcmd1 : m.cmd1 = mtZdoGetLinkKey := hm.cmd1_eq
      change m ∈ [startupSrsp 0, getLinkKeySrsp 1] at hmem
      -- the response to the inner request is to another command
      cases List.mem_cons.mp hmem with
      | inl hinner =>
        rw [hinner] at hcmd1
        exact absurd hcmd1 (by decide)
      | inr hown =>
        rw [List.mem_singleton.mp hown]
        exact of_decide_eq_true rfl

end ZnpHost.Mt
