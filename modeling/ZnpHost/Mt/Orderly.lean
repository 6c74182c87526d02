import ZnpHost.Mt.Host
import ZnpHost.Rpc.Queue

/-!
# Requests and their responses

The steps after which a request of the application thread still gets its own response: the
SRSP it is released by answers its command, and this is the message its wait takes from the
queue.

## Main definitions

* `Answers` — an SRSP that answers a request.
* `Orderly` — the steps that keep a request and its response together.
* `sending`, `waiting` — what holds of a request inside the RPC layer in a run of such steps,
  `sending_step` and `waiting_step` that it is kept.
-/

namespace ZnpHost.Mt

open Lib Rpc

variable {w w' : World Unit} {a : Action Unit} {m : MtMsg} {q : ZdoCall} {st : List Fn}

/-! ## Answers -/

/-- The payload of a message, whose last byte is the checksum. -/
def payload (m : MtMsg) : List UInt8 := m.data.dropLast

/-- The RPC thread accepted `m` after the frame of the request had been written and before
any later frame; it is the SRSP of the same subsystem and command. -/
structure Answers (q : ZdoCall) (log : List (Event Unit)) (m : MtMsg) : Prop where
  srsp : m.isSrsp
  subsystem_eq : subsystem m.cmd0 = subsystem q.call.cmd0
  cmd1_eq : m.cmd1 = q.call.cmd1
  accepted : ∃ later mid earlier,
    log = later ++ .accept m :: (mid ++ .wrote () q.call :: earlier) ∧
      (∀ e ∈ mid, e.isWrote = false) ∧ q.before <:+ earlier

theorem Answers.mono (h : Answers q w.log m) (hlog : w.log <:+ w'.log) : Answers q w'.log m := by
  obtain ⟨new, hnew⟩ := hlog
  obtain ⟨later, mid, earlier, hold, hrest⟩ := h.accepted
  exact { h with accepted := ⟨new ++ later, mid, earlier, by rw [← hnew, hold]; simp, hrest⟩ }

/-- The status can be read from the message. -/
structure Readable (m : MtMsg) : Prop where
  nonempty : payload m ≠ []
  short : m.bytes.length ≤ 255

/-- The response to the request has been accepted and is the next message of the queue. -/
def HasAnswer (q : ZdoCall) (w : World Unit) : Prop :=
  ∃ m, Answers q w.log m ∧ Readable m ∧ Placed w m

theorem HasAnswer.step (h : HasAnswer q w) (haccept : ∀ m', w'.rpc = .post m' → w.rpc = .post m')
    (hunlink : w.pc () = .unlink → w'.pc () = .unlink) (hs : Step w a w') : HasAnswer q w' := by
  obtain ⟨m, hans, hread, hplaced⟩ := h
  exact ⟨m, hans.mono (log_suffix hs), hread, hplaced.step haccept hunlink hs⟩

/-! ## Orderly steps -/

/-- A step inside the RPC layer that keeps a request and its response together, with the
functions `st` in progress. -/
def InOrder : List Fn → World Unit → Action Unit → Prop
  -- the request is answered by its own command, with a status
  | .rpcSendFrame :: .sends q :: _, w, .rpc => ∀ m ∈ w.rpc.compared,
      w.expectedSrspCmdId = subsystem m.cmd0 → m.cmd1 = q.call.cmd1 ∧ payload m ≠ []
  -- its wait for the response does not time out
  | .rpcWaitMqClientMsg :: .waits _ :: _, w, .timeout _ => w.pc () ≠ .countWait true
  -- and takes a message only when the response is linked
  | .rpcWaitMqClientMsg :: .waits _ :: _, w, .run _ => w.pc () = .unlink → w.rpc.carried = none
  | _, _, _ => True

instance decidableInOrder (st : List Fn) (w : World Unit) (a : Action Unit) :
    Decidable (InOrder st w a) := by
  unfold InOrder
  split <;> infer_instance

/-- A request function among those in progress has yet to read the buffer. -/
def Fn.isWaits : Fn → Bool
  | .waits _ => true
  | _ => false

/-- The message `llq_timedreceive` has returned. -/
def returnedMsg : Pc → Option (List UInt8)
  | .received msg => msg
  | _ => none

/-- A step that keeps every request in progress and its response together: no token is left
behind, each step inside the RPC layer is in order, and no wait within a callback copies an
SRSP before the request that waited for the callback's message has returned. -/
def Orderly (s : Host) : HostAction → Prop
  | .rpc a => Clean s.world a ∧ InOrder s.stack s.world a
  | .waitReturns rest => ∀ msg ∈ returnedMsg (s.world.pc ()), (s.stack.drop 2).any Fn.isWaits →
      ¬ (hasProcess (Mem.ofList msg rest 0) ∧ isSrsp (Mem.ofList msg rest 0))
  | _ => True

instance decidableOrderly (s : Host) : ∀ a, Decidable (Orderly s a)
  | .rpc _ => inferInstanceAs (Decidable (_ ∧ _))
  | .waitReturns _ => inferInstanceAs (Decidable (∀ msg ∈ returnedMsg _, _ → ¬ _))
  | .sendFrame _ | .waitMsg _ | .request _ _ | .sendReturns | .callbackReturns
  | .requestReturns => inferInstanceAs (Decidable True)

/-! ## Requests in progress -/

/-- The frame of the request is the newest on the line, and the events `since` have followed. -/
structure Sent (q : ZdoCall) (log since : List (Event Unit)) : Prop where
  wrote : ∃ earlier, log = since ++ .wrote () q.call :: earlier ∧ q.before <:+ earlier
  newest : ∀ e ∈ since, e.isWrote = false

/-- The frame of the request is written, and a token is there only with its response. -/
def Awaiting (q : ZdoCall) (w : World Unit) : Prop :=
  (∃ since, Sent q w.log since) ∧ (0 < w.srspSem + w.rpc.inFlight → HasAnswer q w)

/-- A request function inside `rpcSendFrame`, at a position. -/
def sending (q : ZdoCall) (w : World Unit) : Pc → Prop
  | .semWait c | .setExpected c | .write c (_ :: _) => c = q.call ∧ q.before <:+ w.log
  | .write c [] | .print c _ | .timedWait c => c = q.call ∧ Awaiting q w
  | .setInvalid c status | .semPost c status | .sent c status =>
    c = q.call ∧ (status = mtRpcSuccess → HasAnswer q w)
  | _ => False

/-- A request function inside `rpcWaitMqClientMsg`, at a position. -/
def waiting (q : ZdoCall) (w : World Unit) : Pc → Prop
  | .countWait _ | .headTest | .accessWait | .unlink => HasAnswer q w
  | .accessPost msg | .received (some msg) =>
    ∃ m, Answers q w.log m ∧ Readable m ∧ msg = m.bytes
  | _ => False

/-- What holds of the RPC layer in a run of orderly steps. -/
structure Layer (w : World Unit) : Prop where
  exclusion : Exclusion w
  tidy : Tidy w
  srsp : ComparesSrsp w
  counted : Counted w
  short : ∀ m, w.rpc = .compare m → m.bytes.length ≤ 255

theorem layer_init (llq : List (List UInt8)) :
    Layer (World.init Unit { rpcOpen with rpcLlq := llq }) where
  exclusion := exclusion_init llq
  tidy := tidy_init llq
  srsp := comparesSrsp_init _
  counted := counted_init llq
  short _ hm := nomatch hm

theorem Layer.step (h : Layer w) (hc : Clean w a) (hshort : ∀ m, a = .rx m → m.bytes.length ≤ 255)
    (hs : Step w a w') : Layer w' where
  exclusion := h.exclusion.step hs
  tidy := h.tidy.step h.exclusion.locked hc hs
  srsp := h.srsp.step hs
  counted := h.counted.step hs
  short m hm := by
    cases hs with
    | rxSrsp hrpc =>
      cases hm
      exact hshort _ rfl
    | rxAreq | accept | discard | post | rpcAccess | linkHead | linkTail | rpcRelease
    | countPost => cases hm
    | _ => exact h.short m hm

theorem Layer.call {t : Unit} {c : Call} (h : Layer w) (hs : Step w (.call t c) w') : Layer w' :=
  h.step (a := .call t c) trivial (fun _ hm => nomatch hm) hs

theorem Layer.receive {t : Unit} {timed : Bool} (h : Layer w)
    (hs : Step w (.receive t timed) w') : Layer w' :=
  h.step (a := .receive t timed) trivial (fun _ hm => nomatch hm) hs

/-- A step that leaves the history and the tokens alone. -/
theorem sending_of_log_eq {p : Pc} (h : sending q w p) (hlog : w'.log = w.log)
    (hsum : w'.srspSem + w'.rpc.inFlight = w.srspSem + w.rpc.inFlight)
    (hans : HasAnswer q w → HasAnswer q w') : sending q w' p := by
  have hawait : Awaiting q w → Awaiting q w' :=
    fun hw => ⟨hlog ▸ hw.1, fun hpos => hans (hw.2 (hsum ▸ hpos))⟩
  cases p with
  | semWait c | setExpected c => exact ⟨h.1, hlog ▸ h.2⟩
  | write c left =>
    cases left with
    | nil => exact ⟨h.1, hawait h.2⟩
    | cons b left => exact ⟨h.1, hlog ▸ h.2⟩
  | print c i | timedWait c => exact ⟨h.1, hawait h.2⟩
  | setInvalid c status | semPost c status | sent c status =>
    exact ⟨h.1, fun hst => hans (h.2 hst)⟩
  | _ => exact h

theorem sending_iff_of_awaits {p : Pc} {c : Call} (h : p.awaits = some c) :
    sending q w p ↔ c = q.call ∧ Awaiting q w := by
  cases p with
  | write d left => cases left <;> simp_all [Pc.awaits, sending]
  | print d i | timedWait d => simp_all [Pc.awaits, sending]
  | _ => cases h

/-- Writing goes on until the request waits. -/
theorem sending_write {left : List UInt8} (hbefore : q.before <:+ w.log)
    (hzero : w.srspSem + w.rpc.inFlight = 0) :
    sending q (w.write () q.call left) (.write q.call left) := by
  cases left with
  | nil =>
    exact ⟨rfl, ⟨[], ⟨w.log, rfl, hbefore⟩, by simp⟩, fun hpos => absurd hzero (Nat.ne_of_gt hpos)⟩
  | cons b left => exact ⟨rfl, hbefore⟩

/-- The SRSP accepted while the request waits answers it. -/
theorem Layer.accept (h : Layer w) (hwait : (w.pc ()).awaits = some q.call) (haw : Awaiting q w)
    (hrpc : w.rpc = .compare m) (hexp : w.expectedSrspCmdId = subsystem m.cmd0)
    (hcmd1 : m.cmd1 = q.call.cmd1) (hnonempty : payload m ≠ []) :
    Awaiting q { w with rpc := .post m, log := .accept m :: w.log } := by
  obtain ⟨⟨since, hsent⟩, -⟩ := haw
  obtain ⟨earlier, hlog, hbefore⟩ := hsent.wrote
  have hsub : subsystem m.cmd0 = subsystem q.call.cmd0 := by
    rw [← hexp, h.exclusion.identified.pending () q.call (Pc.pending_of_awaits hwait)]
  have hans : Answers q (.accept m :: w.log) m :=
    { srsp := h.srsp m hrpc
      subsystem_eq := hsub
      cmd1_eq := hcmd1
      accepted := ⟨[], since, earlier, by rw [hlog]; rfl, hsent.newest, hbefore⟩ }
  constructor
  · refine ⟨.accept m :: since, ⟨earlier, by rw [hlog]; rfl, hbefore⟩, ?_⟩
    intro e he
    cases List.mem_cons.mp he with
    | inl heq =>
      rw [heq]
      rfl
    | inr hmem => exact hsent.newest e hmem
  · intro _
    exact ⟨m, hans, ⟨hnonempty, h.short m hrpc⟩, .inl rfl⟩

theorem sending_step (h : sending q w (w.pc ())) (hl : Layer w) (hc : Clean w a)
    (hin : inside a) (hord : InOrder (.rpcSendFrame :: .sends q :: st) w a) (hs : Step w a w') :
    sending q w' (w'.pc ()) := by
  have hsreq := q.isSreq_call
  have hkeep : (∀ m', w'.rpc = .post m' → w.rpc = .post m') → HasAnswer q w → HasAnswer q w' :=
    fun haccept hans => hans.step haccept (fun hpc => by simp [hpc, sending] at h) hs
  have hzero : (w.pc ()).inside = true → (w.pc ()).awaits = none →
      w.srspSem + w.rpc.inFlight = 0 := hl.tidy.sum_eq_zero hl.exclusion.locked
  cases hs with
  | call | receive => exact hin.elim
  | accept hrpc hexp =>
    obtain ⟨-, t, hsome⟩ := hc.accept hrpc hexp
    obtain ⟨c, hwait⟩ := Option.ne_none_iff_exists'.mp hsome
    obtain ⟨hcmd1, hnonempty⟩ := hord _ (by simp [hrpc, RpcPc.compared]) hexp
    obtain ⟨rfl, haw⟩ := (sending_iff_of_awaits hwait).mp h
    exact (sending_iff_of_awaits hwait).mpr ⟨rfl, hl.accept hwait haw hrpc hexp hcmd1 hnonempty⟩
  | rxSrsp hrpc | rxAreq hrpc | discard hrpc | post hrpc | rpcAccess hrpc | linkHead hrpc
  | linkTail hrpc | rpcRelease hrpc | countPost hrpc =>
    exact sending_of_log_eq h rfl (by simp [hrpc, RpcPc.inFlight]) (hkeep fun _ hm => by cases hm)
  | enter hpc =>
    rw [hpc] at h
    rw [World.goto_pc_same]
    exact h
  | expect hpc =>
    have hnone := hzero ((congrArg Pc.inside hpc).trans rfl) ((congrArg Pc.awaits hpc).trans rfl)
    rw [hpc] at h
    obtain ⟨rfl, hbefore⟩ := h
    rw [World.write_pc_same]
    exact sending_write (hbefore.trans (List.suffix_cons _ _)) hnone
  | writeByte hpc =>
    have hnone := hzero ((congrArg Pc.inside hpc).trans rfl) ((congrArg Pc.awaits hpc).trans rfl)
    rw [hpc] at h
    obtain ⟨rfl, hbefore⟩ := h
    rw [World.write_pc_same]
    exact sending_write hbefore hnone
  | noExpect hpc hareq | printedAreq hpc _ hareq =>
    rw [hpc] at h
    exact absurd (h.1 ▸ hsreq) hareq
  | wrote hpc | print hpc | printedSreq hpc =>
    have hans := hkeep fun _ hm => hm
    rw [hpc] at h
    rw [World.goto_pc_same]
    exact ⟨h.1, h.2.1, fun hpos => hans (h.2.2 hpos)⟩
  | take hpc hpos =>
    have hans := hkeep fun _ hm => hm
    rw [hpc] at h
    rw [World.goto_pc_same]
    exact ⟨h.1, fun _ => hans (h.2.2 (by omega))⟩
  | timeout hpc =>
    rw [hpc] at h
    rw [World.goto_pc_same]
    exact ⟨h.1, fun hst => absurd hst (by decide)⟩
  | invalidate hpc | leave hpc =>
    have hans := hkeep fun _ hm => hm
    rw [hpc] at h
    rw [World.goto_pc_same]
    exact ⟨h.1, fun hst => hans (h.2 hst)⟩
  | count hpc | countTimeout hpc | headNull hpc | headLinked hpc | access hpc | unlink hpc
  | release hpc =>
    rw [hpc] at h
    exact h.elim

/-- A step that neither accepts an SRSP nor moves the thread. -/
theorem waiting_of_log_suffix {p : Pc} (h : waiting q w p) (hlog : w.log <:+ w'.log)
    (hans : HasAnswer q w → HasAnswer q w') : waiting q w' p := by
  cases p with
  | countWait | headTest | accessWait | unlink => exact hans h
  | accessPost msg =>
    obtain ⟨m, hm, hread⟩ := h
    exact ⟨m, hm.mono hlog, hread⟩
  | received msg =>
    cases msg with
    | none => exact h
    | some msg =>
      obtain ⟨m, hm, hread⟩ := h
      exact ⟨m, hm.mono hlog, hread⟩
  | _ => exact h

theorem waiting_step (h : waiting q w (w.pc ())) (hl : Layer w) (hc : Clean w a)
    (hin : inside a) (hord : InOrder (.rpcWaitMqClientMsg :: .waits q :: st) w a)
    (hs : Step w a w') : waiting q w' (w'.pc ()) := by
  have hnone : (w.pc ()).awaits = none := by
    cases hpc : w.pc () <;> simp_all [waiting, Pc.awaits]
  have haccept := not_accepted_of_clean hc hnone hs
  have hkeep : (w.pc () = .unlink → w'.pc () = .unlink) → HasAnswer q w → HasAnswer q w' :=
    fun hunlink hans => hans.step haccept hunlink hs
  have hlog := log_suffix hs
  cases hs with
  | call | receive => exact hin.elim
  | rxSrsp | rxAreq | accept | discard | post | rpcAccess | linkHead | linkTail | rpcRelease
  | countPost => exact waiting_of_log_suffix h hlog (hkeep id)
  | count hpc | headLinked hpc | access hpc =>
    have hans := hkeep fun hun => absurd (hpc.symm.trans hun) (by simp)
    rw [hpc] at h
    rw [World.goto_pc_same]
    exact hans h
  | countTimeout hpc => exact absurd hpc hord
  | headNull hpc hnil => exact absurd hnil (hl.counted.ne_nil hpc)
  | unlink hpc hllq =>
    have hlinked := hord hpc
    rw [hpc] at h
    obtain ⟨m, hm, hread, hplaced⟩ := h
    have hhead : w.rpcLlq.head? = some m.bytes := by
      simpa [Placed, hlinked] using hplaced
    rw [World.goto_pc_same]
    rw [hllq] at hhead
    exact ⟨m, hm, hread, Option.some.inj hhead⟩
  | release hpc =>
    rw [hpc] at h
    rw [World.goto_pc_same]
    exact h
  | enter hpc | expect hpc | noExpect hpc | writeByte hpc | wrote hpc | print hpc
  | printedSreq hpc | printedAreq hpc | take hpc | timeout hpc | invalidate hpc | leave hpc =>
    rw [hpc] at h
    exact h.elim

end ZnpHost.Mt
