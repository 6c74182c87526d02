import ZnpHost.Rpc.Tokens

/-!
# What a successful request stands on

A request that returns `MT_RPC_SUCCESS` took a token after it set the expected
identifier.  Unless a token was left over from before, the RPC thread accepted an SRSP
of the same subsystem in between.  The second command byte is not compared.

## Main definitions

* `Event.fits` — the events that may happen while a request is pending.
* `Answered` — the part of the history a successful request stands on.
* `Traced` — the invariant: every request is backed by the history.
* `answered_of_sent` — the result, for any number of threads and any run.
-/

namespace ZnpHost.Rpc

open Lib

variable {τ : Type} {w w' : World τ} {a : Action τ} {t u : τ} {c d : Call} {e : Event τ}
  {log : List (Event τ)}

/-! ## Histories of requests -/

/-- While request `c` is pending, only SRSPs of its subsystem are accepted and no token is
taken. -/
def Event.fits (c : Call) : Event τ → Prop
  | .accept m => m.isSrsp ∧ subsystem m.cmd0 = subsystem c.cmd0
  | .take _ _ => False
  | _ => True

/-- Thread `t` has set the identifier for `c`, and since then only fitting events followed. -/
def Expecting (log : List (Event τ)) (t : τ) (c : Call) : Prop :=
  ∃ mid earlier, log = mid ++ .expect t c :: earlier ∧ ∀ e ∈ mid, e.fits c

/-- Thread `t` took a token for `c`, its newest request: no token was taken and only SRSPs of
the subsystem were accepted since it set the identifier, and the tokens taken before then do
not use up the SRSPs accepted until the take. -/
def Answered (log : List (Event τ)) (t : τ) (c : Call) : Prop :=
  ∃ later mid earlier, log = later ++ .take t c :: (mid ++ .expect t c :: earlier) ∧
    (∀ d, .expect t d ∉ later) ∧ (∀ e ∈ mid, e.fits c) ∧
    takes earlier < accepts mid + accepts earlier

theorem Expecting.cons (h : Expecting log t c) (he : e.fits c) : Expecting (e :: log) t c := by
  obtain ⟨mid, earlier, rfl, hfits⟩ := h
  refine ⟨e :: mid, earlier, rfl, ?_⟩
  intro f hf
  cases List.mem_cons.mp hf with
  | inl heq => exact heq ▸ he
  | inr hmem => exact hfits f hmem

theorem Answered.cons (h : Answered log t c) (he : ∀ d, e ≠ .expect t d) :
    Answered (e :: log) t c := by
  obtain ⟨later, mid, earlier, rfl, hnew, hrest⟩ := h
  refine ⟨e :: later, mid, earlier, rfl, fun d hd => ?_, hrest⟩
  cases List.mem_cons.mp hd with
  | inl heq => exact he d heq.symm
  | inr hmem => exact hnew d hmem

/-- Fitting events take no token. -/
theorem takes_of_fits (h : ∀ e ∈ log, e.fits c) : takes log = 0 := by
  refine List.countP_eq_zero.mpr ?_
  intro e he htake
  have hfit := h e he
  cases e <;> simp_all [Event.isTake, Event.fits]

/-- A token taken by an expecting request answers it. -/
theorem Expecting.take (h : Expecting log t c) (hpos : takes log < accepts log) :
    Answered (.take t c :: log) t c := by
  obtain ⟨mid, earlier, rfl, hfits⟩ := h
  refine ⟨[], mid, earlier, rfl, by simp, hfits, ?_⟩
  have hzero := takes_of_fits hfits
  simp only [takes_append, takes_cons, accepts_append, accepts_cons, Event.isTake,
    Event.isAccept, Bool.false_eq_true, if_false] at hpos
  omega

/-- With no token left over, an SRSP was accepted after the identifier had been set. -/
theorem Answered.accepted (h : Answered log t c) :
    ∃ later mid earlier, log = later ++ .take t c :: (mid ++ .expect t c :: earlier) ∧
      (∀ d, .expect t d ∉ later) ∧ (∀ u d, .take u d ∉ mid) ∧
      (takes earlier = accepts earlier →
        ∃ m, .accept m ∈ mid ∧ m.isSrsp ∧ subsystem m.cmd0 = subsystem c.cmd0) := by
  obtain ⟨later, mid, earlier, hlog, hnew, hfits, hlt⟩ := h
  refine ⟨later, mid, earlier, hlog, hnew, fun u d hmem => hfits _ hmem, ?_⟩
  intro hbalance
  have hpos : 0 < accepts mid := by omega
  obtain ⟨e, hmem, haccept⟩ := List.countP_pos_iff.mp hpos
  cases e with
  | accept m => exact ⟨m, hmem, hfits _ hmem⟩
  | _ => cases haccept

/-! ## The invariant -/

/-- What the history says about a thread at a position. -/
def Pc.backed (log : List (Event τ)) (t : τ) : Pc → Prop
  | .write c _ | .print c _ => c.isSreq → Expecting log t c
  | .timedWait c => Expecting log t c
  | .setInvalid c status => status = mtRpcSuccess → Answered log t c
  | .semPost c status | .sent c status => c.isSreq → status = mtRpcSuccess → Answered log t c
  | _ => True

/-- Every thread is backed by the history. -/
def Traced (w : World τ) : Prop := ∀ t, (w.pc t).backed w.log t

theorem Pc.backed.cons {p : Pc} (h : p.backed log t) (hfits : ∀ c, p.pending = some c → e.fits c)
    (hnew : ∀ d, e ≠ .expect t d) : p.backed (e :: log) t := by
  cases p with
  | write c left => exact fun hsreq => (h hsreq).cons (hfits c (if_pos hsreq))
  | print c i => exact fun hsreq => (h hsreq).cons (hfits c (if_pos hsreq))
  | timedWait c => exact Expecting.cons h (hfits c rfl)
  | setInvalid c status => exact fun hst => (h hst).cons hnew
  | semPost c status => exact fun hsreq hst => (h hsreq hst).cons hnew
  | sent c status => exact fun hsreq hst => (h hsreq hst).cons hnew
  | _ => trivial

variable [DecidableEq τ]

theorem Traced.goto (h : Traced w) {x : World τ} {p : Pc} (hpc : x.pc = w.pc)
    (hlog : x.log = w.log) (hp : p.backed w.log t) : Traced (x.goto t p) := by
  intro u
  rw [World.goto_log, hlog]
  by_cases hut : u = t
  · subst hut
    simpa using hp
  · rw [World.goto_pc_ne _ _ hut, hpc]
    exact h u

theorem Traced.goto_cons (h : Traced w) {x : World τ} {p : Pc} (hpc : x.pc = w.pc)
    (hlog : x.log = e :: w.log) (hp : p.backed (e :: w.log) t)
    (hfits : ∀ u, u ≠ t → ∀ c, (w.pc u).pending = some c → e.fits c)
    (hnew : ∀ u, u ≠ t → ∀ d, e ≠ .expect u d) : Traced (x.goto t p) := by
  intro u
  rw [World.goto_log, hlog]
  by_cases hut : u = t
  · subst hut
    simpa using hp
  · rw [World.goto_pc_ne _ _ hut, hpc]
    exact (h u).cons (hfits u hut) (hnew u hut)

/-- A request that is backed goes on writing. -/
theorem Traced.write (h : Traced w) (hp : c.isSreq → Expecting w.log t c) (left : List UInt8) :
    Traced (w.write t c left) := by
  cases left with
  | nil =>
    exact h.goto_cons rfl rfl (fun hsreq => (hp hsreq).cons trivial) (fun _ _ _ _ => trivial)
      (fun _ _ _ heq => nomatch heq)
  | cons b left => exact h.goto rfl rfl hp

theorem Traced.step (h : Traced w) (hx : Exclusion w) (hb : Balanced w) (hr : ComparesSrsp w)
    (hs : Step w a w') : Traced w' := by
  cases hs with
  | @expect t c hpc hsreq =>
    apply Traced.write
    · intro u
      by_cases hut : u = t
      · subst hut
        simp [hpc, Pc.backed]
      · refine (h u).cons (fun _ _ => trivial) ?_
        intro d heq
        cases heq
        exact hut rfl
    · exact fun _ => ⟨[], w.log, rfl, fun e he => nomatch he⟩
  | noExpect hpc hsreq => exact h.write (fun hs => absurd hs hsreq) _
  | @writeByte t c b left hpc =>
    have hback := h t
    rw [hpc] at hback
    exact Traced.write h hback left
  | @wrote t c hpc | @print t c i hpc =>
    have hback := h t
    rw [hpc] at hback
    exact h.goto rfl rfl hback
  | @printedSreq t c i hpc hend hsreq =>
    have hback := h t
    rw [hpc] at hback
    exact h.goto rfl rfl (hback hsreq)
  | printedAreq hpc hend hsreq => exact h.goto rfl rfl fun hs => absurd hs hsreq
  | @take t c hpc hpos =>
    have hback := h t
    rw [hpc] at hback
    have hin : (w.pc t).inside = true := (congrArg Pc.inside hpc).trans rfl
    have hlt : takes w.log < accepts w.log := by
      unfold Balanced at hb
      omega
    refine h.goto_cons rfl rfl (fun _ => Expecting.take hback hlt) (fun u hut c hu => ?_)
      (fun _ _ _ heq => nomatch heq)
    exact absurd (hx.locked.unique (Pc.inside_of_pending hu) hin) hut
  | @timeout t c hpc hnone =>
    exact h.goto_cons rfl rfl (fun hst => absurd hst (by decide)) (fun _ _ _ _ => trivial)
      (fun _ _ _ heq => nomatch heq)
  | @invalidate t c status hpc =>
    have hback := h t
    rw [hpc] at hback
    exact h.goto_cons rfl rfl (fun _ hst => (hback hst).cons fun _ heq => nomatch heq)
      (fun _ _ _ _ => trivial) (fun _ _ _ heq => nomatch heq)
  | @leave t c status hpc =>
    have hback := h t
    rw [hpc] at hback
    exact h.goto rfl rfl hback
  | @accept m hrpc hexp =>
    intro u
    refine (h u).cons (fun c hu => ⟨hr m hrpc, ?_⟩) fun d heq => nomatch heq
    rw [← hexp, hx.identified.pending u c hu]
  | rxSrsp | rxAreq | discard | post | rpcAccess | linkHead | linkTail | rpcRelease
  | countPost => exact h
  | call | receive | enter | count | countTimeout | headNull | headLinked | access | unlink
  | release => exact h.goto rfl rfl trivial

/-- **A successful request was answered.**  In every run from `rpcOpen`, with any number of
threads: when `rpcSendFrame` has returned success for an SREQ, its thread took a token after
it set the expected identifier, and unless a token was left over at that moment, an SRSP of
the same subsystem was accepted in between. -/
theorem answered_of_sent (h : Reachable step (World.init τ rpcOpen) w)
    (hpc : w.pc t = .sent c mtRpcSuccess) (hsreq : c.isSreq) :
    ∃ later mid earlier, w.log = later ++ .take t c :: (mid ++ .expect t c :: earlier) ∧
      (∀ d, .expect t d ∉ later) ∧ (∀ u d, .take u d ∉ mid) ∧
      (takes earlier = accepts earlier →
        ∃ m, .accept m ∈ mid ∧ m.isSrsp ∧ subsystem m.cmd0 = subsystem c.cmd0) := by
  have hinv : Exclusion w ∧ Balanced w ∧ ComparesSrsp w ∧ Traced w := by
    refine h.invariant (I := fun w => Exclusion w ∧ Balanced w ∧ ComparesSrsp w ∧ Traced w)
      ⟨exclusion_init [], balanced_init _ rfl, comparesSrsp_init _, fun _ => trivial⟩ ?_
    rintro s a s' ⟨hx, hb, hr, ht⟩ - hs
    have hstep := Step.of_step hs
    exact ⟨hx.step hstep, hb.step hstep, hr.step hstep, ht.step hx hb hr hstep⟩
  have hback := hinv.2.2.2 t
  rw [hpc] at hback
  exact (hback hsreq rfl).accepted

/-- One thread whose request has been answered. -/
theorem answered_of_sent_ping :
    ∃ (w : World Unit) (later mid earlier : List (Event Unit)),
      w.log = later ++ .take () sysPingCall :: (mid ++ .expect () sysPingCall :: earlier) ∧
      (∀ d, .expect () d ∉ later) ∧ (∀ u d, .take u d ∉ mid) ∧
      (takes earlier = accepts earlier →
        ∃ m, .accept m ∈ mid ∧ m.isSrsp ∧ subsystem m.cmd0 = subsystem sysPingCall.cmd0) := by
  have hrun : (exec step (World.init Unit rpcOpen) (sendSteps () sysPingCall ++
      srspSteps Unit sysPingSrsp ++ returnSteps ())).isSome = true := rfl
  exact ⟨_, answered_of_sent (reachable_of_exec (Option.some_get hrun).symm) rfl (by decide)⟩

/-- The SRSPs accepted since the newest frame was written. -/
def acceptedSinceWrite : List (Event τ) → List MtMsg
  | [] => []
  | .wrote _ _ :: _ => []
  | .accept m :: log => m :: acceptedSinceWrite log
  | _ :: log => acceptedSinceWrite log

/-- The response to `SYS_VERSION`, another request of the same subsystem. -/
def sysVersionSrsp : MtMsg := ⟨0x61, 0x02, [2, 0, 2, 6, 3, 0x63]⟩

/-- Three ways to return success without an answer to the own frame: the SRSP of another
command, an SRSP that came before the frame was written, and a token left over from an
earlier request. -/
theorem success_without_answer : sysPingCall.isSreq ∧
    (∃ w : World Unit, Reachable step (World.init Unit rpcOpen) w ∧
      w.pc () = .sent sysPingCall mtRpcSuccess ∧ acceptedSinceWrite w.log = [sysVersionSrsp] ∧
      sysVersionSrsp.cmd1 ≠ sysPingCall.cmd1) ∧
    (∃ w : World Unit, Reachable step (World.init Unit rpcOpen) w ∧
      w.pc () = .sent sysPingCall mtRpcSuccess ∧ acceptedSinceWrite w.log = [] ∧
      accepts w.log = 1) ∧
    (∃ w : World Unit, Reachable step (World.init Unit rpcOpen) w ∧
      w.pc () = .sent sysPingCall mtRpcSuccess ∧ acceptedSinceWrite w.log = [] ∧
      takes w.log = 2) := by
  refine ⟨by decide, ?_, ?_, ?_⟩
  · have hrun : (exec step (World.init Unit rpcOpen) (sendSteps () sysPingCall ++
        srspSteps Unit sysVersionSrsp ++ returnSteps ())).isSome = true := rfl
    exact ⟨_, reachable_of_exec (Option.some_get hrun).symm, rfl, rfl, by decide⟩
  · have hrun : (exec step (World.init Unit rpcOpen) ((sendSteps () sysPingCall).take 3 ++
        srspSteps Unit sysPingSrsp ++ (sendSteps () sysPingCall).drop 3 ++
        returnSteps ())).isSome = true := rfl
    exact ⟨_, reachable_of_exec (Option.some_get hrun).symm, rfl, rfl, rfl⟩
  · have hrun : (exec step (World.init Unit rpcOpen) (sendSteps () sysPingCall ++
        srspSteps Unit sysPingSrsp ++ srspSteps Unit sysPingSrsp ++ returnSteps () ++
        sendSteps () sysPingCall ++ returnSteps ())).isSome = true := rfl
    exact ⟨_, reachable_of_exec (Option.some_get hrun).symm, rfl, rfl, rfl⟩

end ZnpHost.Rpc
