import ZnpHost.Rpc.Exclusion

/-!
# The tokens of `srspSem`

Every accepted SRSP posts one token, every request that returns success takes one, and
nothing else removes a token.  The first part counts them over all runs; the second
gives the runs in which no token outlives its request.

## Main definitions

* `Balanced` — tokens taken, tokens left and posts still to come make up the accepted SRSPs.
* `Clean` — the steps that leave no token behind, `srspSem_of_clean` what they guarantee.
-/

namespace ZnpHost.Rpc

open Lib

variable {τ : Type} {w w' : World τ} {a : Action τ} {t u : τ} {c d : Call} {e : Event τ}

/-! ## Counting tokens -/

def Event.isAccept : Event τ → Bool
  | .accept _ => true
  | _ => false

def Event.isTake : Event τ → Bool
  | .take _ _ => true
  | _ => false

def Event.isWrote : Event τ → Bool
  | .wrote _ _ => true
  | _ => false

/-- The SRSPs accepted in a history. -/
def accepts (log : List (Event τ)) : ℕ := log.countP Event.isAccept

/-- The tokens taken in a history. -/
def takes (log : List (Event τ)) : ℕ := log.countP Event.isTake

@[simp] theorem accepts_nil : accepts ([] : List (Event τ)) = 0 := rfl
@[simp] theorem takes_nil : takes ([] : List (Event τ)) = 0 := rfl

theorem accepts_cons (e : Event τ) (log : List (Event τ)) :
    accepts (e :: log) = accepts log + if e.isAccept then 1 else 0 :=
  List.countP_cons

theorem takes_cons (e : Event τ) (log : List (Event τ)) :
    takes (e :: log) = takes log + if e.isTake then 1 else 0 :=
  List.countP_cons

theorem accepts_append (l₁ l₂ : List (Event τ)) : accepts (l₁ ++ l₂) = accepts l₁ + accepts l₂ :=
  List.countP_append

theorem takes_append (l₁ l₂ : List (Event τ)) : takes (l₁ ++ l₂) = takes l₁ + takes l₂ :=
  List.countP_append

/-- The SRSP that an event accepts. -/
def Event.srsp : Event τ → Option MtMsg
  | .accept m => some m
  | _ => none

/-- The accepted SRSPs, the newest first. -/
def accepted (log : List (Event τ)) : List MtMsg := log.filterMap Event.srsp

@[simp] theorem accepted_accept (m : MtMsg) (log : List (Event τ)) :
    accepted (.accept m :: log) = m :: accepted log := rfl

theorem accepted_cons (h : e.isAccept = false) (log : List (Event τ)) :
    accepted (e :: log) = accepted log := by
  cases e with
  | accept m => cases h
  | _ => rfl

theorem length_accepted (log : List (Event τ)) : (accepted log).length = accepts log := by
  induction log with
  | nil => rfl
  | cons e log ih =>
    cases e with
    | accept m => simp [accepts_cons, Event.isAccept, ih]
    | _ =>
      rw [accepted_cons rfl, accepts_cons]
      exact ih

theorem mem_accepted {m : MtMsg} {log : List (Event τ)} : m ∈ accepted log ↔ .accept m ∈ log := by
  induction log with
  | nil => simp [accepted]
  | cons e log ih =>
    cases e with
    | accept m' => simp [ih]
    | _ =>
      rw [accepted_cons rfl]
      simpa using ih

/-- An accepted SRSP whose token is not posted yet. -/
def RpcPc.inFlight : RpcPc → ℕ
  | .post _ => 1
  | _ => 0

/-- Every accepted SRSP is one token: taken, left in the semaphore, or about to be posted. -/
def Balanced (w : World τ) : Prop := w.srspSem + w.rpc.inFlight + takes w.log = accepts w.log

theorem balanced_init (st : RpcState) (h : st.srspSem = 0) : Balanced (World.init τ st) := by
  simp [Balanced, World.init, RpcPc.inFlight, h]

variable [DecidableEq τ]

@[simp] theorem accepts_write (left : List UInt8) :
    accepts (w.write t c left).log = accepts w.log := by
  cases left with
  | nil => simp [accepts_cons, Event.isAccept]
  | cons b left => rfl

@[simp] theorem takes_write (left : List UInt8) :
    takes (w.write t c left).log = takes w.log := by
  cases left with
  | nil => simp [takes_cons, Event.isTake]
  | cons b left => rfl

@[simp] theorem accepted_write (left : List UInt8) :
    accepted (w.write t c left).log = accepted w.log := by
  cases left with
  | nil => rfl
  | cons b left => rfl

theorem Balanced.step (h : Balanced w) (hs : Step w a w') : Balanced w' := by
  unfold Balanced at h ⊢
  cases hs with
  | take hpc hpos =>
    simp only [World.goto_srspSem, World.goto_rpc, World.goto_log, takes_cons, accepts_cons,
      Event.isTake, Event.isAccept, if_true, Bool.false_eq_true, if_false]
    omega
  | accept hpc =>
    simp only [hpc, RpcPc.inFlight] at h
    simp only [takes_cons, accepts_cons, Event.isTake, Event.isAccept, RpcPc.inFlight, if_true,
      Bool.false_eq_true, if_false]
    omega
  | post hpc =>
    simp only [hpc, RpcPc.inFlight] at h
    simp only [RpcPc.inFlight]
    omega
  | expect | timeout | invalidate =>
    simpa [takes_cons, accepts_cons, Event.isTake, Event.isAccept] using h
  | _ => simp_all [RpcPc.inFlight]

/-- The RPC thread compares SRSPs only. -/
def ComparesSrsp (w : World τ) : Prop := ∀ m, w.rpc = .compare m → m.isSrsp

omit [DecidableEq τ] in
theorem comparesSrsp_init (st : RpcState) : ComparesSrsp (World.init τ st) := by
  intro m hm
  cases hm

theorem ComparesSrsp.step (h : ComparesSrsp w) (hs : Step w a w') : ComparesSrsp w' := by
  intro m hm
  cases hs with
  | rxSrsp hpc hsrsp =>
    cases hm
    exact hsrsp
  | rxAreq | accept | discard | post | rpcAccess | linkHead | linkTail | rpcRelease
  | countPost => cases hm
  | _ => exact h m hm

/-! ## Runs that leave no token behind -/

/-- The SREQ that has written its frame and is not past its wait. -/
def Pc.awaits : Pc → Option Call
  | .write c [] | .print c _ => if c.isSreq then some c else none
  | .timedWait c => some c
  | _ => none

theorem Pc.inside_of_awaits {p : Pc} (h : p.awaits = some c) : p.inside = true := by
  cases p <;> simp_all [awaits, inside]

theorem Pc.pending_of_awaits {p : Pc} (h : p.awaits = some c) : p.pending = some c := by
  cases p with
  | write d left =>
    cases left with
    | nil => exact h
    | cons b left => cases h
  | print d i => exact h
  | timedWait d => exact h
  | _ => cases h

theorem Pc.awaits_of_returned {p : Pc} (h : p.returned = true) : p.awaits = none := by
  cases p <;> simp_all [returned, awaits]

/-- The SRSP about to be compared with `expectedSrspCmdId`. -/
def RpcPc.compared : RpcPc → Option MtMsg
  | .compare m => some m
  | _ => none

/-- The steps that leave no token behind: an SRSP is accepted only as the first answer to a
request that has written its frame and is not past its wait, and no wait times out between
the comparison of an SRSP and the post of its token. -/
def Clean (w : World τ) : Action τ → Prop
  | .rpc => ∀ m ∈ w.rpc.compared, w.expectedSrspCmdId = subsystem m.cmd0 →
      w.srspSem = 0 ∧ ∃ t, (w.pc t).awaits ≠ none
  | .timeout t => (w.pc t).awaits ≠ none → w.rpc.inFlight = 0
  | _ => True

omit [DecidableEq τ] in
theorem Clean.accept {m : MtMsg} (hc : Clean w .rpc) (hrpc : w.rpc = .compare m)
    (hexp : w.expectedSrspCmdId = subsystem m.cmd0) :
    w.srspSem = 0 ∧ ∃ t, (w.pc t).awaits ≠ none :=
  hc m (by simp [hrpc, RpcPc.compared]) hexp

/-- Of one thread it is decided in any state whether a step is clean. -/
instance decidableClean (w : World Unit) : ∀ a, Decidable (Clean w a)
  | .rpc => by
    have : Decidable (∃ t, (w.pc t).awaits ≠ none) :=
      decidable_of_iff ((w.pc ()).awaits ≠ none) ⟨fun h => ⟨(), h⟩, fun ⟨_, h⟩ => h⟩
    exact inferInstanceAs (Decidable (∀ m ∈ w.rpc.compared, _ → _ ∧ _))
  | .timeout t => inferInstanceAs (Decidable ((w.pc t).awaits ≠ none → _))
  | .call _ _ | .receive _ _ | .run _ | .rx _ => inferInstanceAs (Decidable True)

/-- The newest frame on the line is that of the request `c` of thread `t`, and the events
`since` have followed. -/
def WroteLast (log : List (Event τ)) (t : τ) (c : Call) (since : List (Event τ)) : Prop :=
  (∃ earlier, log = since ++ .wrote t c :: earlier) ∧ ∀ e ∈ since, e.isWrote = false

omit [DecidableEq τ] in
theorem WroteLast.cons {log since : List (Event τ)} (h : WroteLast log t c since)
    (he : e.isWrote = false) : WroteLast (e :: log) t c (e :: since) := by
  obtain ⟨⟨earlier, rfl⟩, hnone⟩ := h
  refine ⟨⟨earlier, rfl⟩, ?_⟩
  intro f hf
  cases List.mem_cons.mp hf with
  | inl heq => exact heq ▸ he
  | inr hmem => exact hnone f hmem

/-- At most one token is under way, and it answers the request that waits. -/
structure Tidy (w : World τ) : Prop where
  waits : ∀ t c, (w.pc t).awaits = some c → ∃ since, WroteLast w.log t c since ∧
    (0 < w.srspSem + w.rpc.inFlight → ∃ m, .accept m ∈ since)
  le_one : w.srspSem + w.rpc.inFlight ≤ 1
  waited : 0 < w.srspSem + w.rpc.inFlight → ∃ t, (w.pc t).awaits ≠ none

omit [DecidableEq τ] in
theorem tidy_init (q : List (List UInt8)) :
    Tidy (World.init τ { rpcOpen with rpcLlq := q }) where
  waits t c h := by simp [World.init, Pc.awaits] at h
  le_one := by simp [World.init, rpcOpen, RpcPc.inFlight]
  waited h := by simp [World.init, rpcOpen, RpcPc.inFlight] at h

omit [DecidableEq τ] in
/-- A step that leaves the waiting threads, the tokens and the writes alone. -/
theorem Tidy.frame (h : Tidy w) (hwait : ∀ u, (w'.pc u).awaits = (w.pc u).awaits)
    (hsum : w'.srspSem + w'.rpc.inFlight = w.srspSem + w.rpc.inFlight)
    (hlog : w'.log = w.log ∨ ∃ e, w'.log = e :: w.log ∧ e.isWrote = false) : Tidy w' where
  waits u d hu := by
    obtain ⟨since, hlast, hans⟩ := h.waits u d ((hwait u).symm.trans hu)
    rw [hsum]
    cases hlog with
    | inl hsame => exact ⟨since, hsame ▸ hlast, hans⟩
    | inr hnew =>
      obtain ⟨e, hlog, he⟩ := hnew
      refine ⟨e :: since, hlog ▸ hlast.cons he, ?_⟩
      intro hpos
      obtain ⟨m, hm⟩ := hans hpos
      exact ⟨m, List.mem_cons_of_mem e hm⟩
  le_one := hsum ▸ h.le_one
  waited hpos := by
    obtain ⟨v, hv⟩ := h.waited (hsum ▸ hpos)
    exact ⟨v, hwait v ▸ hv⟩

omit [DecidableEq τ] in
/-- While a thread is inside, no other thread awaits an SRSP. -/
theorem Locked.awaits_eq_none (hlock : Locked w) (ht : (w.pc t).inside = true) (hu : u ≠ t) :
    (w.pc u).awaits = none := by
  cases h : (w.pc u).awaits with
  | none => rfl
  | some c => exact absurd (hlock.unique (Pc.inside_of_awaits h) ht) hu

omit [DecidableEq τ] in
/-- With a thread inside that does not wait, no token is under way. -/
theorem Tidy.sum_eq_zero (h : Tidy w) (hlock : Locked w) (ht : (w.pc t).inside = true)
    (hnone : (w.pc t).awaits = none) : w.srspSem + w.rpc.inFlight = 0 := by
  by_contra hpos
  obtain ⟨v, hv⟩ := h.waited (Nat.pos_of_ne_zero hpos)
  by_cases hvt : v = t
  · exact hv (hvt ▸ hnone)
  · exact hv (hlock.awaits_eq_none ht hvt)

/-- A thread inside leaves its wait, and no token is under way. -/
theorem Tidy.of_inside {x : World τ} {p : Pc} (hlock : Locked w) (ht : (w.pc t).inside = true)
    (hpc : x.pc = w.pc) (hp : p.awaits = none) (hzero : x.srspSem + x.rpc.inFlight = 0) :
    Tidy (x.goto t p) where
  waits u d hu := by
    by_cases hut : u = t
    · subst hut
      rw [World.goto_pc_same, hp] at hu
      cases hu
    · rw [World.goto_pc_ne _ _ hut, hpc, hlock.awaits_eq_none ht hut] at hu
      cases hu
  le_one := hzero ▸ Nat.zero_le 1
  waited hpos := absurd hzero (Nat.ne_of_gt hpos)

/-- A thread writes: with its last byte it begins to wait, and no token is under way. -/
theorem Tidy.write {x : World τ} (h : Tidy w) (hlock : Locked w) (ht : (w.pc t).inside = true)
    (hnone : (w.pc t).awaits = none) (hpc : x.pc = w.pc) (hsem : x.srspSem = w.srspSem)
    (hrpc : x.rpc = w.rpc) (left : List UInt8) : Tidy (x.write t c left) := by
  have hzero : (x.write t c left).srspSem + (x.write t c left).rpc.inFlight = 0 := by
    rw [World.write_srspSem, World.write_rpc, hsem, hrpc]
    exact h.sum_eq_zero hlock ht hnone
  have hnot : ¬ 0 < (x.write t c left).srspSem + (x.write t c left).rpc.inFlight := by omega
  constructor
  · intro u d hu
    by_cases hut : u = t
    · subst hut
      cases left with
      | nil =>
        simp only [World.write_pc_same, Pc.awaits, Option.ite_none_right_eq_some,
          Option.some.injEq] at hu
        obtain ⟨-, rfl⟩ := hu
        exact ⟨[], ⟨⟨x.log, rfl⟩, by simp⟩, fun hpos => absurd hpos hnot⟩
      | cons b left => simp [Pc.awaits] at hu
    · rw [World.write_pc_ne _ _ _ hut, hpc, hlock.awaits_eq_none ht hut] at hu
      cases hu
  · omega
  · intro hpos
    exact absurd hpos hnot

theorem Tidy.step (h : Tidy w) (hlock : Locked w) (hc : Clean w a) (hs : Step w a w') :
    Tidy w' := by
  cases hs with
  | expect hpc | noExpect hpc | writeByte hpc =>
    apply h.write hlock
    · exact (congrArg Pc.inside hpc).trans rfl
    · exact (congrArg Pc.awaits hpc).trans rfl
    all_goals rfl
  | take hpc hpos =>
    have hle := h.le_one
    have hzero : w.srspSem - 1 + w.rpc.inFlight = 0 := by omega
    exact .of_inside hlock ((congrArg Pc.inside hpc).trans rfl) rfl rfl hzero
  | @timeout t c hpc hnone =>
    have hnopost : w.rpc.inFlight = 0 := hc (by simp [hpc, Pc.awaits])
    have hzero : w.srspSem + w.rpc.inFlight = 0 := by omega
    exact .of_inside hlock ((congrArg Pc.inside hpc).trans rfl) rfl rfl hzero
  | @accept m hrpc hexp =>
    obtain ⟨hsem, hwait⟩ := hc.accept hrpc hexp
    constructor
    · intro u d hu
      obtain ⟨since, hlast, -⟩ := h.waits u d hu
      exact ⟨.accept m :: since, hlast.cons rfl, fun _ => ⟨m, List.mem_cons_self⟩⟩
    · simp [hsem, RpcPc.inFlight]
    · intro _
      exact hwait
  | rxSrsp hrpc | rxAreq hrpc | discard hrpc | post hrpc | rpcAccess hrpc | linkHead hrpc
  | linkTail hrpc | rpcRelease hrpc | countPost hrpc =>
    exact h.frame (fun _ => rfl) (by simp [hrpc, RpcPc.inFlight]) (.inl rfl)
  | invalidate hpc =>
    exact h.frame (goto_congr Pc.awaits (by simp [hpc, Pc.awaits])) rfl (.inr ⟨_, rfl, rfl⟩)
  | call hret | receive hret =>
    exact h.frame (goto_congr Pc.awaits (by rw [Pc.awaits_of_returned hret]; rfl)) rfl (.inl rfl)
  | printedSreq hpc _ hsreq | printedAreq hpc _ hsreq =>
    exact h.frame (goto_congr Pc.awaits (by simp [hpc, hsreq, Pc.awaits])) rfl (.inl rfl)
  | enter hpc | wrote hpc | print hpc | leave hpc | count hpc | countTimeout hpc | headNull hpc
  | headLinked hpc | access hpc | unlink hpc | release hpc =>
    exact h.frame (goto_congr Pc.awaits (by simp [hpc, Pc.awaits])) rfl (.inl rfl)

/-- **No token outlives its request** in a run of clean steps: with no thread inside the
semaphore is zero, and a token found by a waiting request was posted for an SRSP accepted
after the request had written its frame. -/
theorem srspSem_of_clean (h : Steps step Clean (World.init τ rpcOpen) w) :
    ((∀ t, (w.pc t).inside = false) → w.srspSem = 0) ∧
    ∀ t c, w.pc t = .timedWait c → 0 < w.srspSem →
      ∃ since, WroteLast w.log t c since ∧ ∃ m, .accept m ∈ since := by
  have hinv : Exclusion w ∧ Tidy w := by
    refine h.invariant (I := fun w => Exclusion w ∧ Tidy w) ⟨exclusion_init [], tidy_init []⟩ ?_
    intro s a s' hi hc hs
    have hstep := Step.of_step hs
    exact ⟨hi.1.step hstep, hi.2.step hi.1.locked hc hstep⟩
  refine ⟨fun hfree => ?_, fun t c hpc hpos => ?_⟩
  · by_contra hne
    obtain ⟨t, hwait⟩ := hinv.2.waited (by omega)
    obtain ⟨c, hc⟩ := Option.ne_none_iff_exists'.mp hwait
    have hin := hfree t
    rw [Pc.inside_of_awaits hc] at hin
    cases hin
  · obtain ⟨since, hlast, hans⟩ := hinv.2.waits t c (by rw [hpc]; rfl)
    exact ⟨since, hlast, hans (by omega)⟩

/-- The response to `SYS_PING`. -/
def sysPingSrsp : MtMsg := ⟨0x61, 0x01, [0x79, 0x07, 0x1C]⟩

/-- A thread sends a request without payload up to the wait for its SRSP. -/
def sendSteps (t : τ) (c : Call) : List (Action τ) := .call t c :: List.replicate 9 (.run t)

/-- The RPC thread receives and queues an expected SRSP. -/
def srspSteps (τ : Type) (m : MtMsg) : List (Action τ) := .rx m :: List.replicate 6 .rpc

/-- A waiting request finds a token and returns. -/
def returnSteps (t : τ) : List (Action τ) := List.replicate 3 (.run t)

/-- A second SRSP to one request leaves a token behind when the request has returned. -/
theorem srspSem_duplicate : ∃ w : World Unit, Reachable step (World.init Unit rpcOpen) w ∧
    (∀ t, (w.pc t).inside = false) ∧ w.srspSem = 1 := by
  let as := sendSteps () sysPingCall ++ srspSteps Unit sysPingSrsp ++ srspSteps Unit sysPingSrsp ++
    returnSteps ()
  have hrun : (exec step (World.init Unit rpcOpen) as).isSome = true := rfl
  exact ⟨_, reachable_of_exec (Option.some_get hrun).symm, fun _ => rfl, rfl⟩

/-- A request that waits and has been answered once. -/
theorem srspSem_of_clean_answered :
    ∃ w : World Unit, w.srspSem = 1 ∧ ((∀ t, (w.pc t).inside = false) → w.srspSem = 0) ∧
      ∀ t c, w.pc t = .timedWait c → 0 < w.srspSem →
        ∃ since, WroteLast w.log t c since ∧ ∃ m, .accept m ∈ since := by
  let as := sendSteps () sysPingCall ++ srspSteps Unit sysPingSrsp
  have hclean : Meets step Clean (World.init Unit rpcOpen) as := by decide +kernel
  have hrun : (exec step (World.init Unit rpcOpen) as).isSome = true := rfl
  exact ⟨_, rfl, srspSem_of_clean (Steps.refl.exec_of_meets hclean (Option.some_get hrun).symm)⟩

end ZnpHost.Rpc
