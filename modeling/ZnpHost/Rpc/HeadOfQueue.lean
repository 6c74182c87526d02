import ZnpHost.Rpc.Tokens

/-!
# The response and its requester

One application thread sends an SREQ and then takes a message from the queue, while the
RPC thread receives.  `rpcProcess` posts `srspSem` before it links the SRSP, so the
requester can return before its response is queued, and a second SRSP goes in front of the first.

## Main definitions

* `OneRequest` — the steps of one request followed by one receive.
* `linked` — the accepted SRSPs that are in the queue.
* `Queued` — the invariant of the queue: linked SRSPs, the newest first, then the other messages.
* `ResponseFirst` — the SRSP whose token was taken is at the head, and is the next message.
* `headOfQueue` — so it is exactly when that SRSP is linked and no other one was accepted.
-/

namespace ZnpHost.Rpc

open Lib

variable {w w' : World Unit} {a : Action Unit} {c d : Call} {m : MtMsg} {log : List (Event Unit)}

/-! ## The run of one request -/

/-- The thread calls `rpcSendFrame` once, for `c`, and receives after it has returned. -/
def OneRequest (c : Call) (w : World Unit) : Action Unit → Prop
  | .call _ d => d = c ∧ w.pc () = .idle
  | .receive _ _ => ∃ status, w.pc () = .sent c status
  | _ => True

/-- The accepted SRSP the RPC thread has not linked yet. -/
def RpcPc.unlinked : RpcPc → ℕ
  | .post _ | .accessWait _ true | .link _ true => 1
  | _ => 0

/-- The accepted SRSPs that the RPC thread has linked, the newest first. -/
def linked (w : World Unit) : List MtMsg := (accepted w.log).drop w.rpc.unlinked

/-- The message the RPC thread carries goes to the head because it was accepted last, or to the
tail because it is no SRSP. -/
def RpcPc.sorted (log : List (Event Unit)) : RpcPc → Prop
  | .compare m => m.isSrsp
  | .post m | .accessWait m true | .link m true => (accepted log).head? = some m
  | .accessWait m false | .link m false => ¬ m.isSrsp
  | _ => True

/-- The thread has removed a message, or given up. -/
def Pc.dequeued : Pc → Bool
  | .accessPost _ | .received _ => true
  | _ => false

/-- The linked SRSPs are at the front of the queue, the other messages behind them. -/
structure Queued (w : World Unit) : Prop where
  srsp : ∀ m ∈ accepted w.log, m.isSrsp
  sorted : w.rpc.sorted w.log
  queue : (w.pc ()).dequeued = false →
    ∃ as : List MtMsg, w.rpcLlq = (linked w ++ as).map MtMsg.bytes ∧ ∀ m ∈ as, ¬ m.isSrsp

theorem queued_init {q : List MtMsg} (hq : ∀ m ∈ q, ¬ m.isSrsp) (id : UInt8) :
    Queued (World.init Unit ⟨1, 0, id, q.map MtMsg.bytes⟩) where
  srsp _ hm := nomatch hm
  sorted := trivial
  queue _ := ⟨q, rfl, hq⟩

theorem RpcPc.sorted.congr {p : RpcPc} {log' : List (Event Unit)} (h : p.sorted log)
    (hlog : accepted log' = accepted log) : p.sorted log' := by
  unfold sorted at h ⊢
  rwa [hlog]

/-- A step that leaves the queue and the accepted SRSPs alone. -/
theorem Queued.frame (h : Queued w) (hlog : accepted w'.log = accepted w.log)
    (hsorted : w'.rpc.sorted w.log)
    (hpc : (w'.pc ()).dequeued = false → (w.pc ()).dequeued = false)
    (hllq : w'.rpcLlq = w.rpcLlq) (hrpc : w'.rpc.unlinked = w.rpc.unlinked) : Queued w' where
  srsp := hlog ▸ h.srsp
  sorted := hsorted.congr hlog
  queue hdeq := by
    rw [hllq, linked, hlog, hrpc]
    exact h.queue (hpc hdeq)

/-- An SRSP is accepted: the RPC thread has one more to link. -/
theorem Queued.accept (h : Queued w) (hrpc : w.rpc = .compare m) :
    Queued { w with rpc := .post m, log := .accept m :: w.log } := by
  have hsort := h.sorted
  rw [hrpc] at hsort
  refine ⟨?_, rfl, ?_⟩
  · simpa using ⟨hsort, h.srsp⟩
  · intro hdeq
    simpa [linked, hrpc, RpcPc.unlinked] using h.queue hdeq

/-- The accepted SRSP goes in front of the older ones. -/
theorem Queued.linkHead (h : Queued w) (hrpc : w.rpc = .link m true) :
    Queued { w with rpcLlq := m.bytes :: w.rpcLlq, rpc := .accessPost } := by
  have hsort := h.sorted
  rw [hrpc] at hsort
  obtain ⟨older, holder⟩ := List.head?_eq_some_iff.mp hsort
  refine ⟨h.srsp, trivial, ?_⟩
  intro hdeq
  obtain ⟨as, hq, has⟩ := h.queue hdeq
  refine ⟨as, ?_, has⟩
  simp [hq, linked, hrpc, RpcPc.unlinked, holder]

/-- Any other message goes behind them. -/
theorem Queued.linkTail (h : Queued w) (hrpc : w.rpc = .link m false) :
    Queued { w with rpcLlq := w.rpcLlq ++ [m.bytes], rpc := .accessPost } := by
  have hsort := h.sorted
  rw [hrpc] at hsort
  refine ⟨h.srsp, trivial, ?_⟩
  intro hdeq
  obtain ⟨as, hq, has⟩ := h.queue hdeq
  refine ⟨as ++ [m], by simp [hq, linked, hrpc, RpcPc.unlinked], ?_⟩
  intro m' hm'
  cases List.mem_append.mp hm' with
  | inl hold => exact has m' hold
  | inr heq =>
    rw [List.mem_singleton.mp heq]
    exact hsort

theorem Queued.step (h : Queued w) (hone : OneRequest c w a) (hs : Step w a w') : Queued w' := by
  have hsort := h.sorted
  cases hs with
  | accept hrpc => exact h.accept hrpc
  | linkHead hrpc => exact h.linkHead hrpc
  | linkTail hrpc => exact h.linkTail hrpc
  | rxSrsp hrpc hsrsp => exact h.frame rfl hsrsp id rfl (by simp [hrpc, RpcPc.unlinked])
  | rxAreq hrpc hareq => exact h.frame rfl hareq id rfl (by simp [hrpc, RpcPc.unlinked])
  | discard hrpc | rpcRelease hrpc | countPost hrpc =>
    exact h.frame rfl trivial id rfl (by simp [hrpc, RpcPc.unlinked])
  | post hrpc =>
    rw [hrpc] at hsort
    exact h.frame rfl hsort id rfl (by simp [hrpc, RpcPc.unlinked])
  | @rpcAccess m prio hrpc =>
    rw [hrpc] at hsort
    cases prio with
    | true => exact h.frame rfl hsort id rfl (by simp [hrpc, RpcPc.unlinked])
    | false => exact h.frame rfl hsort id rfl (by simp [hrpc, RpcPc.unlinked])
  | expect hpc =>
    exact h.frame ((accepted_write _).trans (accepted_cons rfl _)) hsort
      (fun _ => by simp [hpc, Pc.dequeued]) rfl rfl
  | noExpect hpc | writeByte hpc =>
    exact h.frame (accepted_write _) hsort (fun _ => by simp [hpc, Pc.dequeued]) rfl rfl
  | take hpc | timeout hpc | invalidate hpc =>
    exact h.frame (accepted_cons rfl _) hsort (fun _ => by simp [hpc, Pc.dequeued]) rfl rfl
  | call hret => exact h.frame rfl hsort (fun _ => by simp [hone.2, Pc.dequeued]) rfl rfl
  | receive hret =>
    obtain ⟨status, hpc⟩ := hone
    exact h.frame rfl hsort (fun _ => by simp [hpc, Pc.dequeued]) rfl rfl
  | enter hpc | wrote hpc | print hpc | printedSreq hpc | printedAreq hpc | leave hpc | count hpc
  | headNull hpc | headLinked hpc | countTimeout hpc | access hpc =>
    exact h.frame rfl hsort (fun _ => by simp [hpc, Pc.dequeued]) rfl rfl
  | unlink | release => exact ⟨h.srsp, hsort, fun hdeq => by simp [Pc.dequeued] at hdeq⟩

/-! ## The request -/

/-- A successful return has taken a token; until the wait is over none is taken, and from the
reset of the identifier on no SRSP is expected. -/
def Pc.took (c : Call) (w : World Unit) : Pc → Prop
  | .idle => takes w.log = 0
  | .semWait d | .setExpected d | .write d _ | .print d _ | .timedWait d =>
    d = c ∧ takes w.log = 0
  | .setInvalid d status => d = c ∧ (status = mtRpcSuccess → 0 < takes w.log)
  | .semPost d status | .sent d status =>
    d = c ∧ (status = mtRpcSuccess → 0 < takes w.log) ∧ w.expectedSrspCmdId = 0xFF
  | _ => True

theorem took_step (hsreq : c.isSreq) (h : (w.pc ()).took c w) (hone : OneRequest c w a)
    (hs : Step w a w') : (w'.pc ()).took c w' := by
  cases hs with
  | call hret =>
    rw [hone.2] at h
    exact ⟨hone.1, h⟩
  | leave hpc =>
    rw [hpc] at h
    exact h
  | enter hpc | writeByte hpc | expect hpc | wrote hpc | print hpc | printedSreq hpc =>
    rw [hpc] at h
    simpa [takes_cons, Event.isTake, Pc.took] using h
  | noExpect hpc hareq =>
    rw [hpc] at h
    exact absurd (h.1 ▸ hsreq) hareq
  | printedAreq hpc _ hareq =>
    rw [hpc] at h
    exact absurd (h.1 ▸ hsreq) hareq
  | take hpc =>
    rw [hpc] at h
    exact ⟨h.1, fun _ => by simp [takes_cons, Event.isTake]⟩
  | timeout hpc =>
    rw [hpc] at h
    exact ⟨h.1, fun hst => absurd hst (by decide)⟩
  | invalidate hpc =>
    rw [hpc] at h
    exact ⟨h.1, by simpa [takes_cons, Event.isTake] using h.2, rfl⟩
  | accept =>
    unfold Pc.took at h ⊢
    simpa [takes_cons, Event.isTake] using h
  | rxSrsp | rxAreq | discard | post | rpcAccess | linkHead | linkTail | rpcRelease
  | countPost => exact h
  | receive | count | countTimeout | headNull | headLinked | access | unlink | release => trivial

/-- What holds in a run of one request. -/
structure Requesting (c : Call) (w : World Unit) : Prop where
  queued : Queued w
  balanced : Balanced w
  accessed : Accessed w
  took : (w.pc ()).took c w

theorem Requesting.step (h : Requesting c w) (hsreq : c.isSreq) (hone : OneRequest c w a)
    (hs : Step w a w') : Requesting c w' where
  queued := h.queued.step hone hs
  balanced := h.balanced.step hs
  accessed := h.accessed.step hs
  took := took_step hsreq h.took hone hs

theorem requesting_of_steps (hsreq : c.isSreq) {q : List MtMsg} (hq : ∀ m ∈ q, ¬ m.isSrsp)
    {id : UInt8}
    (h : Steps step (OneRequest c) (World.init Unit ⟨1, 0, id, q.map MtMsg.bytes⟩) w) :
    Requesting c w :=
  h.invariant ⟨queued_init hq id, balanced_init _ rfl, accessed_init _, rfl⟩
    fun _ _ _ hi hone hs => hi.step hsreq hone (.of_step hs)

/-! ## The head of the queue -/

/-- The SRSP whose acceptance posted the token that is taken: tokens are taken in the order in
which they are posted, and a request takes one. -/
def tokenSrsp (w : World Unit) : Option MtMsg := (accepted w.log).getLast?

/-- That SRSP is the one linked last. -/
def LinkedLast (w : World Unit) : Prop := (linked w).head? = tokenSrsp w

/-- That SRSP is the one accepted last. -/
def AcceptedLast (w : World Unit) : Prop := (accepted w.log).head? = tokenSrsp w

/-- That SRSP is at the head of the queue. -/
def TokenAtHead (w : World Unit) : Prop :=
  ∃ m, tokenSrsp w = some m ∧ w.rpcLlq.head? = some m.bytes

/-- A request that has taken a token has an SRSP for it. -/
theorem Requesting.exists_tokenSrsp (h : Requesting c w)
    (hpc : w.pc () = .sent c mtRpcSuccess) : ∃ m, tokenSrsp w = some m ∧ m ∈ accepted w.log := by
  have htook := h.took
  rw [hpc] at htook
  have hpos := htook.2.1 rfl
  have hbal := h.balanced
  unfold Balanced at hbal
  have hne : accepted w.log ≠ [] := by
    rw [← List.length_pos_iff, length_accepted]
    omega
  exact ⟨_, List.getLast?_eq_some_getLast hne, List.getLast_mem hne⟩

/-- With every message still queued, the SRSP is at the head exactly when it was linked last. -/
theorem Queued.tokenAtHead_iff (h : Queued w) (hdeq : (w.pc ()).dequeued = false)
    (htoken : tokenSrsp w = some m) (hm : m ∈ accepted w.log) :
    TokenAtHead w ↔ LinkedLast w := by
  obtain ⟨as, hq, has⟩ := h.queue hdeq
  simp only [TokenAtHead, LinkedLast, htoken, Option.some.injEq, exists_eq_left', hq]
  cases linked w with
  | nil =>
    refine ⟨fun hhead => ?_, fun hnone => nomatch hnone⟩
    cases as with
    | nil => cases hhead
    | cons b as =>
      have heq : b = m := MtMsg.bytes_injective (Option.some.inj hhead)
      exact absurd (h.srsp m hm) (heq ▸ has b List.mem_cons_self)
  | cons l ls =>
    simp only [List.cons_append, List.map_cons, List.head?_cons, Option.some.injEq]
    exact ⟨fun hbytes => MtMsg.bytes_injective hbytes, fun heq => heq ▸ rfl⟩

/-! ## The next message -/

/-- Until the thread removes a message nothing more is accepted, and `m` stays the SRSP linked
last; the message removed is `m`. -/
def Pc.next (m : MtMsg) (w : World Unit) : Pc → Prop
  | .sent _ _ | .countWait _ | .headTest | .accessWait | .unlink =>
    w.expectedSrspCmdId = 0xFF ∧ (accepted w.log).head? = some m ∧ (linked w).head? = some m
  | .accessPost msg | .received (some msg) => msg = m.bytes
  | .received none => True
  | _ => False

/-- A step of the RPC thread. -/
theorem Pc.next.mono {p : Pc} (h : p.next m w)
    (hstep : w.expectedSrspCmdId = 0xFF → (accepted w.log).head? = some m →
      (linked w).head? = some m → w'.expectedSrspCmdId = 0xFF ∧
        (accepted w'.log).head? = some m ∧ (linked w').head? = some m) : p.next m w' := by
  cases p with
  | sent | countWait | headTest | accessWait | unlink => exact hstep h.1 h.2.1 h.2.2
  | received msg =>
    cases msg with
    | none => trivial
    | some msg => exact h
  | _ => exact h

/-- The head of the queue is the SRSP linked last. -/
theorem Queued.head_eq (h : Queued w) (hdeq : (w.pc ()).dequeued = false)
    (hlinked : (linked w).head? = some m) : w.rpcLlq.head? = some m.bytes := by
  obtain ⟨as, hq, -⟩ := h.queue hdeq
  obtain ⟨ls, hls⟩ := List.head?_eq_some_iff.mp hlinked
  simp [hq, hls]

theorem next_step (h : (w.pc ()).next m w) (hq : Queued w) (hone : OneRequest c w a)
    (hs : Step w a w') : (w'.pc ()).next m w' := by
  cases hs with
  | receive hret =>
    obtain ⟨status, hpc⟩ := hone
    rw [hpc] at h
    exact h
  | count hpc | headLinked hpc | access hpc | release hpc =>
    rw [hpc] at h
    exact h
  | countTimeout => trivial
  | headNull hpc hnil =>
    rw [hpc] at h
    have hhead := hq.head_eq (by simp [hpc, Pc.dequeued]) h.2.2
    simp [hnil] at hhead
  | unlink hpc hllq =>
    rw [hpc] at h
    have hhead := hq.head_eq (by simp [hpc, Pc.dequeued]) h.2.2
    rw [hllq] at hhead
    exact Option.some.inj hhead
  | call hret =>
    rw [hone.2] at h
    exact h.elim
  | enter hpc | expect hpc | noExpect hpc | writeByte hpc | wrote hpc | print hpc
  | printedSreq hpc | printedAreq hpc | take hpc | timeout hpc | invalidate hpc | leave hpc =>
    rw [hpc] at h
    exact h.elim
  | accept hrpc hexp =>
    -- the identifier is invalid
    exact h.mono fun hid => absurd (hexp ▸ hid) (subsystem_ne_invalid _)
  | linkHead hrpc =>
    exact h.mono fun hid hhead _ => ⟨hid, hhead, hhead⟩
  | @rpcAccess m' prio hrpc =>
    refine h.mono fun hid hhead hlinked => ⟨hid, hhead, ?_⟩
    cases prio <;> simpa [linked, hrpc, RpcPc.unlinked] using hlinked
  | rxSrsp hrpc | rxAreq hrpc | discard hrpc | post hrpc | linkTail hrpc | rpcRelease hrpc
  | countPost hrpc =>
    exact h.mono fun hid hhead hlinked =>
      ⟨hid, hhead, by simpa [linked, hrpc, RpcPc.unlinked] using hlinked⟩

/-- The next message is the SRSP that was both linked and accepted last. -/
theorem Requesting.next_eq (h : Requesting c w) (hsreq : c.isSreq)
    (hpc : w.pc () = .sent c mtRpcSuccess) (haccepted : (accepted w.log).head? = some m)
    (hlinked : (linked w).head? = some m) (hs : Steps Rpc.step (OneRequest c) w w')
    {msg : List UInt8} (hmsg : w'.pc () = .received (some msg)) : msg = m.bytes := by
  have htook := h.took
  rw [hpc] at htook
  have hstart : (w.pc ()).next m w := by
    rw [hpc]
    exact ⟨htook.2.2, haccepted, hlinked⟩
  have hinv : Requesting c w' ∧ (w'.pc ()).next m w' := by
    refine hs.invariant (I := fun w => Requesting c w ∧ (w.pc ()).next m w) ⟨h, hstart⟩ ?_
    intro s a s' hi hone hstep
    have hstep := Step.of_step hstep
    exact ⟨hi.1.step hsreq hone hstep, next_step hi.2 hi.1.queued hone hstep⟩
  have hnext := hinv.2
  rw [hmsg] at hnext
  exact hnext

/-! ## A second SRSP -/

/-- `x` is what `w` is after the RPC thread has linked `m`. -/
structure Links (c : Call) (w : World Unit) (m : MtMsg) (x : World Unit) : Prop where
  steps : Steps step (OneRequest c) w x
  rpcLlq : x.rpcLlq = m.bytes :: w.rpcLlq
  pc : x.pc = w.pc
  rpc : x.rpc = .idle
  llqAccessSem : 0 < x.llqAccessSem
  llqCountSem : 0 < x.llqCountSem

/-- A step of the RPC thread on the way. -/
theorem Links.head {x : World Unit} (hs : Step w .rpc w') (halive : w.rpc ≠ .killed)
    (hllq : w'.rpcLlq = w.rpcLlq) (hpc : w'.pc = w.pc) (h : Links c w' m x) : Links c w m x where
  steps := Steps.head (a := Action.rpc) trivial (hs.to_step halive) h.steps
  rpcLlq := hllq ▸ h.rpcLlq
  pc := h.pc.trans hpc
  rpc := h.rpc
  llqAccessSem := h.llqAccessSem
  llqCountSem := h.llqCountSem

theorem links_link (h : w.rpc = .link m true) : ∃ x, Links c w m x := by
  let w₁ : World Unit := { w with rpcLlq := m.bytes :: w.rpcLlq, rpc := .accessPost }
  let w₂ : World Unit := { w₁ with llqAccessSem := w.llqAccessSem + 1, rpc := .countPost }
  let w₃ : World Unit := { w₂ with llqCountSem := w.llqCountSem + 1, rpc := .idle }
  have h₁ : step w .rpc = some w₁ := (Step.linkHead h).to_step (by simp [h])
  have h₂ : step w₁ .rpc = some w₂ := (Step.rpcRelease rfl).to_step (by simp [w₁])
  have h₃ : step w₂ .rpc = some w₃ := (Step.countPost rfl).to_step (by simp [w₂])
  have hexec : exec step w (List.replicate 3 .rpc) = some w₃ := by
    simp [exec, h₁, h₂, h₃]
  exact ⟨w₃, Steps.refl.exec (by simp [OneRequest]) hexec, rfl, rfl, rfl, Nat.succ_pos _,
    Nat.succ_pos _⟩

theorem links_accessWait (h : w.rpc = .accessWait m true) (hpos : 0 < w.llqAccessSem) :
    ∃ x, Links c w m x := by
  obtain ⟨x, hx⟩ := links_link (c := c)
    (w := { w with llqAccessSem := w.llqAccessSem - 1, rpc := .link m true }) rfl
  exact ⟨x, hx.head (.rpcAccess h hpos) (by simp [h]) rfl rfl⟩

theorem links_post (h : w.rpc = .post m) (hpos : 0 < w.llqAccessSem) : ∃ x, Links c w m x := by
  obtain ⟨x, hx⟩ := links_accessWait (c := c)
    (w := { w with srspSem := w.srspSem + 1, rpc := .accessWait m true }) rfl hpos
  exact ⟨x, hx.head (.post h) (by simp [h]) rfl rfl⟩

/-- While the thread does nothing, the SRSP that the RPC thread carries is linked. -/
theorem Requesting.links (h : Requesting c w) (hpc : (w.pc ()).returned = true)
    (hone : w.rpc.unlinked = 1) (hm : (accepted w.log).head? = some m) : ∃ x, Links c w m x := by
  have hsort := h.queued.sorted
  have hthread : (w.pc ()).accesses = false := Pc.accesses_of_returned hpc
  have hfree : w.rpc.accesses = false → 0 < w.llqAccessSem := by
    intro hrpc
    have hsem := h.accessed.eq_one_iff.mpr (by
      rintro (_ | t)
      · simp [World.accesses, hrpc]
      · simp [World.accesses, hthread])
    omega
  cases hrpc : w.rpc with
  | post m' =>
    rw [hrpc] at hsort
    obtain rfl : m' = m := Option.some.inj (hsort.symm.trans hm)
    exact links_post hrpc (hfree (by rw [hrpc]; rfl))
  | accessWait m' prio =>
    cases prio with
    | true =>
      rw [hrpc] at hsort
      obtain rfl : m' = m := Option.some.inj (hsort.symm.trans hm)
      exact links_accessWait hrpc (hfree (by rw [hrpc]; rfl))
    | false => simp [hrpc, RpcPc.unlinked] at hone
  | link m' prio =>
    cases prio with
    | true =>
      rw [hrpc] at hsort
      obtain rfl : m' = m := Option.some.inj (hsort.symm.trans hm)
      exact links_link hrpc
    | false => simp [hrpc, RpcPc.unlinked] at hone
  | idle | compare | accessPost | countPost | killed => simp [hrpc, RpcPc.unlinked] at hone

/-- The thread takes the head of the queue. -/
theorem Links.receives {x : World Unit} (h : Links c w m x)
    (hpc : w.pc () = .sent c mtRpcSuccess) :
    ∃ x', Steps step (OneRequest c) w x' ∧ x'.pc () = .received (some m.bytes) := by
  have hsent : x.pc () = .sent c mtRpcSuccess := by rw [h.pc, hpc]
  have halive : x.rpc ≠ .killed := by simp [h.rpc]
  have hreceive : Steps step (OneRequest c) w (x.goto () (.countWait true)) :=
    h.steps.tail (a := Action.receive () true) ⟨_, hsent⟩
      ((Step.receive (by rw [hsent]; rfl)).to_step halive)
  have hrun : ∃ x', exec step (x.goto () (.countWait true)) (List.replicate 5 (.run ())) =
      some x' ∧ x'.pc () = .received (some m.bytes) := by
    simp [exec, step, stepAlive, runThread, h.rpc, h.rpcLlq, h.llqAccessSem, h.llqCountSem,
      World.goto]
  obtain ⟨x', hexec, hx'⟩ := hrun
  exact ⟨x', hreceive.exec (by simp [OneRequest]) hexec, hx'⟩

/-! ## The result -/

/-- What a request that has returned success should find: the SRSP of its token is at the head
of the queue, and the next message that it takes is that SRSP. -/
structure ResponseFirst (c : Call) (w : World Unit) : Prop where
  at_head : TokenAtHead w
  next_message : ∀ w' msg, Steps step (OneRequest c) w w' → w'.pc () = .received (some msg) →
    ∃ m, tokenSrsp w = some m ∧ msg = m.bytes

/-- **The response at the head of the queue**, for any number of AREQ messages queued before,
any frames received and any interleaving of the two threads: the SRSP of the token is found at
the head and taken next exactly when it is both the SRSP linked last and the one accepted last. -/
theorem headOfQueue (hsreq : c.isSreq) {q : List MtMsg} (hq : ∀ m ∈ q, ¬ m.isSrsp) (id : UInt8)
    (h : Steps step (OneRequest c) (World.init Unit ⟨1, 0, id, q.map MtMsg.bytes⟩) w)
    (hpc : w.pc () = .sent c mtRpcSuccess) :
    ResponseFirst c w ↔ LinkedLast w ∧ AcceptedLast w := by
  have hreq := requesting_of_steps hsreq hq h
  obtain ⟨m, htoken, hmem⟩ := hreq.exists_tokenSrsp hpc
  have hhead := hreq.queued.tokenAtHead_iff (by simp [hpc, Pc.dequeued]) htoken hmem
  constructor
  · intro hfirst
    have hlinked := hhead.mp hfirst.at_head
    refine ⟨hlinked, ?_⟩
    by_contra hother
    -- the SRSP accepted last is another one, and the RPC thread still carries it
    obtain ⟨m', rest, hm'⟩ := List.exists_cons_of_ne_nil (List.ne_nil_of_mem hmem)
    have hnewest : (accepted w.log).head? = some m' := by rw [hm']; rfl
    have hone : w.rpc.unlinked = 1 := by
      by_contra hne
      have hzero : w.rpc.unlinked = 0 := by
        unfold RpcPc.unlinked at hne ⊢
        split at hne <;> simp_all
      exact hother (by simpa [LinkedLast, AcceptedLast, linked, hzero] using hlinked)
    obtain ⟨x, hx⟩ := hreq.links (by rw [hpc]; rfl) hone hnewest
    obtain ⟨x', hsteps, hreceived⟩ := hx.receives hpc
    obtain ⟨m₁, htoken₁, hbytes⟩ := hfirst.next_message x' _ hsteps hreceived
    rw [AcceptedLast, hnewest, htoken₁, MtMsg.bytes_injective hbytes] at hother
    exact hother rfl
  · rintro ⟨hlinked, haccepted⟩
    refine ⟨hhead.mpr hlinked, ?_⟩
    intro w' msg hs hmsg
    exact ⟨m, htoken, hreq.next_eq hsreq hpc (haccepted.trans htoken) (hlinked.trans htoken) hs
      hmsg⟩

/-- `ZDO_STATE_CHANGE_IND`, which the device sends on its own. -/
def zdoStateChangeInd : MtMsg := ⟨0x45, 0xC0, [9, 0x8D]⟩

/-- One request with an AREQ in the queue. -/
def pingStart : World Unit := World.init Unit ⟨1, 0, 0xFF, [zdoStateChangeInd].map MtMsg.bytes⟩

/-- The request is sent and waits, then `rpcProcess` runs for `n` steps on its response, and
then the request returns. -/
def pingReturns (n : ℕ) : List (Action Unit) :=
  List.replicate 9 (.run ()) ++ .rx sysPingSrsp :: List.replicate n .rpc ++ returnSteps ()

theorem steps_pingReturns {n : ℕ} {w : World Unit}
    (h : exec step (pingStart.goto () (.semWait sysPingCall)) (pingReturns n) = some w) :
    Steps step (OneRequest sysPingCall) pingStart w := by
  have hcall : Steps step (OneRequest sysPingCall) pingStart
      (pingStart.goto () (.semWait sysPingCall)) :=
    Steps.refl.tail (a := Action.call () sysPingCall) ⟨rfl, rfl⟩ rfl
  refine hcall.exec ?_ h
  intro a ha x
  simp only [pingReturns, returnSteps, List.mem_append, List.mem_cons, List.mem_replicate] at ha
  obtain (⟨-, rfl⟩ | rfl | ⟨-, rfl⟩) | ⟨-, rfl⟩ := ha <;> trivial

/-- When the response is linked in time, it is taken next. -/
theorem headOfQueue_ping : ∃ w, Steps step (OneRequest sysPingCall) pingStart w ∧
    ResponseFirst sysPingCall w := by
  have hrun : (exec step (pingStart.goto () (.semWait sysPingCall)) (pingReturns 6)).isSome =
      true := rfl
  have hsteps := steps_pingReturns (Option.some_get hrun).symm
  exact ⟨_, hsteps, (headOfQueue (by decide) (by decide) 0xFF hsteps rfl).mpr ⟨rfl, rfl⟩⟩

/-- The requester returns between the post of its token and the link of its response, and
takes the AREQ that was queued before. -/
theorem areq_before_response :
    ∃ w w' : World Unit, Steps step (OneRequest sysPingCall) pingStart w ∧
      w.pc () = .sent sysPingCall mtRpcSuccess ∧ ¬ ResponseFirst sysPingCall w ∧
      Steps step (OneRequest sysPingCall) w w' ∧
      w'.pc () = .received (some zdoStateChangeInd.bytes) := by
  have hrun : (exec step (pingStart.goto () (.semWait sysPingCall)) (pingReturns 2)).isSome =
      true := rfl
  have hsent := steps_pingReturns (Option.some_get hrun).symm
  let w := (exec step (pingStart.goto () (.semWait sysPingCall)) (pingReturns 2)).get hrun
  have hpc : w.pc () = .sent sysPingCall mtRpcSuccess := rfl
  have hreceive : Steps step (OneRequest sysPingCall) w (w.goto () (.countWait true)) :=
    Steps.refl.tail (a := Action.receive () true) ⟨_, hpc⟩ ((Step.receive rfl).to_step nofun)
  have htake : (exec step (w.goto () (.countWait true)) (List.replicate 5 (.run ()))).isSome =
      true := rfl
  have hreceived := hreceive.exec (by simp [OneRequest]) (Option.some_get htake).symm
  refine ⟨w, _, hsent, hpc, ?_, hreceived, rfl⟩
  intro hfirst
  obtain ⟨m, htoken, hbytes⟩ := hfirst.next_message _ _ hreceived rfl
  obtain rfl : sysPingSrsp = m := Option.some.inj htoken
  exact absurd hbytes (by decide)

end ZnpHost.Rpc
