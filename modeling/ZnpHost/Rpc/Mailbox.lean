import ZnpHost.Lib.Observation
import ZnpHost.Rpc.HeadOfQueue
import ZnpHost.Rpc.Rest

/-!
# What the application gets, and in which order

However many threads send and receive, the queue is a mailbox: a stack of accepted SRSPs in
front of a line of the other messages.  A message that the RPC thread has received goes there
once and is taken by one thread, and the AREQs are taken in the order in which they arrived.

## Main definitions

* `Mailbox`, `mailStep` — the mailbox, and what may happen to it.
* `mailEvents` — the steps of the RPC layer that move a message.
* `Shows` — the mailbox that a state of the RPC layer shows.
* `runs_mailbox` — every run is one of the mailbox.
* `areqs_in_order` — what follows for the application.
-/

namespace ZnpHost.Rpc

open Lib

variable {τ : Type}

/-! ## The mailbox -/

/-- What happens to a message. -/
inductive MailEvent (τ : Type)
  /-- A message that is no SRSP has arrived, or an SRSP was accepted. -/
  | arrive (m : MtMsg)
  /-- The RPC thread links it. -/
  | link
  | take (t : τ) (msg : List UInt8)

/-- The message in the hand of the RPC thread, the SRSPs and the other messages. -/
structure Mailbox where
  hand : Option MtMsg
  srsps : List MtMsg
  areqs : List MtMsg

namespace Mailbox

/-- Messages that wait to be taken. -/
def ofAreqs (q : List MtMsg) : Mailbox := ⟨none, [], q⟩

/-- The newest SRSP is taken first; without one, the oldest of the other messages. -/
def contents (b : Mailbox) : List MtMsg := b.srsps ++ b.areqs

end Mailbox

/-- What may happen to the mailbox. -/
def mailStep (b : Mailbox) : MailEvent τ → Option Mailbox
  | .arrive m => if b.hand = none then some { b with hand := some m } else none
  | .link =>
    match b.hand with
    | none => none
    | some m =>
      if m.isSrsp then some ⟨none, m :: b.srsps, b.areqs⟩
      else some ⟨none, b.srsps, b.areqs ++ [m]⟩
  | .take _ msg =>
    match b.srsps, b.areqs with
    | m :: srsps, _ => if m.bytes = msg then some { b with srsps } else none
    | [], m :: areqs => if m.bytes = msg then some { b with areqs } else none
    | [], [] => none

/-! ## The RPC layer -/

/-- The message that the RPC thread is about to link. -/
def RpcPc.hand : RpcPc → Option MtMsg
  | .post m | .accessWait m _ | .link m _ => some m
  | .idle | .compare _ | .accessPost | .countPost | .killed => none

/-- An SRSP is linked at the head and any other message at the tail. -/
def RpcPc.placed : RpcPc → Prop
  | .compare m | .post m => m.isSrsp
  | .accessWait m prio | .link m prio => prio = true ↔ m.isSrsp
  | .idle | .accessPost | .countPost | .killed => True

/-- The events of a step. -/
def mailEvents (w : World τ) : Action τ → List (MailEvent τ)
  | .rx m => if m.isSrsp then [] else [.arrive m]
  | .rpc =>
    match w.rpc with
    | .compare m => if w.expectedSrspCmdId = subsystem m.cmd0 then [.arrive m] else []
    | .link _ _ => [.link]
    | _ => []
  | .run t =>
    match w.pc t, w.rpcLlq with
    | .unlink, msg :: _ => [.take t msg]
    | _, _ => []
  | .call _ _ | .receive _ _ | .timeout _ => []

/-- The mailbox that a state shows. -/
structure Shows (w : World τ) (b : Mailbox) : Prop where
  queue : w.rpcLlq = b.contents.map MtMsg.bytes
  hand : b.hand = w.rpc.hand
  placed : w.rpc.placed
  srsps : ∀ m ∈ b.srsps, m.isSrsp
  areqs : ∀ m ∈ b.areqs, ¬ m.isSrsp

theorem shows_init {q : List MtMsg} (hq : ∀ m ∈ q, ¬ m.isSrsp) :
    Shows (World.init τ { rpcOpen with rpcLlq := q.map MtMsg.bytes }) (.ofAreqs q) where
  queue := rfl
  hand := rfl
  placed := trivial
  srsps m hm := by simp [Mailbox.ofAreqs] at hm
  areqs := hq

section Step

variable {w w' : World τ} {b : Mailbox} {a : Action τ}

/-- A step that moves no message. -/
theorem Shows.frame (h : Shows w b) (hqueue : w'.rpcLlq = w.rpcLlq)
    (hhand : w'.rpc.hand = w.rpc.hand) (hplaced : w'.rpc.placed) : Shows w' b where
  queue := hqueue.trans h.queue
  hand := h.hand.trans hhand.symm
  placed := hplaced
  srsps := h.srsps
  areqs := h.areqs

/-- A message comes into the hand of the RPC thread. -/
theorem Shows.arrive {m : MtMsg} (h : Shows w b) (hfree : w.rpc.hand = none)
    (hqueue : w'.rpcLlq = w.rpcLlq) (hhand : w'.rpc.hand = some m) (hplaced : w'.rpc.placed) :
    ∃ b', exec (@mailStep τ) b [.arrive m] = some b' ∧ Shows w' b' := by
  have hnone : b.hand = none := h.hand.trans hfree
  refine ⟨{ b with hand := some m }, by simp [exec, mailStep, hnone], ?_⟩
  exact ⟨hqueue.trans h.queue, hhand.symm, hplaced, h.srsps, h.areqs⟩

theorem Shows.linkHead {m : MtMsg} (h : Shows w b) (hrpc : w.rpc = .link m true) :
    ∃ b', exec (@mailStep τ) b [.link] = some b' ∧
      Shows { w with rpcLlq := m.bytes :: w.rpcLlq, rpc := .accessPost } b' := by
  have hhand : b.hand = some m := by rw [h.hand, hrpc]; rfl
  have hsrsp : m.isSrsp := by
    have hplaced := h.placed
    rw [hrpc] at hplaced
    exact hplaced.mp rfl
  refine ⟨⟨none, m :: b.srsps, b.areqs⟩, by simp [exec, mailStep, hhand, hsrsp], ?_⟩
  refine ⟨by simp [h.queue, Mailbox.contents], rfl, trivial, ?_, h.areqs⟩
  intro m' hm'
  cases List.mem_cons.mp hm' with
  | inl heq => exact heq ▸ hsrsp
  | inr hold => exact h.srsps m' hold

theorem Shows.linkTail {m : MtMsg} (h : Shows w b) (hrpc : w.rpc = .link m false) :
    ∃ b', exec (@mailStep τ) b [.link] = some b' ∧
      Shows { w with rpcLlq := w.rpcLlq ++ [m.bytes], rpc := .accessPost } b' := by
  have hhand : b.hand = some m := by rw [h.hand, hrpc]; rfl
  have hareq : ¬ m.isSrsp := by
    have hplaced := h.placed
    rw [hrpc] at hplaced
    intro hsrsp
    exact Bool.noConfusion (hplaced.mpr hsrsp)
  refine ⟨⟨none, b.srsps, b.areqs ++ [m]⟩, by simp [exec, mailStep, hhand, hareq], ?_⟩
  refine ⟨by simp [h.queue, Mailbox.contents], rfl, trivial, h.srsps, ?_⟩
  intro m' hm'
  cases List.mem_append.mp hm' with
  | inl hold => exact h.areqs m' hold
  | inr heq =>
    rw [List.mem_singleton.mp heq]
    exact hareq

variable [DecidableEq τ]

theorem Shows.unlink {t : τ} {msg : List UInt8} {q : List (List UInt8)} (h : Shows w b)
    (hllq : w.rpcLlq = msg :: q) :
    ∃ b', exec mailStep b [MailEvent.take t msg] = some b' ∧
      Shows ({ w with rpcLlq := q }.goto t (.accessPost msg)) b' := by
  have hqueue := hllq.symm.trans h.queue
  cases hs : b.srsps with
  | cons m srsps =>
    simp only [Mailbox.contents, hs, List.cons_append, List.map_cons, List.cons.injEq] at hqueue
    refine ⟨{ b with srsps }, by simp [exec, mailStep, hs, hqueue.1], ?_⟩
    refine ⟨hqueue.2, h.hand, h.placed, ?_, h.areqs⟩
    intro m' hm'
    exact h.srsps m' (hs ▸ List.mem_cons_of_mem m hm')
  | nil =>
    cases ha : b.areqs with
    | nil => simp [Mailbox.contents, hs, ha] at hqueue
    | cons m areqs =>
      simp only [Mailbox.contents, hs, ha, List.nil_append, List.map_cons,
        List.cons.injEq] at hqueue
      refine ⟨{ b with areqs }, by simp [exec, mailStep, hs, ha, hqueue.1], ?_⟩
      refine ⟨by simp [Mailbox.contents, hs, hqueue.2], h.hand, h.placed, h.srsps, ?_⟩
      intro m' hm'
      exact h.areqs m' (ha ▸ List.mem_cons_of_mem m hm')

/-- **One step** of the RPC layer is a step of the mailbox, or none. -/
theorem Shows.step (h : Shows w b) (hs : Step w a w') :
    ∃ b', exec mailStep b (mailEvents w a) = some b' ∧ Shows w' b' := by
  have hplaced := h.placed
  cases hs with
  | @rxSrsp m hrpc hsrsp =>
    simp only [mailEvents, hsrsp, if_true]
    exact ⟨b, rfl, h.frame rfl (by rw [hrpc]; rfl) hsrsp⟩
  | @rxAreq m hrpc hareq =>
    simp only [mailEvents, hareq, if_false]
    exact h.arrive (by rw [hrpc]; rfl) rfl rfl ⟨fun hprio => Bool.noConfusion hprio,
      fun hsrsp => absurd hsrsp hareq⟩
  | @accept m hrpc hexp =>
    rw [hrpc] at hplaced
    simp only [mailEvents, hrpc, hexp, if_true]
    exact h.arrive (by rw [hrpc]; rfl) rfl rfl hplaced
  | @discard m hrpc hexp =>
    simp only [mailEvents, hrpc, hexp, if_false]
    exact ⟨b, rfl, h.frame rfl (by rw [hrpc]; rfl) trivial⟩
  | @linkHead m hrpc =>
    simp only [mailEvents, hrpc]
    exact h.linkHead hrpc
  | @linkTail m hrpc =>
    simp only [mailEvents, hrpc]
    exact h.linkTail hrpc
  | @post m hrpc =>
    rw [hrpc] at hplaced
    simp only [mailEvents, hrpc]
    exact ⟨b, rfl, h.frame rfl (by rw [hrpc]; rfl) (iff_of_true rfl hplaced)⟩
  | @rpcAccess m prio hrpc hpos =>
    rw [hrpc] at hplaced
    simp only [mailEvents, hrpc]
    exact ⟨b, rfl, h.frame rfl (by rw [hrpc]; rfl) hplaced⟩
  | rpcRelease hrpc | countPost hrpc =>
    simp only [mailEvents, hrpc]
    exact ⟨b, rfl, h.frame rfl (by rw [hrpc]; rfl) trivial⟩
  | @unlink t msg q hpc hllq =>
    simp only [mailEvents, hpc, hllq]
    exact h.unlink hllq
  | call | receive | timeout | countTimeout => exact ⟨b, rfl, h.frame rfl rfl hplaced⟩
  | enter hpc | expect hpc | noExpect hpc | writeByte hpc | wrote hpc | print hpc
  | printedSreq hpc | printedAreq hpc | take hpc | invalidate hpc | leave hpc | count hpc
  | headNull hpc | headLinked hpc | access hpc | release hpc =>
    simp only [mailEvents, hpc]
    exact ⟨b, rfl, h.frame rfl rfl hplaced⟩

end Step

/-! ## Orders -/

/-- The messages that have arrived, SRSPs as they are accepted. -/
def arrivals (es : List (MailEvent τ)) : List MtMsg :=
  es.filterMap fun e => match e with
    | .arrive m => some m
    | .link | .take _ _ => none

/-- The messages taken, with the threads that took them. -/
def takenBy (es : List (MailEvent τ)) : List (τ × List UInt8) :=
  es.filterMap fun e => match e with
    | .take t msg => some (t, msg)
    | .arrive _ | .link => none

/-- The SRSPs of a list. -/
def srspsOf (ms : List MtMsg) : List MtMsg := ms.filter fun m => m.isSrsp

/-- The other messages. -/
def areqsOf (ms : List MtMsg) : List MtMsg := ms.filter fun m => ¬ m.isSrsp

theorem srspsOf_append (ms ms' : List MtMsg) : srspsOf (ms ++ ms') = srspsOf ms ++ srspsOf ms' :=
  List.filter_append ..

theorem areqsOf_append (ms ms' : List MtMsg) : areqsOf (ms ++ ms') = areqsOf ms ++ areqsOf ms' :=
  List.filter_append ..

/-- The mailbox holds SRSPs and other messages in their places. -/
structure Mailbox.Sorted (b : Mailbox) : Prop where
  srsps : ∀ m ∈ b.srsps, m.isSrsp
  areqs : ∀ m ∈ b.areqs, ¬ m.isSrsp

/-- What became of the messages that have arrived since the mailbox held `q`: other messages than
SRSPs are taken in the order of their arrival, and no SRSP is lost or taken twice. -/
structure MailOrder (q : List MtMsg) (es : List (MailEvent τ)) (taken : List (τ × MtMsg))
    (b : Mailbox) : Prop where
  bytes : taken.map (fun x => (x.1, x.2.bytes)) = takenBy es
  areqs : q ++ areqsOf (arrivals es) =
    areqsOf (taken.map Prod.snd) ++ b.areqs ++ areqsOf b.hand.toList
  srsps : (srspsOf (arrivals es)).Perm
    (srspsOf (taken.map Prod.snd) ++ b.srsps ++ srspsOf b.hand.toList)
  sorted : b.Sorted

namespace MailOrder

variable {q : List MtMsg} {es : List (MailEvent τ)} {taken : List (τ × MtMsg)} {b b' : Mailbox}

theorem init (hq : ∀ m ∈ q, ¬ m.isSrsp) :
    MailOrder q ([] : List (MailEvent τ)) [] (.ofAreqs q) where
  bytes := rfl
  areqs := by simp [arrivals, areqsOf, Mailbox.ofAreqs]
  srsps := by simp [arrivals, srspsOf, Mailbox.ofAreqs]
  sorted := ⟨by simp [Mailbox.ofAreqs], hq⟩

theorem arrive (h : MailOrder q es taken b) {m : MtMsg} (hnone : b.hand = none) :
    MailOrder q (es ++ [.arrive m]) taken { b with hand := some m } where
  bytes := by simpa [takenBy] using h.bytes
  areqs := by
    have hareqs := h.areqs
    simp only [hnone, Option.toList_none] at hareqs
    have harr : arrivals (es ++ [.arrive m]) = arrivals es ++ [m] := by simp [arrivals]
    rw [harr, areqsOf_append, ← List.append_assoc, hareqs]
    simp [areqsOf]
  srsps := by
    have hsrsps := h.srsps
    simp only [hnone, Option.toList_none] at hsrsps
    have harr : arrivals (es ++ [.arrive m]) = arrivals es ++ [m] := by simp [arrivals]
    rw [harr, srspsOf_append]
    have hsame : srspsOf ([] : List MtMsg) = [] := rfl
    rw [hsame, List.append_nil] at hsrsps
    exact hsrsps.append_right _
  sorted := ⟨h.sorted.srsps, h.sorted.areqs⟩

theorem linkHead (h : MailOrder q es taken b) {m : MtMsg} (hhand : b.hand = some m)
    (hsrsp : m.isSrsp) : MailOrder q (es ++ [.link]) taken ⟨none, m :: b.srsps, b.areqs⟩ where
  bytes := by simpa [takenBy] using h.bytes
  areqs := by
    have hareqs := h.areqs
    have harr : arrivals (es ++ [.link]) = arrivals es := by simp [arrivals]
    rw [harr, hareqs]
    simp [areqsOf, hhand, hsrsp]
  srsps := by
    have harr : arrivals (es ++ [.link]) = arrivals es := by simp [arrivals]
    have hlast : srspsOf b.hand.toList = [m] := by simp [srspsOf, hhand, hsrsp]
    have hsrsps := h.srsps
    rw [hlast, List.append_assoc] at hsrsps
    rw [harr]
    refine hsrsps.trans ?_
    have hnil : srspsOf (Option.toList none) = [] := rfl
    rw [hnil, List.append_nil]
    exact (List.perm_append_singleton m b.srsps).append_left _
  sorted := by
    refine ⟨?_, h.sorted.areqs⟩
    intro m' hm'
    cases List.mem_cons.mp hm' with
    | inl heq => exact heq ▸ hsrsp
    | inr hold => exact h.sorted.srsps m' hold

theorem linkTail (h : MailOrder q es taken b) {m : MtMsg} (hhand : b.hand = some m)
    (hareq : ¬ m.isSrsp) :
    MailOrder q (es ++ [.link]) taken ⟨none, b.srsps, b.areqs ++ [m]⟩ where
  bytes := by simpa [takenBy] using h.bytes
  areqs := by
    have harr : arrivals (es ++ [.link]) = arrivals es := by simp [arrivals]
    rw [harr, h.areqs]
    simp [areqsOf, hhand, hareq]
  srsps := by
    have harr : arrivals (es ++ [.link]) = arrivals es := by simp [arrivals]
    have hnone : srspsOf b.hand.toList = [] := by simp [srspsOf, hhand, hareq]
    have hsrsps := h.srsps
    rw [hnone] at hsrsps
    rw [harr]
    exact hsrsps
  sorted := by
    refine ⟨h.sorted.srsps, ?_⟩
    intro m' hm'
    cases List.mem_append.mp hm' with
    | inl hold => exact h.sorted.areqs m' hold
    | inr heq =>
      rw [List.mem_singleton.mp heq]
      exact hareq

theorem takeSrsp (h : MailOrder q es taken b) {t : τ} {m : MtMsg} {srsps : List MtMsg}
    (hs : b.srsps = m :: srsps) :
    MailOrder q (es ++ [.take t m.bytes]) (taken ++ [(t, m)]) { b with srsps } where
  bytes := by simp [takenBy, h.bytes]
  areqs := by
    have hsrsp := h.sorted.srsps m (by simp [hs])
    have harr : arrivals (es ++ [.take t m.bytes]) = arrivals es := by simp [arrivals]
    rw [harr, h.areqs, List.map_append, areqsOf_append]
    simp [areqsOf, hsrsp]
  srsps := by
    have hsrsp := h.sorted.srsps m (by simp [hs])
    have harr : arrivals (es ++ [.take t m.bytes]) = arrivals es := by simp [arrivals]
    have hone : srspsOf [m] = [m] := by simp [srspsOf, hsrsp]
    have hsrsps := h.srsps
    rw [hs] at hsrsps
    rw [harr, List.map_append, srspsOf_append]
    simpa [hone] using hsrsps
  sorted := ⟨fun m' hm' => h.sorted.srsps m' (hs ▸ List.mem_cons_of_mem m hm'), h.sorted.areqs⟩

theorem takeAreq (h : MailOrder q es taken b) {t : τ} {m : MtMsg} {areqs : List MtMsg}
    (ha : b.areqs = m :: areqs) :
    MailOrder q (es ++ [.take t m.bytes]) (taken ++ [(t, m)]) { b with areqs } where
  bytes := by simp [takenBy, h.bytes]
  areqs := by
    have hareq := h.sorted.areqs m (by simp [ha])
    have harr : arrivals (es ++ [.take t m.bytes]) = arrivals es := by simp [arrivals]
    have hone : areqsOf [m] = [m] := by simp [areqsOf, hareq]
    rw [harr, h.areqs, List.map_append, areqsOf_append, ha]
    simp [hone]
  srsps := by
    have hareq := h.sorted.areqs m (by simp [ha])
    have harr : arrivals (es ++ [.take t m.bytes]) = arrivals es := by simp [arrivals]
    have hnone : srspsOf [m] = [] := by simp [srspsOf, hareq]
    rw [harr, List.map_append, srspsOf_append]
    simpa [hnone] using h.srsps
  sorted := ⟨h.sorted.srsps, fun m' hm' => h.sorted.areqs m' (ha ▸ List.mem_cons_of_mem m hm')⟩

theorem step (h : MailOrder q es taken b) {e : MailEvent τ} (he : mailStep b e = some b') :
    ∃ taken', MailOrder q (es ++ [e]) taken' b' := by
  cases e with
  | arrive m =>
    simp only [mailStep] at he
    split at he <;> cases he
    exact ⟨taken, h.arrive ‹_›⟩
  | link =>
    cases hhand : b.hand with
    | none => simp [mailStep, hhand] at he
    | some m =>
      simp only [mailStep, hhand] at he
      split at he <;> cases he
      · exact ⟨taken, h.linkHead hhand ‹_›⟩
      · exact ⟨taken, h.linkTail hhand ‹_›⟩
  | take t msg =>
    cases hs : b.srsps with
    | cons m srsps =>
      simp only [mailStep, hs] at he
      split at he <;> cases he
      subst msg
      exact ⟨_, h.takeSrsp hs⟩
    | nil =>
      cases ha : b.areqs with
      | nil => simp [mailStep, hs, ha] at he
      | cons m areqs =>
        simp only [mailStep, hs, ha] at he
        split at he <;> cases he
        subst msg
        have htake := h.takeAreq (t := t) ha
        rw [hs] at htake
        exact ⟨_, htake⟩

/-- **Every run of the mailbox keeps the order.** -/
theorem exec {more : List (MailEvent τ)} (h : MailOrder q es taken b)
    (he : exec mailStep b more = some b') : ∃ taken', MailOrder q (es ++ more) taken' b' := by
  induction more generalizing es taken b with
  | nil =>
    simp only [Lib.exec, Option.some.injEq] at he
    subst he
    rw [List.append_nil]
    exact ⟨taken, h⟩
  | cons e more ih =>
    obtain ⟨b₁, h₁, hrest⟩ := Option.bind_eq_some_iff.mp he
    obtain ⟨taken₁, hnext⟩ := h.step h₁
    obtain ⟨taken', hall⟩ := ih hnext hrest
    rw [List.append_assoc] at hall
    exact ⟨taken', hall⟩

end MailOrder

/-! ## Every run -/

section Runs

variable [DecidableEq τ] {q : List MtMsg} {w : World τ} {as : List (Action τ)}

/-- The state after `rpcOpen`, with messages that are queued already. -/
def World.opened (τ : Type) (q : List MtMsg) : World τ :=
  World.init τ { rpcOpen with rpcLlq := q.map MtMsg.bytes }

/-- The events of a schedule after `rpcOpen`. -/
def mailHistory (q : List MtMsg) (as : List (Action τ)) : List (MailEvent τ) :=
  outputs step mailEvents (World.opened τ q) as

/-- **The RPC layer runs the mailbox.** -/
theorem runs_mailbox (hq : ∀ m ∈ q, ¬ m.isSrsp) (h : exec step (World.opened τ q) as = some w) :
    ∃ b, exec mailStep (.ofAreqs q) (mailHistory q as) = some b ∧ Shows w b :=
  exec_outputs_simulates (fun _ _ _ _ hs hstep => hs.step (.of_step hstep)) (shows_init hq) h

/-- The messages other than SRSPs that the RPC thread has read. -/
def areqsRead (as : List (Action τ)) : List MtMsg :=
  as.filterMap fun a => match a with
    | .rx m => if m.isSrsp then none else some m
    | _ => none

/-- They arrive in the order in which they are read. -/
theorem areqsOf_arrivals {w₀ : World τ} {b : Mailbox} (hshows : Shows w₀ b)
    (h : exec step w₀ as = some w) :
    areqsOf (arrivals (outputs step mailEvents w₀ as)) = areqsRead as := by
  induction as generalizing w₀ b with
  | nil => rfl
  | cons a as ih =>
    obtain ⟨w₁, h₁, hrest⟩ := Option.bind_eq_some_iff.mp h
    obtain ⟨b₁, -, hshows₁⟩ := hshows.step (.of_step h₁)
    have hone : areqsOf (arrivals (mailEvents w₀ a)) = areqsRead [a] := by
      have hplaced := hshows.placed
      cases a with
      | rx m => by_cases hm : m.isSrsp <;> simp [mailEvents, arrivals, areqsOf, areqsRead, hm]
      | rpc =>
        cases hrpc : w₀.rpc with
        | compare m =>
          rw [hrpc] at hplaced
          have hsrsp : m.isSrsp := hplaced
          by_cases hexp : w₀.expectedSrspCmdId = subsystem m.cmd0 <;>
            simp [mailEvents, hrpc, hexp, arrivals, areqsOf, areqsRead, hsrsp]
        | _ => simp [mailEvents, hrpc, arrivals, areqsOf, areqsRead]
      | run t =>
        simp only [mailEvents]
        split <;> rfl
      | _ => rfl
    rw [outputs_cons as h₁, arrivals, List.filterMap_append, areqsOf_append]
    have happend : areqsRead (a :: as) = areqsRead [a] ++ areqsRead as := by
      simp only [areqsRead, ← List.filterMap_append, List.singleton_append]
    rw [happend, ← ih hshows₁ hrest, ← hone]
    rfl

/-- A message that a thread has in hand or has returned was taken by it. -/
def Pc.holds (es : List (MailEvent τ)) (t : τ) : Pc → Prop
  | .accessPost msg | .received (some msg) => (t, msg) ∈ takenBy es
  | _ => True

omit [DecidableEq τ] in
theorem Pc.holds.append {es : List (MailEvent τ)} {t : τ} {p : Pc} (h : p.holds es t)
    (more : List (MailEvent τ)) : p.holds (es ++ more) t := by
  have happend : takenBy (es ++ more) = takenBy es ++ takenBy more := List.filterMap_append ..
  cases p with
  | accessPost msg =>
    rw [holds, happend]
    exact List.mem_append_left _ h
  | received msg =>
    cases msg with
    | none => trivial
    | some msg =>
      rw [holds, happend]
      exact List.mem_append_left _ h
  | _ => trivial

theorem holds_goto {es : List (MailEvent τ)} {x : World τ} {t : τ} {p : Pc}
    (h : ∀ u, (x.pc u).holds es u) (hp : p.holds es t) : ∀ u, ((x.goto t p).pc u).holds es u := by
  intro u
  by_cases hu : u = t
  · subst hu
    simpa using hp
  · simpa [hu] using h u

theorem holds_step {w w' : World τ} {a : Action τ} {es : List (MailEvent τ)}
    (h : ∀ t, (w.pc t).holds es t) (hhead : ∀ t, w.pc t = .headTest → w.rpcLlq ≠ [])
    (hs : Step w a w') : ∀ t, (w'.pc t).holds (es ++ mailEvents w a) t := by
  have hmore := fun u => (h u).append (mailEvents w a)
  cases hs with
  | headNull hpc hnil => exact absurd hnil (hhead _ hpc)
  | @unlink t msg q hpc hllq =>
    refine holds_goto hmore ?_
    simp [Pc.holds, mailEvents, hpc, hllq, takenBy]
  | @release t msg hpc =>
    have ht := hmore t
    rw [hpc] at ht
    exact holds_goto hmore ht
  | rxSrsp | rxAreq | accept | discard | post | rpcAccess | linkHead | linkTail | rpcRelease
  | countPost => exact hmore
  | _ => exact holds_goto hmore trivial

/-- What the application gets: `taken` has been taken by its threads, and `b` is queued. -/
structure Delivery (q : List MtMsg) (as : List (Action τ)) (w : World τ)
    (taken : List (τ × MtMsg)) (b : Mailbox) : Prop where
  shows : Shows w b
  /-- They are the messages that the threads unlink in the run, in this order. -/
  unlinked : taken.map (fun x => (x.1, x.2.bytes)) = takenBy (mailHistory q as)
  /-- The messages other than SRSPs, in the order in which they are read: those taken, those
  queued, and the one that the RPC thread is about to queue. -/
  areqs : q ++ areqsRead as =
    areqsOf (taken.map Prod.snd) ++ b.areqs ++ areqsOf b.hand.toList
  /-- Every accepted SRSP is in one of these places once. -/
  srsps : (srspsOf (arrivals (mailHistory q as))).Perm
    (srspsOf (taken.map Prod.snd) ++ b.srsps ++ srspsOf b.hand.toList)
  /-- A thread returns a message that it took. -/
  returned : ∀ t msg, w.pc t = .received (some msg) → ∃ m, m.bytes = msg ∧ (t, m) ∈ taken

/-- **Messages reach the application once and in order.**  In every run, with any number of
threads that send and receive and any frames, the messages other than SRSPs are taken from the
queue in the order in which they were read from the line, none is lost and none is taken
twice; and no accepted SRSP is lost or taken twice. -/
theorem areqs_in_order [Fintype τ] (hq : ∀ m ∈ q, ¬ m.isSrsp)
    (h : exec step (World.opened τ q) as = some w) : ∃ taken b, Delivery q as w taken b := by
  obtain ⟨b, hb, hshows⟩ := runs_mailbox hq h
  obtain ⟨taken, horder⟩ := (MailOrder.init hq).exec hb
  rw [List.nil_append] at horder
  have hholds : Tallied w ∧ ∀ t, (w.pc t).holds ([] ++ mailHistory q as) t := by
    refine exec_outputs_invariant
      (I := fun w es => Tallied w ∧ ∀ t, (w.pc t).holds es t) ?_ ?_ h
    · intro w es a w' hi hs
      have hstep := Step.of_step hs
      refine ⟨hi.1.step hstep, holds_step hi.2 ?_ hstep⟩
      intro t hpc
      exact hi.1.ne_nil (t := t) (by rw [hpc]; rfl)
    · exact ⟨tallied_init (q.map MtMsg.bytes), fun _ => trivial⟩
  refine ⟨taken, b, hshows, horder.bytes, ?_, horder.srsps, ?_⟩
  · rw [← areqsOf_arrivals (shows_init hq) h]
    exact horder.areqs
  · intro t msg hpc
    have ht := hholds.2 t
    rw [hpc, Pc.holds, List.nil_append, ← horder.bytes, List.mem_map] at ht
    obtain ⟨⟨u, m⟩, hmem, heq⟩ := ht
    obtain ⟨rfl, rfl⟩ := Prod.mk.inj heq
    exact ⟨m, rfl, hmem⟩

end Runs

/-- A thread sends a request and gets its response, and after it an indication that was read
before. -/
def requestThenReceive : List (Action Bool) :=
  [.rx zdoStateChangeInd] ++ List.replicate 4 .rpc ++ sendSteps true sysPingCall ++
    srspSteps Bool sysPingSrsp ++ returnSteps true ++
    (.receive true true :: List.replicate 5 (.run true)) ++
    (.receive true true :: List.replicate 5 (.run true))

/-- The indication is the second message taken. -/
theorem areqs_in_order_requestThenReceive :
    ∃ w taken b, Delivery [] requestThenReceive w taken b ∧
      w.pc true = .received (some zdoStateChangeInd.bytes) := by
  have hrun : (exec step (World.opened Bool []) requestThenReceive).any
      (fun w => w.pc true = .received (some zdoStateChangeInd.bytes)) = true := by decide +kernel
  obtain ⟨w, hw, hpc⟩ := (Option.any_eq_true _ _).mp hrun
  obtain ⟨taken, b, hdelivery⟩ := areqs_in_order (q := []) (by simp) hw
  exact ⟨w, taken, b, hdelivery, by simpa using hpc⟩

end ZnpHost.Rpc
