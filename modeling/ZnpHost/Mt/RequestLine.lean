import ZnpHost.Mt.RequestFields
import ZnpHost.Rpc.Outgoing

/-!
# Requests as the device reads them

The threads of the application call the request builders, each whenever it likes.  From the
bytes on the line alone a receiver that knows the layouts gets every request that was sent:
which one it was, and all its fields.

## Main definitions

* `SendableRequest` — a request that is sent as it was written.
* `FromBuilder` — the call of `rpcSendFrame` that a builder makes.
* `Received`, `decodeLine` — a request as the receiver finds it, and the whole line.
* `requests_on_line` — what the receiver finds is what the threads sent.
-/

namespace ZnpHost.Mt

open Lib Reader Rpc

/-! ## Calls of the builders -/

/-- A request whose builder counts right and whose encoding fits into a frame. -/
structure SendableRequest where
  req : AnyRequest
  counted : ¬ req.Miscounted
  short : req.build.stores.length ≤ 250

/-- The call is the one with which a builder ends. -/
def FromBuilder (c : Call) : CmdEnd → Prop
  | .status _ => False
  | .rpcSendFrame cmd0 cmd1 payload payloadLen =>
    c.cmd0 = cmd0 ∧ c.cmd1 = cmd1 ∧ c.payload = payload.take payloadLen.toNat

namespace SendableRequest

variable (r : SendableRequest)

/-- The frame that carries the stores. -/
def frame : MtFrame := ⟨r.req.build.cmd0, r.req.build.cmd1, r.req.build.stores, r.short⟩

/-- Whatever the block held before, the builder passes its stores on. -/
theorem passed_eq (block : Mem) : r.req.build.passed block = r.frame.payload := by
  have hcount := AnyRequest.count r.counted
  have hshort : r.req.build.cmdLen ≤ 255 :=
    Nat.le_trans (Nat.le_of_eq hcount.symm) (Nat.le_trans r.short (by decide))
  exact r.req.build.passed_eq_stores hcount hshort block

/-- So its call of `rpcSendFrame` is that of the frame. -/
theorem fromBuilder_iff {c : Call} {block : Mem} :
    FromBuilder c (r.req.build.call (some block)) ↔ c = .ofFrame r.frame := by
  constructor
  · rintro ⟨hcmd0, hcmd1, hpayload⟩
    have hstores : c.payload = r.frame.payload := hpayload.trans (r.passed_eq block)
    cases c
    simp_all [Call.ofFrame, frame]
  · intro h
    exact h ▸ ⟨rfl, rfl, (r.passed_eq block).symm⟩

end SendableRequest

/-! ## The receiver -/

/-- A request as the receiver finds it. -/
structure Received where
  cmd0 : UInt8
  cmd1 : UInt8
  items : List Item
  deriving DecidableEq

/-- What the receiver is to find. -/
def AnyRequest.received (req : AnyRequest) : Received := ⟨req.build.cmd0, req.build.cmd1, req.items⟩

/-- The fields of a payload, if it has the layout that belongs to the command bytes. -/
def decodeRequest (cmd0 cmd1 : UInt8) (payload : List UInt8) : Option Received := do
  let d ← requestReader cmd0 cmd1
  let (items, rest) ← d.parse payload
  if rest = [] then some ⟨cmd0, cmd1, items⟩ else none

/-- One frame; it must start with SOF and end with its checksum. -/
def frameReader : Reader (Option Received) := do
  let sof ← byte
  let len ← byte
  let cmd0 ← byte
  let cmd1 ← byte
  let payload ← times len.toNat byte
  let fcs ← byte
  return if sof = mtRpcSof ∧ fcs = xorAll (len :: cmd0 :: cmd1 :: payload) then
    decodeRequest cmd0 cmd1 payload else none

/-- The requests on the line, and the bytes of a frame that is not complete yet. -/
def decodeLine (line : List UInt8) : List (Option Received) × List UInt8 :=
  many frameReader line.length line

theorem decodeRequest_stores (req : AnyRequest) :
    decodeRequest req.build.cmd0 req.build.cmd1 req.build.stores = some req.received := by
  obtain ⟨d, hd, hreads⟩ := req.encoded.reads
  simp [decodeRequest, hd, req.encoded.stores, hreads.parse_eq, AnyRequest.received]

/-- A frame is read as what its payload says. -/
theorem undoes_frameReader (f : MtFrame) :
    Undoes frameReader f.wire (decodeRequest f.cmd0 f.cmd1 f.payload) := by
  have hwire : f.wire = mtRpcSof :: f.len :: f.cmd0 :: f.cmd1 :: (f.payload ++ [f.fcs]) := rfl
  have hpayload : Undoes (times f.len.toNat byte) f.payload f.payload := by
    rw [f.toNat_len]
    exact Undoes.bytes f.payload
  have hfcs : f.fcs = xorAll (f.len :: f.cmd0 :: f.cmd1 :: f.payload) := rfl
  rw [hwire, frameReader]
  simp only [Undoes.byte_bind_iff]
  rw [hpayload.bind_iff]
  simp [← hfcs]

/-- A line of whole frames and the beginning of one. -/
theorem decodeLine_frames (rs : List SendableRequest) {cut : List UInt8}
    (hcut : cut = [] ∨ ∃ (f : MtFrame) (left : List UInt8), left ≠ [] ∧ cut ++ left = f.wire) :
    decodeLine (rs.flatMap (fun r => r.frame.wire) ++ cut) =
      (rs.map fun r => some r.req.received, cut) := by
  apply many_flatMap
  · intro r _
    have hread := undoes_frameReader r.frame
    rwa [show decodeRequest r.frame.cmd0 r.frame.cmd1 r.frame.payload = some r.req.received from
      decodeRequest_stores r.req] at hread
  · cases hcut with
    | inl hnil => exact hnil ▸ rfl
    | inr hpart =>
      obtain ⟨f, left, hleft, hwhole⟩ := hpart
      have hread := undoes_frameReader f
      rw [← hwhole] at hread
      exact hread.parse_cut hleft
  · have hlen : rs.length ≤ (rs.flatMap fun r => r.frame.wire).length := by
      induction rs with
      | nil => exact Nat.zero_le _
      | cons r rs ih =>
        have hpos := r.frame.length_wire
        simp only [List.flatMap_cons, List.length_append, List.length_cons]
        omega
    rw [List.length_append]
    omega

/-! ## Runs -/

variable {τ : Type} [DecidableEq τ] {q : List (List UInt8)} {as : List (Action τ)} {w : World τ}

/-- The requests of one thread. -/
def requestsOf (t : τ) (sent : List (τ × SendableRequest)) : List SendableRequest :=
  (sent.filter fun x => x.1 = t).map Prod.snd

/-- What a receiver finds on the line of a run in which the threads `sent` these requests. -/
structure LineDecoded (as : List (Action τ)) (w : World τ) (sent : List (τ × SendableRequest)) :
    Prop where
  requests : (decodeLine w.line).1 = sent.map fun x => some x.2.req.received
  /-- They are the requests of the threads, those of one thread in its order, but for one that a
  thread has in progress. -/
  inOrder : ∀ t, callsOf t (callsMade as) =
    (requestsOf t sent).map (fun r => .ofFrame r.frame) ++ (w.pc t).unsent
  rest : (∀ t, (w.pc t).unsent = []) → (decodeLine w.line).2 = []

omit [DecidableEq τ] in
/-- Calls of builders, as requests. -/
theorem exists_sendables {sent : List (τ × Call)}
    (h : ∀ x ∈ sent, ∃ r : SendableRequest, x.2 = .ofFrame r.frame) :
    ∃ rs : List (τ × SendableRequest), rs.map (fun x => (x.1, Call.ofFrame x.2.frame)) = sent := by
  induction sent with
  | nil => exact ⟨[], rfl⟩
  | cons x sent ih =>
    obtain ⟨r, hr⟩ := h x List.mem_cons_self
    obtain ⟨rs, hrs⟩ := ih fun y hy => h y (List.mem_cons_of_mem _ hy)
    refine ⟨(x.1, r) :: rs, ?_⟩
    rw [List.map_cons, hrs, ← hr]

theorem callsOf_sendables (t : τ) (rs : List (τ × SendableRequest)) :
    callsOf t (rs.map fun x => (x.1, Call.ofFrame x.2.frame)) =
      (requestsOf t rs).map fun r => .ofFrame r.frame := by
  induction rs with
  | nil => rfl
  | cons x rs ih =>
    by_cases hx : x.1 = t <;> simp_all [callsOf, requestsOf]

theorem mem_callsOf {t : τ} {c : Call} {l : List (τ × Call)} : c ∈ callsOf t l ↔ (t, c) ∈ l := by
  simp [callsOf]

/-- **The device gets every request that was sent.**  Any number of threads call the request
functions in any order, with any blocks from `malloc`, and whatever else happens: the line
decodes to the requests sent so far, with their fields, each once and those of one thread in
its order; when no thread is sending, no bytes are left over. -/
theorem requests_on_line
    (h : exec step (World.init τ { rpcOpen with rpcLlq := q }) as = some w)
    (hcalls : ∀ t c, .call t c ∈ as →
      ∃ (r : SendableRequest) (block : Mem), FromBuilder c (r.req.build.call (some block))) :
    ∃ sent, LineDecoded as w sent := by
  obtain ⟨calls, cut, hline⟩ := lineCarries_of_exec h
  have hbuilt : ∀ t c, (t, c) ∈ callsMade as → ∃ r : SendableRequest, c = .ofFrame r.frame := by
    intro t c hmem
    obtain ⟨a, ha, hcall⟩ := List.mem_filterMap.mp hmem
    cases a with
    | call u d =>
      obtain ⟨rfl, rfl⟩ := Prod.mk.inj (Option.some.inj hcall)
      obtain ⟨r, block, hr⟩ := hcalls u d ha
      exact ⟨r, r.fromBuilder_iff.mp hr⟩
    | _ => cases hcall
  have hmade : ∀ t c, c ∈ callsOf t calls ++ (w.pc t).unsent →
      ∃ r : SendableRequest, c = .ofFrame r.frame := by
    intro t c hmem
    rw [← hline.inOrder t] at hmem
    exact hbuilt t c (mem_callsOf.mp hmem)
  obtain ⟨sent, rfl⟩ := exists_sendables fun x hx =>
    hmade x.1 x.2 (List.mem_append_left _ (mem_callsOf.mpr hx))
  have hwires : (sent.map fun x => (x.1, Call.ofFrame x.2.frame)).flatMap (fun x => x.2.tx) =
      (sent.map Prod.snd).flatMap fun r => r.frame.wire := by
    simp [List.flatMap_map, Call.tx_ofFrame]
  have hdecode : decodeLine w.line = (sent.map fun x => some x.2.req.received, cut) := by
    rw [hline.line, hwires, decodeLine_frames]
    · simp
    · refine hline.cut.imp_right ?_
      rintro ⟨t, c, left, hleft, hpc, hwhole⟩
      cases left with
      | nil => exact absurd rfl hleft
      | cons b left =>
        obtain ⟨r, rfl⟩ := hmade t c (List.mem_append_right _ (by simp [hpc]))
        exact ⟨r.frame, b :: left, hleft, hwhole.trans (Call.tx_ofFrame r.frame)⟩
  refine ⟨sent, ?_, ?_, ?_⟩
  · rw [hdecode]
  · intro t
    rw [hline.inOrder t, callsOf_sendables]
  · intro hnone
    rw [hdecode]
    cases hline.cut with
    | inl hnil => exact hnil
    | inr hpart =>
      obtain ⟨t, c, left, hleft, hpc, -⟩ := hpart
      cases left with
      | nil => exact absurd rfl hleft
      | cons b left =>
        have ht := hnone t
        rw [hpc] at ht
        cases ht

/-- A request to reset the device. -/
def resetRequest : SendableRequest := ⟨.built (.sys (.resetReq ⟨1⟩)), not_false, by decide⟩

/-- A request to start the network. -/
def initRequest : SendableRequest := ⟨.built (.zdo .init), not_false, by decide⟩

/-- A thread sends the one, and another thread has begun to write the other. -/
def resetThenInit : List (Action Bool) :=
  [.call true (.ofFrame resetRequest.frame), .call false (.ofFrame initRequest.frame)] ++
    List.replicate 12 (.run true) ++ List.replicate 5 (.run false)

/-- The receiver finds what was sent. -/
theorem requests_on_line_resetThenInit : ∃ w sent,
    exec step (World.init Bool { rpcOpen with rpcLlq := [] }) resetThenInit = some w ∧
      LineDecoded resetThenInit w sent := by
  have hrun : exec step (World.init Bool { rpcOpen with rpcLlq := [] }) resetThenInit =
      some ((exec step (World.init Bool rpcOpen) resetThenInit).get rfl) :=
    (Option.some_get (x := exec step _ resetThenInit) rfl).symm
  have hcalls : ∀ t c, Action.call t c ∈ resetThenInit →
      ∃ (r : SendableRequest) (block : Mem), FromBuilder c (r.req.build.call (some block)) := by
    intro t c hmem
    have hc : c = .ofFrame resetRequest.frame ∨ c = .ofFrame initRequest.frame := by
      simp [resetThenInit] at hmem
      exact hmem.imp And.right And.right
    cases hc with
    | inl hc => exact ⟨resetRequest, fun _ => 0, resetRequest.fromBuilder_iff.mpr hc⟩
    | inr hc => exact ⟨initRequest, fun _ => 0, initRequest.fromBuilder_iff.mpr hc⟩
  obtain ⟨sent, hsent⟩ := requests_on_line hrun hcalls
  exact ⟨_, sent, hrun, hsent⟩

end ZnpHost.Mt
