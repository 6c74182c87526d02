import ZnpHost.Apps.InputCmd
import ZnpHost.Mt.Pipeline
import ZnpHost.Mt.RequestLine

/-!
# Messages from one host to another

`dataSendRcv` sends the lines that are typed to a device, and prints what devices send to it.
Between the two hosts there are two lines and the radio: the device at the first line reads the
requests, and the device at the second line passes on the data of those that are for it.

## Main definitions

* `ChatApp`, `enterLine` — the loop of `appProcess`, and what it does with a line.
* `mtAfIncomingMsgCb` — the callback that prints a message.
* `Conversation` — the lines that are typed for one destination.
* `dataTo` — the data of a request to an address, as the device finds them.
* `typed_is_shown` — the texts typed on one host are shown on the other.
-/

namespace ZnpHost.Apps

open Lib Mt Rpc

/-! ## The sender -/

/-- `CHANGE`. -/
def changeText : List UInt8 := [67, 72, 65, 78, 71, 69]

/-- `QUIT`. -/
def quitText : List UInt8 := [81, 85, 73, 84]

/-- What `appProcess` does with the next line. -/
inductive ChatPhase
  | dstAddr
  | dstEndpoint (dstAddr : UInt16)
  | message (dstAddr : UInt16) (dstEndpoint : UInt8) (data : Vector UInt8 128)
  | quit

/-- `attget`, where the loop is, and the requests given to `afDataRequest`. -/
structure ChatApp where
  attget : UInt32
  phase : ChatPhase
  sent : List DataRequestFormat

/-- `sscanf(cmd, "%x", &attget)`. -/
def scanInto (attget : UInt32) (cmd : Mem) : UInt32 :=
  match scanX (line cmd) with
  | none => attget
  | some v => .ofInt v

/-- `memcpy(DataRequest.Data, cmd, strlen(cmd))`. -/
def copyLine (data : Vector UInt8 128) (cmd : Mem) : Vector UInt8 128 :=
  .ofFn fun i => if i < (line cmd).length then cmd i else data[i]

theorem toNat_strlen (cmd : Answer) :
    (UInt8.ofNat (line cmd.value).length).toNat = (line cmd.value).length := by
  have hlt := cmd.terminated
  rw [UInt8.toNat_ofNat', Nat.mod_eq_of_lt (by omega)]

theorem strlen_le (cmd : Answer) : (UInt8.ofNat (line cmd.value).length).toNat ≤ 128 := by
  rw [toNat_strlen]
  exact Nat.le_of_lt cmd.terminated

/-- `DataRequest` with a line. -/
def chatRequest (dstAddr : UInt16) (dstEndpoint : UInt8) (data : Vector UInt8 128)
    (cmd : Answer) : DataRequestFormat where
  dstAddr := dstAddr
  dstEndpoint := dstEndpoint
  srcEndpoint := 1
  clusterID := 6
  transID := 5
  options := 0
  radius := 0xEE
  len := .ofNat (line cmd.value).length
  data := copyLine data cmd.value
  len_le := strlen_le cmd

/-- A line is entered.  At the endpoint `DataRequest` is new, and its data are not initialised. -/
def enterLine (s : ChatApp) (cmd : Answer) (uninit : Vector UInt8 128) : ChatApp :=
  match s.phase with
  | .dstAddr =>
    let attget := scanInto s.attget cmd.value
    { s with attget, phase := .dstEndpoint attget.toUInt16 }
  | .dstEndpoint dstAddr =>
    let attget := scanInto s.attget cmd.value
    { s with attget, phase := .message dstAddr attget.toUInt8 uninit }
  | .message dstAddr dstEndpoint data =>
    if line cmd.value = changeText then { s with phase := .dstAddr }
    else if line cmd.value = quitText then { s with phase := .quit }
    else
      let req := chatRequest dstAddr dstEndpoint data cmd
      { s with phase := .message dstAddr dstEndpoint req.data, sent := s.sent ++ [req] }
  | .quit => s

/-- The lines are entered, each with what is on the stack then. -/
def enterLines (s : ChatApp) (cmds : List (Answer × Vector UInt8 128)) : ChatApp :=
  cmds.foldl (fun s cmd => enterLine s cmd.1 cmd.2) s

/-! ## The receiver -/

/-- What is printed for a message. -/
structure ChatLine where
  srcEndpoint : UInt8
  srcAddr : UInt16
  text : List UInt8

/-- `Data` with its terminator, and what is printed.  The rest of `Data` is not initialised. -/
def mtAfIncomingMsgCb (msg : IncomingMsgFormat) (uninit : Mem) : CArray 99 UInt8 × ChatLine :=
  let data := msg.data.modify msg.len.toNat fun _ => 0
  (data, ⟨msg.srcEndpoint, msg.srcAddr, cString 256 fun i => (data.cell i).getD (uninit i)⟩)

/-- The callbacks of the application, as far as they print messages. -/
def chatLine (uninit : Mem) : Indication → Option ChatLine
  | .af (.incomingMsg msg) => some (mtAfIncomingMsgCb msg uninit).2
  | _ => none

/-! ## The devices -/

/-- The data of a data request to `addr`. -/
def itemsTo (addr : UInt16) : List Item → Option (List UInt8)
  | [.u16 dstAddr, .u8 _, .u8 _, .u16 _, .u8 _, .u8 _, .u8 _, .u8 _, .u8s data] =>
    if dstAddr = addr then some data else none
  | _ => none

/-- The data that the device at `addr` gets from a request. -/
def dataTo (addr : UInt16) (r : Mt.Received) : Option (List UInt8) :=
  if r.cmd0 = mtRpcCmdSreq ||| mtRpcSysAf ∧ r.cmd1 = mtAfDataRequest then itemsTo addr r.items
  else none

/-- The data that a device passes on to its host. -/
def incomingData : DeviceMessage → Option (List UInt8)
  | .list (.incomingMsg _ data) => some data
  | _ => none

/-! ## Conversations -/

/-- The lines for one destination: its address, its endpoint, and the texts. -/
structure Conversation where
  addrLine : Answer
  endpointLine : Answer
  addr : ℤ
  endpoint : ℤ
  texts : List Answer
  scan_addr : scanX (line addrLine.value) = some addr
  scan_endpoint : scanX (line endpointLine.value) = some endpoint
  plain : ∀ t ∈ texts, line t.value ≠ changeText ∧ line t.value ≠ quitText

namespace Conversation

variable (c : Conversation)

/-- The lines, with the one that ends the conversation. -/
def lines (last : Answer) : List Answer := c.addrLine :: c.endpointLine :: (c.texts ++ [last])

def dstAddr : UInt16 := (UInt32.ofInt c.addr).toUInt16

def dstEndpoint : UInt8 := (UInt32.ofInt c.endpoint).toUInt8

end Conversation

/-! ## Entering the lines -/

/-- The characters copied are the line. -/
theorem toList_copyLine (data : Vector UInt8 128) (cmd : Answer) :
    (copyLine data cmd.value).toList.take (line cmd.value).length = line cmd.value := by
  have hstr : IsString cmd.value (line cmd.value) := isString_cString cmd.terminated
  have hlt := cmd.terminated
  apply List.ext_getElem
  · simp only [List.length_take, Vector.length_toList]
    omega
  · intro i h₁ h₂
    simp [copyLine, h₂, hstr.char_eq h₂]

/-- What is sent for a line. -/
theorem items_chatRequest (dstAddr : UInt16) (dstEndpoint : UInt8) (data : Vector UInt8 128)
    (cmd : Answer) :
    (chatRequest dstAddr dstEndpoint data cmd).items =
      [.u16 dstAddr, .u8 dstEndpoint, .u8 1, .u16 6, .u8 5, .u8 0, .u8 0xEE,
        .u8 (.ofNat (line cmd.value).length), .u8s (line cmd.value)] := by
  simp only [DataRequestFormat.items, chatRequest, firstBytes, toNat_strlen, toList_copyLine]

theorem enterLines_append (s : ChatApp) (cmds cmds' : List (Answer × Vector UInt8 128)) :
    enterLines s (cmds ++ cmds') = enterLines (enterLines s cmds) cmds' :=
  List.foldl_append

section Lines

variable {s : ChatApp} {dstAddr : UInt16} {dstEndpoint : UInt8} {data : Vector UInt8 128}
  {cmds : List (Answer × Vector UInt8 128)}

/-- The fields of the requests for the texts. -/
def textItems (dstAddr : UInt16) (dstEndpoint : UInt8) (texts : List Answer) : List (List Item) :=
  texts.map fun t =>
    [.u16 dstAddr, .u8 dstEndpoint, .u8 1, .u16 6, .u8 5, .u8 0, .u8 0xEE,
      .u8 (.ofNat (line t.value).length), .u8s (line t.value)]

/-- Texts are sent, whatever the rest of `Data` holds. -/
theorem enterLines_texts (hphase : s.phase = .message dstAddr dstEndpoint data)
    (hplain : ∀ cmd ∈ cmds, line cmd.1.value ≠ changeText ∧ line cmd.1.value ≠ quitText) :
    (∃ data', (enterLines s cmds).phase = .message dstAddr dstEndpoint data') ∧
    (enterLines s cmds).sent.map DataRequestFormat.items =
      s.sent.map DataRequestFormat.items ++
        textItems dstAddr dstEndpoint (cmds.map Prod.fst) := by
  induction cmds generalizing s data with
  | nil => exact ⟨⟨data, hphase⟩, by simp [enterLines, textItems]⟩
  | cons cmd cmds ih =>
    obtain ⟨hchange, hquit⟩ := hplain cmd List.mem_cons_self
    have hstep : enterLine s cmd.1 cmd.2 =
        { s with
          phase := .message dstAddr dstEndpoint (chatRequest dstAddr dstEndpoint data cmd.1).data
          sent := s.sent ++ [chatRequest dstAddr dstEndpoint data cmd.1] } := by
      simp [enterLine, hphase, hchange, hquit]
    have hrest := ih (s := enterLine s cmd.1 cmd.2) (by rw [hstep]) fun c hc =>
      hplain c (List.mem_cons_of_mem cmd hc)
    refine ⟨hrest.1, ?_⟩
    change (enterLines (enterLine s cmd.1 cmd.2) cmds).sent.map _ = _
    rw [hrest.2, hstep]
    simp [items_chatRequest, textItems]

/-- The line that ends a conversation, and what comes next. -/
def Ends (last : Answer) (next : ChatPhase) : Prop :=
  line last.value = changeText ∧ next = .dstAddr ∨ line last.value = quitText ∧ next = .quit

/-- A whole conversation. -/
theorem enterLines_conversation {c : Conversation} {last : Answer} {next : ChatPhase}
    (hphase : s.phase = .dstAddr) (hlast : Ends last next)
    (hcmds : cmds.map Prod.fst = c.lines last) :
    (enterLines s cmds).phase = next ∧
    (enterLines s cmds).sent.map DataRequestFormat.items =
      s.sent.map DataRequestFormat.items ++ textItems c.dstAddr c.dstEndpoint c.texts := by
  obtain ⟨x, cmds, rfl, hx, hcmds⟩ := List.map_eq_cons_iff.mp hcmds
  obtain ⟨y, cmds, rfl, hy, hcmds⟩ := List.map_eq_cons_iff.mp hcmds
  obtain ⟨ts, zs, rfl, hts, hzs⟩ := List.map_eq_append_iff.mp hcmds
  obtain ⟨z, zs, rfl, hz, hnil⟩ := List.map_eq_cons_iff.mp hzs
  obtain rfl := List.map_eq_nil_iff.mp hnil
  -- the destination
  let s₁ : ChatApp :=
    { s with attget := .ofInt c.endpoint, phase := .message c.dstAddr c.dstEndpoint y.2 }
  have haddr : enterLine (enterLine s x.1 x.2) y.1 y.2 = s₁ := by
    simp [enterLine, hphase, scanInto, hx, hy, c.scan_addr, c.scan_endpoint, s₁,
      Conversation.dstAddr, Conversation.dstEndpoint]
  have hplain : ∀ cmd ∈ ts, line cmd.1.value ≠ changeText ∧ line cmd.1.value ≠ quitText := by
    intro cmd hcmd
    exact c.plain cmd.1 (hts ▸ List.mem_map_of_mem hcmd)
  obtain ⟨⟨data', hphase'⟩, hsent⟩ := enterLines_texts (s := s₁) rfl hplain
  have hrun : enterLines s (x :: y :: (ts ++ [z])) = enterLine (enterLines s₁ ts) z.1 z.2 := by
    change enterLines (enterLine (enterLine s x.1 x.2) y.1 y.2) (ts ++ [z]) = _
    rw [haddr, enterLines_append]
    rfl
  rw [hrun, ← hts, ← hsent]
  rcases hlast with ⟨hchange, rfl⟩ | ⟨hquit, rfl⟩
  · simp [enterLine, hphase', hz, hchange]
  · have hne : quitText ≠ changeText := by decide
    simp [enterLine, hphase', hz, hquit, hne]

/-- **A whole session.**  The requests are those of the conversations, in order. -/
theorem enterLines_session {cs : List Conversation} {c : Conversation} {change quit : Answer}
    (hchange : line change.value = changeText) (hquit : line quit.value = quitText)
    (hphase : s.phase = .dstAddr)
    (hcmds : cmds.map Prod.fst = cs.flatMap (·.lines change) ++ c.lines quit) :
    (enterLines s cmds).phase = .quit ∧
    (enterLines s cmds).sent.map DataRequestFormat.items =
      s.sent.map DataRequestFormat.items ++
        (cs ++ [c]).flatMap fun c => textItems c.dstAddr c.dstEndpoint c.texts := by
  induction cs generalizing s cmds with
  | nil =>
    have hconv := enterLines_conversation hphase (.inr ⟨hquit, rfl⟩) hcmds
    simpa using hconv
  | cons c' cs ih =>
    rw [List.flatMap_cons, List.append_assoc] at hcmds
    obtain ⟨cmds₁, cmds₂, rfl, hcmds₁, hcmds₂⟩ := List.map_eq_append_iff.mp hcmds
    obtain ⟨hphase₁, hsent₁⟩ :=
      enterLines_conversation hphase (.inl ⟨hchange, rfl⟩) hcmds₁
    have hrest := ih hphase₁ hcmds₂
    rw [enterLines_append]
    refine ⟨hrest.1, ?_⟩
    rw [hrest.2, hsent₁]
    simp

end Lines

/-! ## On the radio -/

/-- The request, if it is a data request. -/
def dataRequestOf : AnyRequest → Option DataRequestFormat
  | .built (.af (.dataRequest req)) => some req
  | _ => none

/-- A device finds data in data requests only. -/
theorem dataTo_received (addr : UInt16) (req : AnyRequest) :
    dataTo addr req.received = (dataRequestOf req).bind fun r => itemsTo addr r.items := by
  cases req with
  | plain req => cases req <;> rfl
  | built req =>
    cases req with
    | zdo req => cases req <;> rfl
    | sys req => cases req <;> rfl
    | sapi req => cases req <;> rfl
    | af req => cases req <;> rfl

/-- What the device at `addr` gets from a line. -/
theorem filterMap_dataTo (addr : UInt16) (rs : List SendableRequest) :
    (decodeLine (rs.flatMap fun r => r.frame.wire)).1.filterMap (·.bind (dataTo addr)) =
      ((rs.filterMap fun r => dataRequestOf r.req).map DataRequestFormat.items).filterMap
        (itemsTo addr) := by
  have hline : decodeLine (rs.flatMap (fun r => r.frame.wire) ++ []) = _ :=
    decodeLine_frames rs (.inl rfl)
  rw [List.append_nil] at hline
  rw [hline]
  simp only [List.filterMap_map, List.map_filterMap, List.filterMap_filterMap]
  apply List.filterMap_congr
  intro r _
  simp only [Function.comp_apply, Option.bind_some, dataTo_received]
  cases dataRequestOf r.req <;> rfl

/-- The texts for an address. -/
theorem filterMap_itemsTo (addr dstAddr : UInt16) (dstEndpoint : UInt8) (texts : List Answer) :
    (textItems dstAddr dstEndpoint texts).filterMap (itemsTo addr) =
      if dstAddr = addr then texts.map fun t => line t.value else [] := by
  by_cases h : dstAddr = addr
  · simp [textItems, itemsTo, h, Function.comp_def]
  · simp [textItems, itemsTo, h, Function.comp_def]

/-- The texts typed for a device. -/
def textsTo (addr : UInt16) (cs : List Conversation) : List (List UInt8) :=
  (cs.filter (·.dstAddr = addr)).flatMap fun c => c.texts.map fun t => line t.value

/-- What the device at `addr` gets from a session. -/
theorem filterMap_session (addr : UInt16) (cs : List Conversation) :
    (cs.flatMap fun c => textItems c.dstAddr c.dstEndpoint c.texts).filterMap (itemsTo addr) =
      textsTo addr cs := by
  induction cs with
  | nil => rfl
  | cons c cs ih =>
    rw [List.flatMap_cons, List.filterMap_append, ih, filterMap_itemsTo]
    by_cases h : c.dstAddr = addr <;> simp [textsTo, h]

/-! ## At the receiver -/

section Receiver

variable {data : List UInt8} {uninit : Mem}

/-- The text is printed as it came. -/
theorem text_mtAfIncomingMsgCb (h : IncomingMsgFixed) (hlen : data.length < 256)
    (hnul : 0 ∉ data) : (mtAfIncomingMsgCb (h.rsp data) uninit).2.text = data := by
  have hlast : (UInt8.ofNat data.length).toNat = data.length := by
    rw [UInt8.toNat_ofNat', Nat.mod_eq_of_lt hlen]
  have hstr : IsString (fun i =>
      (((CArray.ofList data : CArray 99 UInt8).modify data.length fun _ => 0).cell i).getD
        (uninit i)) data := by
    constructor
    · apply List.ext_getElem (by simp)
      intro i h₁ h₂
      have hne : i ≠ data.length := Nat.ne_of_lt h₂
      simp [CArray.modify, CArray.ofList, hne, h₂]
    · simp [CArray.modify]
    · exact hnul
  simp only [mtAfIncomingMsgCb, IncomingMsgFixed.rsp, hlast]
  exact hstr.cString_eq hlen

/-- The terminator needs a place of its own. -/
theorem inBounds_mtAfIncomingMsgCb (h : IncomingMsgFixed) (hlen : data.length < 256) :
    (mtAfIncomingMsgCb (h.rsp data) uninit).1.InBounds ↔ data.length ≤ 98 := by
  have hlast : (UInt8.ofNat data.length).toNat = data.length := by
    rw [UInt8.toNat_ofNat', Nat.mod_eq_of_lt hlen]
  simp only [mtAfIncomingMsgCb, IncomingMsgFixed.rsp, hlast, CArray.inBounds_modify,
    CArray.inBounds_ofList]
  omega

end Receiver

/-- A message whose data are a text that fits. -/
def Readable (m : DeviceMessage) : Prop :=
  ∀ data ∈ incomingData m, data.length ≤ 98 ∧ 0 ∉ data

variable {m : DeviceMessage}

/-- A message that is printed is one with data. -/
theorem text_indication (uninit : Mem) (h : Readable m) :
    (chatLine uninit m.indication).map ChatLine.text = incomingData m := by
  cases m with
  | fixed m => cases m <;> rfl
  | table m => cases m <;> rfl
  | list m =>
    cases m with
    | incomingMsg fixed data =>
      obtain ⟨hlen, hnul⟩ := h data rfl
      exact congrArg some (text_mtAfIncomingMsgCb fixed (by omega) hnul)
    | _ => rfl

/-- Its terminator is in `Data`. -/
theorem inBounds_indication (uninit : Mem) (h : Readable m) {msg : IncomingMsgFormat}
    (hmsg : m.indication = .af (.incomingMsg msg)) :
    (mtAfIncomingMsgCb msg uninit).1.InBounds := by
  cases m with
  | fixed m => cases m <;> cases hmsg
  | table m => cases m <;> cases hmsg
  | list m =>
    cases m with
    | incomingMsg fixed data =>
      cases hmsg
      obtain ⟨hlen, -⟩ := h data rfl
      exact (inBounds_mtAfIncomingMsgCb fixed (by omega)).mpr hlen
    | _ => cases hmsg

/-- A message with data has a callback of its own. -/
theorem cb_of_incomingData {data : List UInt8} (h : incomingData m = some data) :
    m.cb = .af .incomingMsg := by
  cases m with
  | fixed m => cases h
  | table m => cases h
  | list m =>
    cases m with
    | incomingMsg fixed data => rfl
    | _ => cases h

/-- What is printed of a stream of messages. -/
theorem texts_shown {registered : Cb → Bool} (hregistered : registered (.af .incomingMsg) = true)
    (uninit : Mem) {ms : List Sendable} (hread : ∀ m ∈ ms, Readable m.val) :
    ((ms.filterMap (·.shown registered)).filterMap (chatLine uninit)).map
        ChatLine.text = ms.filterMap (incomingData ·.val) := by
  induction ms with
  | nil => rfl
  | cons m ms ih =>
    have hrest := ih fun m' hm' => hread m' (List.mem_cons_of_mem m hm')
    have htext := text_indication uninit (hread m List.mem_cons_self)
    cases hdata : incomingData m.val with
    | none =>
      rw [hdata, Option.map_eq_none_iff] at htext
      rw [List.filterMap_cons_none (f := fun m : Sendable => incomingData m.val) hdata, ← hrest]
      cases hreg : registered m.val.cb <;> simp [Sendable.shown, hreg, htext]
    | some data =>
      have hcb := cb_of_incomingData hdata
      rw [hdata, Option.map_eq_some_iff] at htext
      obtain ⟨shown, hshown, htext⟩ := htext
      rw [List.filterMap_cons_some (f := fun m : Sendable => incomingData m.val) hdata, ← hrest]
      simp [Sendable.shown, hcb, hregistered, hshown, htext]

/-! ## From the keyboard to the screen -/

/-- **What is typed on one host is shown on the other.**  The lines of a session are typed; the
requests may be mixed with other requests, and the messages with other messages, noise and
failed reads, in any chunking.  In whatever order the two threads of the other host take turns,
what it has printed is a beginning of the texts typed for its device.  If no response ends the
process it is all of them, in order and each once, when both threads wait.  No terminator is
stored outside of `Data`. -/
theorem typed_is_shown {registered : Cb → Bool} (hregistered : registered (.af .incomingMsg) = true)
    (attget : UInt32) {cs : List Conversation} {c : Conversation} {change quit : Answer}
    (hchange : line change.value = changeText) (hquit : line quit.value = quitText)
    {cmds : List (Answer × Vector UInt8 128)}
    (hcmds : cmds.map Prod.fst = cs.flatMap (·.lines change) ++ c.lines quit)
    (hshort : ∀ c' ∈ cs ++ [c], ∀ t ∈ c'.texts, (line t.value).length ≤ 98)
    {rs : List SendableRequest}
    (hsent : rs.filterMap (fun r => dataRequestOf r.req) =
      (enterLines ⟨attget, .dstAddr, []⟩ cmds).sent)
    (addr : UInt16) {ts : List Transmission}
    (hradio : (ts.map Transmission.sent).filterMap (incomingData ·.val) =
      (decodeLine (rs.flatMap fun r => r.frame.wire)).1.filterMap (·.bind (dataTo addr)))
    {st : RpcState} (hno : Unawaited st ts) (hempty : st.rpcLlq = []) (srspRpcBuff : Mem)
    {fuel : ℕ} (hfuel : ∀ t ∈ ts, t.fuel ≤ fuel)
    {as : List PipelineAction} {s : Pipeline}
    (hexec : exec (pipelineStep registered fuel) ⟨Transmission.line ts, st, srspRpcBuff, []⟩ as =
      some s) (uninit : Mem) :
    (s.called.filterMap (chatLine uninit)).map ChatLine.text <+: textsTo addr (cs ++ [c]) ∧
    (OnlyAreqs ts → Quiet (pipelineStep registered fuel) (fun _ => True) s →
      (s.called.filterMap (chatLine uninit)).map ChatLine.text = textsTo addr (cs ++ [c])) ∧
    ∀ msg, .af (.incomingMsg msg) ∈ s.called → (mtAfIncomingMsgCb msg uninit).1.InBounds := by
  -- the texts reach the second line
  have hsession := (enterLines_session (s := ⟨attget, .dstAddr, []⟩) hchange hquit rfl hcmds).2
  rw [filterMap_dataTo, hsent, hsession, List.map_nil, List.nil_append, filterMap_session]
    at hradio
  have hread : ∀ m ∈ ts.map Transmission.sent, Readable m.val := by
    intro m hm data hdata
    have hmem : data ∈ textsTo addr (cs ++ [c]) := hradio ▸ List.mem_filterMap.mpr ⟨m, hm, hdata⟩
    obtain ⟨c', hc', hdata⟩ := List.mem_flatMap.mp hmem
    obtain ⟨t, ht, rfl⟩ := List.mem_map.mp hdata
    exact ⟨hshort c' (List.mem_of_mem_filter hc') t ht, zero_notMem_cString 128 t.value⟩
  have htexts := texts_shown hregistered uninit hread
  rw [hradio] at htexts
  -- and the callback
  have hdrains : Drains (pipelineStep registered fuel) (fun _ => True)
      (Flowing registered fuel ⟨Transmission.line ts, st, srspRpcBuff, []⟩ ts) Pipeline.work :=
    drains_pipelineStep hno
  have harrived := (hdrains.exec (flowing_start hempty srspRpcBuff hfuel)
    (fun _ _ => trivial) hexec).1.arrived
  obtain ⟨passed, waiting, coming, hflows⟩ := harrived.flows
  have hcalled : s.called = passed.filterMap (·.shown registered) := by
    simpa using hflows.called
  have hpart : passed <+: ts.map Transmission.sent := by
    rw [hflows.order, List.append_assoc]
    exact List.prefix_append _ _
  refine ⟨?_, ?_, ?_⟩
  · rw [hcalled, ← htexts]
    exact ((hpart.filterMap _).filterMap _).map _
  · intro hareqs hq
    rw [harrived.complete hq, hareqs.untilResponse_eq, ← htexts]
    rfl
  · intro msg hmsg
    rw [hcalled] at hmsg
    obtain ⟨m, hm, hshown⟩ := List.mem_filterMap.mp hmsg
    have hmem : m ∈ ts.map Transmission.sent := hpart.subset hm
    have hind : m.val.indication = .af (.incomingMsg msg) := by
      simp only [Sendable.shown] at hshown
      split at hshown
      · exact Option.some.inj hshown
      · cases hshown
    exact inBounds_indication uninit (hread m hmem) hind

/-! ## A greeting -/

/-- The buffer with a line. -/
def typedLine (l : List UInt8) : Mem := Mem.ofList (l ++ [0]) fun _ => 0

theorem line_typedLine {l : List UInt8} (hlen : l.length < 128) (hnul : 0 ∉ l) :
    line (typedLine l) = l :=
  (isString_blit (fun _ => 0) hnul).cString_eq hlen

/-- A short line without special characters. -/
structure IsTyped (l : List UInt8) : Prop where
  short : l.length < 128
  nonzero : 0 ∉ l

theorem IsTyped.terminated {l : List UInt8} (h : IsTyped l) :
    (line (typedLine l)).length < 128 := by
  rw [line_typedLine h.short h.nonzero]
  exact h.short

def IsTyped.answer {l : List UInt8} (h : IsTyped l) : Answer := ⟨typedLine l, h.terminated⟩

/-- `1A62`. -/
theorem isTyped_addr : IsTyped [49, 65, 54, 50] := ⟨by decide, by decide⟩
/-- `1`. -/
theorem isTyped_endpoint : IsTyped [49] := ⟨by decide, by decide⟩
/-- `hi`. -/
theorem isTyped_hi : IsTyped [104, 105] := ⟨by decide, by decide⟩
theorem isTyped_change : IsTyped changeText := ⟨by decide, by decide⟩
theorem isTyped_quit : IsTyped quitText := ⟨by decide, by decide⟩

theorem scan_addr : scanX (line isTyped_addr.answer.value) = some 0x1A62 := by decide +kernel
theorem scan_endpoint : scanX (line isTyped_endpoint.answer.value) = some 1 := by decide +kernel

theorem plain_hi : ∀ t ∈ [isTyped_hi.answer],
    line t.value ≠ changeText ∧ line t.value ≠ quitText := by
  simp only [List.mem_singleton, forall_eq]
  decide +kernel

/-- A greeting for the device at 0x1A62. -/
def greeting : Conversation where
  addrLine := isTyped_addr.answer
  endpointLine := isTyped_endpoint.answer
  addr := 0x1A62
  endpoint := 1
  texts := [isTyped_hi.answer]
  scan_addr := scan_addr
  scan_endpoint := scan_endpoint
  plain := plain_hi

/-- The lines typed, on a stack of zeros. -/
def greetingLines : List (Answer × Vector UInt8 128) :=
  (greeting.lines isTyped_quit.answer).map fun cmd => (cmd, .replicate 128 0)

/-- The request. -/
def greetingRequest : AnyRequest :=
  .built (.af (.dataRequest (chatRequest 0x1A62 1 (.replicate 128 0) isTyped_hi.answer)))

theorem greetingRequest_short : greetingRequest.build.stores.length ≤ 250 := by decide +kernel

def greetingSendable : SendableRequest := ⟨greetingRequest, not_false, greetingRequest_short⟩

/-- The message for the other host. -/
def greetingMessage : DeviceMessage :=
  .list (.incomingMsg ⟨0, 6, 0x2B73, 1, 1, 0, 0xB4, 0, 0x00012F70, 0x11⟩ [104, 105])

theorem greetingMessage_sendable :
    greetingMessage.payload.length ≤ 250 ∧ greetingMessage.Kept :=
  ⟨by decide, (CArray.inBounds_ofList _).mpr (by decide), trivial⟩

def greetingSent : Sendable := ⟨greetingMessage, greetingMessage_sendable⟩

theorem greeting_noSof : ∀ b ∈ [(0x7F : UInt8)], b ≠ mtRpcSof := by simp [mtRpcSof]

theorem greeting_covers : Covers [.bytes 5, .error, .bytes 17]
    (greetingSent.frame.payload.length + 3) :=
  ⟨by decide, by decide, by decide, by decide, by decide, rfl⟩

/-- It comes in two pieces, behind noise. -/
def greetingTransmission : Transmission where
  garbage := [0x7F]
  frame := greetingSent.frame
  body := [.bytes 5, .error, .bytes 17]
  beyond := fun _ => 0
  stack := fun _ => 0
  noSof := greeting_noSof
  covers := greeting_covers
  errors_le := Nat.le_of_ble_eq_true rfl
  sent := greetingSent
  frame_eq := rfl

/-- `hi` is shown. -/
theorem typed_is_shown_greeting : ∃ as s,
    exec (pipelineStep (fun _ => true) greetingTransmission.fuel)
      ⟨Transmission.line [greetingTransmission], rpcOpen, fun _ => 0, []⟩ as = some s ∧
    (s.called.filterMap (chatLine fun _ => 0xFF)).map ChatLine.text = [[104, 105]] := by
  have hfuel : ∀ t ∈ [greetingTransmission], t.fuel ≤ greetingTransmission.fuel := by simp
  have hareqs : OnlyAreqs [greetingTransmission] := by
    intro t ht
    obtain rfl := List.mem_singleton.mp ht
    decide
  have hdrains : Drains (pipelineStep (fun _ => true) greetingTransmission.fuel) (fun _ => True)
      (Flowing (fun _ => true) greetingTransmission.fuel
        ⟨Transmission.line [greetingTransmission], rpcOpen, fun _ => 0, []⟩
        [greetingTransmission]) Pipeline.work :=
    drains_pipelineStep (hareqs.unawaited rpcOpen)
  obtain ⟨as, s, -, hexec, hquiet⟩ :=
    hdrains.exists_quiet (flowing_start rfl (fun _ => 0) hfuel)
  have hcmds : greetingLines.map Prod.fst =
      [].flatMap (Conversation.lines · isTyped_change.answer) ++
        greeting.lines isTyped_quit.answer := rfl
  have hradio : ([greetingTransmission].map Transmission.sent).filterMap (incomingData ·.val) =
      (decodeLine ([greetingSendable].flatMap fun r => r.frame.wire)).1.filterMap
        (·.bind (dataTo 0x1A62)) := by decide +kernel
  have hshown := typed_is_shown rfl 0 (line_typedLine isTyped_change.short isTyped_change.nonzero)
    (line_typedLine isTyped_quit.short isTyped_quit.nonzero) hcmds (by decide +kernel) rfl 0x1A62
    hradio (hareqs.unawaited rpcOpen) rfl (fun _ => 0) hfuel hexec fun _ => 0xFF
  exact ⟨as, s, hexec, hshown.2.1 hareqs hquiet⟩

end ZnpHost.Apps
