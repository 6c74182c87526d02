import ZnpHost.Mt.Encodings

/-!
# Requests that do not fit into eight bits

The length of a request is computed in 32 bits, while the index of its stores and the length
passed to `rpcSendFrame` have eight.  Three builders can get beyond 255 bytes with values
that are in range; none of them refuses.

## Main definitions

* `SentWholeOrRefused` — a request is passed on as a whole, or an error is returned.
* `sentWholeOrRefused_iff` — when this holds of the two builders with long lists.
* `HugeMessageRule` — the payload of an extended data request.
* `hugeMessageRule_iff` — when it is followed.
-/

namespace ZnpHost.Mt

open Lib Rpc

/-! ## Long lists -/

def DataRequestSrcRtgFormat.items (req : DataRequestSrcRtgFormat) : List Item :=
  [.u16 req.dstAddr, .u8 req.dstEndpoint, .u8 req.srcEndpoint, .u16 req.clusterID,
    .u8 req.transID, .u8 req.options, .u8 req.radius, .u8 req.relayCount,
    firstWords req.relayList req.relayCount, .u8 req.len, firstBytes req.data req.len]

def AppRegisterReqFormat.items (req : AppRegisterReqFormat) : List Item :=
  [.u8 req.appEndpoint, .u16 req.appProfileId, .u16 req.deviceId, .u8 req.deviceVersion,
    .u8 req.unused, .u8 req.inputCommandsNum,
    firstWords req.inputCommandsList req.inputCommandsNum, .u8 req.outputCommandsNum,
    firstWords req.outputCommandsList req.outputCommandsNum]

/-- How the builder ends is right for this encoding of the request. -/
def CmdEnd.WholeOrError (encoding : List UInt8) : CmdEnd → Prop
  | status s => s ≠ mtRpcSuccess
  | rpcSendFrame _ _ payload payloadLen =>
    payloadLen.toNat = encoding.length ∧ payload.take encoding.length = encoding

/-- Whatever `malloc` returns, the builder passes the whole encoding to `rpcSendFrame` or
returns an error; no store goes to a cell that was written before. -/
structure SentWholeOrRefused (c : Cmd) (encoding : List UInt8) : Prop where
  ends : ∀ block, (c.call block).WholeOrError encoding
  once : c.indices.Nodup

/-- A builder that stores an encoding and counts right sends it whole exactly up to 255
bytes. -/
theorem sentWholeOrRefused_of_count {c : Cmd} {encoding : List UInt8}
    (hstores : c.stores = encoding) (hcount : c.stores.length = c.cmdLen) :
    SentWholeOrRefused c encoding ↔ c.cmdLen ≤ 255 := by
  subst hstores
  constructor
  · intro h
    obtain ⟨hlen, -⟩ := h.ends (some fun _ => 0)
    have hlt := c.payloadLen.toNat_lt
    omega
  · intro hle
    constructor
    · intro block
      cases block with
      | none => exact (by decide : (1 : UInt8) ≠ mtRpcSuccess)
      | some block =>
        refine ⟨?_, c.take_buffer (by omega) block⟩
        rw [Cmd.payloadLen, UInt8.toNat_ofNat']
        omega
    · rw [Cmd.indices_eq_range c (by omega)]
      exact List.nodup_range

theorem stores_afDataRequestSrcRtg (req : DataRequestSrcRtgFormat) :
    (afDataRequestSrcRtg req).stores = encode req.items := by
  simp [afDataRequestSrcRtg, DataRequestSrcRtgFormat.items, firstWords, firstBytes, encode,
    Item.encode, leBytes_two, words, bytes]

theorem stores_zbAppRegisterReq (req : AppRegisterReqFormat) :
    (zbAppRegisterReq req).stores = encode req.items := by
  simp [zbAppRegisterReq, AppRegisterReqFormat.items, firstWords, encode, Item.encode,
    leBytes_two, words]

/-- **Large requests are sent whole or refused** exactly when their encoding has at most 255
bytes. -/
theorem sentWholeOrRefused_iff (req : DataRequestSrcRtgFormat) (reg : AppRegisterReqFormat) :
    (SentWholeOrRefused (afDataRequestSrcRtg req) (encode req.items) ↔
        11 + req.relayCount.toNat * 2 + req.len.toNat ≤ 255) ∧
      (SentWholeOrRefused (zbAppRegisterReq reg) (encode reg.items) ↔
        9 + reg.inputCommandsNum.toNat * 2 + reg.outputCommandsNum.toNat * 2 ≤ 255) := by
  constructor
  · exact sentWholeOrRefused_of_count (stores_afDataRequestSrcRtg req)
      ((AfRequest.count (.dataRequestSrcRtg req)).mpr not_false)
  · exact sentWholeOrRefused_of_count (stores_zbAppRegisterReq reg)
      ((SapiRequest.count (.appRegisterReq reg)).mpr not_false)

/-- A message of 128 bytes over 60 relays, 259 bytes in all. -/
def longRoute : DataRequestSrcRtgFormat where
  dstAddr := 0
  dstEndpoint := 1
  srcEndpoint := 1
  clusterID := 6
  transID := 0
  options := 0
  radius := 30
  relayCount := 60
  relayList := Vector.replicate 255 0
  len := 128
  data := Vector.replicate 128 0
  len_le := by decide

/-- It is neither sent whole nor refused: three bytes are passed to `rpcSendFrame`. -/
theorem not_sentWholeOrRefused_longRoute :
    ¬ SentWholeOrRefused (afDataRequestSrcRtg longRoute) (encode longRoute.items) := by
  intro h
  obtain ⟨hlen, -⟩ := h.ends (some fun _ => 0)
  have hcount : (afDataRequestSrcRtg longRoute).stores.length =
      (afDataRequestSrcRtg longRoute).cmdLen :=
    (AfRequest.count (.dataRequestSrcRtg longRoute)).mpr not_false
  rw [← stores_afDataRequestSrcRtg, hcount] at hlen
  exact absurd hlen (by decide)

/-! ## Extended data requests -/

/-- An extended data request with any length: `Len` is a word, the array has 230 bytes. -/
structure DataRequestExtAny where
  dstAddrMode : UInt8
  dstAddr : Vector UInt8 8
  dstEndpoint : UInt8
  dstPanID : UInt16
  srcEndpoint : UInt8
  clusterId : UInt16
  transId : UInt8
  options : UInt8
  radius : UInt8
  len : UInt16
  data : Vector UInt8 230

namespace DataRequestExtAny

variable (req : DataRequestExtAny)

/-- The fields in front of the data. -/
def header : List Item :=
  [.u8 req.dstAddrMode, .u8s req.dstAddr.toList, .u8 req.dstEndpoint, .u16 req.dstPanID,
    .u8 req.srcEndpoint, .u16 req.clusterId, .u8 req.transId, .u8 req.options, .u8 req.radius,
    .u16 req.len]

theorem length_header : (encode req.header).length = 20 := by
  simp [header, encode, Item.encode]

end DataRequestExtAny

/-- `afDataRequestExt`; `beyond` is what the loop reads past the end of the array. -/
def afDataRequestExtAny (req : DataRequestExtAny) (beyond : Mem) : Cmd where
  cmd0 := mtRpcCmdSreq ||| mtRpcSysAf
  cmd1 := mtAfDataRequestExt
  cmdLen := 20 + req.len.toNat
  stores := [req.dstAddrMode] ++ bytes req.dstAddr 8 ++
    [req.dstEndpoint, loUint16 req.dstPanID, hiUint16 req.dstPanID, req.srcEndpoint,
      loUint16 req.clusterId, hiUint16 req.clusterId, req.transId, req.options, req.radius,
      loUint16 req.len, hiUint16 req.len] ++
    (Mem.ofList req.data.toList beyond).take req.len.toNat

/-- The request without the promise that its data is in the array. -/
def DataRequestExtFormat.any (req : DataRequestExtFormat) : DataRequestExtAny :=
  { req with }

/-- Up to 230 bytes nothing is read past the end. -/
theorem take_data (req : DataRequestExtAny) (beyond : Mem) (h : req.len.toNat ≤ 230) :
    (Mem.ofList req.data.toList beyond).take req.len.toNat =
      req.data.toList.take req.len.toNat := by
  have hlen : (req.data.toList.take req.len.toNat).length = req.len.toNat := by
    rw [List.length_take, Vector.length_toList]
    omega
  have hread := Mem.take_blit_append beyond (req.data.toList.take req.len.toNat)
    (req.data.toList.drop req.len.toNat)
  rwa [List.take_append_drop, hlen] at hread

/-- For requests within their array this is the builder of the other sections. -/
theorem afDataRequestExtAny_any (req : DataRequestExtFormat) (beyond : Mem) :
    afDataRequestExtAny req.any beyond = afDataRequestExt req := by
  rw [afDataRequestExtAny, take_data req.any beyond req.len_le]
  rfl

/-- The payload of a request: the header and the data, or the header alone when the data is
too long and has to be stored separately. -/
def HugeMessageRule (req : DataRequestExtAny) : Prop :=
  ∀ beyond block, (afDataRequestExtAny req beyond).passed block =
    if req.len.toNat ≤ 230 then encode req.header ++ req.data.toList.take req.len.toNat
    else encode req.header

theorem stores_afDataRequestExtAny (req : DataRequestExtAny) (beyond : Mem) :
    (afDataRequestExtAny req beyond).stores =
      encode req.header ++ (Mem.ofList req.data.toList beyond).take req.len.toNat := by
  have haddr : req.dstAddr.toList.take 8 = req.dstAddr.toList :=
    List.take_of_length_le (by simp)
  simp [afDataRequestExtAny, DataRequestExtAny.header, encode, Item.encode, leBytes_two, bytes,
    haddr]

theorem count_afDataRequestExtAny (req : DataRequestExtAny) (beyond : Mem) :
    (afDataRequestExtAny req beyond).stores.length = (afDataRequestExtAny req beyond).cmdLen := by
  rw [stores_afDataRequestExtAny, List.length_append, req.length_header, Mem.length_take]
  rfl

/-- A length that is a multiple of 256 puts bytes from beyond the array in the place of the
header. -/
theorem head_passed_of_wrap {req : DataRequestExtAny} (hbig : 230 < req.len.toNat)
    (hwrap : req.len.toNat % 256 = 0) (beyond block : Mem) :
    ((afDataRequestExtAny req beyond).passed block).head? =
      some (beyond (req.len.toNat - 20)) := by
  have hcut : (20 + req.len.toNat) / 256 * 256 = req.len.toNat := by omega
  have hread : Mem.ofList req.data.toList beyond (req.len.toNat - 20) =
      beyond (req.len.toNat - 20) := by
    apply Mem.blit_ge
    rw [Vector.length_toList]
    omega
  rw [Cmd.passed_eq_drop _ (count_afDataRequestExtAny req beyond), stores_afDataRequestExtAny]
  change (List.drop ((20 + req.len.toNat) / 256 * 256) _).head? = _
  rw [hcut, List.head?_drop, List.getElem?_append_right (by rw [req.length_header]; omega),
    req.length_header, List.getElem?_eq_getElem (by rw [Mem.length_take]; omega),
    Mem.getElem_take, hread]

/-- **The rule for huge messages is followed** exactly by requests that are not huge. -/
theorem hugeMessageRule_iff (req : DataRequestExtAny) :
    HugeMessageRule req ↔ req.len.toNat ≤ 230 := by
  constructor
  · intro h
    by_contra hbig
    have hnot : ¬ req.len.toNat ≤ 230 := hbig
    let beyond : Mem := fun _ => req.dstAddrMode + 1
    have hpassed := h beyond fun _ => 0
    rw [if_neg hnot] at hpassed
    have hwrap : req.len.toNat % 256 = 0 := by
      have hlen := congrArg List.length hpassed
      rw [Cmd.length_passed, req.length_header] at hlen
      change (20 + req.len.toNat) % 256 = 20 at hlen
      omega
    have hhead := head_passed_of_wrap (by omega) hwrap beyond fun _ => 0
    rw [hpassed] at hhead
    -- the first byte of the header would be its own successor
    simp [DataRequestExtAny.header, encode, Item.encode, beyond] at hhead
  · intro hle beyond block
    have hcount := count_afDataRequestExtAny req beyond
    have hshort : (afDataRequestExtAny req beyond).cmdLen ≤ 255 := by
      change 20 + req.len.toNat ≤ 255
      omega
    rw [if_pos hle, Cmd.passed_eq_stores _ hcount hshort, stores_afDataRequestExtAny,
      take_data req beyond hle]

/-- A huge request of 300 bytes. -/
def hugeRequest : DataRequestExtAny where
  dstAddrMode := 2
  dstAddr := Vector.replicate 8 0
  dstEndpoint := 1
  dstPanID := 0
  srcEndpoint := 1
  clusterId := 6
  transId := 0
  options := 0
  radius := 30
  len := 300
  data := Vector.replicate 230 0

/-- Its payload has 64 bytes instead of the 20 of the header. -/
theorem not_hugeMessageRule_hugeRequest : ¬ HugeMessageRule hugeRequest := by
  intro h
  have hlen := congrArg List.length (h (fun _ => 0) fun _ => 0)
  rw [Cmd.length_passed, if_neg (by decide), DataRequestExtAny.length_header] at hlen
  exact absurd hlen (by decide)

end ZnpHost.Mt
