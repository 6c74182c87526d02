import Mathlib.Data.List.Basic
import Mathlib.Tactic.IntervalCases
import ZnpHost.Apps.RequestLayout
import ZnpHost.Mt.RequestMembers

/-!
# `sendCmd`

What was entered for a command is passed to its request function as a structure.  The function
finds the values in the members, and sends them without the gaps between them.

## Main definitions

* `requestOf` — the call that `sendCmd` makes.
* `itemsAt` — the fields that the attributes of a command stand for.
* `requestOf_items` — the request has these fields.
* `typedBytes`, `sentBytes` — the values that were typed, and what is sent of them.
* `LaidOut.encode_itemsAt` — where the layout is right, the fields are the values typed.
-/

namespace ZnpHost.Apps

open Lib Mt

/-- `sendCmd`, with the bytes behind `req`; `none` where a length is beyond its array. -/
def requestOf (index : ℕ) (req : Mem) : Option AnyRequest :=
  let r : Ptr := ⟨(sendCmd index).map Field.member, req⟩
  match index with
  | 0 => some (.plain .sysPing)
  | 1 => some (.built (.sys (.setExtAddr ⟨r.uint8s 0⟩)))
  | 2 => some (.plain .sysGetExtAddr)
  | 3 => some (.built (.sys (.ramRead ⟨r.uint16 0, r.uint8 1⟩)))
  | 4 => (RamWriteFormat.ofPtr r).map fun req => .built (.sys (.ramWrite req))
  | 5 => some (.built (.sys (.resetReq ⟨r.uint8 0⟩)))
  | 6 => some (.plain .sysVersion)
  | 7 => some (.built (.sys (.osalNvRead ⟨r.uint16 0, r.uint8 1⟩)))
  | 8 => (OsalNvWriteFormat.ofPtr r).map fun req => .built (.sys (.osalNvWrite req))
  | 9 => (OsalNvItemInitFormat.ofPtr r).map fun req => .built (.sys (.osalNvItemInit req))
  | 10 => some (.built (.sys (.osalNvDelete ⟨r.uint16 0, r.uint16 1⟩)))
  | 11 => some (.built (.sys (.osalNvLength ⟨r.uint16 0⟩)))
  | 12 => some (.built (.sys (.osalStartTimer ⟨r.uint8 0, r.uint16 1⟩)))
  | 13 => some (.built (.sys (.osalStopTimer ⟨r.uint8 0⟩)))
  | 14 => some (.built (.sys (.stackTune ⟨r.uint8 0, r.uint8 1⟩)))
  | 15 => some (.built (.sys (.adcRead ⟨r.uint8 0, r.uint8 1⟩)))
  | 16 => some (.built (.sys (.gpio ⟨r.uint8 0, r.uint8 1⟩)))
  | 17 => some (.plain .sysRandom)
  | 18 => some (.built (.sys (.setTime (.ofPtr r))))
  | 19 => some (.plain .sysGetTime)
  | 20 => some (.built (.sys (.setTxPower ⟨r.uint8 0⟩)))
  | 21 => (RegisterFormat.ofPtr r).map fun req => .built (.af (.register req))
  | 22 => (DataRequestFormat.ofPtr r).map fun req => .built (.af (.dataRequest req))
  | 23 => (DataRequestExtFormat.ofPtr r).map fun req => .built (.af (.dataRequestExt req))
  | 24 => (DataRequestSrcRtgFormat.ofPtr r).map fun req => .built (.af (.dataRequestSrcRtg req))
  | 25 => (InterPanCtlFormat.ofPtr r).map fun req => .built (.af (.interPanCtl req))
  | 26 => (DataStoreFormat.ofPtr r).map fun req => .built (.af (.dataStore req))
  | 27 => some (.built (.af (.dataRetrieve ⟨r.uint8s 0, r.uint16 1, r.uint8 2⟩)))
  | 28 => some (.built (.af (.apsfConfigSet ⟨r.uint8 0, r.uint8 1, r.uint8 2⟩)))
  | 29 => some (.built (.zdo (.nwkAddrReq ⟨r.uint8s 0, r.uint8 1, r.uint8 2⟩)))
  | 30 => some (.built (.zdo (.ieeeAddrReq ⟨r.uint16 0, r.uint8 1, r.uint8 2⟩)))
  | 31 => some (.built (.zdo (.nodeDescReq ⟨r.uint16 0, r.uint16 1⟩)))
  | 32 => some (.built (.zdo (.powerDescReq ⟨r.uint16 0, r.uint16 1⟩)))
  | 33 => some (.built (.zdo (.simpleDescReq ⟨r.uint16 0, r.uint16 1, r.uint8 2⟩)))
  | 34 => some (.built (.zdo (.activeEpReq ⟨r.uint16 0, r.uint16 1⟩)))
  | 35 => (MatchDescReqFormat.ofPtr r).map fun req => .built (.zdo (.matchDescReq req))
  | 36 => some (.built (.zdo (.complexDescReq ⟨r.uint16 0, r.uint16 1⟩)))
  | 37 => some (.built (.zdo (.userDescReq ⟨r.uint16 0, r.uint16 1⟩)))
  | 38 => some (.built (.zdo (.deviceAnnce ⟨r.uint16 0, r.uint8s 1, r.uint8 2⟩)))
  | 39 => (UserDescSetFormat.ofPtr r).map fun req => .built (.zdo (.userDescSet req))
  | 40 => some (.built (.zdo (.serverDiscReq ⟨r.uint16 0⟩)))
  | 41 => (EndDeviceBindReqFormat.ofPtr r).map fun req => .built (.zdo (.endDeviceBindReq req))
  | 42 => some (.built (.zdo (.bindReq (.ofPtr r))))
  | 43 => some (.built (.zdo (.unbindReq (.ofPtr r))))
  | 44 => some (.built (.zdo (.mgmtNwkDiscReq ⟨r.uint16 0, r.uint8s 1, r.uint8 2, r.uint8 3⟩)))
  | 45 => some (.built (.zdo (.mgmtLqiReq ⟨r.uint16 0, r.uint8 1⟩)))
  | 46 => some (.built (.zdo (.mgmtRtgReq ⟨r.uint16 0, r.uint8 1⟩)))
  | 47 => some (.built (.zdo (.mgmtBindReq ⟨r.uint16 0, r.uint8 1⟩)))
  | 48 => some (.built (.zdo (.mgmtLeaveReq ⟨r.uint16 0, r.uint8s 1, r.uint8 2⟩)))
  | 49 => some (.built (.zdo (.mgmtDirectJoinReq ⟨r.uint16 0, r.uint8s 1, r.uint8 2⟩)))
  | 50 => some (.built (.zdo (.mgmtPermitJoinReq ⟨r.uint8 0, r.uint16 1, r.uint8 2, r.uint8 3⟩)))
  | 51 => some (.built (.zdo (.mgmtNwkUpdateReq (.ofPtr r))))
  | 52 => some (.built (.zdo (.startupFromApp ⟨r.uint16 0⟩)))
  | 53 => some (.built (.zdo (.autoFindDestination ⟨r.uint8 0⟩)))
  | 54 => some (.built (.zdo (.setLinkKey ⟨r.uint16 0, r.uint8s 1, r.uint8s 2⟩)))
  | 55 => some (.built (.zdo (.removeLinkKey ⟨r.uint8s 0⟩)))
  | 56 => some (.built (.zdo (.getLinkKey ⟨r.uint8s 0⟩)))
  | 57 => some (.built (.zdo (.nwkDiscoveryReq ⟨r.uint8s 0, r.uint8 1⟩)))
  | 58 => some (.built (.zdo (.joinReq (.ofPtr r))))
  | 59 => some (.built (.zdo (.msgCbRegister ⟨r.uint16 0⟩)))
  | 60 => some (.built (.zdo (.msgCbRemove ⟨r.uint16 0⟩)))
  | 61 => some (.plain .zbSystemReset)
  | 62 => some (.built (.sapi (.appRegisterReq (.ofPtr r))))
  | 63 => some (.plain .zbStartReq)
  | 64 => some (.built (.sapi (.permitJoiningReq ⟨r.uint16 0, r.uint8 1⟩)))
  | 65 => some (.built (.sapi (.bindDevice ⟨r.uint8 0, r.uint16 1, r.uint8s 2⟩)))
  | 66 => some (.built (.sapi (.allowBind ⟨r.uint8 0⟩)))
  | 67 => (SendDataReqFormat.ofPtr r).map fun req => .built (.sapi (.sendDataReq req))
  | 68 => some (.built (.sapi (.findDeviceReq ⟨r.uint8s 0⟩)))
  | 69 => (WriteConfigurationFormat.ofPtr r).map fun req => .built (.sapi (.writeConfiguration req))
  | 70 => some (.built (.sapi (.getDeviceInfo ⟨r.uint8 0⟩)))
  | 71 => some (.built (.sapi (.readConfiguration ⟨r.uint8 0⟩)))
  | _ => none

/-! ## The fields of the request -/

/-- The length of the list that is attribute `j`: the member in front of it. -/
def listLength (atts : List CmdAtt) (r : Ptr) (j : ℕ) : ℕ :=
  match atts[j - 1]? with
  | none => 0
  | some p => if p.size = 1 then (r.uint8 (j - 1)).toNat else (r.uint16 (j - 1)).toNat

/-- What attribute `j` stands for. -/
def itemAt (atts : List CmdAtt) (r : Ptr) (a : CmdAtt) (j : ℕ) : Item :=
  if a.isList = 0 then
    if a.size = 1 then .u8 (r.uint8 j)
    else if a.size = 2 then .u16 (r.uint16 j)
    else .u8s (r.uint8s j : Vector UInt8 a.size).toList
  else if a.size = 1 then
    .u8s ((r.uint8s j : Vector UInt8 a.isList).toList.take (listLength atts r j))
  else .u16s ((r.uint16s j : Vector UInt16 a.isList).toList.take (listLength atts r j))

/-- The fields that the attributes of a command stand for. -/
def itemsAt (atts : List CmdAtt) (r : Ptr) : List Item :=
  atts.zipIdx.map fun x => itemAt atts r x.1 x.2

/-- The lists are shorter than their arrays. -/
def ListsFit (atts : List CmdAtt) (r : Ptr) : Prop :=
  ∀ j, ∀ a ∈ atts[j]?, a.isList ≠ 0 → listLength atts r j < a.isList

/-- `zdoBindReq` and `zdoUnbindReq`. -/
def IsBind (index : ℕ) : Prop := index = 42 ∨ index = 43

instance (index : ℕ) : Decidable (IsBind index) := inferInstanceAs (Decidable (_ ∨ _))

variable {index : ℕ} {c : Cmd}

/-- **The request has the fields that stand in the structure**, but for a short address. -/
theorem requestOf_items (hc : commands[index]? = some c) (mem : Mem)
    (hfit : ListsFit c.atts ⟨(sendCmd index).map Field.member, mem⟩) (hbind : ¬ IsBind index) :
    ∃ req, requestOf index mem = some req ∧
      req.items = itemsAt c.atts ⟨(sendCmd index).map Field.member, mem⟩ := by
  have hindex : index < 72 := (List.getElem?_eq_some_iff.mp hc).1
  -- one list, whose length is the member in front of it
  have hone : ∀ j, ∀ a ∈ c.atts[j]?, a.isList ≠ 0 →
      listLength c.atts ⟨(sendCmd index).map Field.member, mem⟩ j ≤ a.isList :=
    fun j a ha hlist => Nat.le_of_lt (hfit j a ha hlist)
  interval_cases index
  all_goals
    obtain rfl := Option.some.inj hc
  case «42» => exact absurd (.inl rfl) hbind
  case «43» => exact absurd (.inr rfl) hbind
  case «4» | «26» | «69» =>
    exact ⟨_, congrArg (Option.map _) (dif_pos (hone 2 _ rfl (by decide))), rfl⟩
  case «8» | «9» | «39» =>
    exact ⟨_, congrArg (Option.map _) (dif_pos (hone 3 _ rfl (by decide))), rfl⟩
  case «22» => exact ⟨_, congrArg (Option.map _) (dif_pos (hone 8 _ rfl (by decide))), rfl⟩
  case «23» | «24» =>
    exact ⟨_, congrArg (Option.map _) (dif_pos (hone 10 _ rfl (by decide))), rfl⟩
  case «25» => exact ⟨_, congrArg (Option.map _) (dif_pos (hone 1 _ rfl (by decide))), rfl⟩
  case «67» => exact ⟨_, congrArg (Option.map _) (dif_pos (hone 6 _ rfl (by decide))), rfl⟩
  case «21» | «41» =>
    have hin := hone 6 _ rfl (by decide)
    have hout := hone 8 _ rfl (by decide)
    exact ⟨_, congrArg (Option.map _) (dif_pos ⟨hin, hout⟩), rfl⟩
  case «35» =>
    have hin := hone 4 _ rfl (by decide)
    have hout := hone 6 _ rfl (by decide)
    exact ⟨_, congrArg (Option.map _) (dif_pos ⟨hin, hout⟩), rfl⟩
  -- all other structures have members of a fixed size
  all_goals exact ⟨_, rfl, rfl⟩

/-! ## What is sent -/

/-- A bind request whose mode is not 3 has two bytes of the address, and no endpoint. -/
def sentBytes (index : ℕ) (bs : List UInt8) : List UInt8 :=
  if IsBind index ∧ bs.getD 13 0 ≠ 3 then bs.take 16 else bs

/-- Both functions send a short address if the mode says so. -/
theorem encode_bindItems_ofPtr (r : Ptr) (hbind : IsBind index) :
    encode (BindReqFormat.ofPtr r).items =
      sentBytes index (encode [.u16 (r.uint16 0), .u8s (r.uint8s 1 : Vector UInt8 8).toList,
        .u8 (r.uint8 2), .u16 (r.uint16 3), .u8 (r.uint8 4),
        .u8s (r.uint8s 5 : Vector UInt8 8).toList, .u8 (r.uint8 6)]) := by
  let front := encode [.u16 (r.uint16 0), .u8s (r.uint8s 1 : Vector UInt8 8).toList,
    .u8 (r.uint8 2), .u16 (r.uint16 3)]
  let address := (r.uint8s 5 : Vector UInt8 8).toList
  have hfront : front.length = 13 := by simp [front, encode, Item.encode]
  have hall : encode [.u16 (r.uint16 0), .u8s (r.uint8s 1 : Vector UInt8 8).toList,
      .u8 (r.uint8 2), .u16 (r.uint16 3), .u8 (r.uint8 4), .u8s address, .u8 (r.uint8 6)] =
        front ++ r.uint8 4 :: (address ++ [r.uint8 6]) := by simp [front, encode, Item.encode]
  have hmode : (front ++ r.uint8 4 :: (address ++ [r.uint8 6])).getD 13 0 = r.uint8 4 := by
    simp [List.getD_eq_getElem?_getD, hfront]
  rw [hall, sentBytes, hmode]
  by_cases hthree : r.uint8 4 = 3
  · rw [if_neg fun h => h.2 hthree]
    simp [BindReqFormat.items, BindReqFormat.ofPtr, hthree, front, address, encode, Item.encode,
      allBytes]
  · rw [if_pos ⟨hbind, hthree⟩, List.take_append, List.take_of_length_le (by omega), hfront]
    have hshort : address.length = 8 := Vector.length_toList
    simp [BindReqFormat.items, BindReqFormat.ofPtr, hthree, front, address, encode, Item.encode,
      allBytes, List.take_append]

/-- **What the request function stores.** -/
theorem requestOf_stores (hc : commands[index]? = some c) (mem : Mem)
    (hfit : ListsFit c.atts ⟨(sendCmd index).map Field.member, mem⟩) :
    ∃ req, requestOf index mem = some req ∧ req.build.stores =
      sentBytes index (encode (itemsAt c.atts ⟨(sendCmd index).map Field.member, mem⟩)) := by
  by_cases hbind : IsBind index
  · obtain rfl | rfl := hbind
    all_goals
      obtain rfl := Option.some.inj hc
      exact ⟨_, rfl, (encode_bindItems _).trans (encode_bindItems_ofPtr _ (by decide))⟩
  · obtain ⟨req, hreq, hitems⟩ := requestOf_items hc mem hfit hbind
    refine ⟨req, hreq, ?_⟩
    rw [sentBytes, if_neg fun h => hbind h.1, ← hitems]
    exact req.encoded.stores

/-! ## The values that were typed -/

/-- The values of the lines, one attribute after the other. -/
def typedBytes (atts : List CmdAtt) (entered : ℕ → List (List UInt8)) : List UInt8 :=
  atts.zipIdx.flatMap fun x => (entered x.2).flatMap fun l => (valueOf x.1.size l).getD []

variable {r : Ptr} {a : CmdAtt} {atts : List CmdAtt} {j n : ℕ} {s : InputState}

/-- The number of values that are sent for attribute `j`. -/
def valueCount (atts : List CmdAtt) (r : Ptr) (a : CmdAtt) (j : ℕ) : ℕ :=
  if a.isList = 0 then 1 else listLength atts r j

/-- The encoding of a field is what stands there. -/
theorem encode_itemAt (hsize : 0 < a.size ∧ (a.isList ≠ 0 → a.size ≤ 2))
    (hfit : a.isList ≠ 0 → listLength atts r j < a.isList) :
    (itemAt atts r a j).encode = (r.field j).take (a.size * valueCount atts r a j) := by
  have hword : leBytes 2 (r.uint16 j).toNat = (r.field j).take 2 := by
    rw [leBytes_two, Ptr.uint16, loUint16_buildUint16, hiUint16_buildUint16]
    rfl
  by_cases hlist : a.isList = 0
  · by_cases hone : a.size = 1
    · simp only [itemAt, if_pos hlist, valueCount, hone, Item.encode]
      rfl
    · by_cases htwo : a.size = 2
      · simp [itemAt, valueCount, hlist, htwo, Item.encode, hword]
      · simp [itemAt, valueCount, hlist, hone, htwo, Item.encode, Ptr.toList_uint8s]
  · have hle := Nat.le_of_lt (hfit hlist)
    by_cases hone : a.size = 1
    · have hbytes := Ptr.bytes_uint8s (r := r) j hle
      rw [bytes] at hbytes
      simp [itemAt, valueCount, hlist, hone, Item.encode, hbytes]
    · have htwo : a.size = 2 := by
        have hsmall := hsize.2 hlist
        omega
      have hwords := Ptr.words_uint16s (r := r) j hle
      simp only [words, ← leBytes_two] at hwords
      simp [itemAt, valueCount, hlist, htwo, Item.encode, hwords]

/-- Values that stand one behind the other. -/
theorem take_values {size : ℕ} {lines : List (List UInt8)} {m : Mem}
    (h : ∀ i l, lines[i]? = some l → ∃ bs, valueOf size l = some bs ∧
      (m.shift (size * i)).take size = bs) :
    m.take (size * lines.length) = lines.flatMap fun l => (valueOf size l).getD [] := by
  induction lines generalizing m with
  | nil => simp
  | cons l lines ih =>
    obtain ⟨bs, hbs, htake⟩ := h 0 l rfl
    have hrest := ih (m := m.shift size) fun i l' hl' => by
      obtain ⟨cs, hcs, hnext⟩ := h (i + 1) l' (by simpa using hl')
      refine ⟨cs, hcs, ?_⟩
      rwa [Mem.shift_shift, Nat.add_comm, ← Nat.mul_succ]
    have hsplit : m.take (size + size * lines.length) =
        m.take size ++ (m.shift size).take (size * lines.length) := by
      simp [Mem.take, Mem.shift, List.range_add]
    rw [Nat.mul_zero, Mem.shift_zero] at htake
    rw [List.length_cons, Nat.mul_succ, Nat.add_comm, hsplit, hrest, htake, List.flatMap_cons, hbs]
    rfl

/-- A length is found where it was typed. -/
theorem LaidOut.listLength_eq (h : LaidOut index atts s) (hreg : Regular atts)
    (ha : atts[j]? = some a) (hlist : a.isList ≠ 0) :
    listLength atts ⟨(sendCmd index).map Field.member, s.input⟩ j = s.counts j := by
  let r : Ptr := ⟨(sendCmd index).map Field.member, s.input⟩
  obtain ⟨p, hp, l, bs, hl, hbs, hcount⟩ := h.list j a ha hlist
  obtain ⟨-, -, p', hp', -, hsize⟩ := hreg.list ha hlist
  obtain rfl : p = p' := Option.some.inj (hp.symm.trans hp')
  have hholds := ((h.values (j - 1) p hp 0 l (by simp [hl])).2 bs hbs).1
  rw [Nat.mul_zero, Nat.add_zero] at hholds
  change (r.field (j - 1)).take p.size = bs at hholds
  rw [hcount, ← hholds]
  rcases hsize with hone | htwo
  · have hbyte : leNat ((r.field (j - 1)).take 1) = (r.uint8 (j - 1)).toNat := by
      simp [Mem.take, leNat, Ptr.uint8]
    simp [listLength, hp', hone, hbyte, r]
  · have hword := Ptr.toNat_uint16 (r := r) (j - 1)
    simp [listLength, hp', htwo, hword, r]

/-- **The fields are the values that were typed.** -/
theorem LaidOut.encode_itemsAt (h : LaidOut index atts s) (hfacts : TableFacts atts)
    (hshort : ∀ j, ∀ a ∈ atts[j]?, a.isList ≠ 0 → s.counts j < a.isList) :
    ListsFit atts ⟨(sendCmd index).map Field.member, s.input⟩ ∧
      encode (itemsAt atts ⟨(sendCmd index).map Field.member, s.input⟩) =
        typedBytes atts s.entered := by
  have hfit : ListsFit atts ⟨(sendCmd index).map Field.member, s.input⟩ := by
    intro j a ha hlist
    rw [h.listLength_eq hfacts.regular ha hlist]
    exact hshort j a ha hlist
  refine ⟨hfit, ?_⟩
  rw [encode, itemsAt, List.flatMap_map, typedBytes]
  apply List.flatMap_congr
  rintro ⟨a, j⟩ hmem
  have ha : atts[j]? = some a := List.mem_zipIdx_iff_getElem?.mp hmem
  have hcount : valueCount atts ⟨(sendCmd index).map Field.member, s.input⟩ a j = s.counts j := by
    by_cases hlist : a.isList = 0
    · rw [valueCount, if_pos hlist, h.scalar j a ha hlist]
    · rw [valueCount, if_neg hlist, h.listLength_eq hfacts.regular ha hlist]
  have hitem := encode_itemAt (hfacts.sizes a (List.mem_of_getElem? ha)) (hfit j a ha)
  rw [hcount] at hitem
  rw [hitem]
  apply take_values
  intro i l hl
  obtain ⟨hsome, hholds⟩ := h.values j a ha i l hl
  obtain ⟨bs, hbs⟩ := Option.isSome_iff_exists.mp hsome
  have hvalue := (hholds bs hbs).1
  rw [← Mem.shift_shift] at hvalue
  exact ⟨bs, hbs, hvalue⟩

end ZnpHost.Apps
