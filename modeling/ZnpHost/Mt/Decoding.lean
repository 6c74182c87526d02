import ZnpHost.Mt.Bounds
import ZnpHost.Mt.Fields

/-!
# Frames that are decoded exactly

A decoder that reads each byte of the payload once, in the order in which the device put
them there, gives the callback what the device encoded.

## Main definitions

* `DecodedTo` — what a frame is decoded to, whatever follows it in the buffer.
* `DecodedTo.of_undoes` — how this is shown for one decoder.
* `straight_word` … `straight_listIf`, `undoes_list` … `undoes_countedIf` — rules for the
  parts of a decoder.
* `counted` — a number of elements and the elements.
-/

namespace ZnpHost.Mt

open Lib Reader Rpc

variable {ρ κ β : Type} {size : ℕ}

/-- The callback is given `ind`, and the decoder reads the payload from its first byte to its
last one and nothing else. -/
structure DecodedTo (f : MtFrame) (cb : Cb) (ind : Indication) : Prop where
  result : ∀ registered rpcBuff, registered cb = true → Delivered f rpcBuff →
    mtProcess registered rpcBuff (rpcLen f) = some ind
  reads : ∀ registered rpcBuff, registered cb = true → Delivered f rpcBuff →
    mtReads registered rpcBuff (rpcLen f) = List.range' 2 f.payload.length

/-! ## Parts of a decoder -/

@[simp] theorem straight_word : word.Straight := ⟨rfl, fun _ => trivial⟩

@[simp] theorem straight_dword : dword.Straight := (Straight.byte.times 4).bind_done

@[simp] theorem straight_qword : qword.Straight := (Straight.byte.times 8).bind_done

@[simp] theorem straight_word_bind {f : UInt16 → Reader β} :
    (word >>= f).Straight ↔ ∀ a, (f a).Straight :=
  straight_word.bind_iff fun a => ⟨_, [], (undoes_word a).parse_eq⟩

@[simp] theorem straight_dword_bind {f : UInt32 → Reader β} :
    (dword >>= f).Straight ↔ ∀ a, (f a).Straight :=
  straight_dword.bind_iff fun a => ⟨_, [], (undoes_dword a).parse_eq⟩

@[simp] theorem straight_qword_bind {f : UInt64 → Reader β} :
    (qword >>= f).Straight ↔ ∀ a, (f a).Straight :=
  straight_qword.bind_iff fun a => ⟨_, [], (undoes_qword a).parse_eq⟩

@[simp] theorem straight_list {d : Reader ρ} (hd : d.Straight) (n : ℕ) :
    (list n d : Reader (CArray size ρ)).Straight :=
  (hd.times n).bind_done

@[simp] theorem straight_listIf {c : Prop} [Decidable c] {d : Reader ρ} (hd : d.Straight) (n : ℕ) :
    (listIf c n d : Reader (CArray size ρ)).Straight := by
  rw [listIf]
  split
  · exact straight_list hd n
  · exact .done _

theorem undoes_list {d : Reader ρ} {enc : ρ → List UInt8} (hd : ∀ r, Undoes d (enc r) r)
    (records : List ρ) :
    Undoes (list records.length d : Reader (CArray size ρ)) (records.flatMap enc)
      (.ofList records) :=
  (Undoes.times fun r _ => hd r).map

theorem undoes_listIf {c : Prop} [Decidable c] (hc : c) {d : Reader ρ} {enc : ρ → List UInt8}
    (hd : ∀ r, Undoes d (enc r) r) (records : List ρ) :
    Undoes (listIf c records.length d : Reader (CArray size ρ)) (records.flatMap enc)
      (.ofList records) := by
  rw [listIf, if_pos hc]
  exact undoes_list hd records

/-! ## A count and its elements -/

/-- The number of elements in one byte, and their encodings. -/
def counted (enc : ρ → List UInt8) (xs : List ρ) : List UInt8 :=
  UInt8.ofNat xs.length :: xs.flatMap enc

@[simp] theorem length_counted (enc : ρ → List UInt8) (xs : List ρ) :
    (counted enc xs).length = (xs.flatMap enc).length + 1 := rfl

theorem toNat_ofNat_length {xs : List ρ} (h : xs.length < 256) :
    (UInt8.ofNat xs.length).toNat = xs.length := by
  rw [UInt8.toNat_ofNat']
  omega

/-- The count is read, and then the elements. -/
theorem undoes_counted {d : Reader ρ} {enc : ρ → List UInt8} (hd : ∀ r, Undoes d (enc r) r)
    {xs : List ρ} (hxs : xs.length < 256) {g : UInt8 → CArray size ρ → κ} :
    Undoes (byte >>= fun n => list n.toNat d >>= fun a => .done (g n a)) (counted enc xs)
      (g (UInt8.ofNat xs.length) (.ofList xs)) := by
  refine (Undoes.byte _).bind ?_
  rw [toNat_ofNat_length hxs]
  exact (undoes_list hd xs).map

/-- The same under a length check that holds. -/
theorem undoes_countedIf {c : Prop} [Decidable c] (hc : c) {d : Reader ρ}
    {enc : ρ → List UInt8} (hd : ∀ r, Undoes d (enc r) r) {xs : List ρ} (hxs : xs.length < 256)
    {g : UInt8 → CArray size ρ → κ} :
    Undoes (byte >>= fun n => listIf c n.toNat d >>= fun a => .done (g n a)) (counted enc xs)
      (g (UInt8.ofNat xs.length) (.ofList xs)) := by
  simp only [listIf, if_pos hc]
  exact undoes_counted hd hxs

/-! ## From a decoder to the callback -/

theorem parse_map {d : Reader κ} {bs rest : List UInt8} {a : κ} (h : d.parse bs = some (a, rest))
    (g : κ → β) : (g <$> d).parse bs = some (g a, rest) := by
  change (d >>= fun a => .done (g a)).parse bs = _
  rw [parse_bind, h]
  rfl

section Callback

variable {f : MtFrame} {cb : Cb} {d : Reader Indication} {ind : Indication}

/-- The callback is given what the decoder finds in the payload. -/
theorem mtProcess_of_parse {rest : List UInt8} {registered : Cb → Bool} {rpcBuff : Mem}
    (hcb : handler f.cmd0 f.cmd1 (rpcLen f) = some (cb, d))
    (hd : d.parse f.payload = some (ind, rest)) (hreg : registered cb = true)
    (hm : Delivered f rpcBuff) : mtProcess registered rpcBuff (rpcLen f) = some ind := by
  have hdec := decoder_eq_some_iff.mpr ⟨cb, hcb, hreg⟩
  rw [hm.mtProcess_eq, hdec, Option.map_some, (exec_of_parse _ hm.holds hd).1]

/-- **A straight decoder that undoes the payload** computes what the callback is given. -/
theorem DecodedTo.of_undoes (hcb : handler f.cmd0 f.cmd1 (rpcLen f) = some (cb, d))
    (hd : Undoes d f.payload ind) (hs : d.Straight) : DecodedTo f cb ind := by
  constructor
  · intro registered rpcBuff hreg hm
    exact mtProcess_of_parse hcb hd.parse_eq hreg hm
  · intro registered rpcBuff hreg hm
    have hdec := decoder_eq_some_iff.mpr ⟨cb, hcb, hreg⟩
    rw [hm.mtReads_eq hdec, hs.reads_eq hm.holds hd.parse_eq]
    rfl

end Callback

end ZnpHost.Mt
