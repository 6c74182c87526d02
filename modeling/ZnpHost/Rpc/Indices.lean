import Mathlib.Data.List.Range
import ZnpHost.Rpc.Acceptance

/-!
# Where the frame buffers are used

The indices at which `rpcProcess` uses `rpcBuff`, beside the functions themselves.
`printRpcMsg` is given a pointer into the buffer; its indices are those behind that pointer.

## Main definitions

* `printRpcMsgIndices`, `readBodyIndices`, `rpcReadFrameIndices`, `rpcDispatchIndices` — the
  indices used by the parts of `rpcProcess`.
* `rpcHeader` — the length byte, when SOF and it are read.
* `rpcProcessIndices` — the indices used by a call.
-/

namespace ZnpHost.Rpc

open Lib

variable {σ : Type} {read : Transport σ} {s s' : σ} {len : UInt8} {fuel : ℕ}

/-! ## Printing -/

/-- The indices of `msg` read by the loop of `printRpcMsg`, and by the access behind it once
the loop has ended. -/
def printRpcMsgLoopIndices (len : UInt8) : ℕ → UInt8 → List ℕ
  | 0, _ => []
  | fuel + 1, i =>
    if i.toNat < len.toNat + 2 then i.toNat :: printRpcMsgLoopIndices len fuel (i + 1)
    else [i.toNat]

/-- The indices of `msg` that `printRpcMsg` reads. -/
def printRpcMsgIndices (len : UInt8) (fuel : ℕ) : List ℕ :=
  0 :: 1 :: printRpcMsgLoopIndices len fuel 2

/-- The printing loop does not go beyond the checksum of the frame. -/
theorem printRpcMsgLoopIndices_le (fuel : ℕ) (i : UInt8) (hi : i.toNat ≤ len.toNat + 2) :
    ∀ j ∈ printRpcMsgLoopIndices len fuel i, j ≤ len.toNat + 2 := by
  induction fuel generalizing i with
  | zero =>
    intro j hj
    cases hj
  | succ fuel ih =>
    intro j hj
    rw [printRpcMsgLoopIndices] at hj
    split at hj
    · next hlt =>
      rcases List.mem_cons.mp hj with rfl | hj
      · exact hi
      · refine ih (i + 1) ?_ j hj
        simp only [UInt8.toNat_add, UInt8.reduceToNat]
        omega
    · rw [List.mem_singleton.mp hj]
      exact hi

theorem printRpcMsgIndices_le (len : UInt8) (fuel : ℕ) :
    ∀ j ∈ printRpcMsgIndices len fuel, j ≤ len.toNat + 2 := by
  intro j hj
  rcases List.mem_cons.mp hj with rfl | hj
  · exact Nat.zero_le _
  rcases List.mem_cons.mp hj with rfl | hj
  · omega
  · exact printRpcMsgLoopIndices_le fuel 2 (Nat.le_add_left _ _) j hj

/-- For a length byte of 253 or more the printing loop gets to index 255. -/
theorem mem_printRpcMsgLoopIndices (hlen : 253 ≤ len.toNat) (n : ℕ) (i : UInt8)
    (hi : i.toNat + n = 255) : 255 ∈ printRpcMsgLoopIndices len (n + 1) i := by
  induction n generalizing i with
  | zero =>
    rw [Nat.add_zero] at hi
    rw [printRpcMsgLoopIndices, hi]
    split
    · exact List.mem_cons_self
    · exact List.mem_singleton_self _
  | succ n ih =>
    rw [printRpcMsgLoopIndices, if_pos (by omega)]
    have hsucc : (i + 1).toNat = i.toNat + 1 := toNat_succ (by omega)
    exact List.mem_cons_of_mem _ (ih (i + 1) (by omega))

theorem printRpcMsgLoopIndices_mono (n : ℕ) (i : UInt8) {j : ℕ}
    (hj : j ∈ printRpcMsgLoopIndices len n i) (k : ℕ) :
    j ∈ printRpcMsgLoopIndices len (n + k) i := by
  induction n generalizing i with
  | zero => cases hj
  | succ n ih =>
    rw [Nat.add_right_comm, printRpcMsgLoopIndices]
    rw [printRpcMsgLoopIndices] at hj
    split
    · next hlt =>
      rw [if_pos hlt] at hj
      rcases List.mem_cons.mp hj with rfl | hj
      · exact List.mem_cons_self
      · exact List.mem_cons_of_mem _ (ih (i + 1) hj)
    · next hge => rwa [if_neg hge] at hj

/-- Such a frame is read at 255 beyond `msg`. -/
theorem mem_printRpcMsgIndices (hlen : 253 ≤ len.toNat) (hf : 256 ≤ fuel) :
    255 ∈ printRpcMsgIndices len fuel := by
  obtain ⟨k, rfl⟩ := Nat.exists_eq_add_of_le hf
  have hmem : 255 ∈ printRpcMsgLoopIndices len (253 + 1) 2 :=
    mem_printRpcMsgLoopIndices hlen 253 2 rfl
  refine List.mem_cons_of_mem _ (List.mem_cons_of_mem _ ?_)
  rw [show 256 + k = 253 + 1 + (2 + k) by omega]
  exact printRpcMsgLoopIndices_mono _ 2 hmem _

/-! ## Receiving -/

/-- The indices of `rpcBuff` the body loop stores to. -/
def readBodyIndices (read : Transport σ) : ℕ → σ → BodyState → List ℕ
  | 0, _, _ => []
  | fuel + 1, s, b =>
    if b.rpcTempLen > 0 then
      match read s b.rpcTempLen with
      | none => []
      | some (r, s) =>
        let stored := List.range' b.rpcBuffIdx.toNat r.bytes.length
        let b : BodyState := { b with rpcBuff := b.rpcBuff.blit b.rpcBuffIdx.toNat r.bytes }
        if r.ret > b.rpcTempLen then
          if b.retryAttempts < 5 then
            stored ++ readBodyIndices read fuel s
              (BodyState.advance { b with retryAttempts := b.retryAttempts + 1 } 0)
          else stored
        else stored ++ readBodyIndices read fuel s (b.advance r.ret)
    else []

/-- The loop stores inside the buffer. -/
theorem readBodyIndices_lt (hread : Bounded read) (fuel : ℕ) (s : σ) (b : BodyState)
    (hidx : b.rpcBuffIdx.toNat + b.rpcTempLen.toNat ≤ 256) :
    ∀ i ∈ readBodyIndices read fuel s b, i < rpcMaxLen := by
  induction fuel generalizing s b with
  | zero =>
    intro i hi
    cases hi
  | succ fuel ih =>
    intro i hi
    rw [readBodyIndices] at hi
    split at hi
    case isFalse => cases hi
    case isTrue hpos =>
      cases hres : read s b.rpcTempLen with
      | none => simp [hres] at hi
      | some r =>
        obtain ⟨r, s₁⟩ := r
        simp only [hres] at hi
        have hbytes : r.bytes.length ≤ b.rpcTempLen.toNat := by
          cases r with
          | data d => exact hread _ _ _ _ hres
          | error => exact Nat.zero_le _
        have hstored : ∀ j ∈ List.range' b.rpcBuffIdx.toNat r.bytes.length, j < rpcMaxLen := by
          intro j hj
          have hlt := (List.mem_range'_1.mp hj).2
          simp only [rpcMaxLen]
          omega
        split at hi
        case isTrue hgt =>
          split at hi
          case isTrue =>
            rcases List.mem_append.mp hi with hi | hi
            · exact hstored i hi
            · refine ih _ _ ?_ i hi
              exact advance_inside _ (Nat.zero_le _) hidx
          case isFalse => exact hstored i hi
        case isFalse hle =>
          rw [gt_iff_toNat_lt, Nat.not_lt] at hle
          rcases List.mem_append.mp hi with hi | hi
          · exact hstored i hi
          · refine ih _ _ ?_ i hi
            exact advance_inside _ hle hidx

/-- The indices of `rpcBuff` used after the length byte `len`, up to the checksum test. -/
def rpcReadFrameIndices (read : Transport σ) (fuel : ℕ) (s : σ) (rpcBuff : Mem) (len : UInt8) :
    List ℕ :=
  let b : BodyState :=
    { rpcBuff := rpcBuff.set 0 len, rpcBuffIdx := 1, rpcTempLen := len + 3, retryAttempts := 0 }
  0 :: readBodyIndices read fuel s b ++
    match readBody read fuel s b with
    | some (.complete _, _) =>
      -- `printRpcMsg` is given `&rpcBuff[1]`
      (printRpcMsgIndices len fuel).map (1 + ·) ++
        match printRpcMsg len fuel with
        | some _ => List.range (len + 3).toNat ++ [len.toNat + 3]
        | none => []
    | _ => []

/-- The indices of `rpcBuff` used by the dispatch. -/
def rpcDispatchIndices (st : RpcState) (rpcBuff : Mem) (rpcLen : UInt8) : List ℕ :=
  if cmdType (rpcBuff 1) = mtRpcCmdSrsp ∧ st.expectedSrspCmdId ≠ subsystem (rpcBuff 1) then [1]
  else 1 :: List.range' 1 rpcLen.toNat

/-- The length byte of the next frame, when SOF and it are read, and the transport then. -/
def rpcHeader (read : Transport σ) (s : σ) : Option (UInt8 × σ) := do
  let (r, s) ← read s 1
  if r.bytes.head? = some mtRpcSof ∧ r.ret = 1 then
    let (r, s) ← read s 1
    if r.ret = 1 then r.bytes.head?.map fun len => (len, s) else none
  else none

/-- The indices of `rpcBuff` used by a call of `rpcProcess`. -/
def rpcProcessIndices (read : Transport σ) (fuel : ℕ) (s : σ) (rpcBuff : Mem) (st : RpcState) :
    List ℕ :=
  match rpcHeader read s with
  | none => []
  | some (len, s) =>
    rpcReadFrameIndices read fuel s rpcBuff len ++
      match rpcReadFrame read fuel s rpcBuff len with
      | some (.valid b rpcLen, _) => rpcDispatchIndices st b rpcLen
      | _ => []

/-- After the header the call reads the frame. -/
theorem rpcReceive_of_header {s₂ : σ} (h : rpcHeader read s = some (len, s₂)) (fuel : ℕ)
    (rpcBuff : Mem) :
    rpcReceive read fuel s rpcBuff = rpcReadFrame read fuel s₂ rpcBuff len := by
  simp only [rpcHeader, Option.bind_eq_bind, Option.bind_eq_some_iff] at h
  obtain ⟨⟨r, s₁⟩, h₁, h⟩ := h
  split at h
  case isFalse => cases h
  case isTrue hsof =>
    obtain ⟨⟨r', s₁'⟩, h₂, h⟩ := Option.bind_eq_some_iff.mp h
    simp only at h
    split at h
    case isFalse => cases h
    case isTrue hone =>
      obtain ⟨len', hhead, hlen⟩ := Option.map_eq_some_iff.mp h
      obtain ⟨rfl, rfl⟩ : len' = len ∧ s₁' = s₂ := by simpa using hlen
      simp only [rpcReceive, h₁, hsof, h₂, hhead, hone, Option.bind_eq_bind, Option.bind_some]
      rfl

/-- Without a header nothing is accepted. -/
theorem rpcReceive_of_no_header (h : rpcHeader read s = none) {fuel : ℕ} {rpcBuff b : Mem}
    {rpcLen : UInt8} : rpcReceive read fuel s rpcBuff ≠ some (.valid b rpcLen, s') := by
  intro hrun
  simp only [rpcReceive, Option.bind_eq_bind, Option.bind_eq_some_iff] at hrun
  obtain ⟨⟨r, s₁⟩, h₁, hrun⟩ := hrun
  simp only [rpcHeader, h₁, Option.bind_eq_bind, Option.bind_some] at h
  split at hrun
  case isFalse => cases hrun
  case isTrue hsof =>
    rw [if_pos hsof] at h
    obtain ⟨⟨r', s₁'⟩, h₂, hrun⟩ := Option.bind_eq_some_iff.mp hrun
    rw [h₂, Option.bind_some] at h
    cases hhead : r'.bytes.head? with
    | none => simp [hhead] at hrun
    | some len =>
      by_cases hone : r'.ret = 1
      · simp [hhead, hone] at h
      · simp [hhead, hone] at hrun

end ZnpHost.Rpc
