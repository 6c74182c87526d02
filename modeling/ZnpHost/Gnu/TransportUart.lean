import Mathlib.Data.Int.Notation
import ZnpHost.Lib.Loop
import ZnpHost.Lib.Writer
import ZnpHost.Rpc.Frame

/-!
# Writing to the serial port

`rpcTransportWrite` of the POSIX transport offers the buffer to `write` in pieces of eight
bytes, each of them once, and does not look at what `write` returns.

## Main definitions

* `WriteState`, `writeRound` — the loop variables, and one round of the loop.
* `rpcTransportWrite` — the bytes the device accepts during one call.
* `rpcTransportWrite_eq` — these are what it takes of the pieces.
* `rpcTransportWrite_delivers_iff` — for which devices they are the buffer.
-/

namespace ZnpHost.Gnu

open Lib Rpc

variable {σ : Type}

/-- The device, the variables of the loop, and the bytes accepted so far. -/
structure WriteState (σ : Type) where
  port : σ
  remain : ℤ
  offset : ℤ
  line : List UInt8

/-- One round of `while (remain > 0)`.  What `write` returns is not used; `tcflush` is taken
to leave accepted bytes alone. -/
def writeRound (write : Device σ UInt8) (buf : Mem) (w : WriteState σ) :
    Option (WriteState σ ⊕ List UInt8 × σ) :=
  if w.remain > 0 then
    let sub : ℤ := if w.remain ≥ 8 then 8 else w.remain
    let block := (buf.shift w.offset.toNat).take sub.toNat
    let (k, port) := write w.port block
    some (.inl
      { port, remain := w.remain - 8, offset := w.offset + 8, line := w.line ++ block.take k })
  else some (.inr (w.line, w.port))

/-- `rpcTransportWrite(buf, len)`. -/
def rpcTransportWrite (write : Device σ UInt8) (fuel : ℕ) (port : σ) (buf : Mem) (len : UInt8) :
    Option (List UInt8 × σ) :=
  runLoop (writeRound write buf) fuel
    { port, remain := len.toNat, offset := 0, line := [] }

/-- The number of rounds for a length. -/
def rounds (len : UInt8) : ℕ := (len.toNat + 7) / 8

/-- The blocks offered to `write`. -/
def blocks (buf : Mem) (len : UInt8) : List (List UInt8) :=
  pieces 8 (rounds len) (buf.take len.toNat)

theorem rounds_le (len : UInt8) : rounds len ≤ 32 := by
  have hlt := len.toNat_lt
  rw [rounds]
  omega

theorem flatten_blocks (buf : Mem) (len : UInt8) :
    (blocks buf len).flatten = buf.take len.toNat := by
  apply flatten_pieces
  rw [Mem.length_take, rounds]
  omega

/-! ## The loop -/

/-- The loop with `k` rounds to go and `r` bytes left, the last round running below zero. -/
theorem runLoop_writeRound (write : Device σ UInt8) (buf : Mem) {k r : ℕ} (hk : k = (r + 7) / 8)
    {fuel : ℕ} (hf : k < fuel) (remain : ℤ) (hr : r = remain.toNat) (port : σ) (i : ℕ)
    (line : List UInt8) :
    runLoop (writeRound write buf) fuel { port, remain, offset := i, line } =
      some (line ++ (accepted write port (pieces 8 k ((buf.shift i).take r))).1,
        (accepted write port (pieces 8 k ((buf.shift i).take r))).2) := by
  induction k generalizing r remain port i line fuel with
  | zero =>
    obtain ⟨fuel, rfl⟩ : ∃ n, fuel = n + 1 := ⟨fuel - 1, by omega⟩
    have hend : ¬ remain > 0 := by omega
    simp [runLoop, writeRound, hend, pieces, accepted]
  | succ k ih =>
    obtain ⟨fuel, rfl⟩ : ∃ n, fuel = n + 1 := ⟨fuel - 1, by omega⟩
    have hpos : remain > 0 := by omega
    have hsub : (if remain ≥ 8 then 8 else remain).toNat = min 8 r := by
      split <;> omega
    have hless : k = (r - 8 + 7) / 8 := by omega
    have hrest := ih hless (show k < fuel by omega) (remain - 8) (by omega)
    have hoff : ((i : ℤ) + 8) = ((i + 8 : ℕ) : ℤ) := by simp
    have hblock := Mem.take_take (buf.shift i) r 8
    have hbehind := Mem.drop_take (buf.shift i) r 8
    rw [runLoop, writeRound, if_pos hpos]
    simp only [hsub, Int.toNat_natCast, hoff, hrest, pieces_succ, accepted, hblock, hbehind,
      Mem.shift_shift, List.append_assoc]

/-- **A call ends, and the device has accepted what it takes of the blocks.** -/
theorem rpcTransportWrite_eq (write : Device σ UInt8) {fuel : ℕ} (hf : 32 < fuel) (port : σ)
    (buf : Mem) (len : UInt8) :
    rpcTransportWrite write fuel port buf len = some (accepted write port (blocks buf len)) := by
  have hk := rounds_le len
  have hrun := runLoop_writeRound write buf (k := rounds len) (r := len.toNat) rfl
    (show rounds len < fuel by omega) len.toNat (by simp) port 0 []
  simpa [rpcTransportWrite, blocks] using hrun

/-! ## The exact condition -/

/-- **The loop ends, and the device has accepted exactly the buffer if and only if it takes
every block whole.** -/
theorem rpcTransportWrite_delivers_iff (write : Device σ UInt8) (port : σ) (buf : Mem)
    (len : UInt8) :
    ∃ line port', (∀ fuel > 32, rpcTransportWrite write fuel port buf len = some (line, port')) ∧
      (line = buf.take len.toNat ↔ TakesWhole write port (blocks buf len)) := by
  refine ⟨_, _, fun fuel hf => rpcTransportWrite_eq write hf port buf len, ?_⟩
  rw [← flatten_blocks]
  exact accepted_eq_flatten_iff port (blocks buf len)

/-- A device that has room for four bytes at a time. -/
def fourAtATime : Device Unit UInt8 := fun _ bs => (min 4 bs.length, ())

theorem progresses_fourAtATime : Device.Progresses fourAtATime := by
  intro _ bs hbs
  have hpos := List.length_pos_iff.mpr hbs
  simp only [fourAtATime]
  omega

/-- It gets a ping request without its checksum. -/
theorem rpcTransportWrite_drops_fcs :
    Device.Progresses fourAtATime ∧
      ∀ fuel > 32, ∀ line port',
        rpcTransportWrite fourAtATime fuel ()
            (rpcSendFrameBuf 0x21 0x01 (fun _ => 0) 0 fun _ => 0) 5 = some (line, port') →
          line ≠ (rpcSendFrameBuf 0x21 0x01 (fun _ => 0) 0 fun _ => 0).take 5 := by
  refine ⟨progresses_fourAtATime, ?_⟩
  intro fuel hf line port' hrun
  rw [rpcTransportWrite_eq _ hf] at hrun
  cases hrun
  decide

end ZnpHost.Gnu
