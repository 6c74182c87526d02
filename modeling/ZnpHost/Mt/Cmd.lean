import ZnpHost.Mt.Words

/-!
# Request buffers

Every request builder allocates a buffer `cmd`, stores into it with `cmd[cmInd++]` or
`memcpy`, and sends it.  The length is computed apart from the stores.

## Main definitions

* `Cmd` — the length and the stores of one builder.
* `Cmd.payload` — what is sent, given what the allocated block held before.
* `Cmd.SendsWhatItWrote` — the stores fill the block, no more and no less.
* `Cmd.buffer`, `Cmd.call` — the block after the stores, and how the builder ends.
-/

namespace ZnpHost.Mt

open Lib

/-- What a builder does with `cmd` before it calls `rpcSendFrame`. -/
structure Cmd where
  cmd0 : UInt8
  cmd1 : UInt8
  /-- The length that is allocated and passed to `rpcSendFrame`. -/
  cmdLen : ℕ
  /-- The bytes stored, the first one at index 0. -/
  stores : List UInt8

namespace Cmd

variable (c : Cmd)

/-- The indices stored to; `cmInd` is eight bits wide. -/
def indices : List ℕ := (List.range c.stores.length).map fun k => (UInt8.ofNat k).toNat

/-- The bytes sent; a block from `malloc` holds anything. -/
def payload (heap : Mem) : List UInt8 := (heap.blit 0 c.stores).take c.cmdLen

/-- The builder stores exactly the bytes it sends. -/
structure SendsWhatItWrote : Prop where
  count : c.stores.length = c.cmdLen
  inside : ∀ i ∈ c.indices, i < c.cmdLen
  payload : ∀ heap, c.payload heap = c.stores

/-- Up to 256 stores go to consecutive cells. -/
theorem indices_eq_range (h : c.stores.length ≤ 256) :
    c.indices = List.range c.stores.length := by
  apply List.ext_getElem
  · simp [indices]
  · intro k hk _
    rw [indices, List.length_map, List.length_range] at hk
    simp only [indices, List.getElem_map, List.getElem_range, UInt8.toNat_ofNat']
    omega

/-- The number of stores decides everything. -/
theorem sendsWhatItWrote_iff (h : c.stores.length ≤ 256) :
    c.SendsWhatItWrote ↔ c.stores.length = c.cmdLen := by
  constructor
  · exact SendsWhatItWrote.count
  · intro hcount
    constructor
    · exact hcount
    · intro i hi
      rw [indices_eq_range c h, List.mem_range] at hi
      exact hcount ▸ hi
    · intro heap
      have hread := Mem.take_shift_blit heap 0 c.stores hcount.symm
      rwa [Mem.shift_zero] at hread

end Cmd

/-! ## The call of `rpcSendFrame` -/

/-- `cmd[cmInd++] = b` for each byte in turn; `cmInd` is eight bits wide. -/
def storeFrom : UInt8 → List UInt8 → Mem → Mem
  | _, [], cmd => cmd
  | cmInd, b :: bs, cmd => storeFrom (cmInd + 1) bs (cmd.set cmInd.toNat b)

theorem storeFrom_append (i : UInt8) (bs cs : List UInt8) (cmd : Mem) :
    storeFrom i (bs ++ cs) cmd =
      storeFrom (i + UInt8.ofNat bs.length) cs (storeFrom i bs cmd) := by
  induction bs generalizing i cmd with
  | nil => simp [storeFrom]
  | cons b bs ih =>
    rw [List.cons_append, storeFrom, storeFrom, ih, List.length_cons]
    congr 1
    apply UInt8.toNat_inj.mp
    simp only [UInt8.toNat_add, UInt8.toNat_ofNat', UInt8.reduceToNat]
    omega

/-- Stores that do not wrap copy a block. -/
theorem storeFrom_eq_blit (i : UInt8) (bs : List UInt8) (cmd : Mem)
    (h : i.toNat + bs.length ≤ 256) : storeFrom i bs cmd = cmd.blit i.toNat bs := by
  induction bs generalizing i cmd with
  | nil => simp [storeFrom]
  | cons b bs ih =>
    rw [List.length_cons] at h
    cases bs with
    | nil => rw [storeFrom, storeFrom, Mem.set_eq_blit]
    | cons c bs =>
      rw [List.length_cons] at h
      have hsucc : (i + 1).toNat = i.toNat + 1 := toNat_succ (by omega)
      rw [storeFrom, ih (i + 1) _ (by rw [hsucc, List.length_cons]; omega), hsucc,
        Mem.set_eq_blit]
      exact Mem.blit_append cmd i.toNat [b] (c :: bs)

/-- How a builder ends: with a status of its own, or with a call of `rpcSendFrame`. -/
inductive CmdEnd
  | status (s : UInt8)
  | rpcSendFrame (cmd0 cmd1 : UInt8) (payload : Mem) (payloadLen : UInt8)

namespace Cmd

variable (c : Cmd)

/-- The block after the stores. -/
def buffer (block : Mem) : Mem := storeFrom 0 c.stores block

/-- The length that `rpcSendFrame` is given; its parameter is eight bits wide. -/
def payloadLen : UInt8 := UInt8.ofNat c.cmdLen

/-- The payload that `rpcSendFrame` is given. -/
def passed (block : Mem) : List UInt8 := (c.buffer block).take c.payloadLen.toNat

/-- The builder, on what `malloc` returns. -/
def call : Option Mem → CmdEnd
  | some block => .rpcSendFrame c.cmd0 c.cmd1 (c.buffer block) c.payloadLen
  -- memory for cmd was not allocated
  | none => .status 1

theorem length_passed (block : Mem) : (c.passed block).length = c.cmdLen % 256 := by
  rw [passed, Mem.length_take, payloadLen, UInt8.toNat_ofNat']

/-- Up to 256 bytes the block holds the stores. -/
theorem take_buffer (h : c.stores.length ≤ 256) (block : Mem) :
    (c.buffer block).take c.stores.length = c.stores := by
  have hblit : c.buffer block = block.blit 0 c.stores :=
    storeFrom_eq_blit 0 c.stores block (by simpa using h)
  have hread := Mem.take_shift_blit block 0 c.stores rfl
  rwa [Mem.shift_zero, ← hblit] at hread

/-- A builder that counts right passes on what it stored since `cmInd` last became zero. -/
theorem passed_eq_drop (hcount : c.stores.length = c.cmdLen) (block : Mem) :
    c.passed block = c.stores.drop (c.cmdLen / 256 * 256) := by
  let n := c.cmdLen / 256 * 256
  have hn : n ≤ c.stores.length := by omega
  have hsplit : c.buffer block = storeFrom (0 + UInt8.ofNat n) (c.stores.drop n)
      (storeFrom 0 (c.stores.take n) block) := by
    have happ := storeFrom_append 0 (c.stores.take n) (c.stores.drop n) block
    rwa [List.take_append_drop, List.length_take, Nat.min_eq_left hn] at happ
  have hzero : (0 : UInt8) + UInt8.ofNat n = 0 := by
    apply UInt8.toNat_inj.mp
    simp only [UInt8.toNat_add, UInt8.toNat_ofNat', UInt8.reduceToNat]
    omega
  have hlen : (c.stores.drop n).length = c.cmdLen % 256 := by
    rw [List.length_drop]
    omega
  have hblit : c.buffer block =
      (storeFrom 0 (c.stores.take n) block).blit 0 (c.stores.drop n) := by
    rw [hsplit, hzero]
    exact storeFrom_eq_blit 0 _ _ (by rw [hlen, UInt8.toNat_zero]; omega)
  have hread := Mem.take_shift_blit (storeFrom 0 (c.stores.take n) block) 0 (c.stores.drop n)
    hlen.symm
  rwa [Mem.shift_zero, ← hblit] at hread

/-- A builder that counts right and stores at most 255 bytes passes its stores on. -/
theorem passed_eq_stores (hcount : c.stores.length = c.cmdLen) (h : c.cmdLen ≤ 255)
    (block : Mem) : c.passed block = c.stores := by
  have hzero : c.cmdLen / 256 * 256 = 0 := by omega
  rw [passed_eq_drop c hcount, hzero, List.drop_zero]

end Cmd

/-! ## Arrays of a request -/

variable {size : ℕ}

/-- The first `n` bytes of an array. -/
def bytes (a : Vector UInt8 size) (n : ℕ) : List UInt8 := a.toList.take n

/-- The first `n` words of an array, low bytes first. -/
def words (a : Vector UInt16 size) (n : ℕ) : List UInt8 :=
  (a.toList.take n).flatMap fun w => [loUint16 w, hiUint16 w]

@[simp] theorem length_bytes (a : Vector UInt8 size) (n : ℕ) :
    (bytes a n).length = min n size := by
  simp [bytes]

@[simp] theorem length_words (a : Vector UInt16 size) (n : ℕ) :
    (words a n).length = min n size * 2 := by
  simp [words, List.length_flatMap, List.map_const', List.take_replicate]

end ZnpHost.Mt
