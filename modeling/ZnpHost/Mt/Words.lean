import ZnpHost.Lib.CArray
import ZnpHost.Lib.Reader

/-!
# Words and lists in messages

The byte-order macros of `mtParser.h` and the loops by which the decoders read wide
fields and lists.

## Main definitions

* `buildUint16`, `loUint16`, `hiUint16` — a 16-bit word and its two bytes.
* `word`, `dword`, `qword` — wide fields, low byte first.
* `list`, `listIf` — a list whose length was read before.
-/

namespace ZnpHost.Mt

open Lib Reader

/-- `BUILD_UINT16`. -/
def buildUint16 (loByte hiByte : UInt8) : UInt16 := loByte.toUInt16 + (hiByte.toUInt16 <<< 8)

/-- `LO_UINT16`. -/
def loUint16 (a : UInt16) : UInt8 := (a &&& 0xFF).toUInt8

/-- `HI_UINT16`. -/
def hiUint16 (a : UInt16) : UInt8 := ((a >>> 8) &&& 0xFF).toUInt8

/-- `BUILD_UINT16(rpcBuff[msgIdx], rpcBuff[msgIdx + 1])`, then `msgIdx += 2`. -/
def word : Reader UInt16 := .next 2 0 fun b => .done (buildUint16 (b 0) (b 1))

/-- `BUILD_UINT16(rpcBuff[msgIdx], rpcBuff[msgIdx + 1])` alone. -/
def peekWord : Reader UInt16 := .next 0 2 fun b => .done (buildUint16 (b 0) (b 1))

/-- `x |= ((uint32_t) byte) << (i * 8)` for each byte in turn. -/
def orBytes32 : List UInt8 → ℕ → UInt32 → UInt32
  | [], _, x => x
  | b :: bs, i, x => orBytes32 bs (i + 1) (x ||| (b.toUInt32 <<< UInt32.ofNat (i * 8)))

/-- `x |= ((uint64_t) byte) << (i * 8)` for each byte in turn. -/
def orBytes64 : List UInt8 → ℕ → UInt64 → UInt64
  | [], _, x => x
  | b :: bs, i, x => orBytes64 bs (i + 1) (x ||| (b.toUInt64 <<< UInt64.ofNat (i * 8)))

/-- A 32-bit field. -/
def dword : Reader UInt32 := do
  let bs ← times 4 byte
  return orBytes32 bs 0 0

/-- A 64-bit field. -/
def qword : Reader UInt64 := do
  let bs ← times 8 byte
  return orBytes64 bs 0 0

variable {size : ℕ} {α : Type}

/-- The loop that fills a list with `n` elements. -/
def list (n : ℕ) (d : Reader α) : Reader (CArray size α) := do
  let xs ← times n d
  return .ofList xs

/-- The loop under a condition on the length of the message. -/
def listIf (c : Prop) [Decidable c] (n : ℕ) (d : Reader α) : Reader (CArray size α) :=
  if c then list n d else pure .empty

end ZnpHost.Mt
