import Mathlib.Data.List.Basic

/-!
# Words and strings in memory

* `le32`, `ofLe32`: a 32-bit word as four little-endian bytes, and back (`ofLe32_le32`).
* `and_twoPow_eq_zero_iff`: a bit of a word, asked for with a mask.
* `CStr`: a NUL-terminated string, given by its bytes before the NUL. `CStr.readStr` copies it into
  a fixed buffer: at most one byte less than the buffer holds, then a NUL, the rest of the buffer
  keeping its content. `cut` reads a buffer up to its first NUL.
* `cut_readStr`: what is read back is the string, truncated, whatever the buffer held;
  `readStr_inj`: two copies into the same buffer are equal exactly if they read back equal.
-/

set_option autoImplicit false

/-! ## Words -/

/-- The four bytes of a word, least significant first. -/
def le32 (x : UInt32) : List UInt8 :=
  [x.toUInt8, (x >>> 8).toUInt8, (x >>> 16).toUInt8, (x >>> 24).toUInt8]

/-- The word of the first four bytes, least significant first; 0 if there are fewer. -/
def ofLe32 : List UInt8 → UInt32
  | b0 :: b1 :: b2 :: b3 :: _ =>
    b0.toUInt32 ||| b1.toUInt32 <<< 8 ||| b2.toUInt32 <<< 16 ||| b3.toUInt32 <<< 24
  | _ => 0

@[simp] theorem le32_length (x : UInt32) : (le32 x).length = 4 := rfl

theorem ofLe32_le32 (x : UInt32) (rest : List UInt8) : ofLe32 (le32 x ++ rest) = x := by
  simp only [le32, ofLe32, List.cons_append, List.nil_append]
  apply UInt32.toBitVec_inj.1
  simp only [UInt32.toBitVec_or, UInt32.toBitVec_shiftLeft, UInt32.toBitVec_shiftRight,
    UInt8.toBitVec_toUInt32, UInt32.toBitVec_toUInt8]
  apply BitVec.eq_of_getLsbD_eq
  intro i hi
  -- the byte that holds bit `i`
  obtain h | h | h | h : i < 8 ∨ (8 ≤ i ∧ i < 16) ∨ (16 ≤ i ∧ i < 24) ∨ 24 ≤ i := by omega
  all_goals simp [hi]; grind

/-- A word has no bit in common with a power of two exactly if that bit is not set. -/
theorem and_twoPow_eq_zero_iff {x m : UInt32} {i : Nat} (hi : i < 32)
    (hm : m.toBitVec = BitVec.twoPow 32 i) : x &&& m = 0 ↔ x.toBitVec.getLsbD i = false := by
  have hne : BitVec.twoPow 32 i ≠ 0#32 := by
    intro h
    have hbit := congrArg (·.getLsbD i) h
    simp [hi] at hbit
  rw [← UInt32.toBitVec_inj, UInt32.toBitVec_and, hm, BitVec.and_twoPow]
  cases x.toBitVec.getLsbD i with
  | false => simp
  | true => simpa using hne

/-! ## Strings -/

/-- The bytes before the first NUL. -/
def cut (s : List UInt8) : List UInt8 := s.takeWhile (· ≠ 0)

/-- A string whose bytes are followed by a NUL in memory. -/
structure CStr where
  bytes : List UInt8
  noNul : 0 ∉ bytes
  deriving DecidableEq

namespace CStr

variable {n : Nat}

/-- Copy the string into a buffer: at most `n` bytes and a NUL. -/
def readStr (dst : Vector UInt8 (n + 1)) (src : CStr) : Vector UInt8 (n + 1) :=
  ⟨(src.bytes.take n ++ 0 :: dst.toList.drop ((src.bytes.take n).length + 1)).toArray, by
    simp; omega⟩

theorem toList_readStr (dst : Vector UInt8 (n + 1)) (src : CStr) : (readStr dst src).toList =
    src.bytes.take n ++ 0 :: dst.toList.drop ((src.bytes.take n).length + 1) := rfl

/-- A copied string reads back truncated, whatever the buffer held. -/
theorem cut_readStr (dst : Vector UInt8 (n + 1)) (src : CStr) :
    cut (readStr dst src).toList = src.bytes.take n := by
  have hne : ∀ b ∈ src.bytes.take n, decide (b ≠ 0) = true := fun b hb =>
    decide_eq_true fun h0 => src.noNul (h0 ▸ List.mem_of_mem_take hb)
  rw [toList_readStr, cut, List.takeWhile_append_of_pos hne]
  simp

/-- Copies into the same buffer are equal exactly if they read back equal. -/
theorem readStr_inj {dst : Vector UInt8 (n + 1)} {a b : CStr} :
    readStr dst a = readStr dst b ↔ a.bytes.take n = b.bytes.take n := by
  refine ⟨fun h => ?_, fun h => ?_⟩
  · rw [← cut_readStr dst a, h, cut_readStr]
  · apply Vector.toList_inj.1
    rw [toList_readStr, toList_readStr, h]

end CStr
