import Mathlib.Data.List.Basic
import Mathlib.Tactic.IntervalCases

/-!
# Plain `char`, `int` and `uint16_t`

On x86-64 a plain `char` is signed, so a byte that takes part in an arithmetic expression is first
sign-extended to a 32-bit `int` (`promote`).  This file computes what becomes of a 16-bit number
that is written as two bytes in network order (`htons`) and put together again by
`l | (h << 8)` (`joinBytes`): the result is the number itself exactly when the sign bit of the low
byte is clear or the high byte is all ones (`joinBytes_htons_iff`).
-/

namespace CInt

/-- Integral promotion of a plain `char`, signed and eight bits wide, to a 32-bit `int`. -/
def promote (c : UInt8) : BitVec 32 := c.toBitVec.signExtend 32

/-- `l | (h << 8)` computed in `int` and converted to `uint16_t`. -/
def joinBytes (h l : UInt8) : UInt16 :=
  UInt16.ofBitVec ((promote l ||| (promote h <<< 8)).setWidth 16)

/-- The high byte of a 16-bit number. -/
def hiByte (v : UInt16) : UInt8 := (v >>> 8).toUInt8

/-- The low byte of a 16-bit number. -/
def loByte (v : UInt16) : UInt8 := v.toUInt8

/-- The two bytes of `htons(v)` in the order in which they lie in memory. -/
def htons (v : UInt16) : List UInt8 := [hiByte v, loByte v]

@[simp] theorem hiByte_toNat (v : UInt16) : (hiByte v).toNat = v.toNat / 256 := by
  have h := v.toNat_lt
  simp only [hiByte, UInt16.toNat_toUInt8, UInt16.toNat_shiftRight, Nat.shiftRight_eq_div_pow]
  change v.toNat / 2 ^ 8 % 256 = _
  omega

@[simp] theorem loByte_toNat (v : UInt16) : (loByte v).toNat = v.toNat % 256 := by
  simp [loByte]

theorem htons_injective {v w : UInt16} (h : htons v = htons w) : v = w := by
  simp only [htons, List.cons.injEq, and_true] at h
  have hhi := congrArg UInt8.toNat h.1
  have hlo := congrArg UInt8.toNat h.2
  rw [hiByte_toNat, hiByte_toNat] at hhi
  rw [loByte_toNat, loByte_toNat] at hlo
  apply UInt16.toNat_inj.1
  omega

theorem boolToUInt16_injective {a b : Bool} (h : a.toUInt16 = b.toUInt16) : a = b := by
  revert h
  cases a <;> cases b <;> decide

/-- A number that came from `uint16_t` survives the way through `int` and back. -/
@[simp] theorem ofInt_toNat (v : UInt16) : UInt16.ofInt (v.toNat : Int) = v := by
  have h : ((v.toNat : Int) % 2 ^ 16).toNat = v.toNat := by
    have := v.toNat_lt
    omega
  rw [UInt16.ofInt, h, UInt16.ofNat_toNat]

/-! ## Joining two sign-extended bytes -/

theorem promote_low_bit (c : UInt8) {i : ℕ} (hi : i < 8) :
    (promote c).getLsbD i = c.toBitVec.getLsbD i := by
  rw [promote, BitVec.getLsbD_signExtend, if_pos hi, decide_eq_true (by omega : i < 32),
    Bool.true_and]

theorem promote_high_bit (c : UInt8) {i : ℕ} (hi : 8 ≤ i) (hi' : i < 32) :
    (promote c).getLsbD i = decide (0x80 ≤ c.toNat) := by
  rw [promote, BitVec.getLsbD_signExtend, if_neg (Nat.not_lt.2 hi), decide_eq_true hi',
    Bool.true_and, BitVec.msb_eq_decide]
  rfl

/-- The copies of the low byte's sign bit overwrite the high byte. -/
theorem joinBytes_toBitVec (h l : UInt8) :
    (joinBytes h l).toBitVec =
      (if l.toNat < 0x80 then h.toBitVec else BitVec.allOnes 8) ++ l.toBitVec := by
  apply BitVec.eq_of_getLsbD_eq
  intro i hi
  simp only [joinBytes, BitVec.getLsbD_setWidth, hi, decide_true, Bool.true_and,
    BitVec.getLsbD_or, BitVec.getLsbD_shiftLeft, BitVec.getLsbD_append]
  by_cases h8 : i < 8
  · simp [h8, promote_low_bit]
  · have h32 : i < 32 := by omega
    have h8' : i - 8 < 8 := by omega
    rw [promote_high_bit l (by omega) h32, promote_low_bit h h8']
    by_cases hl : l.toNat < 0x80
    · simp [h8, hl, h32, Nat.not_le.2 hl]
    · rw [if_neg hl, BitVec.getLsbD_allOnes, decide_eq_true (Nat.le_of_not_lt hl)]
      simp [h8, h8']

theorem joinBytes_toNat (h l : UInt8) :
    (joinBytes h l).toNat = (if l.toNat < 0x80 then h.toNat else 0xFF) * 256 + l.toNat := by
  have e := congrArg BitVec.toNat (joinBytes_toBitVec h l)
  rw [BitVec.toNat_append, ← Nat.shiftLeft_add_eq_or_of_lt l.toBitVec.isLt, Nat.shiftLeft_eq] at e
  change (joinBytes h l).toNat = _ at e
  rw [e]
  by_cases hl : l.toNat < 0x80
  · rw [if_pos hl, if_pos hl]
    rfl
  · rw [if_neg hl, if_neg hl]
    rfl

theorem joinBytes_htons_iff (v : UInt16) :
    joinBytes (hiByte v) (loByte v) = v ↔ v.toNat % 256 < 0x80 ∨ v.toNat / 256 = 0xFF := by
  have hv := v.toNat_lt
  rw [← UInt16.toNat_inj, joinBytes_toNat, hiByte_toNat, loByte_toNat]
  split_ifs <;> omega

example : joinBytes 0x00 0x7F = 127 := by decide
example : joinBytes 0x00 0x80 = 0xFF80 := by decide

end CInt
