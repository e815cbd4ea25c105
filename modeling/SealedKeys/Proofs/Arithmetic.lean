import Mathlib
import SealedKeys.Rsa.Arithmetic
import SealedKeys.Bytes

/-!
Numbers, bytes and powers.

What a byte string of a fixed length keeps of a number is its remainder by a power of 256
(`toNat_ofNat`), and byte strings of one length stand for different numbers (`toNat_inj`), which
are bounded by the length and by the first byte (`toNat_lt`, `toNat_cons_lt`); squaring and
multiplying gives the power, reduced by the modulus (`powMod_eq`).
-/

namespace SealedKeys

theorem lt_two_pow_bitLength (value : Nat) : value < 2 ^ bitLength value := by
  unfold bitLength
  split
  · rename_i zero
    subst zero
    exact Nat.one_pos
  · exact Nat.lt_log2_self

theorem two_pow_bitLength_le {value : Nat} (positive : 0 < value) :
    2 ^ (bitLength value - 1) ≤ value := by
  rw [bitLength, if_neg positive.ne', Nat.add_sub_cancel]
  exact Nat.log2_self_le positive.ne'

theorem lt_pow_byteLength (value : Nat) : value < 256 ^ byteLength value := by
  calc
    value < 2 ^ bitLength value := lt_two_pow_bitLength value
    _ ≤ 2 ^ (8 * byteLength value) := by
      apply Nat.pow_le_pow_right (by decide)
      unfold byteLength
      omega
    _ = 256 ^ byteLength value := by rw [Nat.pow_mul]

theorem pow_byteLength_le {value : Nat} (positive : 0 < value) :
    256 ^ (byteLength value - 1) ≤ value := by
  calc
    256 ^ (byteLength value - 1) = 2 ^ (8 * (byteLength value - 1)) := by rw [Nat.pow_mul]
    _ ≤ 2 ^ (bitLength value - 1) := by
      apply Nat.pow_le_pow_right (by decide)
      unfold byteLength
      omega
    _ ≤ value := two_pow_bitLength_le positive

theorem byteLength_le_of_lt {value count : Nat} (small : value < 256 ^ count) :
    byteLength value ≤ count := by
  rcases Nat.eq_zero_or_pos value with rfl | positive
  · exact Nat.zero_le count
  · have below := (pow_byteLength_le positive).trans_lt small
    rw [Nat.pow_lt_pow_iff_right (by decide)] at below
    omega

namespace Bytes

/-- A number written at a fixed length is read back as far as the length goes. -/
theorem toNat_ofNat (length value : Nat) : toNat (ofNat length value) = value % 256 ^ length := by
  induction length generalizing value with
  | zero => simp [ofNat, toNat, Nat.mod_one]
  | succ length ih =>
    have lowByte : (UInt8.ofNat value).toNat = value % 256 := by simp
    rw [ofNat, toNat_append_byte, ih, lowByte, Nat.pow_succ, Nat.mul_comm (256 ^ length) 256,
      Nat.mod_mul]
    omega

theorem toNat_ofNat_of_lt {length value : Nat} (fits : value < 256 ^ length) :
    toNat (ofNat length value) = value := by
  rw [toNat_ofNat, Nat.mod_eq_of_lt fits]

theorem toNat_minimal (value : Nat) : toNat (minimal value) = value :=
  toNat_ofNat_of_lt (lt_pow_byteLength value)

theorem ofNat_toNat (bytes : Bytes) : ofNat bytes.length (toNat bytes) = bytes := by
  induction bytes using List.reverseRecOn with
  | nil => rfl
  | append_singleton front byte ih =>
    have small := byte.toNat_lt
    have high : (256 * toNat front + byte.toNat) / 256 = toNat front := by omega
    have low : UInt8.ofNat (256 * toNat front + byte.toNat) = byte := by
      apply UInt8.toNat_inj.1
      simp only [UInt8.toNat_ofNat']
      omega
    rw [List.length_append, List.length_singleton, toNat_append_byte, ofNat, high, low, ih]

theorem toNat_inj {left right : Bytes} (length : left.length = right.length) :
    toNat left = toNat right ↔ left = right := by
  constructor
  · intro same
    rw [← ofNat_toNat left, ← ofNat_toNat right, length, same]
  · rintro rfl
    rfl

theorem toNat_lt (bytes : Bytes) : toNat bytes < 256 ^ bytes.length := by
  rw [← ofNat_toNat bytes, toNat_ofNat, length_ofNat]
  exact Nat.mod_lt _ (Nat.pow_pos (by decide))

theorem toNat_cons (byte : UInt8) (rest : Bytes) :
    toNat (byte :: rest) = byte.toNat * 256 ^ rest.length + toNat rest := by
  induction rest using List.reverseRecOn with
  | nil => simp [toNat]
  | append_singleton front last ih =>
    rw [← List.cons_append, toNat_append_byte, ih, toNat_append_byte, List.length_append,
      List.length_singleton, Nat.pow_succ]
    ring

theorem toNat_zeros_append (count : Nat) (bytes : Bytes) :
    toNat (List.replicate count 0 ++ bytes) = toNat bytes := by
  induction count with
  | zero => rfl
  | succ count ih =>
    rw [List.replicate_succ, List.cons_append, toNat_cons, UInt8.toNat_zero, Nat.zero_mul,
      Nat.zero_add, ih]

/-- Padding changes no number. -/
theorem toNat_padLeft (size : Nat) (bytes : Bytes) : toNat (padLeft size bytes) = toNat bytes :=
  toNat_zeros_append _ bytes

/-- Digits without a zero byte in front are as many as their number needs. -/
theorem byteLength_toNat {digits : Bytes} (minimal : digits.head? ≠ some 0) :
    byteLength (toNat digits) = digits.length := by
  apply Nat.le_antisymm (byteLength_le_of_lt (toNat_lt digits))
  cases digits with
  | nil => exact Nat.zero_le _
  | cons first rest =>
    have positive : 1 ≤ first.toNat := by
      rw [Nat.one_le_iff_ne_zero]
      intro zero
      exact minimal (congrArg some (UInt8.toNat_inj.1 zero))
    have lower : 256 ^ rest.length ≤ toNat (first :: rest) := by
      rw [toNat_cons]
      exact (Nat.le_mul_of_pos_left _ positive).trans (Nat.le_add_right _ _)
    exact (Nat.pow_lt_pow_iff_right (by decide)).1 (lower.trans_lt (lt_pow_byteLength _))

/-- A number written with as few bytes as hold it has no zero byte in front. -/
theorem head?_minimal (value : Nat) : (minimal value).head? ≠ some 0 := by
  intro zero
  obtain ⟨rest, written⟩ := List.head?_eq_some_iff.1 zero
  have length : rest.length = byteLength value - 1 := by
    have whole := congrArg List.length written
    rw [minimal, length_ofNat, List.length_cons] at whole
    omega
  have small : value < 256 ^ (byteLength value - 1) := by
    calc
      value = toNat (0 :: rest) := by rw [← written, toNat_minimal]
      _ = toNat rest := by rw [toNat_cons, UInt8.toNat_zero, Nat.zero_mul, Nat.zero_add]
      _ < 256 ^ (byteLength value - 1) := length ▸ toNat_lt rest
  have positive : 0 < value := by
    by_contra notPositive
    have none_written : value = 0 := by omega
    subst none_written
    cases zero
  exact absurd (pow_byteLength_le positive) (Nat.not_le_of_lt small)

/-- A bound on the first byte bounds the number. -/
theorem toNat_cons_lt {byte : UInt8} {bound : Nat} (small : byte.toNat < bound) (rest : Bytes) :
    toNat (byte :: rest) < bound * 256 ^ rest.length := by
  rw [toNat_cons]
  calc
    byte.toNat * 256 ^ rest.length + toNat rest
        < byte.toNat * 256 ^ rest.length + 256 ^ rest.length :=
      Nat.add_lt_add_left (toNat_lt rest) _
    _ = (byte.toNat + 1) * 256 ^ rest.length := by rw [Nat.add_mul, Nat.one_mul]
    _ ≤ bound * 256 ^ rest.length := Nat.mul_le_mul_right _ small

end Bytes

namespace Rsa

theorem powModFrom_eq (modulus product base exponent : Nat) :
    powModFrom modulus product base exponent = product * base ^ exponent % modulus := by
  induction exponent using Nat.strongRecOn generalizing product base with
  | ind exponent ih =>
    rw [powModFrom]
    split
    · simp [*]
    · rename_i positive
      have halves := Nat.div_add_mod exponent 2
      have square (n : Nat) : (base * base) ^ n = base ^ (2 * n) := by
        rw [Nat.pow_mul, Nat.pow_two]
      rw [ih (exponent / 2) (by omega), Nat.mul_mod, ← Nat.pow_mod, ← Nat.mul_mod, square]
      split
      · rename_i odd
        rw [Nat.mod_mul_mod, Nat.mul_assoc, ← Nat.pow_succ']
        congr 3
        omega
      · congr 3
        omega

/-- Squaring and multiplying gives the power, reduced by the modulus. -/
theorem powMod_eq (base exponent modulus : Nat) :
    powMod base exponent modulus = base ^ exponent % modulus := by
  rw [powMod, powModFrom_eq, Nat.one_mul, ← Nat.pow_mod]

end Rsa

end SealedKeys
