import Mathlib.Data.List.Induction
import SealedKeys.Hex
import SealedKeys.Proofs.Action
import SealedKeys.Proofs.Text

/-!
Which texts are hexadecimal forms, and of how many bytes.

Reading goes by the bytes of the text, and a character may take several of them. A text that is read
has only digits in it, though, and these take one byte each, so that what can be read is said in
characters: an even number of digits, in either case (`isHex_iff`).
-/

namespace SealedKeys

namespace Hex

/-- A hexadecimal digit that is no upper-case letter. -/
def IsLowerDigit (char : Char) : Prop :=
  '0' ≤ char ∧ char ≤ '9' ∨ 'a' ≤ char ∧ char ≤ 'f'

/-- A hexadecimal digit, in either case. -/
def IsDigit (char : Char) : Prop :=
  IsLowerDigit char ∨ 'A' ≤ char ∧ char ≤ 'F'

instance : DecidablePred IsLowerDigit := fun char =>
  inferInstanceAs (Decidable ('0' ≤ char ∧ char ≤ '9' ∨ 'a' ≤ char ∧ char ≤ 'f'))

instance : DecidablePred IsDigit := fun char =>
  inferInstanceAs (Decidable (IsLowerDigit char ∨ 'A' ≤ char ∧ char ≤ 'F'))

/-- A text that stands for bytes. -/
structure IsHex (text : String) : Prop where
  even : text.length % 2 = 0
  digits : ∀ char ∈ text.toList, IsDigit char

/-! ## Reading -/

section

variable {position : Nat} {high low : UInt8} {bytes rest read : Bytes}

theorem decodePairs_cons_cons_eq_ok_iff :
    decodePairs position (high :: low :: rest) = .ok read ↔
      ∃ upper lower tail, value? high = some upper ∧ value? low = some lower ∧
        decodePairs (position + 2) rest = .ok tail ∧ read = (16 * upper + lower) :: tail := by
  rw [decodePairs]
  cases value? high with
  | none => simp
  | some upper =>
    cases value? low with
    | none => simp
    | some lower =>
      simp only [bind_eq_ok_iff, Option.some.injEq]
      constructor
      · rintro ⟨tail, told, last⟩
        exact ⟨upper, lower, tail, rfl, rfl, told, (Except.ok.inj last).symm⟩
      · rintro ⟨_, _, tail, rfl, rfl, told, rfl⟩
        exact ⟨tail, told, rfl⟩

theorem forall_of_decodePairs (even : bytes.length % 2 = 0)
    (told : decodePairs position bytes = .ok read) :
    (∀ byte ∈ bytes, (value? byte).isSome) ∧ bytes.length = 2 * read.length := by
  induction bytes using List.twoStepInduction generalizing position read with
  | nil =>
    cases told
    exact ⟨List.forall_mem_nil _, rfl⟩
  | singleton byte => cases even
  | cons_cons high low rest ih =>
    rcases decodePairs_cons_cons_eq_ok_iff.1 told with
      ⟨upper, lower, tail, is_high, is_low, further, rfl⟩
    rw [List.length_cons, List.length_cons] at even
    have ⟨digits, length⟩ := ih (by omega) further
    simp only [List.forall_mem_cons, is_high, is_low, Option.isSome_some, List.length_cons]
    exact ⟨⟨trivial, trivial, digits⟩, by omega⟩

theorem exists_decodePairs (even : bytes.length % 2 = 0)
    (digits : ∀ byte ∈ bytes, (value? byte).isSome) (position : Nat) :
    ∃ read, decodePairs position bytes = .ok read := by
  induction bytes using List.twoStepInduction generalizing position with
  | nil => exact ⟨[], rfl⟩
  | singleton byte => cases even
  | cons_cons high low rest ih =>
    rw [List.length_cons, List.length_cons] at even
    rw [List.forall_mem_cons, List.forall_mem_cons] at digits
    rcases digits with ⟨is_high, is_low, others⟩
    rcases Option.isSome_iff_exists.1 is_high with ⟨upper, is_upper⟩
    rcases Option.isSome_iff_exists.1 is_low with ⟨lower, is_lower⟩
    rcases ih (by omega) others (position + 2) with ⟨tail, told⟩
    exact ⟨_, decodePairs_cons_cons_eq_ok_iff.2 ⟨upper, lower, tail, is_upper, is_lower, told, rfl⟩⟩

end

theorem toNat_lt_of_isDigit {char : Char} (isDigit : IsDigit char) : char.toNat < 128 := by
  have below {last : Char} (le : char ≤ last) : char.toNat ≤ last.toNat := le
  rcases isDigit with (⟨-, le⟩ | ⟨-, le⟩) | ⟨-, le⟩ <;>
    exact Nat.lt_of_le_of_lt (below le) (by decide)

/-- The digits are ASCII characters, and those that are read. -/
theorem isDigit_iff (char : Char) :
    IsDigit char ↔ char.toNat < 128 ∧ (value? (UInt8.ofNat char.toNat)).isSome := by
  have each : ∀ code < 128,
      IsDigit (Char.ofNat code) ↔ (value? (UInt8.ofNat code)).isSome = true := by
    decide +kernel
  constructor
  · intro isDigit
    have ascii := toNat_lt_of_isDigit isDigit
    refine ⟨ascii, (each char.toNat ascii).1 ?_⟩
    rwa [Char.ofNat_toNat]
  · rintro ⟨ascii, is_read⟩
    have isDigit := (each char.toNat ascii).2 is_read
    rwa [Char.ofNat_toNat] at isDigit

theorem isAscii_of_digits {text : String} (digits : ∀ char ∈ text.toList, IsDigit char) :
    Bytes.IsAscii text :=
  fun char member => toNat_lt_of_isDigit (digits char member)

theorem toNat_lt_of_value? {byte : UInt8} (is_read : (value? byte).isSome) : byte.toNat < 128 := by
  have each : ∀ code < 256, (value? (UInt8.ofNat code)).isSome → code < 128 := by
    decide +kernel
  apply each byte.toNat byte.toNat_lt
  rwa [UInt8.ofNat_toNat]

variable {text : String} {digest : Bytes}

/-- What is read is a hexadecimal form, and two digits of it make a byte. -/
theorem isHex_of_decode (told : decode text = .ok digest) :
    IsHex text ∧ text.length = 2 * digest.length := by
  rw [decode, ite_error_eq_ok_iff] at told
  rcases told with ⟨not_odd, told⟩
  have ⟨digits, length⟩ := forall_of_decodePairs (by omega) told
  have ascii : Bytes.IsAscii text :=
    Bytes.isAscii_of_ofText fun byte member => toNat_lt_of_value? (digits byte member)
  have spelled := Bytes.ofText_of_isAscii ascii
  rw [spelled, List.length_map, String.length_toList] at length
  refine ⟨⟨by omega, ?_⟩, length⟩
  intro char member
  refine (isDigit_iff char).2 ⟨ascii char member, digits _ ?_⟩
  rw [spelled]
  exact List.mem_map_of_mem member

theorem exists_decode (isHex : IsHex text) : ∃ digest, decode text = .ok digest := by
  have spelled := Bytes.ofText_of_isAscii (isAscii_of_digits isHex.digits)
  have even : (Bytes.ofText text).length % 2 = 0 := by
    rw [spelled, List.length_map, String.length_toList]
    exact isHex.even
  have digits : ∀ byte ∈ Bytes.ofText text, (value? byte).isSome := by
    rw [spelled, List.forall_mem_map]
    exact fun char member => ((isDigit_iff char).1 (isHex.digits char member)).2
  rcases exists_decodePairs even digits 0 with ⟨digest, told⟩
  refine ⟨digest, ?_⟩
  rw [decode, ite_error_eq_ok_iff]
  exact ⟨by omega, told⟩

/-- A text is read exactly if it has an even number of digits and nothing else. -/
theorem isHex_iff : IsHex text ↔ ∃ digest, decode text = .ok digest :=
  ⟨exists_decode, fun ⟨_, told⟩ => (isHex_of_decode told).1⟩

/-! ## Writing -/

theorem isLowerDigit_of_mem_pair {byte : UInt8} {char : Char} (member : char ∈ pair byte) :
    IsLowerDigit char := by
  have digits : ∀ value < 16, IsLowerDigit (digit value) := by decide +kernel
  have below := byte.toNat_lt
  simp only [pair, List.mem_cons, List.not_mem_nil, or_false] at member
  rcases member with rfl | rfl
  · exact digits _ (by omega)
  · exact digits _ (by omega)

theorem isLowerDigit_of_mem_encode (bytes : Bytes) :
    ∀ char ∈ (encode bytes).toList, IsLowerDigit char := by
  intro char member
  rw [encode, String.toList_ofList, List.mem_flatMap] at member
  rcases member with ⟨byte, -, in_pair⟩
  exact isLowerDigit_of_mem_pair in_pair

theorem length_encode (bytes : Bytes) : (encode bytes).length = 2 * bytes.length := by
  rw [encode, String.length_ofList]
  induction bytes with
  | nil => rfl
  | cons byte bytes ih =>
    rw [List.flatMap_cons, List.length_append, ih, List.length_cons, pair]
    simp only [List.length_cons, List.length_nil]
    omega

end Hex

end SealedKeys
