import SealedKeys.Bytes

/-!
Texts as bytes.

The bytes of a text are those of its characters, one after the other, and a text is read back from
its bytes. So a text is known by its bytes, and each of its characters takes one of them at least.
The characters of ASCII take one byte each, which is their number, and no other character has a byte
as small as that.
-/

namespace SealedKeys

namespace Bytes

theorem toList_loop (bytes : ByteArray) (position : Nat) (read : Bytes) :
    ByteArray.toList.loop bytes position read =
      read.reverse ++ bytes.data.toList.drop position := by
  fun_induction ByteArray.toList.loop bytes position read with
  | case1 position read inside ih =>
    have inside : position < bytes.data.toList.length := by
      simpa using inside
    have byte : bytes.get! position = bytes.data.toList[position] := by
      simp only [ByteArray.get!, Array.getElem_toList]
      exact getElem!_pos bytes.data position inside
    rw [ih, byte, List.reverse_cons, List.append_assoc, List.singleton_append,
      ← List.drop_eq_getElem_cons inside]
  | case2 position read outside =>
    have outside : bytes.data.toList.length ≤ position := by
      simpa using outside
    rw [List.drop_eq_nil_of_le outside, List.append_nil]

theorem ofText_eq (text : String) : ofText text = text.toByteArray.data.toList := by
  rw [ofText, String.toUTF8_eq_toByteArray, ByteArray.toList, toList_loop]
  rfl

theorem ofText_ofList_cons (char : Char) (rest : List Char) :
    ofText (String.ofList (char :: rest)) =
      ofText char.toString ++ ofText (String.ofList rest) := by
  rw [ofText_eq, ofText_eq, ofText_eq, String.toByteArray_ofList, String.toByteArray_ofList,
    List.utf8Encode_cons, ByteArray.toList_data_append, Char.toString_eq_singleton,
    String.toByteArray_singleton]

theorem ofText_ofList_nil : ofText (String.ofList []) = [] := by
  rw [ofText_eq, String.toByteArray_ofList]
  rfl

theorem length_ofText_pos (char : Char) : 0 < (ofText char.toString).length := by
  rw [ofText_eq, Char.toString_eq_singleton, String.toByteArray_singleton,
    List.utf8Encode_singleton, List.toList_data_toByteArray, String.length_utf8EncodeChar]
  exact char.utf8Size_pos

theorem length_ofText_cons (char : Char) (rest : List Char) :
    (ofText (String.ofList (char :: rest))).length =
      (ofText char.toString).length + (ofText (String.ofList rest)).length := by
  rw [ofText_ofList_cons, List.length_append]

theorem length_le_length_ofText (chars : List Char) :
    chars.length ≤ (ofText (String.ofList chars)).length := by
  induction chars with
  | nil => exact Nat.zero_le _
  | cons char rest ih =>
    have positive := length_ofText_pos char
    rw [length_ofText_cons, List.length_cons]
    omega

/-- Bytes are read as a text exactly if they are the bytes of the text. -/
theorem fromUTF8?_eq_some_iff {bytes : Bytes} {text : String} :
    String.fromUTF8? ⟨bytes.toArray⟩ = some text ↔ bytes = ofText text := by
  rw [ofText_eq]
  constructor
  · intro decoded
    unfold String.fromUTF8? at decoded
    split at decoded
    · cases decoded
      rfl
    · cases decoded
  · rintro rfl
    unfold String.fromUTF8?
    rw [Array.toArray_toList, dif_pos text.isValidUTF8]
    rfl

/-! ## ASCII -/

/-- All characters are those of ASCII. -/
def IsAscii (text : String) : Prop :=
  ∀ char ∈ text.toList, char.toNat < 128

-- Only the characters of the text are looked at, and not all that there are.
instance : DecidablePred IsAscii := fun text =>
  List.decidableBAll (fun char : Char => char.toNat < 128) text.toList

theorem ofText_char (char : Char) : ofText char.toString = String.utf8EncodeChar char := by
  rw [ofText_eq, Char.toString_eq_singleton, String.toByteArray_singleton,
    List.utf8Encode_singleton, List.toList_data_toByteArray]

theorem ofText_char_of_lt {char : Char} (small : char.toNat < 128) :
    ofText char.toString = [UInt8.ofNat char.toNat] := by
  rw [ofText_char, String.utf8EncodeChar]
  exact if_pos (Nat.le_of_lt_succ small)

/-- A character outside ASCII has large bytes only. -/
theorem le_of_mem_ofText_char {char : Char} (large : 128 ≤ char.toNat) {byte : UInt8}
    (member : byte ∈ ofText char.toString) : 128 ≤ byte.toNat := by
  have outside : ¬ char.val.toNat ≤ 127 := Nat.not_le_of_lt large
  rw [ofText_char, String.utf8EncodeChar] at member
  simp only [if_neg outside] at member
  have stays {number : Nat} (large : 128 ≤ number) (isByte : number < 256) :
      128 ≤ (UInt8.ofNat number).toNat := by
    rw [UInt8.toNat_ofNat']
    omega
  split at member
  · simp only [List.mem_cons, List.not_mem_nil, or_false] at member
    rcases member with rfl | rfl <;> exact stays (by omega) (by omega)
  · split at member
    · simp only [List.mem_cons, List.not_mem_nil, or_false] at member
      rcases member with rfl | rfl | rfl <;> exact stays (by omega) (by omega)
    · simp only [List.mem_cons, List.not_mem_nil, or_false] at member
      rcases member with rfl | rfl | rfl | rfl <;> exact stays (by omega) (by omega)

theorem ofText_ofList_of_ascii {chars : List Char} (small : ∀ char ∈ chars, char.toNat < 128) :
    ofText (String.ofList chars) = chars.map fun char => UInt8.ofNat char.toNat := by
  induction chars with
  | nil => exact ofText_ofList_nil
  | cons char rest ih =>
    rw [List.forall_mem_cons] at small
    rw [ofText_ofList_cons, ofText_char_of_lt small.1, ih small.2, List.map_cons,
      List.singleton_append]

theorem ascii_of_ofText_ofList {chars : List Char}
    (small : ∀ byte ∈ ofText (String.ofList chars), byte.toNat < 128) :
    ∀ char ∈ chars, char.toNat < 128 := by
  induction chars with
  | nil => exact List.forall_mem_nil _
  | cons char rest ih =>
    rw [ofText_ofList_cons, List.forall_mem_append] at small
    refine List.forall_mem_cons.2 ⟨?_, ih small.2⟩
    rcases List.exists_mem_of_length_pos (length_ofText_pos char) with ⟨byte, member⟩
    apply Nat.lt_of_not_le
    intro large
    exact Nat.not_lt_of_le (le_of_mem_ofText_char large member) (small.1 byte member)

/-- A text of ASCII characters takes a byte for each. -/
theorem ofText_of_isAscii {text : String} (ascii : IsAscii text) :
    ofText text = text.toList.map fun char => UInt8.ofNat char.toNat := by
  rw [← ofText_ofList_of_ascii ascii, String.ofList_toList]

theorem isAscii_of_ofText {text : String} (small : ∀ byte ∈ ofText text, byte.toNat < 128) :
    IsAscii text := by
  rw [← String.ofList_toList (s := text)] at small
  exact ascii_of_ofText_ofList small

end Bytes

end SealedKeys
