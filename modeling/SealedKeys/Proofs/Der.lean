import SealedKeys.Der.Reader
import SealedKeys.Proofs.Action
import SealedKeys.Proofs.Arithmetic

/-!
What DER elements are, apart from how they are written or read.

An element is a tag, a length field and as many bytes as the field tells. The field is in its
shortest form: one byte, or a count and digits without a zero in front. Hence no element is the
beginning of another one (`IsElement.unique`), and bytes that begin with an element begin with one
element only. What is written is an element, up to the greatest length that a field can tell
(`isElement_element`), and a reader finds any element that it has room for (`read_of_isElement`).
-/

namespace SealedKeys

namespace Der

/-! ## Length fields and elements -/

/-- The bytes that tell a length, in their shortest form: the length itself, or a count with the top
bit set and as many digits. All bits of the first byte are never set. -/
inductive IsLengthField (length : Nat) : Bytes → Prop where
  | short {byte : UInt8} (small : byte < 128) (told : byte.toNat = length) :
    IsLengthField length [byte]
  | long {first : UInt8} {digits : Bytes} (big : 128 ≤ length)
    (count : first.toNat = 128 + digits.length) (few : digits.length < 127)
    (minimal : digits.head? ≠ some 0) (told : Bytes.toNat digits = length) :
    IsLengthField length (first :: digits)

/-- Bytes that are one element, with a tag and a content. -/
def IsElement (tag : Tag) (content bytes : Bytes) : Prop :=
  ∃ field, IsLengthField content.length field ∧ bytes = tag :: field ++ content

variable {tag other : Tag} {content second bytes rest behind : Bytes}

theorem IsLengthField.unique {length another : Nat} {field twin left right : Bytes}
    (first : IsLengthField length field) (second : IsLengthField another twin)
    (same : field ++ left = twin ++ right) : length = another ∧ left = right := by
  cases first with
  | short small told =>
    cases second with
    | short small' told' =>
      simp only [List.cons_append, List.nil_append, List.cons.injEq] at same
      rcases same with ⟨rfl, rest⟩
      exact ⟨told.symm.trans told', rest⟩
    | long big count =>
      simp only [List.cons_append, List.nil_append, List.cons.injEq] at same
      rcases same with ⟨rfl, -⟩
      have small : _ < 128 := UInt8.lt_iff_toNat_lt.1 small
      omega
  | long big count few minimal told =>
    cases second with
    | short small' told' =>
      simp only [List.cons_append, List.nil_append, List.cons.injEq] at same
      rcases same with ⟨rfl, -⟩
      have small : _ < 128 := UInt8.lt_iff_toNat_lt.1 small'
      omega
    | long big' count' few' minimal' told' =>
      simp only [List.cons_append, List.cons.injEq] at same
      rcases same with ⟨rfl, rest⟩
      rcases List.append_inj rest (by omega) with ⟨rfl, behind⟩
      exact ⟨told.symm.trans told', behind⟩

/-- Bytes that begin with an element begin with no other. -/
theorem IsElement.unique {left right : Bytes} (first : IsElement tag content left)
    (twin : IsElement other second right) (same : left ++ rest = right ++ behind) :
    tag = other ∧ content = second ∧ rest = behind := by
  rcases first with ⟨field, isField, rfl⟩
  rcases twin with ⟨another, isAnother, rfl⟩
  simp only [List.cons_append, List.append_assoc, List.cons.injEq] at same
  rcases same with ⟨rfl, same⟩
  rcases isField.unique isAnother same with ⟨length, parts⟩
  rcases List.append_inj parts length with ⟨rfl, rest⟩
  exact ⟨rfl, rfl, rest⟩

/-! ## Writing -/

/-- No field tells this length or a greater one. -/
def untold : Nat := 256 ^ 126

theorem isLengthField_lengthField {length : Nat} (told : length < untold) :
    IsLengthField length (lengthField length) := by
  unfold lengthField
  split
  · rename_i small
    have value : (UInt8.ofNat length).toNat = length := by
      rw [UInt8.toNat_ofNat']
      omega
    refine .short ?_ value
    rw [UInt8.lt_iff_toNat_lt, value]
    exact small
  · rename_i big
    have few : byteLength length ≤ 126 := byteLength_le_of_lt told
    have digits : (Bytes.minimal length).length = byteLength length := Bytes.length_ofNat _ _
    refine .long (Nat.le_of_not_lt big) ?_ (by omega) (Bytes.head?_minimal length)
      (Bytes.toNat_minimal length)
    rw [UInt8.toNat_ofNat', digits]
    omega

theorem length_lt_length_element (tag : Tag) (content : Bytes) :
    content.length < (element tag content).length := by
  rw [element, List.length_append, List.length_cons]
  omega

theorem sequence_pair (first second : Bytes) :
    sequence [first, second] = element Tag.sequence (first ++ second) := by
  rw [sequence, List.flatten_cons, List.flatten_singleton]

theorem isElement_element (tag : Tag) (told : content.length < untold) :
    IsElement tag content (element tag content) :=
  ⟨_, isLengthField_lengthField told, rfl⟩

theorem length_content_lt {bound : Nat} (below : (element tag content ++ rest).length < bound) :
    content.length < bound := by
  have shorter := length_lt_length_element tag content
  rw [List.length_append] at below
  omega

/-- Bytes that begin with an element that was written were not written with another one in front. -/
theorem element_append_inj {left right : Bytes}
    (same : element tag content ++ left = element other second ++ right)
    (told : (element tag content ++ left).length < untold) :
    tag = other ∧ content = second ∧ left = right := by
  have isElement := isElement_element tag (length_content_lt told)
  have isOther := isElement_element other (length_content_lt (same ▸ told))
  exact isElement.unique isOther same

theorem element_inj (same : element tag content = element other second)
    (told : (element tag content).length < untold) : tag = other ∧ content = second := by
  rw [← List.append_nil (element tag content)] at told
  rcases element_append_inj (congrArg (· ++ []) same) told with ⟨tags, contents, -⟩
  exact ⟨tags, contents⟩

/-! ## Reading -/

theorem readNumber_append (total position value : Nat) (digits rest : Bytes) :
    readNumber total digits.length position value (digits ++ rest) =
      .ok (value * 256 ^ digits.length + Bytes.toNat digits, position + digits.length, rest) := by
  induction digits generalizing position value with
  | nil => simp [readNumber, Bytes.toNat]
  | cons first digits ih =>
    rw [List.cons_append, List.length_cons, readNumber, ih, Bytes.toNat_cons]
    congr 2
    · ring
    · congr 1
      omega

theorem readLength_append {length : Nat} {field : Bytes} (isField : IsLengthField length field)
    (room : length ≤ maxLength) (total position : Nat) (tag : Tag) (rest : Bytes) :
    readLength total position tag (field ++ rest) =
      .ok (length, position + field.length, rest) := by
  cases isField with
  | short small told =>
    simp only [List.cons_append, List.nil_append, readLength, if_pos small, told,
      List.length_singleton]
  | @long first digits big count few minimal told =>
    have size : byteLength length = digits.length := told ▸ Bytes.byteLength_toNat minimal
    have some_digits : 0 < digits.length := by
      rw [List.length_pos_iff]
      rintro rfl
      exact absurd told (by rw [Bytes.toNat, List.foldl_nil]; omega)
    have few_digits : digits.length ≤ 4 := by
      rw [← size]
      exact byteLength_le_of_lt (room.trans_lt (by decide))
    have not_short : ¬ first < 128 := by
      rw [UInt8.lt_iff_toNat_lt]
      exact Nat.not_lt_of_le (by rw [count]; exact Nat.le_add_right _ _)
    have definite : first ≠ 128 := by
      rintro rfl
      have none_counted : 128 = 128 + digits.length := count
      omega
    have not_many : ¬ 132 < first := by
      rw [UInt8.lt_iff_toNat_lt, count]
      exact Nat.not_lt_of_le (Nat.add_le_add_left few_digits 128)
    have counted : first.toNat - 128 = digits.length := by omega
    have shortest : ¬ (length < 128 ∨ byteLength length ≠ digits.length) := by omega
    simp only [List.cons_append, readLength, if_neg not_short, if_neg definite, if_neg not_many,
      counted, readNumber_append, Nat.zero_mul, Nat.zero_add, told]
    change (if maxLength < length then _ else if _ then _ else _) = _
    rw [if_neg (Nat.not_lt_of_le room), if_neg shortest, List.length_cons,
      Nat.add_comm digits.length, ← Nat.add_assoc]
    rfl

/-- A tag that a reader knows. -/
def IsReadable (tag : Tag) : Prop :=
  tag &&& 0x1f ≠ 0x1f ∧ (tagName? tag).isNone = false

instance (tag : Tag) : Decidable (IsReadable tag) :=
  inferInstanceAs (Decidable (_ ∧ _))

theorem read_of_isElement (isElement : IsElement tag content bytes) (known : IsReadable tag)
    (room : bytes.length ≤ maxLength) (rest : Bytes) :
    read (bytes ++ rest) = .ok (tag, content, rest) := by
  rcases isElement with ⟨field, isField, rfl⟩
  rw [List.length_append, List.length_cons] at room
  have measured := readLength_append isField (by omega) (tag :: (field ++ (content ++ rest))).length
    1 tag (content ++ rest)
  have inside : ¬ maxLength < 1 + field.length + content.length := by omega
  have whole : ¬ (content ++ rest).length < content.length := by
    rw [List.length_append]
    omega
  have simple : ¬ (tagName? tag).isNone = Bool.true := Bool.eq_false_iff.1 known.2
  simp only [List.cons_append, List.append_assoc, read, if_neg known.1, if_neg simple, measured]
  change (if maxLength < 1 + field.length + content.length then _ else if _ then _ else _) = _
  rw [if_neg inside, if_neg whole, List.take_left, List.drop_left]
  rfl

theorem take?_of_isElement (isElement : IsElement tag content bytes) (known : IsReadable tag)
    (room : bytes.length ≤ maxLength) (rest : Bytes) :
    take? tag (bytes ++ rest) = some (content, rest) := by
  simp only [take?, read_of_isElement isElement known room, if_true]

/-! ## Natural numbers -/

/-- The content of an integer that is a natural number: its digits, with a zero byte in front exactly
if the first one would pass for a sign; zero is one zero byte. -/
inductive IsNatural (value : Nat) : Bytes → Prop where
  | zero (is_zero : value = 0) : IsNatural value [0]
  | plain {first : UInt8} {digits : Bytes} (positive : first ≠ 0) (unsigned : first < 128)
    (told : Bytes.toNat (first :: digits) = value) : IsNatural value (first :: digits)
  | marked {first : UInt8} {digits : Bytes} (signed : ¬ first < 128)
    (told : Bytes.toNat (first :: digits) = value) : IsNatural value (0 :: first :: digits)

theorem isNatural_integerContent (value : Nat) : IsNatural value (integerContent value) := by
  have told := Bytes.toNat_minimal value
  have minimal := Bytes.head?_minimal value
  unfold integerContent
  split
  · rename_i none_written
    rw [none_written] at told
    exact .zero told.symm
  · rename_i first digits written
    rw [written] at told minimal
    split
    · rename_i unsigned
      refine .plain ?_ unsigned told
      rintro rfl
      exact minimal rfl
    · rename_i signed
      exact .marked signed told

theorem IsNatural.toNat_eq {value : Nat} (isNatural : IsNatural value content) :
    Bytes.toNat content = value := by
  cases isNatural with
  | zero is_zero => exact is_zero.symm
  | plain positive unsigned told => exact told
  | marked signed told => rw [Bytes.toNat_cons, UInt8.toNat_zero, Nat.zero_mul, Nat.zero_add, told]

theorem natural?_integerContent (value : Nat) : natural? (integerContent value) = some value := by
  simp only [natural?, (isNatural_integerContent value).toNat_eq, if_true]

/-! ## Documents -/

/-- What a document says: elements with a content of their own, numbers, two documents in a sequence,
and a document in a bit string. -/
inductive Document where
  | leaf (tag : Tag) (content : Bytes)
  | natural (value : Nat)
  | pair (first second : Document)
  | bits (inner : Document)

namespace Document

/-- Bytes are the DER form of a document, from the first to the last. -/
def IsForm : Document → Bytes → Prop
  | leaf tag content, bytes => IsElement tag content bytes
  | natural value, bytes =>
    ∃ content, IsNatural value content ∧ IsElement Tag.integer content bytes
  | pair first second, bytes =>
    ∃ left right, first.IsForm left ∧ second.IsForm right ∧
      IsElement Tag.sequence (left ++ right) bytes
  | bits inner, bytes =>
    ∃ content, inner.IsForm content ∧ IsElement Tag.bitString (0 :: content) bytes

/-- How a document is written. -/
def form : Document → Bytes
  | leaf tag content => element tag content
  | natural value => integer value
  | pair first second => sequence [first.form, second.form]
  | bits inner => bitString inner.form

/-- A document is written in its DER form. What is inside has a shorter form than the whole, so only
the length of the whole matters. -/
theorem isForm_form (document : Document) (told : document.form.length < untold) :
    document.IsForm document.form := by
  induction document with
  | leaf tag content =>
    exact isElement_element tag ((length_lt_length_element tag content).trans told)
  | natural value =>
    have shorter := length_lt_length_element Tag.integer (integerContent value)
    exact ⟨_, isNatural_integerContent value, isElement_element _ (shorter.trans told)⟩
  | pair first second firstForm secondForm =>
    rw [form, sequence_pair] at told ⊢
    have inside := (length_lt_length_element _ _).trans told
    have both : (first.form ++ second.form).length = first.form.length + second.form.length :=
      List.length_append
    exact ⟨_, _, firstForm (by omega), secondForm (by omega), isElement_element _ inside⟩
  | bits inner innerForm =>
    have inside := (length_lt_length_element Tag.bitString (0 :: inner.form)).trans told
    have longer : (0 :: inner.form).length = inner.form.length + 1 := List.length_cons
    exact ⟨_, innerForm (by omega), isElement_element _ inside⟩

end Document

end Der

end SealedKeys
