import SealedKeys.Certificate.Body
import SealedKeys.Proofs.PublicKey.Info

/-!
What the DER form of a certificate carries.

All parts of a certificate are written as elements, and an element ends where it ends. So bytes that
begin with a name, a key or an extension begin with no other one, and what is behind it is told as
well (`IsDelimited`). Lists of such parts are told apart by that, and a part inside another one by
the content of the outer one; level by level this reaches the whole body. The bytes that are signed
therefore belong to one serial number, issuer, subject, key and list of extensions
(`Body.element_eq_iff`), and the bytes of a certificate to one body in its form and one signature
(`element_eq_iff`).
-/

namespace SealedKeys

namespace Der

variable {Value : Type} {write : Value → Bytes}

/-- What is written of a value is written of no other one, as long as its length can be told. -/
def IsTold (write : Value → Bytes) : Prop :=
  ∀ ⦃value other : Value⦄, write value = write other → (write value).length < untold → value = other

/-- What is written of a value is never empty, and can be told from whatever is behind it. -/
structure IsDelimited (write : Value → Bytes) : Prop where
  ne_nil : ∀ value, write value ≠ []
  append_inj : ∀ ⦃value other : Value⦄ ⦃left right : Bytes⦄,
    write value ++ left = write other ++ right → (write value ++ left).length < untold →
      value = other ∧ left = right

/-- An element is delimited, if its content is told. -/
theorem IsTold.element (isTold : IsTold write) (tag : Tag) :
    IsDelimited fun value => Der.element tag (write value) where
  ne_nil _ := List.cons_ne_nil _ _
  append_inj := by
    intro value other left right same told
    rcases element_append_inj same told with ⟨-, content, behind⟩
    exact ⟨isTold content (length_content_lt told), behind⟩

theorem isDelimited_element (tag : Tag) : IsDelimited (element tag) := by
  have isTold : IsTold fun content : Bytes => content := fun _ _ same _ => same
  exact isTold.element tag

namespace IsDelimited

theorem isTold (delimited : IsDelimited write) : IsTold write := by
  intro value other same told
  rw [← List.append_nil (write value)] at told
  exact (delimited.append_inj (congrArg (· ++ []) same) told).1

/-- The value in front, and what is left to read. -/
theorem split (delimited : IsDelimited write) {value other : Value} {left right : Bytes}
    (same : write value ++ left = write other ++ right)
    (told : (write value ++ left).length < untold) :
    value = other ∧ left = right ∧ left.length < untold := by
  rcases delimited.append_inj same told with ⟨front, behind⟩
  rw [List.length_append] at told
  exact ⟨front, behind, (Nat.le_add_left _ _).trans_lt told⟩

/-- Values one behind the other are told, if each of them is delimited. -/
theorem flatMap (delimited : IsDelimited write) :
    IsTold fun values : List Value => values.flatMap write := by
  intro values others same told
  induction values generalizing others with
  | nil =>
    cases others with
    | nil => rfl
    | cons other others =>
      exact absurd (List.append_eq_nil_iff.1 same.symm).1 (delimited.ne_nil other)
  | cons value values ih =>
    cases others with
    | nil => exact absurd (List.append_eq_nil_iff.1 same).1 (delimited.ne_nil value)
    | cons other others =>
      rcases delimited.split same told with ⟨rfl, behind, told⟩
      rw [ih behind told]

end IsDelimited

end Der

open Der (IsDelimited IsTold)

/-! ## The parts of a body -/

theorem Oid.isDelimited_element : IsDelimited element := by
  have isTold : IsTold content := by
    rintro ⟨content⟩ ⟨other⟩ same told
    exact congrArg mk same
  exact isTold.element Der.Tag.objectIdentifier

theorem NameAttribute.isDelimited_element : IsDelimited element := by
  have isTold : IsTold fun entry : NameAttribute => [entry.oid.element, entry.value].flatten := by
    rintro ⟨oid, tag, content⟩ ⟨other, _, _⟩ same told
    simp only [List.flatten_cons, List.flatten_nil] at same told
    rcases Oid.isDelimited_element.split same told with ⟨rfl, values, told⟩
    rcases Der.element_append_inj values told with ⟨rfl, rfl, -⟩
    rfl
  exact isTold.element Der.Tag.sequence

theorem RelativeName.isDelimited_element : IsDelimited element :=
  NameAttribute.isDelimited_element.flatMap.element Der.Tag.set

theorem Name.isDelimited_element : IsDelimited element :=
  RelativeName.isDelimited_element.flatMap.element Der.Tag.sequence

/-- An extension is told with its flag, although a flag that is not set is not written. -/
theorem Extension.isDelimited_element : IsDelimited element := by
  have isTold : IsTold fun extension : Extension =>
      [extension.oid.element, if extension.critical then Der.true else [],
        Der.element Der.Tag.octetString extension.value].flatten := by
    rintro ⟨oid, critical, value⟩ ⟨other, another, second⟩ same told
    simp only [List.flatten_cons, List.flatten_nil] at same told
    rcases Oid.isDelimited_element.split same told with ⟨rfl, behind, told⟩
    -- Behind the type there is a flag exactly if it is set; the value is of another kind.
    have different : Der.Tag.octetString ≠ Der.Tag.boolean := by decide
    cases critical <;> cases another
    case false.false =>
      rcases Der.element_append_inj behind told with ⟨-, rfl, -⟩
      rfl
    case true.true =>
      rcases (Der.isDelimited_element _).split behind told with ⟨-, values, told⟩
      rcases Der.element_append_inj values told with ⟨-, rfl, -⟩
      rfl
    case false.true => exact absurd (Der.element_append_inj behind told).1 different
    case true.false => exact absurd (Der.element_append_inj behind told).1.symm different
  exact isTold.element Der.Tag.sequence

theorem PublicKey.isDelimited_info : IsDelimited info := by
  have isTold : IsTold fun key : PublicKey =>
      [key.algorithmIdentifier, Der.bitString key.content].flatten := by
    intro key other same told
    exact info_injective (congrArg (Der.element Der.Tag.sequence) same)
  exact isTold.element Der.Tag.sequence

theorem Time.element_append_inj {start stop begin finish : Time}
    (same : start.element ++ stop.element = begin.element ++ finish.element)
    (told : (start.element ++ stop.element).length < Der.untold) :
    start.element = begin.element ∧ stop.element = finish.element := by
  have written (time : Time) : ∃ tag content, time.element = Der.element tag content := by
    unfold element
    split <;> exact ⟨_, _, rfl⟩
  rcases written start with ⟨tag, content, first⟩
  rcases written begin with ⟨other, second, begins⟩
  rw [first, begins] at same
  rw [first] at told
  rcases Der.element_append_inj same told with ⟨rfl, rfl, behind⟩
  exact ⟨first.trans begins.symm, behind⟩

namespace Certificate

/-- The extensions of a body, as it holds them. -/
theorem isDelimited_extensions : IsDelimited fun extensions : List Extension =>
    Der.tagged 3 (Der.sequence (extensions.map Extension.element)) := by
  have list : IsDelimited fun extensions : List Extension =>
      Der.sequence (extensions.map Extension.element) := by
    simp only [Der.sequence, ← List.flatMap_def]
    exact Extension.isDelimited_element.flatMap.element Der.Tag.sequence
  exact list.isTold.element _

/-! ## Bodies and certificates -/

/-- Two bodies state the same, with times that are written alike. -/
structure Body.Agree (body other : Body) : Prop where
  serial_eq : body.serial = other.serial
  issuer_eq : body.issuer = other.issuer
  notBefore_eq : body.notBefore.element = other.notBefore.element
  notAfter_eq : body.notAfter.element = other.notAfter.element
  subject_eq : body.subject = other.subject
  publicKey_eq : body.publicKey = other.publicKey
  extensions_eq : body.extensions = other.extensions

/-- The form of a body, which is signed, is that of all that the body states, and of nothing else. -/
theorem Body.element_eq_iff {body other : Body} (told : body.element.length < Der.untold) :
    body.element = other.element ↔ body.Agree other := by
  constructor
  · intro same
    have parts := (Der.element_inj same told).2
    have told := (Der.length_lt_length_element _ _).trans told
    simp only [List.flatten_cons, List.flatten_nil, Der.sequence] at parts told
    -- One part after the other, each with what is behind it.
    rcases (Der.isDelimited_element _).split parts told with ⟨-, parts, told⟩
    rcases (Der.isDelimited_element _).split parts told with ⟨serial, parts, told⟩
    rcases (Der.isDelimited_element _).split parts told with ⟨-, parts, told⟩
    rcases Name.isDelimited_element.split parts told with ⟨issuer, parts, told⟩
    have datesTold := Der.length_content_lt told
    rcases (Der.isDelimited_element _).split parts told with ⟨dates, parts, told⟩
    simp only [List.append_nil] at dates datesTold
    rcases Time.element_append_inj dates datesTold with ⟨notBefore, notAfter⟩
    rcases Name.isDelimited_element.split parts told with ⟨subject, parts, told⟩
    rcases PublicKey.isDelimited_info.split parts told with ⟨publicKey, parts, told⟩
    rcases isDelimited_extensions.split parts told with ⟨extensions, -⟩
    exact ⟨serial, issuer, notBefore, notAfter, subject, publicKey, extensions⟩
  · rintro ⟨serial, issuer, notBefore, notAfter, subject, publicKey, extensions⟩
    simp only [element, serial, issuer, notBefore, notAfter, subject, publicKey, extensions]

/-- The form of a certificate is that of one body in its form and one signature. -/
theorem element_eq_iff {certificate other : Certificate}
    (told : certificate.element.length < Der.untold) :
    certificate.element = other.element ↔
      certificate.body.element = other.body.element ∧ certificate.signature = other.signature := by
  constructor
  · intro same
    have parts := (Der.element_inj same told).2
    have told := (Der.length_lt_length_element _ _).trans told
    simp only [List.flatten_cons, List.flatten_nil] at parts told
    rcases (Der.isDelimited_element _).split parts told with ⟨inside, parts, told⟩
    rcases (Der.isDelimited_element _).split parts told with ⟨-, parts, told⟩
    rcases (Der.isDelimited_element _).split parts told with ⟨signature, -⟩
    exact ⟨congrArg (Der.element Der.Tag.sequence) inside, (List.cons.inj signature).2⟩
  · rintro ⟨body, signature⟩
    simp only [element, body, signature]

theorem length_body_lt (certificate : Certificate) :
    certificate.body.element.length < certificate.element.length := by
  refine lt_of_le_of_lt ?_ (Der.length_lt_length_element _ _)
  rw [List.flatten_cons, List.length_append]
  exact Nat.le_add_right _ _

/-- Certificates of the same form state the same. -/
theorem agree_of_element_eq {certificate other : Certificate}
    (told : certificate.element.length < Der.untold)
    (same : certificate.element = other.element) : certificate.body.Agree other.body :=
  (Body.element_eq_iff (certificate.length_body_lt.trans told)).1 ((element_eq_iff told).1 same).1

end Certificate

end SealedKeys
