import SealedKeys.Proofs.Der
import SealedKeys.Proofs.PublicKey.Reconstruction
import SealedKeys.PublicKey.Info

/-!
The DER form of a public key, which says the key and nothing else.

Each family has one document: an algorithm identifier in front, and the key in a bit string behind
it, which for RSA is a document again. Since the numbers of a key are bounded, so is the length of
its form, and both the fields and a reader have room for it. A reader that finds an identifier it
knows, and numbers that make a key, has found the key that was written.
-/

namespace SealedKeys

namespace Der

theorem length_element_le (tag : Tag) {content : Bytes} (short : content.length < 65536) :
    (element tag content).length ≤ content.length + 4 := by
  have field : (lengthField content.length).length ≤ 3 := by
    have digits : byteLength content.length ≤ 2 := byteLength_le_of_lt (by simpa using short)
    unfold lengthField
    split
    · exact Nat.le_add_left 1 2
    · rw [List.length_cons, Bytes.minimal, Bytes.length_ofNat]
      omega
  rw [element, List.length_append, List.length_cons]
  omega

theorem length_sequence_le {first second : Bytes} (short : first.length + second.length < 65536) :
    (sequence [first, second]).length ≤ first.length + second.length + 4 := by
  rw [← List.length_append] at short ⊢
  rw [sequence_pair]
  exact length_element_le Tag.sequence short

theorem length_integerContent_le (value : Nat) :
    (integerContent value).length ≤ byteLength value + 1 := by
  have digits : (Bytes.minimal value).length = byteLength value := Bytes.length_ofNat _ _
  unfold integerContent
  split
  · exact Nat.succ_le_succ (Nat.zero_le _)
  · rename_i first rest written
    rw [written] at digits
    rw [← digits]
    split
    · exact Nat.le_succ _
    · exact Nat.le_refl _

theorem take?_element {tag : Tag} (known : IsReadable tag) {content : Bytes}
    (short : content.length < 65536) (rest : Bytes) :
    take? tag (element tag content ++ rest) = some (content, rest) := by
  have room := length_element_le tag short
  apply take?_of_isElement (isElement_element tag ?_) known ?_
  · exact short.trans (by decide)
  · exact room.trans (by unfold maxLength; omega)

theorem only?_element {tag : Tag} (known : IsReadable tag) {content : Bytes}
    (short : content.length < 65536) : only? tag (element tag content) = some content := by
  have taken := take?_element known short []
  rw [List.append_nil] at taken
  simp only [only?, taken]

theorem only?_sequence {first second : Bytes} (short : first.length + second.length < 65536) :
    only? Tag.sequence (sequence [first, second]) = some (first ++ second) := by
  rw [← List.length_append] at short
  rw [sequence_pair]
  exact only?_element (by decide) short

end Der

namespace PublicKey

open Der (Document)

theorem content_rsaEncryption :
    rsaEncryption.content = [0x2a, 0x86, 0x48, 0x86, 0xf7, 0x0d, 0x01, 0x01, 0x01] := by
  decide +kernel

theorem content_ecPublicKey :
    ecPublicKey.content = [0x2a, 0x86, 0x48, 0xce, 0x3d, 0x02, 0x01] := by
  decide +kernel

theorem content_prime256v1 :
    prime256v1.content = [0x2a, 0x86, 0x48, 0xce, 0x3d, 0x03, 0x01, 0x07] := by
  decide +kernel

/-- What the form of a key says. -/
def document : PublicKey → Document
  | .rsa key =>
    .pair
      (.pair
        (.leaf Der.Tag.objectIdentifier [0x2a, 0x86, 0x48, 0x86, 0xf7, 0x0d, 0x01, 0x01, 0x01])
        (.leaf Der.Tag.null []))
      (.bits (.pair (.natural key.modulus) (.natural key.exponent)))
  | .p256 point =>
    .pair
      (.pair
        (.leaf Der.Tag.objectIdentifier [0x2a, 0x86, 0x48, 0xce, 0x3d, 0x02, 0x01])
        (.leaf Der.Tag.objectIdentifier [0x2a, 0x86, 0x48, 0xce, 0x3d, 0x03, 0x01, 0x07]))
      (.leaf Der.Tag.bitString (0x00 :: 0x04 :: Bytes.ofNat 32 point.x ++ Bytes.ofNat 32 point.y))

theorem form_document (key : PublicKey) : key.document.form = key.info := by
  cases key with
  | rsa key =>
    simp only [document, Document.form, info, algorithmIdentifier, content, Oid.element,
      content_rsaEncryption, Der.null]
  | p256 point =>
    simp only [document, Document.form, info, algorithmIdentifier, content, Oid.element,
      content_ecPublicKey, content_prime256v1, Der.bitString, List.cons_append]

/-! ## The length of the form -/

theorem length_numbers_le (key : Rsa.PublicKey) :
    (Der.integer key.modulus).length + (Der.integer key.exponent).length ≤ 527 := by
  have modulus : byteLength key.modulus ≤ 512 := by
    have bits := key.bits_le
    unfold byteLength Rsa.maxModulusBits at *
    omega
  have exponent : byteLength key.exponent ≤ 5 :=
    byteLength_le_of_lt (key.admissible.exponent_le.trans_lt (by decide))
  have first := Der.length_integerContent_le key.modulus
  have second := Der.length_integerContent_le key.exponent
  have left : (Der.integer key.modulus).length ≤ _ :=
    Der.length_element_le Der.Tag.integer (by omega)
  have right : (Der.integer key.exponent).length ≤ _ :=
    Der.length_element_le Der.Tag.integer (by omega)
  omega

theorem length_content_le (key : PublicKey) : key.content.length ≤ 531 := by
  cases key with
  | rsa key =>
    have numbers := length_numbers_le key
    have whole := Der.length_sequence_le
      (numbers.trans_lt (by decide : 527 < 65536))
    exact whole.trans (Nat.add_le_add_right numbers 4)
  | p256 point =>
    simp only [content, List.cons_append, List.length_cons, List.length_append,
      Bytes.length_ofNat]
    decide

theorem length_algorithmIdentifier_le (key : PublicKey) : key.algorithmIdentifier.length ≤ 21 := by
  cases key with
  | rsa key =>
    change (Der.sequence [rsaEncryption.element, Der.null]).length ≤ 21
    decide +kernel
  | p256 point =>
    change (Der.sequence [ecPublicKey.element, prime256v1.element]).length ≤ 21
    decide +kernel

theorem length_bits_le (key : PublicKey) : (Der.bitString key.content).length ≤ 536 := by
  have key_le : (0 :: key.content).length ≤ 532 := Nat.succ_le_succ (length_content_le key)
  have whole : (Der.bitString key.content).length ≤ _ :=
    Der.length_element_le Der.Tag.bitString (key_le.trans_lt (by decide))
  exact whole.trans (Nat.add_le_add_right key_le 4)

theorem length_info_le (key : PublicKey) : key.info.length ≤ 561 := by
  have both : key.algorithmIdentifier.length + (Der.bitString key.content).length ≤ 557 :=
    Nat.add_le_add (length_algorithmIdentifier_le key) (length_bits_le key)
  have whole := Der.length_sequence_le (both.trans_lt (by decide : 557 < 65536))
  exact whole.trans (Nat.add_le_add_right both 4)

/-! ## Reading the form -/

theorem rsaOfContent?_content (key : Rsa.PublicKey) :
    rsaOfContent? (content (.rsa key)) = some (.rsa key) := by
  have numbers := length_numbers_le key
  have modulus : _ < (Der.integer key.modulus).length := Der.length_lt_length_element _ _
  have exponent : _ < (Der.integer key.exponent).length := Der.length_lt_length_element _ _
  have body := Der.only?_sequence (numbers.trans_lt (by decide : 527 < 65536))
  have first : Der.take? Der.Tag.integer (Der.integer key.modulus ++ Der.integer key.exponent) = _ :=
    Der.take?_element (by decide) (by omega) _
  have second : Der.only? Der.Tag.integer (Der.integer key.exponent) = _ :=
    Der.only?_element (by decide) (by omega)
  have made : Rsa.PublicKey.ofParts? key.modulus key.exponent = .ok key :=
    Rsa.PublicKey.ofParts?_eq_ok_iff.2 ⟨rfl, rfl⟩
  simp only [rsaOfContent?, content, body, first, second, Der.natural?_integerContent, made,
    Option.bind_eq_bind, Option.bind_some]

theorem ofUncompressed?_content (point : P256.Point) :
    P256.Point.ofUncompressed? (content (.p256 point)) = some point := by
  have made : P256.Point.ofCoordinates? point.x point.y = some point :=
    P256.Point.ofCoordinates?_eq_some_iff.2 ⟨rfl, rfl⟩
  rw [content, List.cons_append,
    P256.Point.ofUncompressed?_append (Bytes.length_ofNat _ _) (Bytes.length_ofNat _ _),
    point.toNat_ofNat_x, point.toNat_ofNat_y, made]

/-- The form of a key is read as that key. The identifier in front tells the families apart. -/
theorem ofInfo?_info (key : PublicKey) : ofInfo? key.info = some key := by
  have identifier := length_algorithmIdentifier_le key
  have bits := length_bits_le key
  have body : Der.only? Der.Tag.sequence key.info = _ := Der.only?_sequence (by omega)
  have inside : _ < (Der.bitString key.content).length := Der.length_lt_length_element _ _
  have read : Der.only? Der.Tag.bitString (Der.bitString key.content) = some (0 :: key.content) :=
    Der.only?_element (by decide) (by omega)
  cases key with
  | rsa key =>
    have found : Der.take? Der.Tag.sequence
        (algorithmIdentifier (.rsa key) ++ Der.bitString (content (.rsa key))) =
          some (rsaEncryption.element ++ Der.null, Der.bitString (content (.rsa key))) := by
      rw [algorithmIdentifier, Der.sequence_pair]
      exact Der.take?_element (by decide) (by decide +kernel) _
    simp only [ofInfo?, body, found, read, Option.bind_eq_bind, Option.bind_some, if_true,
      rsaOfContent?_content]
  | p256 point =>
    have found : Der.take? Der.Tag.sequence
        (algorithmIdentifier (.p256 point) ++ Der.bitString (content (.p256 point))) =
          some (ecPublicKey.element ++ prime256v1.element,
            Der.bitString (content (.p256 point))) := by
      rw [algorithmIdentifier, Der.sequence_pair]
      exact Der.take?_element (by decide) (by decide +kernel) _
    have foreign : ecPublicKey.element ++ prime256v1.element ≠
        rsaEncryption.element ++ Der.null := by
      decide +kernel
    simp only [ofInfo?, body, found, read, Option.bind_eq_bind, Option.bind_some, if_neg foreign,
      if_true, ofUncompressed?_content, Option.map_some]

theorem info_injective : Function.Injective info := by
  intro key other same
  have read := ofInfo?_info key
  rw [same, ofInfo?_info other] at read
  exact (Option.some.inj read).symm

/-- The form of a public key is that of one document, and of no other key.

There is room for it, whatever the key. It is the document that says the family and the key, in
elements with the shortest length fields on each level and with nothing behind them; a reader gets
the key back, so two keys have the same form only if they are the same key. -/
theorem info_faithful (key : PublicKey) :
    key.info.length ≤ Der.maxLength ∧
    key.document.IsForm key.info ∧
    ofInfo? key.info = some key ∧
    ∀ other : PublicKey, key.info = other.info ↔ key = other := by
  have room : key.info.length ≤ Der.maxLength :=
    (length_info_le key).trans (by unfold Der.maxLength; omega)
  refine ⟨room, ?_, ofInfo?_info key, fun other => info_injective.eq_iff⟩
  rw [← form_document]
  apply Der.Document.isForm_form
  rw [form_document]
  exact room.trans_lt (by decide)

end PublicKey

end SealedKeys
