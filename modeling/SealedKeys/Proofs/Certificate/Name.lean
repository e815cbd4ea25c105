import SealedKeys.Certificate.Name.Parser
import SealedKeys.Certificate.Name.Printer
import SealedKeys.Proofs.Action
import SealedKeys.Proofs.Text

/-!
What becomes of a text that is read as a common name.

The text is put behind `CN=` as it stands, and the whole is read as a name. A comma, a plus sign,
a backslash or a leading `#` then has the meaning that it has in the text of a name. A text without
any of them is read as itself; no other text is.

That no other text is, rests on lengths. A separator makes more parts, unless a backslash protects
it, and undoing an escape or a hexadecimal form leaves fewer bytes than were written.
-/

namespace SealedKeys

namespace Der

theorem length_readNumber {total count position value number left : Nat} {input rest : Bytes}
    (told : readNumber total count position value input = .ok (number, left, rest)) :
    rest.length ≤ input.length := by
  fun_induction readNumber total count position value input with
  | case1 =>
    cases told
    exact Nat.le_refl _
  | case2 => cases told
  | case3 count position value byte input ih =>
    have fewer := ih told
    rw [List.length_cons]
    omega

theorem length_readLength {total position length left : Nat} {tag : Tag} {input rest : Bytes}
    (told : readLength total position tag input = .ok (length, left, rest)) :
    rest.length ≤ input.length := by
  cases input with
  | nil => cases told
  | cons first input =>
    rw [List.length_cons]
    rw [readLength] at told
    split at told
    · cases told
      exact Nat.le_succ _
    · rcases ite_error_eq_ok_iff.1 told with ⟨-, told⟩
      rcases ite_error_eq_ok_iff.1 told with ⟨-, told⟩
      rcases bind_eq_ok_iff.1 told with ⟨⟨number, next, behind⟩, counted, told⟩
      rcases ite_error_eq_ok_iff.1 told with ⟨-, told⟩
      rcases ite_error_eq_ok_iff.1 told with ⟨-, told⟩
      cases told
      have fewer := length_readNumber counted
      omega

/-- What an element holds is no longer than the element. -/
theorem length_decode {input content : Bytes} {tag : Tag}
    (decoded : decode input = .ok (tag, content)) : content.length ≤ input.length := by
  rcases bind_eq_ok_iff.1 decoded with ⟨⟨first, part, behind⟩, read, whole⟩
  have same : part = content := by
    dsimp only at whole
    split at whole
    · cases whole
      rfl
    · cases whole
  subst same
  cases input with
  | nil => cases read
  | cons first input =>
    rw [Der.read] at read
    rcases ite_error_eq_ok_iff.1 read with ⟨-, read⟩
    rcases ite_error_eq_ok_iff.1 read with ⟨-, read⟩
    rcases bind_eq_ok_iff.1 read with ⟨⟨length, next, rest⟩, measured, read⟩
    rcases ite_error_eq_ok_iff.1 read with ⟨-, read⟩
    rcases ite_error_eq_ok_iff.1 read with ⟨-, read⟩
    cases read
    have fewer := length_readLength measured
    rw [List.length_take, List.length_cons]
    omega

end Der

namespace RelativeName

theorem length_insert? {entry : NameAttribute} {ordered relative : RelativeName}
    (inserted : insert? entry ordered = some relative) :
    relative.length = ordered.length + 1 := by
  induction ordered generalizing relative with
  | nil =>
    cases inserted
    rfl
  | cons first rest ih =>
    rw [insert?] at inserted
    split at inserted
    · cases inserted
    · split at inserted
      · cases inserted
        rfl
      · rcases Option.map_eq_some_iff.1 inserted with ⟨others, isOthers, rfl⟩
        rw [List.length_cons, List.length_cons, ih isOthers]

theorem length_ofAttributes? {attributes : List NameAttribute} {relative : RelativeName}
    (ordered : ofAttributes? attributes = some relative) :
    relative.length = attributes.length := by
  have grows : ∀ (entries : List NameAttribute) (start last : RelativeName),
      entries.foldlM (fun ordered entry => insert? entry ordered) start = some last →
        last.length = start.length + entries.length := by
    intro entries
    induction entries with
    | nil =>
      intro start last folded
      cases folded
      rfl
    | cons entry entries ih =>
      intro start last folded
      rw [List.foldlM_cons] at folded
      rcases Option.bind_eq_some_iff.1 folded with ⟨next, inserted, rest⟩
      rw [ih next last rest, length_insert? inserted, List.length_cons]
      omega
  rw [grows attributes [] relative ordered, List.length_nil, Nat.zero_add]

theorem of_ofAttributes?_eq_singleton {attributes : List NameAttribute} {entry : NameAttribute}
    (ordered : ofAttributes? attributes = some [entry]) : attributes = [entry] := by
  rcases List.length_eq_one_iff.1 (length_ofAttributes? ordered).symm with ⟨only, rfl⟩
  cases ordered
  rfl

end RelativeName

/-- A common name with a text as its value. -/
def NameAttribute.commonName (text : String) : NameAttribute :=
  ⟨AttributeType.commonName, Der.Tag.utf8String, Bytes.ofText text⟩

namespace Name

theorem splitFrom_ne_nil (separator : Char) (beforeLast last : Option Char)
    (text : List Char) : splitFrom separator beforeLast last text ≠ [] := by
  cases text with
  | nil => exact List.cons_ne_nil _ _
  | cons char rest =>
    rw [splitFrom]
    split
    · exact List.cons_ne_nil _ _
    · split <;> exact List.cons_ne_nil _ _

section

variable {separator : Char}

/-- A text that is not split is its only part. Where no backslash protects anything, it has no
separator. -/
theorem of_splitFrom {beforeLast last : Option Char} {text part : List Char}
    (whole : splitFrom separator beforeLast last text = [part]) :
    part = text ∧ ('\\' ∉ text → last ≠ some '\\' → separator ∉ text) := by
  -- Each character is the last one for the text behind it, so a text without a backslash leaves
  -- every separator bare but the first, which the character in front of the text may protect.
  induction text generalizing beforeLast last part with
  | nil =>
    cases whole
    exact ⟨rfl, fun _ _ => List.not_mem_nil⟩
  | cons char rest ih =>
    have nonempty := splitFrom_ne_nil separator last (some char) rest
    by_cases cut : char = separator ∧ (last ≠ some '\\' ∨ beforeLast = some '\\')
    · rw [splitFrom, if_pos cut] at whole
      exact absurd (List.cons.inj whole).2 nonempty
    · rw [splitFrom, if_neg cut] at whole
      cases parts : splitFrom separator last (some char) rest with
      | nil => exact absurd parts nonempty
      | cons first others =>
        simp only [parts] at whole
        cases whole
        have ⟨same, absent⟩ := ih parts
        refine ⟨congrArg (char :: ·) same, fun bare unprotected => ?_⟩
        rw [List.mem_cons, not_or] at bare ⊢
        have further : some char ≠ some '\\' := fun backslash =>
          bare.1 (Option.some.inj backslash).symm
        exact ⟨fun here => cut ⟨here.symm, .inl unprotected⟩, absent bare.2 further⟩

theorem splitFrom_of_notMem (beforeLast last : Option Char) {text : List Char}
    (absent : separator ∉ text) : splitFrom separator beforeLast last text = [text] := by
  induction text generalizing beforeLast last with
  | nil => rfl
  | cons char rest ih =>
    rw [List.mem_cons, not_or] at absent
    have uncut : ¬ (char = separator ∧ (last ≠ some '\\' ∨ beforeLast = some '\\')) :=
      fun cut => absent.1 cut.1.symm
    rw [splitFrom, if_neg uncut, ih last (some char) absent.2]

end

theorem unescape_cons {char : Char} (bare : char ≠ '\\') (rest : List Char) :
    unescape (char :: rest) = (do
      return Bytes.ofText char.toString ++ (← unescape rest)) := by
  rw [unescape]
  · exact fun backslash _ => bare backslash
  · exact fun _ _ backslash _ => bare backslash

theorem unescape_of_notMem {text : List Char} (bare : '\\' ∉ text) :
    unescape text = .ok (Bytes.ofText (String.ofList text)) := by
  induction text with
  | nil =>
    rw [Bytes.ofText_ofList_nil]
    rfl
  | cons char rest ih =>
    rw [List.mem_cons, not_or] at bare
    rw [unescape_cons (Ne.symm bare.1), ih bare.2, Bytes.ofText_ofList_cons]
    rfl

/-- Undoing escapes leaves no byte more than were written, and fewer if there was an escape. -/
theorem length_unescape {text : List Char} {bytes : Bytes} (undone : unescape text = .ok bytes) :
    bytes.length ≤ (Bytes.ofText (String.ofList text)).length ∧
      ('\\' ∈ text → bytes.length < (Bytes.ofText (String.ofList text)).length) := by
  have backslash := Bytes.length_ofText_pos '\\'
  -- In every case with an escape the backslash itself leaves no byte.
  fun_induction unescape text generalizing bytes with
  | case1 =>
    cases undone
    exact ⟨Nat.zero_le _, fun absent => absurd absent List.not_mem_nil⟩
  | case2 =>
    cases undone
    have fewer := Bytes.length_ofText_cons '\\' []
    exact ⟨Nat.zero_le _, fun _ => by rw [fewer, List.length_nil]; omega⟩
  | case3 next rest escaped ih =>
    rcases bind_eq_ok_iff.1 undone with ⟨others, told, last⟩
    cases last
    have kept := (ih told).1
    simp only [Bytes.length_ofText_cons, List.length_append]
    omega
  | case4 | case6 => cases undone
  | case5 next =>
    cases undone
    simp only [Bytes.length_ofText_cons, List.length_nil]
    omega
  | case7 next _ high low rest isHigh digit isLow ih =>
    rcases bind_eq_ok_iff.1 undone with ⟨others, told, last⟩
    cases last
    have kept := (ih told).1
    have positive := Bytes.length_ofText_pos next
    simp only [Bytes.length_ofText_cons, List.length_cons]
    omega
  | case8 char rest notLast notFirst ih =>
    rcases bind_eq_ok_iff.1 undone with ⟨others, told, last⟩
    cases last
    have bare : '\\' ≠ char := by
      rintro rfl
      cases rest with
      | nil => exact notLast rfl rfl
      | cons next others => exact notFirst next others rfl rfl
    have ⟨kept, fewer⟩ := ih told
    simp only [Bytes.length_ofText_cons, List.length_append, List.mem_cons]
    refine ⟨by omega, fun escaped => ?_⟩
    have less := fewer (escaped.resolve_left bare)
    omega

theorem length_hexBytes {digits : List Char} {bytes : Bytes}
    (read : hexBytes digits = .ok bytes) : 2 * bytes.length = digits.length := by
  fun_induction hexBytes digits generalizing bytes with
  | case1 =>
    cases read
    rfl
  | case2 _ _ rest _ _ _ _ ih =>
    rcases bind_eq_ok_iff.1 read with ⟨others, told, last⟩
    cases last
    have half := ih told
    simp only [List.length_cons]
    omega
  | case3 | case4 => cases read

/-- One attribute that is read makes a name of its own, if no comma and no plus sign parts it. -/
theorem parse_of_whole {text : String} {entry : NameAttribute}
    (whole : ',' ∉ text.toList ∧ '+' ∉ text.toList)
    (read : parseAttribute text.toList = .ok entry) : parse text = .ok [[entry]] := by
  have relatives : split ',' text.toList = [text.toList] := splitFrom_of_notMem none none whole.1
  have attributes : split '+' text.toList = [text.toList] := splitFrom_of_notMem none none whole.2
  have relative : parseRelative text.toList = .ok [entry] := by
    rw [parseRelative, attributes, List.mapM_cons, read]
    rfl
  rw [parse, relatives, List.mapM_cons, relative]
  rfl

/-- A name of one attribute comes from a text that is read as that attribute. Its commas and plus
signs, if it has any, are protected. -/
theorem of_parse {text : String} {entry : NameAttribute} (parsed : parse text = .ok [[entry]]) :
    parseAttribute text.toList = .ok entry ∧
      ('\\' ∉ text.toList → ',' ∉ text.toList ∧ '+' ∉ text.toList) := by
  rcases bind_eq_ok_iff.1 parsed with ⟨relatives, all, reversed⟩
  have relatives : relatives = [[entry]] := by
    have reversed : relatives.reverse = [[entry]] := Except.ok.inj reversed
    rw [← List.reverse_reverse relatives, reversed]
    rfl
  subst relatives
  rcases of_mapM_eq_singleton all with ⟨whole, unparted, relative⟩
  have ⟨same, commas⟩ := of_splitFrom unparted
  subst same
  rcases bind_eq_ok_iff.1 relative with ⟨attributes, all, ordered⟩
  have ordered : RelativeName.ofAttributes? attributes = some [entry] := by
    cases ordering : RelativeName.ofAttributes? attributes with
    | none =>
      rw [ordering] at ordered
      cases ordered
    | some relative =>
      rw [ordering] at ordered
      rw [Except.ok.inj ordered]
  rw [RelativeName.of_ofAttributes?_eq_singleton ordered] at all
  rcases of_mapM_eq_singleton all with ⟨only, unparted, alone⟩
  have ⟨same, pluses⟩ := of_splitFrom unparted
  subst same
  exact ⟨alone, fun bare => ⟨commas bare nofun, pluses bare nofun⟩⟩

theorem typeOf_commonName : typeOf ['C', 'N'] = .ok AttributeType.commonName := by
  have named : Oid.ofName? ['C', 'N'] = some AttributeType.commonName := by decide +kernel
  rw [typeOf, named]
  rfl

theorem toList_commonName (text : String) :
    ("CN=" ++ text).toList = 'C' :: 'N' :: '=' :: text.toList := by
  rw [String.toList_append]
  rfl

/-- A value that is not marked as hexadecimal is read as a text. -/
theorem parseAttribute_commonName {value : List Char} (unmarked : value.head? ≠ some '#') :
    parseAttribute ('C' :: 'N' :: '=' :: value) = (do
      return ⟨AttributeType.commonName, Der.Tag.utf8String, ← unescape value⟩) := by
  have key : ('C' :: 'N' :: '=' :: value).takeWhile (· ≠ '=') = ['C', 'N'] := rfl
  have behind : ('C' :: 'N' :: '=' :: value).dropWhile (· ≠ '=') = '=' :: value := rfl
  have tag : textTag AttributeType.commonName = Der.Tag.utf8String := by decide
  rw [parseAttribute]
  simp only [key, behind, typeOf_commonName, bind, Except.bind]
  split
  · exact absurd rfl unmarked
  · rw [tag]

/-- What is read of a value that is marked as hexadecimal is what the digits spell. -/
theorem parseAttribute_commonName_hex {digits : List Char} {entry : NameAttribute}
    (read : parseAttribute ('C' :: 'N' :: '=' :: '#' :: digits) = .ok entry) :
    ∃ bytes, hexBytes digits = .ok bytes ∧
      Der.decode bytes = .ok (entry.tag, entry.content) := by
  have key : ('C' :: 'N' :: '=' :: '#' :: digits).takeWhile (· ≠ '=') = ['C', 'N'] := rfl
  have behind : ('C' :: 'N' :: '=' :: '#' :: digits).dropWhile (· ≠ '=') = '=' :: '#' :: digits :=
    rfl
  rw [parseAttribute] at read
  simp only [key, behind, typeOf_commonName] at read
  rcases bind_eq_ok_iff.1 read with ⟨oid, -, marked⟩
  rcases bind_eq_ok_iff.1 marked with ⟨bytes, spelled, decoded⟩
  refine ⟨bytes, spelled, ?_⟩
  split at decoded
  · cases decoded
    assumption
  · cases decoded

/-- A name is a common name and nothing else if it consists of one relative name with one
attribute, and this is a common name whose value is the text. -/
def IsCommonName (name : Name) (text : String) : Prop :=
  ∃ entry : NameAttribute,
    name = [[entry]] ∧ entry.oid = AttributeType.commonName ∧ entry.text? = some text

/-- A text in which nothing has a meaning beside itself when it is read as a common name. -/
def IsPlain (text : String) : Prop :=
  ',' ∉ text.toList ∧ '+' ∉ text.toList ∧ '\\' ∉ text.toList ∧ text.toList.head? ≠ some '#'

instance : DecidablePred IsPlain :=
  fun _ => inferInstanceAs (Decidable (_ ∧ _ ∧ _ ∧ _))

theorem isCommonName_commonName (text : String) : IsCommonName [[.commonName text]] text := by
  refine ⟨.commonName text, rfl, rfl, ?_⟩
  have decoded : String.fromUTF8? ⟨(Bytes.ofText text).toArray⟩ = some text :=
    Bytes.fromUTF8?_eq_some_iff.2 rfl
  rw [NameAttribute.text?]
  exact decoded

theorem IsCommonName.unique {name : Name} {text other : String} (only : name.IsCommonName text)
    (also : name.IsCommonName other) : text = other := by
  rcases only with ⟨entry, rfl, -, told⟩
  rcases also with ⟨_, same, -, toldAlso⟩
  cases same
  exact Option.some.inj (told.symm.trans toldAlso)

theorem content_of_text? {entry : NameAttribute} {text : String}
    (told : entry.text? = some text) : entry.content = Bytes.ofText text := by
  refine Bytes.fromUTF8?_eq_some_iff.1 ?_
  rw [NameAttribute.text?] at told
  split at told
  · exact told
  · split at told
    · split at told
      · exact told
      · cases told
    · split at told
      · split at told
        · exact told
        · cases told
      · cases told

/-- A plain text is read as itself. -/
theorem ofCommonName_of_isPlain {text : String} (plain : IsPlain text) :
    ofCommonName text = .ok [[.commonName text]] := by
  have ⟨comma, plus, bare, unmarked⟩ := plain
  have read : parseAttribute ("CN=" ++ text).toList = .ok (.commonName text) := by
    rw [toList_commonName, parseAttribute_commonName unmarked, unescape_of_notMem bare,
      String.ofList_toList]
    rfl
  refine parse_of_whole ?_ read
  rw [toList_commonName]
  simp [comma, plus]

/-- What stands behind `#` has fewer bytes than the digits that spell it. -/
theorem head?_ne_of_content {text : String} {entry : NameAttribute}
    (read : parseAttribute ('C' :: 'N' :: '=' :: text.toList) = .ok entry)
    (content : entry.content = Bytes.ofText text) : text.toList.head? ≠ some '#' := by
  intro marked
  rcases List.head?_eq_some_iff.1 marked with ⟨digits, characters⟩
  rw [characters] at read
  rcases parseAttribute_commonName_hex read with ⟨bytes, spelled, decoded⟩
  have half := length_hexBytes spelled
  have inside := Der.length_decode decoded
  have written := Bytes.length_le_length_ofText text.toList
  rw [String.ofList_toList, ← content, characters, List.length_cons] at written
  omega

/-- Only a plain text is read as itself. -/
theorem isPlain_of_isCommonName {text : String} {name : Name} (read : ofCommonName text = .ok name)
    (only : name.IsCommonName text) : IsPlain text := by
  rcases only with ⟨entry, rfl, -, told⟩
  -- The attribute has as many bytes as the text, so nothing in the text was undone.
  have content := content_of_text? told
  have ⟨alone, unparted⟩ := of_parse read
  rw [toList_commonName] at alone unparted
  have unmarked := head?_ne_of_content alone content
  rw [parseAttribute_commonName unmarked] at alone
  rcases bind_eq_ok_iff.1 alone with ⟨bytes, undone, last⟩
  cases last
  have bare : '\\' ∉ text.toList := by
    intro escaped
    have fewer := (length_unescape undone).2 escaped
    rw [String.ofList_toList, ← content] at fewer
    exact Nat.lt_irrefl _ fewer
  have whole := unparted (by simpa using bare)
  simp only [List.mem_cons, not_or] at whole
  exact ⟨whole.1.2.2.2, whole.2.2.2.2, bare, unmarked⟩

end Name

end SealedKeys
