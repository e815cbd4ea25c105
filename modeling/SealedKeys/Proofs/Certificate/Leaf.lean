import SealedKeys.Proofs.Certificate.Form
import SealedKeys.Proofs.Certificate.Subject

/-!
What an authority puts into a certificate for another key.

The names under which the subject is reached become one extension, with an element for each name:
first the domain names as they are, then the addresses. Elements are told apart by where they end,
so a value lists one sequence of names only (`AreForms.unique`), and none is lost between two
others. A request whose names cannot be written does not come as far as the signer.
-/

namespace SealedKeys

/-! ## Lists of names -/

/-- The address that four or sixteen bytes are. -/
def IpAddress.ofBytes? (bytes : Bytes) : Option IpAddress :=
  if short : bytes.toArray.size = 4 then some (.v4 ⟨bytes.toArray, short⟩)
  else if long : bytes.toArray.size = 16 then some (.v6 ⟨bytes.toArray, long⟩)
  else none

theorem IpAddress.ofBytes?_bytes (address : IpAddress) : ofBytes? address.bytes = some address := by
  cases address with
  | v4 octets =>
    rcases octets with ⟨⟨octets⟩, short⟩
    exact dif_pos short
  | v6 octets =>
    rcases octets with ⟨⟨octets⟩, long⟩
    have not_short : ¬ octets.toArray.size = 4 := by
      rw [long]
      decide
    exact (dif_neg not_short).trans (dif_pos long)

namespace AlternativeName

/-- The name that an element tells, by its tag and content: a text of ASCII characters, a byte each,
or an address. -/
def ofElement? (tag : Der.Tag) (content : Bytes) : Option AlternativeName :=
  if tag = 0x82 then
    if content.all (· < 128) then
      some (.dns (String.ofList (content.map fun byte => Char.ofNat byte.toNat)))
    else none
  else if tag = 0x87 then (IpAddress.ofBytes? content).map .ip
  else none

/-- Bytes are one element, which tells a name. -/
def IsForm (name : AlternativeName) (bytes : Bytes) : Prop :=
  ∃ tag content, Der.IsElement tag content bytes ∧ ofElement? tag content = some name

/-- The forms of names, one behind the other. -/
inductive AreForms : List AlternativeName → Bytes → Prop where
  | nil : AreForms [] []
  | cons {name : AlternativeName} {names : List AlternativeName} {first rest : Bytes}
    (isForm : name.IsForm first) (areForms : AreForms names rest) :
    AreForms (name :: names) (first ++ rest)

/-- A value lists names: it is one sequence, and they are what it holds. -/
def Lists (value : Bytes) (names : List AlternativeName) : Prop :=
  ∃ content, Der.IsElement Der.Tag.sequence content value ∧ AreForms names content

variable {name other : AlternativeName} {names others : List AlternativeName}
  {left right rest behind value : Bytes}

theorem IsForm.unique (first : name.IsForm left) (second : other.IsForm right)
    (same : left ++ rest = right ++ behind) : name = other ∧ rest = behind := by
  rcases first with ⟨tag, content, isElement, tells⟩
  rcases second with ⟨another, inner, isAnother, alsoTells⟩
  rcases isElement.unique isAnother same with ⟨rfl, rfl, further⟩
  exact ⟨Option.some.inj (tells.symm.trans alsoTells), further⟩

theorem IsForm.append_ne_nil (isForm : name.IsForm left) (rest : Bytes) : left ++ rest ≠ [] := by
  rcases isForm with ⟨tag, content, ⟨field, -, rfl⟩, -⟩
  exact List.cons_ne_nil _ _

/-- Bytes hold the forms of one list of names at most. -/
theorem AreForms.unique (areForms : AreForms names left) (alsoAre : AreForms others right)
    (same : left = right) : names = others := by
  induction areForms generalizing others right with
  | nil =>
    cases alsoAre with
    | nil => rfl
    | cons isForm => exact absurd same.symm (isForm.append_ne_nil _)
  | cons isForm areForms ih =>
    cases alsoAre with
    | nil => exact absurd same (isForm.append_ne_nil _)
    | cons isAnother alsoAre =>
      rcases isForm.unique isAnother same with ⟨rfl, further⟩
      rw [ih alsoAre further]

theorem Lists.unique (lists : Lists value names) (alsoLists : Lists value others) :
    names = others := by
  rcases lists with ⟨content, isElement, areForms⟩
  rcases alsoLists with ⟨inner, isAnother, alsoAre⟩
  have same : value ++ [] = value ++ [] := rfl
  rcases isElement.unique isAnother same with ⟨-, inside, -⟩
  exact areForms.unique alsoAre inside

/-! ## Writing names -/

/-- A name that has a DER form: a domain name must consist of ASCII characters. -/
def IsWritable : AlternativeName → Prop
  | .dns text => Bytes.IsAscii text
  | .ip _ => True

theorem ofElement?_dns {text : String} (ascii : Bytes.IsAscii text) :
    ofElement? 0x82 (Bytes.ofText text) = some (.dns text) := by
  have small : ∀ char ∈ text.toList, (UInt8.ofNat char.toNat).toNat = char.toNat := by
    intro char member
    have := ascii char member
    rw [UInt8.toNat_ofNat']
    omega
  have all_small : (Bytes.ofText text).all (· < 128) = true := by
    rw [Bytes.ofText_of_isAscii ascii, List.all_map, List.all_eq_true]
    intro char member
    rw [Function.comp_apply, decide_eq_true_eq, UInt8.lt_iff_toNat_lt, small char member]
    exact ascii char member
  have spelled : (Bytes.ofText text).map (fun byte => Char.ofNat byte.toNat) = text.toList := by
    rw [Bytes.ofText_of_isAscii ascii, List.map_map]
    calc
      text.toList.map _ = text.toList.map id := by
        apply List.map_congr_left
        intro char member
        rw [Function.comp_apply, small char member, Char.ofNat_toNat, id]
      _ = text.toList := List.map_id _
  simp only [ofElement?, if_true, all_small, spelled, String.ofList_toList]

theorem ofElement?_ip (address : IpAddress) :
    ofElement? 0x87 address.bytes = some (.ip address) := by
  have other : (0x87 : Der.Tag) ≠ 0x82 := by decide
  simp only [ofElement?, if_neg other, if_true, IpAddress.ofBytes?_bytes, Option.map_some]

theorem isForm_element (writable : name.IsWritable) (told : name.element.length < Der.untold) :
    name.IsForm name.element := by
  have inside (tag : Der.Tag) (content : Bytes)
      (whole : (Der.element tag content).length < Der.untold) : content.length < Der.untold :=
    (Der.length_lt_length_element tag content).trans whole
  cases name with
  | dns text =>
    exact ⟨_, _, Der.isElement_element 0x82 (inside _ _ told), ofElement?_dns writable⟩
  | ip address =>
    exact ⟨_, _, Der.isElement_element 0x87 (inside _ _ told), ofElement?_ip address⟩

theorem areForms_flatten (writable : ∀ name ∈ names, name.IsWritable)
    (told : (names.map element).flatten.length < Der.untold) :
    AreForms names (names.map element).flatten := by
  induction names with
  | nil => exact .nil
  | cons name names ih =>
    rw [List.forall_mem_cons] at writable
    rw [List.map_cons, List.flatten_cons] at told ⊢
    rw [List.length_append] at told
    exact .cons (isForm_element writable.1 (by omega)) (ih writable.2 (by omega))

/-- A sequence of the forms of names lists these names and no others. -/
theorem lists_sequence_iff (writable : ∀ name ∈ names, name.IsWritable)
    (told : (Der.sequence (names.map element)).length < Der.untold) :
    Lists (Der.sequence (names.map element)) others ↔ others = names := by
  have inside := (Der.length_lt_length_element _ _).trans told
  have lists : Lists (Der.sequence (names.map element)) names :=
    ⟨_, Der.isElement_element _ inside, areForms_flatten writable inside⟩
  constructor
  · intro alsoLists
    exact alsoLists.unique lists
  · rintro rfl
    exact lists

end AlternativeName

namespace Certificate

/-! ## What a request comes to -/

/-- The names that a request asks for: the domain names, then the addresses. -/
def LeafRequest.names (request : LeafRequest) : List AlternativeName :=
  request.dnsNames.map .dns ++ request.ipAddresses.map .ip

/-- A request that can be written: the common name is read as a name, and the domain names consist of
ASCII characters. -/
structure LeafRequest.IsWritable (request : LeafRequest) : Prop where
  read : ∃ name, Name.ofCommonName request.commonName = .ok name
  ascii : ∀ text ∈ request.dnsNames, Bytes.IsAscii text

theorem dnsName_eq_ok_iff {text : String} {name : AlternativeName} :
    dnsName text = .ok name ↔ Bytes.IsAscii text ∧ name = .dns text := by
  have ascii : (text.toList.all fun char => char.toNat < 128) = true ↔ Bytes.IsAscii text := by
    simp only [List.all_eq_true, decide_eq_true_eq, Bytes.IsAscii]
  rw [dnsName]
  split
  · rename_i all
    constructor
    · intro told
      cases told
      exact ⟨ascii.1 all, rfl⟩
    · rintro ⟨-, rfl⟩
      rfl
  · rename_i not_all
    constructor
    · intro told
      cases told
    · rintro ⟨all, -⟩
      exact absurd (ascii.2 all) not_all

theorem mapM_dnsName_eq_ok_iff {texts : List String} {names : List AlternativeName} :
    texts.mapM dnsName = .ok names ↔
      (∀ text ∈ texts, Bytes.IsAscii text) ∧ names = texts.map .dns := by
  induction texts generalizing names with
  | nil =>
    constructor
    · intro told
      cases told
      exact ⟨List.forall_mem_nil _, rfl⟩
    · rintro ⟨-, rfl⟩
      rfl
  | cons text texts ih =>
    rw [List.mapM_cons, bind_eq_ok_iff, List.forall_mem_cons]
    constructor
    · rintro ⟨first, isFirst, others⟩
      rcases bind_eq_ok_iff.1 others with ⟨rest, isRest, last⟩
      rcases dnsName_eq_ok_iff.1 isFirst with ⟨ascii, rfl⟩
      rcases ih.1 isRest with ⟨allAscii, rfl⟩
      cases last
      exact ⟨⟨ascii, allAscii⟩, rfl⟩
    · rintro ⟨⟨ascii, allAscii⟩, rfl⟩
      exact ⟨_, dnsName_eq_ok_iff.2 ⟨ascii, rfl⟩,
        bind_eq_ok_iff.2 ⟨_, ih.2 ⟨allAscii, rfl⟩, rfl⟩⟩

theorem alternativeNames_eq_ok_iff {request : LeafRequest} {names : List AlternativeName} :
    alternativeNames request = .ok names ↔
      (∀ text ∈ request.dnsNames, Bytes.IsAscii text) ∧ names = request.names := by
  rw [alternativeNames, bind_eq_ok_iff]
  constructor
  · rintro ⟨first, isFirst, last⟩
    rcases mapM_dnsName_eq_ok_iff.1 isFirst with ⟨ascii, rfl⟩
    cases last
    exact ⟨ascii, rfl⟩
  · rintro ⟨ascii, rfl⟩
    exact ⟨_, mapM_dnsName_eq_ok_iff.2 ⟨ascii, rfl⟩, rfl⟩

/-- The names of a request that can be written have a DER form. -/
theorem LeafRequest.IsWritable.names {request : LeafRequest} (writable : request.IsWritable) :
    ∀ name ∈ request.names, name.IsWritable := by
  intro name member
  rcases List.mem_append.1 member with domain | address
  · rcases List.mem_map.1 domain with ⟨text, requested, rfl⟩
    exact writable.ascii text requested
  · rcases List.mem_map.1 address with ⟨address, -, rfl⟩
    trivial

/-- The values of the extensions of one type, in their order. -/
def valuesOf (oid : Oid) (extensions : List Extension) : List Bytes :=
  (extensions.filter fun extension => extension.oid = oid).map Extension.value

theorem valuesOf_append (oid : Oid) (front back : List Extension) :
    valuesOf oid (front ++ back) = valuesOf oid front ++ valuesOf oid back := by
  rw [valuesOf, List.filter_append, List.map_append, ← valuesOf, ← valuesOf]

theorem valuesOf_singleton (extension : Extension) :
    valuesOf extension.oid [extension] = [extension.value] := by
  have kept : [extension].filter (fun other => other.oid = extension.oid) = [extension] :=
    List.filter_cons_of_pos (decide_eq_true rfl)
  rw [valuesOf, kept, List.map_singleton]

theorem valuesOf_eq_nil {oid : Oid} {extensions : List Extension}
    (absent : oid ∉ extensions.map Extension.oid) : valuesOf oid extensions = [] := by
  rw [valuesOf, List.map_eq_nil_iff, List.filter_eq_nil_iff]
  intro extension member
  rw [decide_eq_true_eq]
  rintro rfl
  exact absent (List.mem_map_of_mem member)

/-- A body is what an authority states of a key for which a certificate was requested. -/
structure IsLeafFor (issuer : Name) (subjectKey : PublicKey) (request : LeafRequest)
    (body : Body) : Prop where
  issuer_eq : body.issuer = issuer
  publicKey_eq : body.publicKey = subjectKey
  /-- There is a list of names if there are names, and only one. -/
  alternatives_eq : valuesOf ExtensionType.subjectAlternativeNames body.extensions =
    if request.names = [] then [] else [Der.sequence (request.names.map AlternativeName.element)]
  /-- A value whose length can be told lists the names of the request, and cannot be read as another
  list. -/
  lists_iff : ∀ value ∈ valuesOf ExtensionType.subjectAlternativeNames body.extensions,
    value.length < Der.untold →
      ∀ names, AlternativeName.Lists value names ↔ names = request.names
  purposes_eq : valuesOf ExtensionType.extendedKeyUsage body.extensions =
    [Der.sequence [Extension.serverAuthentication.element, Extension.clientAuthentication.element]]

/-! ## The body -/

/-- The extensions of a body for another key: those that it always begins with, the list of names if
there are any, and the purposes. -/
def leafExtensions (subjectKey issuerKey : PublicKey) (subject : Name)
    (names : List AlternativeName) : List Extension :=
  [.subjectKeyIdentifier subjectKey, .authorityKeyIdentifier issuerKey,
    .basicConstraints false, .leafKeyUsage]
  ++ (if names.isEmpty then [] else [.subjectAlternativeNames subject names])
  ++ [.extendedKeyUsage [Extension.serverAuthentication, Extension.clientAuthentication]]

theorem subjectAlternativeNames_ne_extendedKeyUsage :
    ExtensionType.subjectAlternativeNames ≠ ExtensionType.extendedKeyUsage := by
  decide +kernel

section

variable (subjectKey issuerKey : PublicKey) (subject : Name) (names : List AlternativeName)

/-- The values that such a body has of a type, other than those that it always begins with. -/
theorem valuesOf_leafExtensions {oid : Oid}
    (absent : oid ∉ [ExtensionType.subjectKeyIdentifier, ExtensionType.authorityKeyIdentifier,
      ExtensionType.basicConstraints, ExtensionType.keyUsage]) :
    valuesOf oid (leafExtensions subjectKey issuerKey subject names) =
      valuesOf oid (if names.isEmpty then [] else [.subjectAlternativeNames subject names]) ++
        valuesOf oid
          [.extendedKeyUsage [Extension.serverAuthentication, Extension.clientAuthentication]] := by
  rw [leafExtensions, valuesOf_append, valuesOf_append, valuesOf_eq_nil absent, List.nil_append]

theorem alternatives_leafExtensions :
    valuesOf ExtensionType.subjectAlternativeNames
        (leafExtensions subjectKey issuerKey subject names) =
      if names = [] then [] else [Der.sequence (names.map AlternativeName.element)] := by
  have no_purposes (purposes : List Oid) :
      valuesOf ExtensionType.subjectAlternativeNames [.extendedKeyUsage purposes] = [] :=
    valuesOf_eq_nil (List.not_mem_cons_of_ne_of_not_mem
      subjectAlternativeNames_ne_extendedKeyUsage List.not_mem_nil)
  rw [valuesOf_leafExtensions _ _ _ _ (by decide +kernel), no_purposes, List.append_nil]
  by_cases none_requested : names = []
  · rw [if_pos none_requested, if_pos (List.isEmpty_iff.2 none_requested)]
    rfl
  · rw [if_neg none_requested, if_neg (mt List.isEmpty_iff.1 none_requested)]
    exact valuesOf_singleton (.subjectAlternativeNames subject names)

theorem purposes_leafExtensions :
    valuesOf ExtensionType.extendedKeyUsage (leafExtensions subjectKey issuerKey subject names) =
      [Der.sequence
        [Extension.serverAuthentication.element, Extension.clientAuthentication.element]] := by
  have no_names : valuesOf ExtensionType.extendedKeyUsage
      (if names.isEmpty then [] else [.subjectAlternativeNames subject names]) = [] := by
    apply valuesOf_eq_nil
    split
    · exact List.not_mem_nil
    · exact List.not_mem_cons_of_ne_of_not_mem
        subjectAlternativeNames_ne_extendedKeyUsage.symm List.not_mem_nil
  rw [valuesOf_leafExtensions _ _ _ _ (by decide +kernel), no_names, List.nil_append]
  exact valuesOf_singleton (.extendedKeyUsage _)

end

/-- What stands in a body that was built, and that its request could be written. -/
theorem of_leafBody {stamp : Stamp} {issuer : Name} {issuerKey subjectKey : PublicKey}
    {request : LeafRequest} {body : Body}
    (built : leafBody stamp issuer issuerKey subjectKey request = .ok body) :
    request.IsWritable ∧ body.issuer = issuer ∧ body.publicKey = subjectKey ∧
      ∃ subject,
        body.extensions = leafExtensions subjectKey issuerKey subject request.names := by
  rcases bind_eq_ok_iff.1 built with ⟨notAfter, -, built⟩
  rcases bind_eq_ok_iff.1 built with ⟨subject, read, built⟩
  rcases bind_eq_ok_iff.1 built with ⟨names, listed, last⟩
  rcases alternativeNames_eq_ok_iff.1 listed with ⟨ascii, rfl⟩
  cases last
  exact ⟨⟨⟨subject, subjectName_eq_ok_iff.1 read⟩, ascii⟩, rfl, rfl, subject, rfl⟩

theorem isLeafFor_of_leafBody {stamp : Stamp} {issuer : Name} {issuerKey subjectKey : PublicKey}
    {request : LeafRequest} {body : Body}
    (built : leafBody stamp issuer issuerKey subjectKey request = .ok body) :
    request.IsWritable ∧ IsLeafFor issuer subjectKey request body := by
  rcases of_leafBody built with ⟨writable, issuer_eq, publicKey_eq, subject, extensions_eq⟩
  have alternatives := alternatives_leafExtensions subjectKey issuerKey subject request.names
  have purposes := purposes_leafExtensions subjectKey issuerKey subject request.names
  rw [← extensions_eq] at alternatives purposes
  refine ⟨writable, issuer_eq, publicKey_eq, alternatives, ?_, purposes⟩
  intro value member told names
  rw [alternatives] at member
  split at member
  · exact absurd member List.not_mem_nil
  · cases List.mem_singleton.1 member
    exact AlternativeName.lists_sequence_iff writable.names told

theorem IsLeafFor.of_agree {issuer : Name} {subjectKey : PublicKey} {request : LeafRequest}
    {body other : Body} (isLeaf : IsLeafFor issuer subjectKey request body)
    (agree : body.Agree other) : IsLeafFor issuer subjectKey request other := by
  rcases isLeaf with ⟨issuer_eq, publicKey_eq, alternatives_eq, lists_iff, purposes_eq⟩
  rw [agree.extensions_eq] at alternatives_eq lists_iff purposes_eq
  exact ⟨agree.issuer_eq.symm.trans issuer_eq, agree.publicKey_eq.symm.trans publicKey_eq,
    alternatives_eq, lists_iff, purposes_eq⟩

/-- A request that can be written has a body, if the certificate ends within the calendar. -/
theorem leafBody_of_isWritable {stamp : Stamp} {request : LeafRequest}
    (inside : stamp.now.seconds + request.validity ≤ Time.last) (writable : request.IsWritable)
    (issuer : Name) (issuerKey subjectKey : PublicKey) :
    ∃ body, leafBody stamp issuer issuerKey subjectKey request = .ok body := by
  rcases writable with ⟨⟨subject, read⟩, ascii⟩
  have listed := alternativeNames_eq_ok_iff.2 ⟨ascii, rfl⟩
  rw [leafBody, endOf_eq_ok inside, subjectName_eq_ok_iff.2 read, listed]
  exact ⟨_, rfl⟩

/-! ## What is issued, and what is sent for it -/

variable {State : Type} [SecureModule State]

/-- The module is asked to sign once, and what it signs is the digest of the body that is issued. -/
theorem log_of_issued (order : Order) {moduleKey : ModuleKey} {stamp : Stamp} {draws : Draws}
    {recorder : Recorder State} {certificate : Certificate}
    (issued : ((order.issue stamp draws ⟨moduleKey.credential, moduleKey.key⟩).run
      recorder).answer = .ok certificate) :
    ((order.issue stamp draws ⟨moduleKey.credential, moduleKey.key⟩).run recorder).state.log =
      recorder.log ++ [.sign moduleKey.handle (ModuleHash.sha256.digest certificate.body.element)
        ⟨.pkcs1, .sha256⟩] := by
  have built := order.body_of_issued issued
  rw [(Order.run_issue_credential built draws recorder).1, Body.signCommand, Recorder.run_sign]
  cases recorder.signFailures <;> rfl

/-- What an authority issues for another key, whatever names are requested and on any module.

A certificate that is issued names the authority as its issuer and holds the key as it was given. Its
list of names is there exactly if a name was requested, and lists the requested names in their
order and no others: the domain names as they are, then the addresses in four or sixteen bytes. Its
purposes are those of a server and a client, in this order. The module was sent one command for it,
to sign the SHA-256 digest of the body. The bytes of the certificate carry all this: another one with
the same bytes, unless they are too many for their length to be told, is one for the same request,
with the same signature on the same bytes. A request with a domain name that is not ASCII or a common
name that is not read as a name is told as the failure of a certificate; nothing is sent, and
module and recorder are left as they were. -/
theorem leaf_exact {moduleKey : ModuleKey} {signer : Signer (Recorder State)}
    (adapted : Signer.ofCredential? moduleKey.credential = .ok signer) (stamp : Stamp)
    (draws : Draws) (authority : Certificate) (subjectKey : PublicKey) (request : LeafRequest)
    (recorder : Recorder State) :
    let outcome := (issueLeaf stamp draws signer authority subjectKey request).run recorder
    (∀ certificate, outcome.answer = .ok certificate →
      IsLeafFor authority.body.subject subjectKey request certificate.body ∧
      outcome.state.log = recorder.log ++ [.sign moduleKey.handle
        (ModuleHash.sha256.digest certificate.body.element) ⟨.pkcs1, .sha256⟩] ∧
      (certificate.element.length < Der.untold → ∀ other : Certificate,
        certificate.element = other.element →
          IsLeafFor authority.body.subject subjectKey request other.body ∧
          certificate.body.element = other.body.element ∧
          certificate.signature = other.signature)) ∧
    (¬ request.IsWritable →
      (∃ reason, outcome.answer = .error (.certificate reason)) ∧ outcome.state = recorder) := by
  have held : (⟨moduleKey.credential, moduleKey.key⟩ : Signer (Recorder State)) = signer :=
    Except.ok.inj adapted
  subst held
  intro outcome
  let order := Order.leaf authority subjectKey request
  constructor
  · intro certificate issued
    have isLeaf := (isLeafFor_of_leafBody (order.body_of_issued issued)).2
    refine ⟨isLeaf, log_of_issued order issued, fun told other same => ?_⟩
    exact ⟨isLeaf.of_agree (agree_of_element_eq told same), (element_eq_iff told).1 same⟩
  · intro unwritable
    have run : outcome = _ := order.run_issue stamp draws _ recorder
    cases built : order.body stamp moduleKey.key with
    | ok body => exact absurd (isLeafFor_of_leafBody built).1 unwritable
    | error fault =>
      simp only [built] at run
      rw [run]
      exact ⟨⟨_, rfl⟩, rfl⟩

/-- A server asks to be reached under a name and an address. -/
def Sample.request : LeafRequest where
  commonName := "server"
  dnsNames := ["localhost"]
  ipAddresses := [.v4 #v[127, 0, 0, 1]]

theorem Sample.isWritable_request : Sample.request.IsWritable where
  read := ⟨_, Name.ofCommonName_of_isPlain (by decide +kernel)⟩
  ascii := by decide +kernel

/-- A server gets a certificate with its two names in it, for one command. With an accent in a
further name it gets none, and nothing is sent. -/
theorem leaf_exact_localhost :
    ∃ (moduleKey : ModuleKey) (signer : Signer (Recorder SoftwareModule))
      (found : Recorder SoftwareModule),
      Signer.ofCredential? moduleKey.credential = .ok signer ∧
      ∀ draws authority subjectKey,
        let issued := (issueLeaf Sample.stamp draws signer authority subjectKey
          Sample.request).run found
        let refused := (issueLeaf Sample.stamp draws signer authority subjectKey
          { Sample.request with dnsNames := ["localhost", "h\u00f4te"] }).run found
        (∃ certificate, issued.answer = .ok certificate ∧
          valuesOf ExtensionType.subjectAlternativeNames certificate.body.extensions =
            [[0x30, 17, 0x82, 9, 0x6c, 0x6f, 0x63, 0x61, 0x6c, 0x68, 0x6f, 0x73, 0x74,
              0x87, 4, 127, 0, 0, 1]] ∧
          issued.state.log = [.sign moduleKey.handle
            (ModuleHash.sha256.digest certificate.body.element) ⟨.pkcs1, .sha256⟩]) ∧
        (∃ reason, refused.answer = .error (.certificate reason)) ∧ refused.state = found := by
  rcases Sample.signs_primeKey with ⟨moduleKey, found, idle, signs⟩
  let signer : Signer (Recorder SoftwareModule) := ⟨moduleKey.credential, moduleKey.key⟩
  have adapted : Signer.ofCredential? moduleKey.credential = .ok signer := rfl
  refine ⟨moduleKey, signer, found, adapted, fun draws authority subjectKey => ⟨?_, ?_⟩⟩
  · have inside : Sample.stamp.now.seconds + Sample.request.validity ≤ Time.last := by decide
    rcases leafBody_of_isWritable inside Sample.isWritable_request authority.body.subject
      (.rsa moduleKey.key) subjectKey with ⟨body, made⟩
    have built : (Order.leaf authority subjectKey Sample.request).body Sample.stamp signer.key =
        .ok body := made
    rcases Order.issued_of_signs built (signs draws body.element) with ⟨signature, issued⟩
    have ⟨isLeaf, log, _⟩ := (leaf_exact adapted Sample.stamp draws authority subjectKey
      Sample.request found).1 _ issued
    rw [idle] at log
    refine ⟨_, issued, isLeaf.alternatives_eq.trans ?_, log⟩
    decide +kernel
  · have unwritable : ¬ { Sample.request with
        dnsNames := ["localhost", "h\u00f4te"] : LeafRequest }.IsWritable := by
      intro writable
      have ascii := writable.ascii "h\u00f4te" (by decide)
      exact absurd ascii (by decide +kernel)
    exact (leaf_exact adapted Sample.stamp draws authority subjectKey _ found).2 unwritable

end Certificate

end SealedKeys
