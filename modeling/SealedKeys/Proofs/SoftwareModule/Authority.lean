import SealedKeys.Proofs.SoftwareModule.Release
import SealedKeys.Proofs.SoftwareModule.Standing

/-!
Who may sign.

A signature is traced to the request that made the object behind the handle: whoever asked for
the signature gave the authorization value of that request, and the key of that request made it.
-/

namespace SealedKeys

namespace SoftwareModule

theorem making_of_get? {limit : UInt32} {requests : List Request} {handle : Handle}
    {object : ModuleObject}
    (present : ((empty limit).after requests).objects.get? handle = some object) :
    ∃ making area, LastMade ((empty limit).transcript requests) making area ∧
      making.handle = handle ∧ object.material = making.material ∧ object.auth = making.auth ∧
      object.area.attributes = making.attributes := by
  rcases (get?_after limit requests handle object).1 present with ⟨making, area, last, here, rfl⟩
  exact ⟨making, area, last, here, rfl, rfl, last.describes.1⟩

/-- An authorization failure is told in reply to a sign request alone, and only where the value
given is not that of the object. -/
theorem wrongAuth_of_reply {module : SoftwareModule} {request : Request} {handle : Handle}
    (failed : module.reply request = .error (.authFailure handle)) :
    ∃ draws auth digest scheme object key, request = .sign draws handle auth digest scheme ∧
      AsksAuth module handle object key ∧ object.auth.bytes ≠ auth.bytes := by
  have response := responds module request
  rw [failed] at response
  revert response
  generalize module.next request = left
  generalize told : (.error (.authFailure handle) : Except ModuleError Reply) = reply
  intro response
  cases response with
  | unmade _ _ blames =>
    cases told
    rcases blames with ⟨reason, parameters | command⟩
    · cases parameters
    · cases command
  | @sign draws _ auth digest scheme _ _ outcome =>
    cases outcome with
    | wrongAuth asks differs =>
      cases told
      exact ⟨draws, auth, digest, scheme, _, _, rfl, asks, differs⟩
    | @tried _ key =>
      cases signed : signature draws key digest scheme with
      | ok bytes => rw [signed] at told; cases told
      | error failure =>
        rw [signed] at told
        cases told
        rcases signature_blames signed with ⟨reason, command | blamed⟩
        · cases command
        · cases blamed
    | _ => cases told
  | _ => cases told

/-- Signatures are released under the authority of the last making at the handle.

Before a signature is released at a handle, an object was made there, and since then nothing was
made or evicted there. It was made of an RSA key with the attributes to sign and to be unlocked
by an authorization value; the value given for the signature is, byte for byte, the one given
for the object. The digest is as long as the scheme's hash makes it, and the signature, raised
to the public exponent of that key, gives the encoded message of the digest back. An
authorization failure, in turn, is only told where an object was made and the bytes given differ
from its own. -/
theorem sign_authority (limit : UInt32) (requests : List Request) :
    (∀ before later found draws handle auth digest scheme signature,
      (empty limit).transcript requests =
        before ++ ⟨found, .sign draws handle auth digest scheme, .ok (.signature signature)⟩
          :: later →
      ∃ making area key encoded, LastMade before making area ∧ making.handle = handle ∧
        making.material = .rsa key ∧ making.attributes.sign = true ∧
        making.attributes.userWithAuth = true ∧ making.auth.bytes = auth.bytes ∧
        digest.length = scheme.hash.size ∧
        encodedMessage? draws key digest scheme = some encoded ∧
        key.IsSignature encoded signature) ∧
    (∀ before later found request handle,
      (empty limit).transcript requests =
        before ++ ⟨found, request, .error (.authFailure handle)⟩ :: later →
      ∃ draws auth digest scheme making area, request = .sign draws handle auth digest scheme ∧
        LastMade before making area ∧ making.handle = handle ∧
        making.auth.bytes ≠ auth.bytes) := by
  constructor
  · intro before later found draws handle auth digest scheme signature recorded
    rcases transcript_eq_append recorded with ⟨earlier, request, rest, -, rfl, same⟩
    rcases Exchange.mk.inj same with ⟨rfl, rfl, answered⟩
    obtain ⟨object, key, encoded, asks, given, length, encodes, isSignature⟩ :=
      released (sign_outcome _ draws handle auth digest scheme) (reply_sign_eq_ok.1 answered.symm)
    rcases making_of_get? asks.present with ⟨making, area, last, here, material, own, attributes⟩
    refine ⟨making, area, key, encoded, last, here, ?_, ?_, ?_, ?_, length, encodes, isSignature⟩
    · rw [← material, asks.rsa]
    · rw [← attributes, asks.signs]
    · rw [← attributes, asks.userWithAuth]
    · rw [← own, given]
  · intro before later found request handle recorded
    rcases transcript_eq_append recorded with ⟨earlier, request, rest, -, rfl, same⟩
    rcases Exchange.mk.inj same with ⟨rfl, rfl, answered⟩
    obtain ⟨draws, auth, digest, scheme, object, key, rfl, asks, differs⟩ :=
      wrongAuth_of_reply answered.symm
    rcases making_of_get? asks.present with ⟨making, area, last, here, -, own, -⟩
    refine ⟨draws, auth, digest, scheme, making, area, rfl, last, here, ?_⟩
    rwa [← own]

/-- A key is loaded, evicted, and loaded again with another secret. -/
def Sample.reload : List Request :=
  [Sample.load Sample.shortKey Sample.secret, .evict Sample.handle,
    Sample.load Sample.shortKey Sample.otherSecret]

/-- A key that was loaded again signs for the secret of the second loading, and under the
authority of that loading. -/
theorem sign_authority_reload :
    ∃ signature making area key encoded,
      ((empty 3).after Sample.reload).reply (Sample.sign Sample.otherSecret) =
        .ok (.signature signature) ∧
      LastMade ((empty 3).transcript Sample.reload) making area ∧
      making.handle = Sample.handle ∧ making.material = .rsa key ∧
      making.auth.bytes = Sample.otherSecret.bytes ∧ key.IsSignature encoded signature := by
  obtain ⟨signature, signed⟩ : ∃ signature,
      ((empty 3).after Sample.reload).reply (Sample.sign Sample.otherSecret) =
        .ok (.signature signature) :=
    signature_of_isOk (by decide +kernel)
  have recorded :
      (empty 3).transcript (Sample.reload ++ [Sample.sign Sample.otherSecret]) =
        (empty 3).transcript Sample.reload ++
          [⟨(empty 3).after Sample.reload, Sample.sign Sample.otherSecret,
            .ok (.signature signature)⟩] := by
    rw [transcript_append, transcript_cons, exchange, signed, transcript_nil]
  obtain ⟨making, area, key, encoded, last, here, material, -, -, own, -, -, isSignature⟩ :=
    (sign_authority 3 _).1 _ _ _ _ _ _ _ _ _ recorded
  exact ⟨signature, making, area, key, encoded, signed, last, here, material, own, isSignature⟩

end SoftwareModule

end SealedKeys
