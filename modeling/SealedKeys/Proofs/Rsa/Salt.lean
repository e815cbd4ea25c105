import SealedKeys.Proofs.Rsa.Encoding

/-!
The salt that is found in a PSS encoding.

An encoding hides a block of zero bytes, a separator `01` and the salt. Whoever checks the
encoding takes the mask off, and expects the separator where a salt of one length would put it.
Three facts make the check of an encoding come out for the length of its own salt and for no
other. The mask comes off although the unused bits of the first byte were cleared after it was
put on (`clearTop_xor_clearTop_xor`). Clearing those bits leaves the block alone, even where there
is no zero byte and the separator itself is the first one (`clearTop_dataBlock`). And a block has
one separator, because the bytes in front of it are zero; what the salt holds plays no part
(`take_dataBlock_eq_iff`).

None of this looks into the hash, which may be any function from messages to digests of one
length.
-/

namespace SealedKeys

theorem Bytes.xor_xor_cancel {block mask : Bytes} (covered : block.length ≤ mask.length) :
    Bytes.xor (Bytes.xor block mask) mask = block := by
  induction block generalizing mask with
  | nil => rfl
  | cons byte rest ih =>
    cases mask with
    | nil => exact absurd covered (Nat.not_succ_le_zero _)
    | cons first mask =>
      have restored : byte ^^^ first ^^^ first = byte := by
        rw [UInt8.xor_assoc, UInt8.xor_self, UInt8.xor_zero]
      have further := ih (Nat.le_of_succ_le_succ covered)
      simp only [Bytes.xor, List.zipWith_cons_cons, restored] at further ⊢
      rw [further]

namespace Rsa

namespace Pss

/-! ## The block in front of the salt -/

/-- What an encoding hides: zero bytes, the separator, and the salt. -/
def dataBlock (zeroCount : Nat) (salt : Bytes) : Bytes :=
  List.replicate zeroCount 0 ++ 0x01 :: salt

@[simp] theorem length_dataBlock (zeroCount : Nat) (salt : Bytes) :
    (dataBlock zeroCount salt).length = zeroCount + salt.length + 1 := by
  simp only [dataBlock, List.length_append, List.length_replicate, List.length_cons]
  omega

theorem drop_dataBlock (zeroCount : Nat) (salt : Bytes) :
    (dataBlock zeroCount salt).drop (zeroCount + 1) = salt := by
  induction zeroCount with
  | zero => rfl
  | succ zeroCount ih => exact ih

/-- The separator is found at its own place alone. -/
theorem take_dataBlock_eq_iff (zeroCount other : Nat) (salt : Bytes) :
    (dataBlock zeroCount salt).take (other + 1) = List.replicate other 0 ++ [0x01] ↔
      other = zeroCount := by
  -- Both sides lose one zero byte at a time, until one of them has come to its separator.
  induction zeroCount generalizing other with
  | zero =>
    cases other with
    | zero => simp [dataBlock]
    | succ other =>
      constructor
      · intro same
        have first : (0x01 : UInt8) = 0x00 := (List.cons.inj same).1
        cases first
      · intro impossible
        cases impossible
  | succ zeroCount ih =>
    cases other with
    | zero =>
      constructor
      · intro same
        have first : (0x00 : UInt8) = 0x01 := (List.cons.inj same).1
        cases first
      · intro impossible
        cases impossible
    | succ other =>
      have shorter := ih other
      simp only [dataBlock, List.replicate_succ, List.cons_append, List.take_succ_cons,
        List.cons.injEq, true_and, Nat.add_right_cancel_iff] at shorter ⊢
      exact shorter

/-! ## The mask and the unused bits -/

theorem clearTop_clearTop (kept : UInt8) (bytes : Bytes) :
    clearTop kept (clearTop kept bytes) = clearTop kept bytes := by
  cases bytes with
  | nil => rfl
  | cons first rest => simp only [clearTop, UInt8.and_assoc, UInt8.and_self]

theorem clearTop_xor (kept : UInt8) (left right : Bytes) :
    clearTop kept (Bytes.xor left right) =
      Bytes.xor (clearTop kept left) (clearTop kept right) := by
  cases left with
  | nil => rfl
  | cons first rest =>
    cases right with
    | nil => rfl
    | cons second tail =>
      have distributes : (first ^^^ second) &&& kept = (first &&& kept) ^^^ (second &&& kept) := by
        apply UInt8.toBitVec_inj.1
        ext index bound
        simp only [UInt8.toBitVec_and, UInt8.toBitVec_xor, BitVec.getElem_and, BitVec.getElem_xor,
          Bool.and_xor_distrib_right]
      simp only [clearTop, Bytes.xor, List.zipWith_cons_cons, distributes]

/-- A mask comes off a block, as far as the first byte is used. -/
theorem clearTop_xor_clearTop_xor (kept : UInt8) {block mask : Bytes}
    (covered : block.length ≤ mask.length) :
    clearTop kept (Bytes.xor (clearTop kept (Bytes.xor block mask)) mask) =
      clearTop kept block := by
  calc
    clearTop kept (Bytes.xor (clearTop kept (Bytes.xor block mask)) mask)
        = Bytes.xor (clearTop kept (Bytes.xor block mask)) (clearTop kept mask) := by
      rw [clearTop_xor, clearTop_clearTop]
    _ = clearTop kept (Bytes.xor (Bytes.xor block mask) mask) :=
      (clearTop_xor kept (Bytes.xor block mask) mask).symm
    _ = clearTop kept block := by rw [Bytes.xor_xor_cancel covered]

/-- At most seven bits are unused, so the lowest bit of the first byte is kept. -/
theorem one_and_topMask (bits : Nat) : 0x01 &&& topMask bits = 0x01 := by
  have few : 8 * encodedLength bits - bits < 8 := by
    unfold encodedLength
    omega
  unfold topMask
  generalize 8 * encodedLength bits - bits = unused at few
  revert unused
  decide

theorem clearTop_dataBlock (bits zeroCount : Nat) (salt : Bytes) :
    clearTop (topMask bits) (dataBlock zeroCount salt) = dataBlock zeroCount salt := by
  cases zeroCount with
  | zero => simp only [dataBlock, List.replicate_zero, List.nil_append, clearTop, one_and_topMask]
  | succ zeroCount =>
    simp only [dataBlock, List.replicate_succ, List.cons_append, clearTop, UInt8.zero_and]

/-! ## The check of an encoding -/

section

variable {hash : HashFunction} {digest salt encoded masked salted : Bytes} {bits : Nat}

/-- An encoding is a masked block, the digest over the salt, and a closing byte. -/
theorem encode?_eq_some_iff :
    encode? hash digest salt bits = some encoded ↔
      hash.size + salt.length + 2 ≤ encodedLength bits ∧
      encoded = clearTop (topMask bits)
          (Bytes.xor (dataBlock (encodedLength bits - hash.size - salt.length - 2) salt)
            (hash.stretch (saltedDigest hash digest salt) (encodedLength bits - hash.size - 1)))
        ++ saltedDigest hash digest salt ++ [0xbc] := by
  simp only [encode?, dataBlock]
  split
  · rename_i tight
    constructor
    · intro encodes
      cases encodes
    · rintro ⟨room, -⟩
      exact absurd room (Nat.not_le_of_lt tight)
  · rename_i room
    rw [Option.some.injEq]
    constructor
    · intro same
      exact ⟨Nat.le_of_not_lt room, same.symm⟩
    · rintro ⟨-, same⟩
      exact same.symm

/-- The parts of an encoded message are read off by their lengths. -/
theorem verify_append_iff (room : hash.size + 1 ≤ encodedLength bits)
    (masked_length : masked.length = encodedLength bits - hash.size - 1)
    (salted_length : salted.length = hash.size) (expected : Nat) :
    verify hash digest (masked ++ salted ++ [0xbc]) bits expected = true ↔
      digest.length = hash.size ∧ hash.size + expected + 2 ≤ encodedLength bits ∧
      clearTop (topMask bits) masked = masked ∧
      (clearTop (topMask bits)
          (Bytes.xor masked (hash.stretch salted masked.length))).take
            (encodedLength bits - hash.size - expected - 2 + 1) =
        List.replicate (encodedLength bits - hash.size - expected - 2) 0 ++ [0x01] ∧
      saltedDigest hash digest
          ((clearTop (topMask bits)
            (Bytes.xor masked (hash.stretch salted masked.length))).drop
              (encodedLength bits - hash.size - expected - 2 + 1)) =
        salted := by
  have whole : (masked ++ salted ++ [0xbc]).length = encodedLength bits := by
    simp only [List.length_append, List.length_singleton, masked_length, salted_length]
    omega
  have front : (masked ++ salted ++ [0xbc]).take masked.length = masked := by
    rw [List.append_assoc, List.take_left]
  have middle : ((masked ++ salted ++ [0xbc]).drop masked.length).take hash.size = salted := by
    rw [List.append_assoc, List.drop_left, ← salted_length, List.take_left]
  have last : (masked ++ salted ++ [0xbc]).getLast? = some 0xbc := List.getLast?_concat
  unfold verify
  simp only [← masked_length, whole, front, middle, last, Bool.and_eq_true, decide_eq_true_eq,
    beq_iff_eq, decide_true, and_true, beq_self_eq_true, and_assoc]

/-- An encoding is accepted for the length of its own salt alone. -/
theorem verify_encode?_iff (length : digest.length = hash.size)
    (encodes : encode? hash digest salt bits = some encoded) (expected : Nat) :
    verify hash digest encoded bits expected = true ↔ expected = salt.length := by
  rcases encode?_eq_some_iff.1 encodes with ⟨room, rfl⟩
  set zeroCount := encodedLength bits - hash.size - salt.length - 2 with zeroCount_eq
  set salted := saltedDigest hash digest salt with salted_eq
  set mask := hash.stretch salted (encodedLength bits - hash.size - 1) with mask_eq
  have salted_length : salted.length = hash.size := hash.length_digest _
  have mask_length : mask.length = encodedLength bits - hash.size - 1 := hash.length_stretch _ _
  have block_length : (dataBlock zeroCount salt).length = encodedLength bits - hash.size - 1 := by
    rw [length_dataBlock]
    omega
  have masked_length :
      (clearTop (topMask bits) (Bytes.xor (dataBlock zeroCount salt) mask)).length =
        encodedLength bits - hash.size - 1 := by
    rw [length_clearTop, Bytes.length_xor, block_length, mask_length, Nat.min_self]
  have unmasked : clearTop (topMask bits)
      (Bytes.xor (clearTop (topMask bits) (Bytes.xor (dataBlock zeroCount salt) mask)) mask) =
        dataBlock zeroCount salt := by
    rw [clearTop_xor_clearTop_xor _ (block_length.trans mask_length.symm).le, clearTop_dataBlock]
  rw [verify_append_iff (by omega) masked_length salted_length, masked_length, ← mask_eq, unmasked,
    clearTop_clearTop, take_dataBlock_eq_iff]
  constructor
  · rintro ⟨-, fits, -, place, -⟩
    omega
  · rintro rfl
    refine ⟨length, room, rfl, rfl, ?_⟩
    rw [← zeroCount_eq, drop_dataBlock]

end

end Pss

/-! ## Signatures over any hash function -/

/-- The check of a PSS signature, over any hash function. -/
def verifyPssWith (hash : HashFunction) (modulus exponent : Nat) (digest signature : Bytes)
    (saltLength : Nat) : Bool :=
  match recover? modulus exponent signature with
  | some recovered =>
    Pss.verify hash digest
      (Bytes.ofNat (Pss.encodedLength (bitLength modulus - 1)) recovered)
      (bitLength modulus - 1) saltLength
  | none => false

theorem verifyPss_eq (modulus exponent : Nat) (hash : ModuleHash) :
    verifyPss modulus exponent hash = verifyPssWith hash.function modulus exponent :=
  rfl

/-- A released signature on an encoding is a PSS signature for the length of the salt in the
encoding, and for no other. -/
theorem verifyPssWith_iff {key : PrivateKey} {hash : HashFunction}
    {digest salt encoded signature : Bytes} (length : digest.length = hash.size)
    (encodes : Pss.encode? hash digest salt (key.bits - 1) = some encoded)
    (isSignature : key.IsSignature encoded signature) (expected : Nat) :
    verifyPssWith hash key.modulus key.exponent digest signature expected = true ↔
      expected = salt.length := by
  have size : signature.length = byteLength key.modulus := isSignature.length_eq
  have recovered : recover? key.modulus key.exponent signature = some (Bytes.toNat encoded) := by
    rw [recover?, if_pos size, powMod_eq, isSignature.opens]
  -- The number that comes back is written at the length of the encoding, so nothing is lost even
  -- where the encoding is a byte shorter than the modulus.
  have written :
      Bytes.ofNat (Pss.encodedLength (key.bits - 1)) (Bytes.toNat encoded) = encoded := by
    rw [← (Pss.bounds_of_encode? encodes).1, Bytes.ofNat_toNat]
  have bits : bitLength key.modulus - 1 = key.bits - 1 := rfl
  rw [verifyPssWith, recovered, bits]
  simp only [written]
  exact Pss.verify_encode?_iff length encodes expected

end Rsa

end SealedKeys
