import Mathlib.Data.Nat.ChineseRemainder
import Mathlib.Tactic.Ring
import SealedKeys.Rsa.Signature

/-!
A number put together from its remainders.

`join?` takes one factor after the other. What it knows so far is right for the product of the
factors before, and the multiple of that product which it adds changes nothing there
(`lift_modEq_product`), while it makes the number right for the next factor
(`lift_modEq_factor`). The number stays below the product throughout, so that at the end it is one
below the whole modulus (`joined_of_join?`). Whether the factors are prime, or have anything in
common, does not matter, as long as the inverses that were used are inverses.
-/

namespace SealedKeys

namespace Rsa

theorem product_eq_prod (factors : List Nat) : product factors = factors.prod := rfl

theorem product_cons (factor : Nat) (factors : List Nat) :
    product (factor :: factors) = factor * product factors := rfl

section

variable {product known remainder factor inverse : Nat}

/-- What is added is a multiple of the product. -/
theorem lift_modEq_product (product known lift : Nat) :
    known + product * lift ≡ known [MOD product] :=
  Nat.add_mul_mod_self_left known product lift

/-- What is added makes the number right for the factor. -/
theorem lift_modEq_factor (positive : 0 < factor) (inverts : product * inverse ≡ 1 [MOD factor]) :
    known + product * ((remainder + (factor - known % factor)) * inverse % factor) ≡
      remainder [MOD factor] := by
  have below := Nat.mod_lt known positive
  calc
    known + product * ((remainder + (factor - known % factor)) * inverse % factor)
        ≡ known + product * ((remainder + (factor - known % factor)) * inverse) [MOD factor] :=
      ((Nat.mod_modEq _ _).mul_left product).add_left known
    _ = known + (remainder + (factor - known % factor)) * (product * inverse) := by ring
    _ ≡ known % factor + (remainder + (factor - known % factor)) * 1 [MOD factor] :=
      (Nat.mod_modEq known factor).symm.add (inverts.mul_left _)
    _ = remainder + factor := by omega
    _ ≡ remainder [MOD factor] := Nat.add_modEq_right

/-- What is added keeps the number below the product with the factor. -/
theorem lift_lt (below : known < product) {lift : Nat} (lift_lt : lift < factor) :
    known + product * lift < product * factor := by
  calc
    known + product * lift < product + product * lift := Nat.add_lt_add_right below _
    _ = product * (lift + 1) := by ring
    _ ≤ product * factor := Nat.mul_le_mul_left product lift_lt

end

/-- A number below a product of factors that has a given remainder for each of some factors, and
agrees with what was known before. -/
structure Joined (remainder : Nat → Nat) (product known : Nat) (factors : List Nat)
    (joined : Nat) : Prop where
  lt_product : joined < product * Rsa.product factors
  known_modEq : joined ≡ known [MOD product]
  remainder_modEq : ∀ factor ∈ factors, joined ≡ remainder factor [MOD factor]

theorem joined_of_join? {remainder : Nat → Nat} {product known joined : Nat} {factors : List Nat}
    (positive : ∀ factor ∈ factors, 0 < factor) (below : known < product)
    (joins : join? remainder product known factors = some joined) :
    Joined remainder product known factors joined := by
  induction factors generalizing product known with
  | nil =>
    cases joins
    exact ⟨by rwa [Rsa.product, List.foldr_nil, Nat.mul_one], rfl, List.forall_mem_nil _⟩
  | cons factor rest ih =>
    rw [List.forall_mem_cons] at positive
    unfold join? at joins
    split at joins
    · cases joins
    · rename_i inverse found
      have next := ih positive.2 (lift_lt below (Nat.mod_lt _ positive.1)) joins
      have here := next.known_modEq
      refine ⟨?_, ?_, List.forall_mem_cons.2 ⟨?_, next.remainder_modEq⟩⟩
      · rw [product_cons, ← Nat.mul_assoc]
        exact next.lt_product
      · exact (here.of_dvd (Nat.dvd_mul_right product factor)).trans (lift_modEq_product _ _ _)
      · exact (here.of_dvd (Nat.dvd_mul_left factor product)).trans
          (lift_modEq_factor positive.1 (mul_inverse? found))

end Rsa

end SealedKeys
