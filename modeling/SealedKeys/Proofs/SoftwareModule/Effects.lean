import SealedKeys.Proofs.SoftwareModule.Ledger
import SealedKeys.Proofs.SoftwareModule.Lockout

/-!
What a request leaves behind in a module.

A failed request leaves the module as it was, except that the command is counted and that the count
of authorization failures may have moved. There is one rule for that count, `failuresAfter`, however
far the request came before it failed. A request that succeeds may change one object, the one at the
handle it names.

The count of failures is a word, and so is one more. As a number it is one more as well, except
behind the greatest word, where it is zero. Only a module without a limit comes there.
-/

namespace SealedKeys

namespace SoftwareModule

/-- Whether a request is counted as a command. -/
def Request.isCounted : Request → Bool
  | .resetLockout => false
  | _ => true

variable {module left : SoftwareModule} {request : Request} {reply : Except ModuleError Reply}

theorem Responds.commands_eq (response : Responds module request reply left) :
    left.commands = module.commands + request.isCounted.toNat := by
  cases response with
  | occupied target | unmade target | made target =>
    cases request <;> cases target <;> rfl
  | unevicted | evicted | unread | read | reset => rfl
  | sign outcome => exact outcome.commands_eq

/-- A run counts all its requests but those that clear the lockout. -/
theorem after_commands (module : SoftwareModule) (requests : List Request) :
    (module.after requests).commands = module.commands + requests.countP Request.isCounted := by
  induction requests generalizing module with
  | nil => rfl
  | cons request rest ih =>
    rw [after_cons, ih, (responds module request).commands_eq, List.countP_cons]
    cases request.isCounted
    · simp only [Bool.toNat_false, Bool.false_eq_true, if_false, Nat.add_zero]
    · simp only [Bool.toNat_true, if_true]
      omega

-- The object at the handle is there, but a digest that is too short is refused, with the count of
-- failures cleared.
example :
    (Sample.holding Sample.shortKey |>.withFailures 2).next
        (.sign (.ofSeed []) Sample.handle Sample.secret [] ⟨.pkcs1, .sha1⟩) =
      (Sample.holding Sample.shortKey).counted := by
  decide +kernel

-- Without a limit, one more failure behind the greatest word makes the count zero.
example :
    ({ Sample.holding Sample.shortKey with
        maxAuthFailures := 0, failedAuths := 0xffffffff }.next
      (Sample.sign Sample.otherSecret)).failedAuths = 0 := by
  decide +kernel

end SoftwareModule

end SealedKeys
