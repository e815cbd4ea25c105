import SealedKeys.CommandLine.Request
import SealedKeys.Credential
import SealedKeys.PublicKey.Info

/-!
What the program does for a request.

Every run starts with an empty module and makes one key in it. `showKey` describes the key;
`signDigest` signs a digest and does not give the signature away before it has checked it with
the public half of the key.
-/

namespace SealedKeys

namespace CommandLine

/-- Why a task could not be done. -/
inductive Failure where
  /-- The digest is no hexadecimal text. -/
  | digest (fault : Hex.Fault)
  | provisioning (cause : Error)
  | signing (cause : Error)
  | selection (cause : Error)
  /-- There is no room for any salt. -/
  | noRoom (scheme : Scheme) (keyBits : Nat)
  /-- The signature is none of the public key. -/
  | verification
  /-- The program has no network. -/
  | noHandshake
  deriving DecidableEq, Repr

/-- The causes of an error, the nearest first. -/
def causesOf : Error → List String
  | .module cause => [cause.message]
  | .domain cause => [cause.message, cause.innerMessage]
  | .tls cause => [cause.message]
  | .unsupportedAlgorithm _ | .unsupportedHash _ | .unsupportedSaltLength _ _ _
  | .certificate _ => []

namespace Failure

/-- What went wrong, in a line. -/
def context : Failure → String
  | .digest fault => "Invalid digest hex: " ++ fault.message
  | .provisioning _ => "failed to provision key"
  | .signing _ => "module refused to sign"
  | .selection cause => cause.message
  | .noRoom scheme keyBits =>
    scheme.name ++ " does not fit a " ++ toString keyBits ++ "-bit key"
  | .verification => "signature does not verify: verification error"
  | .noHandshake => "TLS handshakes are not available"

/-- Why it went wrong, the nearest cause first. -/
def causes : Failure → List String
  | .provisioning cause | .signing cause => cause.message :: causesOf cause
  | .selection cause => causesOf cause
  | .digest _ | .noRoom _ _ | .verification | .noHandshake => []

/-- The failure with its causes in one line. -/
def summary (failure : Failure) : String :=
  ": ".intercalate (failure.context :: failure.causes)

/-- The lines that tell a user of the failure. Causes are numbered if there are several. -/
def lines (failure : Failure) : List String :=
  let causes := match failure.causes with
    | [] => []
    | [cause] => ["", "Caused by:", "    " ++ cause]
    | several => ["", "Caused by:"] ++ several.zipIdx.map fun (cause, number) =>
        "    " ++ toString number ++ ": " ++ cause
  ("Error: " ++ failure.context) :: causes

end Failure

/-- Work on a module that ends with lines to print. -/
abbrev Work := Action SoftwareModule Failure (List String)

/-- The handle of the key. -/
def keyHandle : Handle := ⟨0x81000001⟩

/-- Makes the key. -/
def provision (draws : Draws) (bits : Nat) : Action SoftwareModule Failure ModuleKey :=
  (ModuleKey.provision draws keyHandle .empty (.rsa bits)).mapError .provisioning

/-- The lines that describe a key. -/
def describe (key : ModuleKey) : List String :=
  let parameters := match key.area.rsa? with
    | some parameters =>
      ["key bits:   " ++ toString parameters.keyBits,
        "exponent:   " ++ toString parameters.effectiveExponent]
    | none => []
  ["handle:     " ++ key.handle.text,
    "algorithm:  " ++ key.area.algorithm.name,
    "name alg:   " ++ key.area.nameHash.name,
    "attributes: " ++ Hex.padded 8 key.area.attributes.bits]
  ++ parameters
  ++ ["spki:       " ++ Hex.encode key.publicKey.info]

/-- Makes a key and describes it. -/
def showKey (draws : Draws) (bits : Nat) : Work := do
  return describe (← provision draws bits)

/-- What a credential is told for a hash and a padding. The module chooses the salt. -/
def optionsOf (hash : ModuleHash) : Padding → SignOptions
  | .pkcs1 => .pkcs1 hash.algorithm
  | .pss => .pss ⟨hash.algorithm, .auto⟩

/-- The length of the salt that a signature under the given options has, if it has one. -/
def saltLengthOf (options : SignOptions) (keyBits : Nat) : Except Failure (Option Nat) :=
  match options.padding with
  | .pkcs1 => .ok none
  | .pss => do
    let scheme ← (selectScheme options keyBits).mapError .selection
    match scheme.saltLength? keyBits with
    | some length => return some length
    | none => throw (.noRoom scheme keyBits)

/-- Signs a digest with a fresh key and checks the signature. -/
def signDigest (keyDraws saltDraws : Draws) (hash : ModuleHash) (padding : Padding)
    (digestText : String) (bits : Nat) : Work := do
  let digest ← Action.ofExcept ((Hex.decode digestText).mapError .digest)
  let key ← provision keyDraws bits
  let options := optionsOf hash padding
  let signature ← (key.sign saltDraws digest options).mapError .signing
  let saltLength ← Action.ofExcept (saltLengthOf options key.key.bits)
  Action.ensure (key.key.verifies hash saltLength digest signature) .verification
  Action.log .verified
  return [Hex.encode signature]

/-- Carries a task out. -/
def Task.work (keyDraws saltDraws : Draws) : Task → Work
  | .info bits => showKey keyDraws bits
  | .sign hash padding digest bits => signDigest keyDraws saltDraws hash padding digest bits
  | .tlsDemo => Action.fail .noHandshake

end CommandLine

end SealedKeys
