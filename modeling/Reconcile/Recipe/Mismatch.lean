import Reconcile.Recipe.Auth

/-!
# Documents that are no recipe

The errors of the decodings derived for `Recipe` and its parts.

* `Mismatch` — what is wrong with the data of a well-formed document.
* `Mismatch.message` — its wording, without the place.
-/

namespace Reconcile

/-- What is wrong with the data of a well-formed document. -/
inductive Mismatch where
  /-- A value of another kind than expected. -/
  | wrongType (found expected : String)
  /-- A value of the right kind that does not fit. -/
  | wrongValue (found expected : String)
  /-- A list that is too short for the fields of a record. -/
  | wrongLength (length : Nat) (expected : String)
  | missingField (name : String)
  | duplicateField (name : String)
  | unknownVariant (found : String) (known : List String)
  | missingBlock (cause : MissingBlock)
  /-- A number that no JSON number can hold. -/
  | numberOutOfRange
  /-- A document that nests too deep. -/
  | tooDeep
  /-- A document whose aliases are followed too often. -/
  | tooManyAliases
  deriving DecidableEq, Repr

/-- The known names, each between backticks. -/
def Mismatch.oneOf (known : List String) : String :=
  let quoted := known.map fun k => "`" ++ k ++ "`"
  match quoted with
  | [] => "there are no variants"
  | [a] => "expected " ++ a
  | [a, b] => "expected " ++ a ++ " or " ++ b
  | _ => "expected one of " ++ ", ".intercalate quoted

/-- The wording of a mismatch, without the place. -/
def Mismatch.message : Mismatch → String
  | wrongType found expected => "invalid type: " ++ found ++ ", expected " ++ expected
  | wrongValue found expected => "invalid value: " ++ found ++ ", expected " ++ expected
  | wrongLength n expected => "invalid length " ++ toString n ++ ", expected " ++ expected
  | missingField name => "missing field `" ++ name ++ "`"
  | duplicateField name => "duplicate field `" ++ name ++ "`"
  | unknownVariant found known => "unknown variant `" ++ found ++ "`, " ++ oneOf known
  | missingBlock cause => cause.message
  | numberOutOfRange => "JSON number out of range"
  | tooDeep => "recursion limit exceeded"
  | tooManyAliases => "repetition limit exceeded"

end Reconcile
