import ObjectQuery.Error

/-! Why a JSON text is no model. -/

namespace ObjectQuery

inductive DocumentError where
  /-- The text is no JSON. -/
  | malformed
  | invalidType
  | invalidValue
  | invalidLength
  | missingField (name : String)
  | duplicateField (name : String)
  | unknownVariant (name : String) (expected : List String)
  /-- No kind of the type has this form. -/
  | noVariant (type : String)
  | unsupportedAggregate (name : String)
  deriving Repr, DecidableEq

namespace DocumentError

private def inBackticks (name : String) : String :=
  "`" ++ name ++ "`"

def message : DocumentError → String
  | .malformed => "malformed JSON"
  | .invalidType => "invalid type"
  | .invalidValue => "invalid value"
  | .invalidLength => "invalid length"
  | .missingField name => "missing field " ++ inBackticks name
  | .duplicateField name => "duplicate field " ++ inBackticks name
  | .unknownVariant name expected =>
    "unknown variant " ++ inBackticks name ++ ", expected one of " ++
      ", ".intercalate (expected.map inBackticks)
  | .noVariant type => "data did not match any variant of untagged enum " ++ type
  | .unsupportedAggregate name => (CompileError.unsupportedAggregate name).message

end DocumentError

end ObjectQuery
