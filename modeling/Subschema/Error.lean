import Subschema.Kind
import Subschema.ResultCode

namespace Subschema

/-- A value refused by schema checking. Only two result codes describe that condition. -/
structure InvalidValue where
  resultCode : ResultCode
  message : Option String
  describes : resultCode = .constraintViolation ∨ resultCode = .invalidAttributeSyntax
  deriving DecidableEq

/-- The text shown for a refused value. -/
def InvalidValue.display (v : InvalidValue) : String :=
  "Invalid attribute value (" ++ v.resultCode.display ++ ")" ++
    match v.message with
    | some message => ": " ++ message
    | none => ""

/-- Why an operation on a schema failed. The wording is in `Error.message`, the protocol's view in
`Error.resultCode`. -/
inductive Error where
  | nameNotFound (name : String)
  | notFound (name : String)
  | duplicateOid (oid : String)
  | duplicateName (name existing : String)
  | cyclicHierarchy (oid : String) (path : List String)
  | invalidOid (text : String)
  | invalidName (name : String)
  | wrongKind (oid : String) (expected actual : Kind)
  | unacceptableResultCode (code : ResultCode)
  | invalidValue (value : InvalidValue)
  /-- A document or path that could not be loaded, and what is wrong with it. -/
  | load (origin problem : String)
  /-- A document that is not a schema document at all. -/
  | malformedDocument (origin : String)
  | io (problem : String)
  | json (problem : String)
  | config (problem : String)
  deriving DecidableEq

/-- The message of an error. -/
def Error.message : Error → String
  | .nameNotFound name => "Name not found: " ++ name
  | .notFound name => "Schema object not found: " ++ name
  | .duplicateOid oid => "Duplicate OID: " ++ oid ++ " is already registered"
  | .duplicateName name existing =>
    "Duplicate name: '" ++ name ++ "' is already bound to " ++ existing
  | .cyclicHierarchy oid path =>
    "Cyclic hierarchy: " ++ oid ++ " would become its own superior via [" ++
      " -> ".intercalate path ++ "]"
  | .invalidOid text => "Invalid OID: '" ++ text ++ "'"
  | .invalidName name => "Invalid name: '" ++ name ++ "'"
  | .wrongKind oid expected actual =>
    "Wrong object type: " ++ oid ++ " is " ++ actual.display ++ ", registry holds " ++
      expected.display
  | .unacceptableResultCode code =>
    "Unacceptable result code for an invalid attribute value: " ++ code.display
  | .invalidValue value => value.display
  | .load origin problem => "Failed to load " ++ origin ++ ": " ++ problem
  | .malformedDocument origin => "Failed to load " ++ origin ++ ": not a schema document"
  | .io problem => "IO error: " ++ problem
  | .json problem => "JSON error: " ++ problem
  | .config problem => "Configuration error: " ++ problem

/-- The result code a server reports for an error. -/
def Error.resultCode : Error → ResultCode
  | .nameNotFound _ | .notFound _ => .noSuchAttribute
  | .duplicateOid _ | .duplicateName _ _ => .attributeOrValueExists
  | .cyclicHierarchy _ _ => .unwillingToPerform
  | .invalidOid _ | .invalidName _ => .invalidAttributeSyntax
  | .wrongKind _ _ _ => .constraintViolation
  | .invalidValue value => value.resultCode
  | .unacceptableResultCode _ | .load _ _ | .malformedDocument _ | .io _ | .json _ | .config _ =>
    .other

/-- Whether the error says that the thing asked for does not exist. -/
def Error.isNotFound : Error → Bool
  | .nameNotFound _ | .notFound _ => true
  | _ => false

/-- A refused value with its result code, which must be one of the two that describe it. -/
def InvalidValue.of (code : ResultCode) (message : Option String) : Except Error InvalidValue :=
  if h : code = .constraintViolation ∨ code = .invalidAttributeSyntax then
    .ok ⟨code, message, h⟩
  else
    .error (.unacceptableResultCode code)

end Subschema
