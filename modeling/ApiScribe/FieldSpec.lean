import ApiScribe.Example

set_option autoImplicit false

namespace ApiScribe

open Text

inductive Role where
  | none
  | primary (resourceType : String)
  | attr (omitEmpty : Bool)
  | relation (collection : Bool)
  deriving DecidableEq, Repr

structure FieldSpec where
  /-- The name in documents; a field without one is embedded. -/
  name : Option String := none
  ignored : Bool := false
  required : Bool := false
  enumValues : List String := []
  stringCoercion : Bool := false
  nullable : Bool := false
  description : Option String := none
  role : Role := .none
  example? : Option Value := none

namespace FieldSpec

structure Draft where
  spec : FieldSpec
  embedded : Bool
  omitEmpty : Bool

inductive Progress where
  | reading (draft : Draft)
  | skipped (spec : FieldSpec)

def requiredValue (token : Token) : Except TagError String :=
  match token.value with
  | some value => if value.isEmpty then .error (.missingValue token.key) else .ok value
  | none => .error (.missingValue token.key)

def setRole (spec : FieldSpec) (role : Role) : Except TagError FieldSpec :=
  if spec.role = .none then .ok { spec with role } else .error .conflictingRoles

def Draft.change (draft : Draft) (f : FieldSpec → FieldSpec) : Progress :=
  .reading { draft with spec := f draft.spec }

def readSerde (draft : Draft) (token : Token) : Except TagError Progress :=
  if token.key = "skip" ∨ token.key = "skip_serializing" then
    .ok (.skipped { draft.spec with ignored := true })
  else if token.key = "rename" then do
    let name ← requiredValue token
    return draft.change fun a => { a with name := some name }
  else if token.key = "flatten" then .ok (.reading { draft with embedded := true })
  else .ok (.reading draft)

def readValidate (draft : Draft) (token : Token) : Except TagError Progress :=
  if token.key = "required" then .ok (draft.change fun a => { a with required := true })
  else if token.key = "enum" ∨ token.key = "oneof" then do
    let value ← requiredValue token
    return draft.change fun a => { a with enumValues := words value }
  else .ok (.reading draft)

def readJsonApi (shape : Shape) (draft : Draft) (token : Token) : Except TagError Progress :=
  if token.key = "primary" then do
    let resourceType ← requiredValue token
    let spec ← setRole draft.spec (.primary resourceType)
    return .reading { draft with spec }
  else if token.key = "attr" then do
    let name ← requiredValue token
    let spec ← setRole { draft.spec with name := some name } (.attr false)
    return .reading { draft with spec }
  else if token.key = "relation" then do
    let name ← requiredValue token
    let spec ← setRole { draft.spec with name := some name } (.relation shape.isSequence)
    return .reading { draft with spec }
  else if token.key = "omitempty" then .ok (.reading { draft with omitEmpty := true })
  else .error (.unknownKey "jsonapi" token.key)

def readOpenApi (draft : Draft) (token : Token) : Except TagError Progress :=
  if token.key = "string" then .ok (draft.change fun a => { a with stringCoercion := true })
  else if token.key = "nullable" then .ok (draft.change fun a => { a with nullable := true })
  else if token.key = "description" then do
    let text ← requiredValue token
    return draft.change fun a => { a with description := some text }
  else .error (.unknownKey "openapi" token.key)

/-- Reads one token of an attribute. Groups and attributes of other names say nothing. -/
def readToken (shape : Shape) (attr : String) (draft : Draft) (token : Token) :
    Except TagError Progress :=
  if token.nested then .ok (.reading draft)
  else if attr = "serde" then readSerde draft token
  else if attr = "validate" then readValidate draft token
  else if attr = "jsonapi" then readJsonApi shape draft token
  else if attr = "openapi" then readOpenApi draft token
  else .ok (.reading draft)

def readTokens (shape : Shape) (attr : String) (draft : Draft) :
    List Token → Except TagError Progress
  | [] => .ok (.reading draft)
  | token :: rest =>
    match readToken shape attr draft token with
    | .ok (.reading draft) => readTokens shape attr draft rest
    | done => done

def readAttributes (shape : Shape) (draft : Draft) : List Attribute → Except TagError Progress
  | [] => .ok (.reading draft)
  | attr :: rest =>
    match Token.tokenize attr.arguments with
    | .error e => .error e
    | .ok tokens =>
      match readTokens shape attr.name draft tokens with
      | .ok (.reading draft) => readAttributes shape draft rest
      | done => done

def Draft.settle (draft : Draft) : FieldSpec :=
  let a := draft.spec
  let role :=
    match a.role with
    | .attr _ => .attr draft.omitEmpty
    | role => role
  { a with role, name := if draft.embedded then none else a.name }

def ofField (field : Field) : Except TagError FieldSpec := do
  let start : Draft := ⟨{ name := field.name }, field.name.isNone, false⟩
  match ← readAttributes field.shape start field.attributes with
  | .skipped spec => return spec
  | .reading draft =>
    let spec := draft.settle
    match findExample field.doc with
    | none => return spec
    | some raw =>
      let value ← convertExample raw field.shape
      return { spec with example? := some value }

end FieldSpec

end ApiScribe
