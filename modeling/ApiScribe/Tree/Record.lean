import ApiScribe.Tree

set_option autoImplicit false

namespace ApiScribe

inductive Outline where
  | leaf
  | whole
  | list (item : Outline)
  | dict (entry : Outline)
  | record (fields : List (String × Outline))
  | schema

namespace Outline

def names : Outline → List String
  | .record fields => fields.map Prod.fst
  | _ => []

def schemaFields : List (String × Outline) :=
  [("type", .leaf), ("format", .leaf), ("nullable", .leaf), ("$ref", .leaf),
    ("description", .leaf), ("items", .schema), ("properties", .dict .schema),
    ("required", .list .leaf), ("enum", .list .whole), ("additionalProperties", .schema),
    ("oneOf", .list .schema), ("anyOf", .list .schema), ("allOf", .list .schema),
    ("example", .whole)]

def unfold : Outline → Outline
  | .schema => .record schemaFields
  | outline => outline

def items? : Outline → Option Outline
  | .whole => some .whole
  | .list item => some item
  | _ => none

end Outline

namespace Tree

inductive FieldKey where
  | field (name : String)
  | other

/-- The field that a key names: by its text or, where the key is known to be a number without a sign,
by its position. -/
def fieldKey? (names : List String) : Tree → Option FieldKey
  | .unsigned n =>
    match names[n]? with
    | some name => some (.field name)
    | none => some .other
  | key =>
    match key.asText? with
    | none => none
    | some name => some (if names.contains name then .field name else .other)

abbrev Fields := List (String × Tree)

def collectFields? (names : List String) : List (Tree × Tree) → Fields → Option Fields
  | [], found => some found
  | (key, t) :: rest, found =>
    match fieldKey? names key with
    | none => none
    | some .other => collectFields? names rest found
    | some (.field name) =>
      if Dict.contains found name then none else collectFields? names rest ((name, t) :: found)

def fields? (outline : Outline) (t : Tree) : Option Fields := do
  collectFields? outline.names (← t.asEntries?) []

namespace Fields

variable {α : Type}

def need? (fs : Fields) (name : String) (f : Tree → Option α) : Option α :=
  (Dict.get? fs name).bind f

def getD? (fs : Fields) (name : String) (default : α) (f : Tree → Option α) : Option α :=
  match Dict.get? fs name with
  | none => some default
  | some t => f t

def option? (fs : Fields) (name : String) (f : Tree → Option α) : Option (Option α) :=
  match Dict.get? fs name with
  | none => some none
  | some t => t.optionOf? f

end Fields

end Tree

end ApiScribe
