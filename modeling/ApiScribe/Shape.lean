import ApiScribe.Text.Blank
import ApiScribe.Text.Visible

set_option autoImplicit false

namespace ApiScribe

open Text

structure Attribute where
  name : String
  arguments : String
  deriving DecidableEq, Repr

mutual

inductive Shape where
  /-- A bare identifier; one that no table knows is the name of another declaration. -/
  | named (name : String)
  | optional (inner : Shape)
  | sequence (element : Shape)
  | mapping (key value : Shape)
  /-- An identifier behind a path; `qualifier` holds the leading segments. -/
  | qualified (qualifier : String) (inner : Shape)
  | record (fields : List Field)
  | enumeration (variants : List String)
  | dynamic
  | unsupported (what : String)

/-- A field of a record. A field without a name is embedded. -/
inductive Field where
  | mk (name : Option String) (shape : Shape) (doc : String) (attributes : List Attribute)

end

instance : Inhabited Shape := ⟨.dynamic⟩
instance : Inhabited Field := ⟨⟨none, .dynamic, "", []⟩⟩

namespace Field

def name : Field → Option String
  | ⟨n, _, _, _⟩ => n

def shape : Field → Shape
  | ⟨_, s, _, _⟩ => s

def doc : Field → String
  | ⟨_, _, d, _⟩ => d

def attributes : Field → List Attribute
  | ⟨_, _, _, as⟩ => as

def shownName (field : Field) : String :=
  field.name.getD "<embedded>"

end Field

namespace Shape

def innermost : Shape → Shape
  | .optional inner => innermost inner
  | .qualified _ inner => innermost inner
  | shape => shape

def isOptional : Shape → Bool
  | .optional _ => true
  | _ => false

def isSequence : Shape → Bool
  | .optional inner => isSequence inner
  | .sequence _ => true
  | _ => false

end Shape

def Attribute.display (a : Attribute) : String :=
  "RawTag \x7b key: " ++ quoted a.name ++ ", value: " ++ quoted a.arguments ++ " \x7d"

def displayList (items : List String) : String :=
  "[" ++ joinWith ", " items ++ "]"

mutual

def Shape.display : Shape → String
  | .named name => "Primitive(" ++ quoted name ++ ")"
  | .optional inner => "Optional(" ++ inner.display ++ ")"
  | .sequence element => "Sequence(" ++ element.display ++ ")"
  | .mapping key value =>
    "Mapping \x7b key: " ++ key.display ++ ", value: " ++ value.display ++ " \x7d"
  | .qualified qualifier inner =>
    "Named \x7b qualifier: " ++ quoted qualifier ++ ", inner: " ++ inner.display ++ " \x7d"
  | .record fields => "Composite(" ++ displayList (displayFields fields) ++ ")"
  | .enumeration variants => "Enumeration(" ++ displayList (variants.map quoted) ++ ")"
  | .dynamic => "Dynamic"
  | .unsupported what => "Unsupported(" ++ quoted what ++ ")"

def Field.display : Field → String
  | ⟨name, shape, doc, attributes⟩ =>
    "FieldDecl \x7b name: " ++ (match name with | none => "None" | some n => "Some(" ++ quoted n ++ ")") ++
      ", descriptor: " ++ shape.display ++ ", doc: " ++ quoted doc ++
      ", tags: " ++ displayList (attributes.map Attribute.display) ++ " \x7d"

def displayFields : List Field → List String
  | [] => []
  | field :: rest => field.display :: displayFields rest

end

structure Declaration where
  name : String
  shape : Shape
  doc : String

structure SourceFile where
  path : String
  declarations : List Declaration
  docs : List String

end ApiScribe
