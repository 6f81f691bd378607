import ApiScribe.Source.Lexeme
import ApiScribe.Source.TypeExpr
import ApiScribe.Tag

set_option autoImplicit false

namespace ApiScribe.Source

open Text

inductive AttrForm where
  | bare
  | list (arguments : List Lexeme)
  | value (text : Option String)

structure Attr where
  name : Option String
  form : AttrForm

/-- The text of the documentation among the attributes: the lines of all of them, each without one
leading blank. -/
def docText (attrs : List Attr) : String :=
  let texts := attrs.filterMap fun attr =>
    match attr.name, attr.form with
    | some "doc", .value text => text
    | _, _ => none
  joinWith "\n" <| (texts.flatMap lines).map fun line =>
    match line.toList with
    | ' ' :: rest => String.ofList rest
    | _ => line

def schemaAttributes : List String :=
  ["serde", "validate", "jsonapi", "openapi"]

def fieldAttributes (attrs : List Attr) : List Attribute :=
  attrs.filterMap fun attr =>
    match attr.name, attr.form with
    | some name, .list arguments =>
      if schemaAttributes.contains name then some ⟨name, Lexeme.renderAll arguments⟩ else none
    | _, _ => none

/-- The text that stands for a variant: the first `rename` among its attributes, else its name. -/
def variantText (name : String) (attrs : List Attr) : String :=
  let tokens := ((fieldAttributes attrs).filter (·.name = "serde")).flatMap fun attr =>
    match Token.tokenize attr.arguments with
    | .ok tokens => tokens
    | .error _ => []
  match tokens.find? fun token => token.key = "rename" && !token.nested with
  | some token => token.value.getD name
  | none => name

inductive Members where
  | none
  | positional (types : List TypeExpr)
  | named (fields : List Field)

namespace Members

/-- The shape of a structure: one with a single member and no name for it is as that member. -/
def shape : Members → Shape
  | .none => .record []
  | .positional [type] => type.shape
  | .positional _ => .unsupported "tuple struct"
  | .named fields => .record fields

def isNone : Members → Bool
  | .none => true
  | _ => false

end Members

structure Variant where
  name : String
  attrs : List Attr
  members : Members

def variantsShape (variants : List Variant) : Shape :=
  if variants.all (·.members.isNone) then
    .enumeration (variants.map fun variant => variantText variant.name variant.attrs)
  else .unsupported "enum with data"

inductive Item where
  | declaration (declaration : Declaration) (inside : List Item)
  | module (doc : String) (attached contents : List Item)
  | documented (doc : String) (inside : List Item)
  | other (inside : List Item)

def docs? (doc : String) : List String :=
  if allBlank doc then [] else [doc]

mutual

def Item.docs : Item → List String
  | .declaration declaration inside => docs? declaration.doc ++ allDocs inside
  | .module doc attached contents => docs? doc ++ allDocs attached ++ allDocs contents
  | .documented doc inside => docs? doc ++ allDocs inside
  | .other inside => allDocs inside
termination_by structural item => item

def allDocs : List Item → List String
  | [] => []
  | item :: rest => item.docs ++ allDocs rest
termination_by structural items => items

end

mutual

/-- What an item declares: itself, or what its module does. An item inside another is out of sight. -/
def Item.declarations : Item → List Declaration
  | .declaration declaration _ => [declaration]
  | .module _ _ contents => allDeclarations contents
  | .documented _ _ => []
  | .other _ => []
termination_by structural item => item

def allDeclarations : List Item → List Declaration
  | [] => []
  | item :: rest => item.declarations ++ allDeclarations rest
termination_by structural items => items

end

end ApiScribe.Source
