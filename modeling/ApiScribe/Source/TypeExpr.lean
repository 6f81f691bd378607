import ApiScribe.Shape
import ApiScribe.Text.Blank

set_option autoImplicit false

namespace ApiScribe.Source

open Text

mutual

inductive TypeExpr where
  /-- A path such as `std::vec::Vec<T>`. It is qualified if it starts with a type in angle brackets,
  and then holds the segments of the trait, if one is named, before its own; it is global if it
  starts with `::`. -/
  | path (isQualified isGlobal : Bool) (segments : List Segment)
  | reference (target : TypeExpr)
  | slice (element : TypeExpr)
  | array (element : TypeExpr)
  | paren (inner : TypeExpr)
  | tuple (members : List TypeExpr)
  | traitObject (isBound : Bool)
  | function
  | someTrait
  | pointer
  | never
  | other

inductive Segment where
  | mk (name : String) (arguments : Arguments)

inductive Arguments where
  | none
  | angle (arguments : List Argument)

inductive Argument where
  | type (type : TypeExpr)
  | other

end

instance : Inhabited TypeExpr := ⟨.other⟩

namespace Segment

def name : Segment → String
  | ⟨name, _⟩ => name

def arguments : Segment → Arguments
  | ⟨_, arguments⟩ => arguments

end Segment

namespace Arguments

def isNone : Arguments → Bool
  | .none => true
  | _ => false

def isEmpty : Arguments → Bool
  | .none => true
  | .angle arguments => arguments.isEmpty

end Arguments

/-- The shape of a path from its leading segments, its last one and the shapes of that one's type
arguments. The containers of the standard library are known by their last segment. -/
def pathShape (qualifier : List String) (name : String) (arguments : List Shape) : Shape :=
  let plain : Shape :=
    match qualifier with
    | [] => .named name
    | _ => .qualified (joinWith "::" qualifier) (.named name)
  let wanting : Shape := .unsupported (name ++ " without type arguments")
  if name = "Option" then
    match arguments with
    | [inner] => .optional inner
    | _ => wanting
  else if ["Box", "Rc", "Arc", "Cow"].contains name then
    match arguments with
    | inner :: _ => inner
    | [] => plain
  else if ["Vec", "VecDeque", "LinkedList", "HashSet", "BTreeSet", "IndexSet"].contains name then
    match arguments with
    | element :: _ => .sequence element
    | [] => if name = "Vec" then wanting else plain
  else if ["HashMap", "BTreeMap", "IndexMap"].contains name then
    match arguments with
    | key :: value :: _ => .mapping key value
    | _ => if name = "IndexMap" then plain else wanting
  else if name = "Value" ∧ arguments.isEmpty ∧
      (qualifier.isEmpty ∨ qualifier.getLast? = some "serde_json") then .dynamic
  else plain

mutual

/-- The shape of a type. References, parentheses and owning pointers do not show. -/
def TypeExpr.shape : TypeExpr → Shape
  | .path _ _ segments => segmentsShape [] segments
  | .reference target => target.shape
  | .slice element => .sequence element.shape
  | .array element => .sequence element.shape
  | .paren inner => inner.shape
  | .tuple [] => .unsupported "unit"
  | .tuple (_ :: _) => .unsupported "tuple"
  | .traitObject _ => .dynamic
  | .function => .unsupported "function pointer"
  | .someTrait => .unsupported "impl trait"
  | .pointer => .unsupported "raw pointer"
  | .never => .unsupported "never"
  | .other => .unsupported "type"
termination_by structural type => type

def segmentsShape (qualifier : List String) : List Segment → Shape
  | [] => .unsupported "empty path"
  | [segment] => segmentShape qualifier segment
  | segment :: next :: rest => segmentsShape (qualifier ++ [segment.name]) (next :: rest)
termination_by structural segments => segments

def segmentShape (qualifier : List String) : Segment → Shape
  | ⟨name, arguments⟩ => pathShape qualifier name (argumentsShapes arguments)
termination_by structural segment => segment

def argumentsShapes : Arguments → List Shape
  | .none => []
  | .angle arguments => typeShapes arguments
termination_by structural arguments => arguments

def typeShapes : List Argument → List Shape
  | [] => []
  | argument :: rest => argumentShape argument ++ typeShapes rest
termination_by structural arguments => arguments

def argumentShape : Argument → List Shape
  | .type type => [type.shape]
  | .other => []
termination_by structural argument => argument

end

end ApiScribe.Source
