import ApiScribe.Dict
import ApiScribe.Value
import ApiScribe.Yaml.Scalar

set_option autoImplicit false

namespace ApiScribe

open Number Yaml

inductive Tree where
  | scalar (s : Scalar)
  | null
  | bool (b : Bool)
  | unsigned (n : Nat)
  | negative (n : Nat)
  | float (x : Option Binary64)
  | text (s : String)
  | seq (tag : Option Yaml.Tag) (items : List Tree)
  | map (tag : Option Yaml.Tag) (entries : List (Tree × Tree))

def Yaml.IntReading.leaf? : IntReading → Option Tree
  | .unsigned n => some (.unsigned n)
  | .negative n => some (.negative n)
  | .tooWide => none

/-- The value that a scalar has where no type is asked for, as a leaf of known type. A tag of a core
type asks for that type; a tag of an application cannot be read, and one that is no text counts for
nothing on a plain scalar. -/
def Yaml.Scalar.typed? (s : Scalar) : Option Tree :=
  let byText : Option Tree :=
    match readPlain s.text with
    | .null => some .null
    | .bool b => some (.bool b)
    | .int n => n.leaf?
    | .float x => some (.float x)
    | .text => some (.text s.text)
  match s.tag with
  | none => if s.style = .plain then byText else some (.text s.text)
  | some tag =>
    if tag.isLocal then none
    else if tag = .core "bool" then (boolWord? s.text).map .bool
    else if tag = .core "int" then (readInt? s.text.toList).bind IntReading.leaf?
    else if tag = .core "float" then (readFloat? s.text.toList).map .float
    else if tag = .core "null" then if isNullWord s.text then some .null else none
    else if tag.isMarked && s.style == .plain then byText
    else some (.text s.text)

namespace Tree

mutual

def ofValue : Value → Tree
  | .null => .null
  | .bool b => .bool b
  | .int n => if n < 0 then .negative n.natAbs else .unsigned n.natAbs
  | .float x => .float (some x)
  | .text s => .text s
  | .list items => .seq none (ofItems items)
  | .object members => .map none (ofMembers members)

def ofItems : List Value → List Tree
  | [] => []
  | v :: rest => ofValue v :: ofItems rest

def ofMembers : List (String × Value) → List (Tree × Tree)
  | [] => []
  | (k, v) :: rest => (.text k, ofValue v) :: ofMembers rest

end

def isTagged (tag : Option Yaml.Tag) : Bool := tag.any Yaml.Tag.isLocal

mutual

def settle? : Tree → Option Tree
  | .scalar s => s.typed?
  | .seq tag items => if isTagged tag then none else (settleItems? items).map (.seq none)
  | .map tag entries => if isTagged tag then none else (settleEntries? entries).map (.map none)
  | leaf => some leaf

def settleItems? : List Tree → Option (List Tree)
  | [] => some []
  | t :: rest => do return (← settle? t) :: (← settleItems? rest)

def settleEntries? : List (Tree × Tree) → Option (List (Tree × Tree))
  | [] => some []
  | (k, v) :: rest => do return (← settle? k, ← settle? v) :: (← settleEntries? rest)

end

/-- The text of a leaf: that of a scalar, whatever it looks like, or of a leaf known to be text. -/
def asText? : Tree → Option String
  | .scalar s => some s.text
  | .text s => some s
  | _ => none

def asBool? : Tree → Option Bool
  | .scalar s =>
    if s.style = .plain ∨ (s.style = .literal ∧ s.tag = some (.core "bool")) then
      boolWord? s.text
    else none
  | .bool b => some b
  | _ => none

def isEmptyScalar (s : Scalar) : Bool :=
  s.style == .plain && s.text.isEmpty

/-- The items of a list; an empty plain scalar stands for none. -/
def asList? : Tree → Option (List Tree)
  | .seq _ items => some items
  | .scalar s => if isEmptyScalar s then some [] else none
  | _ => none

def asEntries? : Tree → Option (List (Tree × Tree))
  | .map _ entries => some entries
  | .scalar s => if isEmptyScalar s then some [] else none
  | _ => none

/-- Whether an optional part is there at all; a null is as good as nothing. -/
def present? : Tree → Option Bool
  | .null => some false
  | .scalar s =>
    if s.style = .plain then
      match s.tag with
      | none => some (!(s.text.isEmpty || isNullWord s.text))
      | some tag =>
        if tag = .core "null" then if isNullWord s.text then some false else none
        else some true
    else some true
  | _ => some true

mutual

def toValue? : Tree → Option Value
  | .scalar s =>
    match s.typed? with
    | some .null => some .null
    | some (.bool b) => some (.bool b)
    | some (.unsigned n) => some (.int n)
    | some (.negative n) => some (.int (-n))
    | some (.float (some x)) => some (.float x)
    | some (.float none) => some .null
    | some (.text t) => some (.text t)
    | _ => none
  | .null => some .null
  | .bool b => some (.bool b)
  | .unsigned n => some (.int n)
  | .negative n => some (.int (-n))
  | .float (some x) => some (.float x)
  | .float none => some .null
  | .text t => some (.text t)
  | .seq tag items => if isTagged tag then none else (toValues? items).map .list
  | .map tag entries =>
    if isTagged tag then none else (toMembers? entries).map fun ms => .object (Dict.ofList ms)

def toValues? : List Tree → Option (List Value)
  | [] => some []
  | t :: rest => do return (← toValue? t) :: (← toValues? rest)

def toMembers? : List (Tree × Tree) → Option (List (String × Value))
  | [] => some []
  | (k, v) :: rest => do
    let key ← asText? k
    return (key, ← toValue? v) :: (← toMembers? rest)

end

def listOf? {α : Type} (f : Tree → Option α) (t : Tree) : Option (List α) := do
  (← t.asList?).mapM f

def dictOf? {α : Type} (f : Tree → Option α) (t : Tree) : Option (Dict α) := do
  let entries ← (← t.asEntries?).mapM fun e => do return ((← e.1.asText?), (← f e.2))
  return Dict.ofList entries

def optionOf? {α : Type} (f : Tree → Option α) (t : Tree) : Option (Option α) := do
  if ← t.present? then (f t).map some else return none

end Tree

end ApiScribe
