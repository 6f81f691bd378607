import ApiScribe.Source.Reader

set_option autoImplicit false

namespace ApiScribe.Source

inductive ExprForm where
  | range
  | comparison
  | block
  | curlyMacro
  | verbatim
  | plain
  deriving DecidableEq, Repr

inductive PatternForm where
  | openRange
  | verbatim
  | plain
  deriving DecidableEq, Repr

inductive BoundForm where
  | lifetime
  | aTrait
  | capture
  deriving DecidableEq, Repr

abbrev Precedence := Nat

namespace Precedence

def any : Precedence := 0

def assign : Precedence := 1

def range : Precedence := 2

def or : Precedence := 3

def and : Precedence := 4

def compare : Precedence := 6

def bitOr : Precedence := 7

def bitXor : Precedence := 8

def bitAnd : Precedence := 9

def shift : Precedence := 10

def sum : Precedence := 11

def product : Precedence := 12

def cast : Precedence := 13

end Precedence

structure Grammar where
  typeExpr : (takesSum : Bool) → Reader TypeExpr
  /-- One bound of a type; it may be a list of captured parameters, or be constant, only if the place
  takes that. -/
  bound : (takesCapture takesConst : Bool) → Reader BoundForm
  /-- An expression with operators that bind as tightly as `least`; `takesRecord` if a path may go on
  as the literal of a structure. -/
  exprAbove : (takesRecord : Bool) → (least : Precedence) → Reader ExprForm
  /-- An expression as a statement or as the arm of a match, which ends after a block; `attached`
  holds what stands in the attributes before it. -/
  boundaryExpr : (attached : List Item) → Reader ExprForm
  pattern : Reader PatternForm
  statements : Reader Unit
  /-- An item after these attributes, which `found` tells what stands in. The item is noted. -/
  item : (attrs : List Attr) → (found : List Item) → Reader Unit
  fields : Reader (List Field)

def Grammar.empty : Grammar where
  typeExpr _ := failure
  bound _ _ := failure
  exprAbove _ _ := failure
  boundaryExpr _ := failure
  pattern := failure
  statements := failure
  item _ _ := failure
  fields := failure

namespace Grammar

open Reader Look

def expr (g : Grammar) (takesRecord : Bool) : Reader ExprForm :=
  g.exprAbove takesRecord .any

def modulePath : Reader (Bool × List String) := do
  let isGlobal ← optionalMarks "::"
  let segment : Reader String := do
    require (← sees pathWord)
    takeAnyWord
  let first ← segment
  let more ← asLongAs (marks "::") do
    takeMarks "::"
    segment
  return (isGlobal, first :: more)

def attrBody (g : Grammar) : Reader Attr := do
  let name : Option String ←
    if ← sees (word "unsafe") then some <$> takeAnyWord
    else do
      match ← modulePath with
      | (false, [name]) => pure (some name)
      | _ => pure none
  if ← sees (either [group .round, group .square, group .curly]) then
    return ⟨name, .list (← takeGroup).2⟩
  else if ← optionalMarks "=" then
    match (← get).rest with
    | [.literal _ (.text text)] =>
      advance 1
      return ⟨name, .value (some text)⟩
    | _ =>
      require (!(← sees fun rest => marks "#" rest && second (group .square) rest))
      let _ ← g.expr true
      return ⟨name, .value none⟩
  else return ⟨name, .bare⟩

def outerAttrs (g : Grammar) : Reader (List Attr) :=
  asLongAs (marks "#") do
    takeMarks "#"
    inside .square (attrBody g)

def innerAttrs (g : Grammar) : Reader (List Attr) :=
  asLongAs (fun rest => marks "#" rest && second (marks "!") rest) do
    takeMarks "#"
    takeMarks "!"
    inside .square (attrBody g)

/-- Whether a visibility is written. After `pub`, parentheses belong to it only if they hold a
place: `crate`, `self` or `super` alone, or a path after `in`. -/
def visibility : Reader Bool := do
  if ← optionalWord "pub" then
    match (← get).rest with
    | .group .round [.word place] :: _ =>
      if ["crate", "self", "super"].contains place then advance 1
    | .group .round (.word "in" :: _) :: _ =>
      inside .round do
        takeWord "in"
        let _ ← modulePath
    | _ => pure ()
    return true
  else return false

def blockWithAttrs (g : Grammar) : Reader (List Attr) :=
  inside .curly do
    let attrs ← innerAttrs g
    g.statements
    return attrs

def block (g : Grammar) : Reader Unit :=
  inside .curly g.statements

def body (g : Grammar) (rest : Reader Unit) : Reader (List Attr × List Item × List Item) :=
  inside .curly do
    let (attrs, attached) ← capture (innerAttrs g)
    let (_, contents) ← capture rest
    return (attrs, attached, contents)

end Grammar

end ApiScribe.Source
