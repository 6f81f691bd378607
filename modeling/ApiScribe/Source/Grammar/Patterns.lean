import ApiScribe.Source.Grammar.Types
import ApiScribe.Source.Lexeme.Literal

set_option autoImplicit false

namespace ApiScribe.Source

open Reader Look

def indexDigits? (base : Nat) : List Char → Option (List Nat)
  | [] => some []
  | c :: rest =>
    if c = '_' then indexDigits? base rest
    else
      match hexDigit? c with
      | some digit => if digit < base then (indexDigits? base rest).map (digit :: ·) else none
      | none => none

def isIndex (text : List Char) : Bool :=
  let (base, digits) :=
    match text with
    | '0' :: 'x' :: rest => (16, rest)
    | '0' :: 'o' :: rest => (8, rest)
    | '0' :: 'b' :: rest => (2, rest)
    | _ => (10, text)
  match indexDigits? base digits with
  | some (first :: more) => (first :: more).foldl (fun n d => base * n + d) 0 < Nat.pow 2 32
  | _ => false

namespace Grammar

def member : Reader Bool := do
  if ← sees name then
    let _ ← takeName
    return true
  match (← get).rest with
  | .literal text .integer :: _ =>
    require (isIndex text.toList)
    advance 1
    return false
  | _ => failure

def alternatives (g : Grammar) : Reader PatternForm := do
  let leads ← optionalMarks "|"
  let first ← g.pattern
  let more ← asLongAs (fun rest => marks "|" rest && !marks "||" rest && !marks "|=" rest) do
    takeMarks "|"
    g.pattern
  return if leads || !more.isEmpty then .plain else first

def rangeEnd (g : Grammar) : Reader Bool := do
  if ← sees (either [nothing, marks "|", marks "=", colon, marks ",", marks ";", word "if"]) then
    return false
  if ← sees literal then takeLiteral
  else if ← sees (either [pathWord, marks "::", marks "<"]) then
    let _ ← qualifiedPath g true
  else
    takeWord "const"
    let _ ← blockWithAttrs g
  return true

/-- The rest of a range from its dots on; the old spelling `...` is taken only after a start. -/
def rangeFrom (g : Grammar) (hasStart : Bool) : Reader PatternForm := do
  let isClosed ← do
    if ← sees (marks "..=") then
      takeMarks "..="
      pure true
    else if ← sees (marks "...") then
      require hasStart
      takeMarks "..."
      pure true
    else
      takeMarks ".."
      pure false
  let hasEnd ← rangeEnd g
  require (hasEnd || !isClosed)
  -- Dots alone stand for the members that are left out.
  return if hasEnd && hasStart || !hasEnd && !hasStart then .plain else .openRange

def fieldPattern (g : Grammar) : Reader Unit := do
  let isBoxed ← optionalWord "box"
  let isReference ← optionalWord "ref"
  let changes ← optionalWord "mut"
  if isBoxed || isReference || changes then
    let _ ← takeName
  else
    let isNamed ← member
    if !isNamed || (← sees (marks ":")) then
      takeMarks ":"
      let _ ← alternatives g

def fieldPatternsFrom (g : Grammar) : (fuel : Nat) → Reader Unit
  | 0 => failure
  | fuel + 1 => do
    if ← sees nothing then return
    let _ ← outerAttrs g
    if ← optionalMarks ".." then return
    fieldPattern g
    if ← sees nothing then return
    takeMarks ","
    fieldPatternsFrom g fuel

def pathPattern (g : Grammar) : Reader PatternForm := do
  let path ← qualifiedPath g true
  if path.isPlain && (← sees fun rest => marks "!" rest && !marks "!=" rest) then
    takeMarks "!"
    let _ ← takeGroup
    return .plain
  if ← sees (group .curly) then
    inside .curly do fieldPatternsFrom g ((← get).rest.length + 1)
    return .plain
  else if ← sees (group .round) then
    let _ ← inside .round (listToEnd (alternatives g))
    return .plain
  else if ← sees (marks "..") then rangeFrom g true
  else return .plain

def namePattern (g : Grammar) : Reader Unit := do
  let _ ← optionalWord "ref"
  let _ ← optionalWord "mut"
  unless ← optionalWord "self" do
    let _ ← takeName
  if ← optionalMarks "@" then
    let _ ← g.pattern

def patternRule (g : Grammar) : Reader PatternForm := do
  if ← sees fun rest =>
      (name rest &&
        second (either [marks "::", marks "!", group .curly, group .round, marks ".."]) rest) ||
      (word "self" rest && second (marks "::") rest) ||
      either [marks "::", marks "<", word "Self", word "super", word "crate"] rest then
    pathPattern g
  else if ← optionalWord "_" then return .plain
  else if ← optionalWord "box" then
    let _ ← forgetting g.pattern
    return .verbatim
  else if ← sees (either [marks "-", literal, word "const"]) then
    let _ ← rangeEnd g
    if ← sees (marks "..") then rangeFrom g true else return .plain
  else if ← sees (either [word "ref", word "mut", word "self", name]) then
    namePattern g
    return .plain
  else if ← optionalMarks "&" then
    let _ ← optionalWord "mut"
    let _ ← g.pattern
    return .plain
  else if ← sees (group .round) then
    let _ ← inside .round (listToEnd (alternatives g))
    return .plain
  else if ← sees (group .square) then
    let members ← inside .square (listToEnd (alternatives g))
    require (members.all (· ≠ .openRange))
    return .plain
  else if ← sees (marks "..") then rangeFrom g false
  else failure

end Grammar

end ApiScribe.Source
