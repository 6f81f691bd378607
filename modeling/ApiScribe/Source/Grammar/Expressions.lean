import ApiScribe.Source.Grammar.Patterns
import ApiScribe.Text.Blank

set_option autoImplicit false

namespace ApiScribe.Source

open Reader Look

/-- The binary operators; the first that fits is meant. -/
def binaryOperators : List (String × Precedence) :=
  ["+=", "-=", "*=", "/=", "%=", "^=", "&=", "|=", "<<=", ">>="].map (·, .assign) ++
    [("&&", .and), ("||", .or), ("<<", .shift), (">>", .shift), ("==", .compare), ("<=", .compare),
      ("!=", .compare), (">=", .compare), ("+", .sum), ("-", .sum), ("*", .product), ("/", .product),
      ("%", .product), ("^", .bitXor), ("&", .bitAnd), ("|", .bitOr), ("<", .compare), (">", .compare)]

def binaryOperator? (rest : List Lexeme) : Option (String × Precedence) :=
  binaryOperators.find? fun (text, _) => marks text rest

/-- The least precedence of operators on the right of one: assignments group to the right, all
others to the left. -/
def Precedence.onRight (precedence : Precedence) : Precedence :=
  if precedence = .assign then .assign else precedence + 1

/-- Whether a literal such as `0.1` after a dot names members by position. -/
def isIndexPath (text : String) : Bool :=
  let cs := text.toList
  let path := if cs.getLast? = some '.' then cs.dropLast else cs
  (Text.pieces (· = '.') path).all isIndex

namespace Look

def genericsAfterWord (rest : List Lexeme) : Bool :=
  genericParameters (rest.drop 1)

def bang (rest : List Lexeme) : Bool :=
  marks "!" rest && !marks "!=" rest

def startsExpr (rest : List Lexeme) : Bool :=
  (anyWord rest && !word "as" rest) ||
    either [group .round, group .square, group .curly, literal, bang] rest ||
    (marks "-" rest && !marks "-=" rest && !marks "->" rest) ||
    (marks "*" rest && !marks "*=" rest) ||
    (marks "|" rest && !marks "|=" rest) ||
    (marks "&" rest && !marks "&=" rest) ||
    marks ".." rest ||
    (marks "<" rest && !marks "<=" rest && !marks "<<=" rest) ||
    either [marks "::", lifetime, marks "#"] rest

def endsRange (takesRecord : Bool) (rest : List Lexeme) : Bool :=
  either [nothing, marks ",", marks ";", dot, marks "?", marks "=>", marks "=", marks "+", marks "/",
    marks "%", marks "^", marks ">", marks "<=", marks "!=", marks "-=", marks "*=", marks "&=",
    marks "|=", marks "<<=", word "as"] rest ||
    (!takesRecord && group .curly rest)

def closure (rest : List Lexeme) : Bool :=
  either [marks "|", word "move", word "static"] rest ||
    (word "for" rest && genericsAfterWord rest) ||
    (word "const" rest && !second (group .curly) rest) ||
    (word "async" rest && second (either [marks "|", word "move"]) rest)

end Look

namespace Grammar

def condition (g : Grammar) : Reader Unit := do
  let _ ← g.expr false

def ifFrom (g : Grammar) : (fuel : Nat) → Reader Unit
  | 0 => failure
  | fuel + 1 => do
    takeWord "if"
    condition g
    block g
    if ← optionalWord "else" then
      if ← sees (word "if") then ifFrom g fuel else block g

def ifExpr (g : Grammar) : Reader Unit := do
  ifFrom g ((← get).rest.length + 1)

/-- A head and a body after it. The attributes at the start of the body belong to the whole, so what
stands in them comes before what stands in the head. -/
def headed (g : Grammar) (head contents : Reader Unit) : Reader Unit := do
  let (_, before) ← capture head
  let (_, attached, contents) ← body g contents
  note (attached ++ before ++ contents)

def whileExpr (g : Grammar) : Reader Unit := do
  takeWord "while"
  headed g (condition g) g.statements

def forExpr (g : Grammar) : Reader Unit := do
  takeWord "for"
  let head : Reader Unit := do
    let _ ← alternatives g
    takeWord "in"
    condition g
  headed g head g.statements

def loopExpr (g : Grammar) : Reader Unit := do
  takeWord "loop"
  let _ ← blockWithAttrs g

def arm (g : Grammar) : Reader Unit := do
  let _ ← outerAttrs g
  let _ ← alternatives g
  if ← optionalWord "if" then
    let _ ← g.expr true
  takeMarks "=>"
  let body ← g.boundaryExpr []
  if body ≠ .block && !(← sees nothing) then takeMarks ","
  else
    let _ ← optionalMarks ","

def matchExpr (g : Grammar) : Reader Unit := do
  takeWord "match"
  headed g (condition g) do
    let _ ← toEnd (arm g)

def labelled (g : Grammar) : Reader Unit := do
  takeLifetime
  takeMarks ":"
  if ← sees (word "while") then whileExpr g
  else if ← sees (word "for") then forExpr g
  else if ← sees (word "loop") then loopExpr g
  else
    let _ ← blockWithAttrs g

def closureParameter (g : Grammar) : Reader Unit := do
  let (_, attached) ← capture (outerAttrs g)
  let (form, inside) ← capture g.pattern
  let isTyped ← optionalMarks ":"
  if isTyped || form ≠ .verbatim then note attached
  note inside
  if isTyped then
    let _ ← g.typeExpr true

def closureExpr (g : Grammar) (takesRecord : Bool) : Reader Unit := do
  let _ ← optionalForLifetimes g
  let _ ← optionalWord "const"
  let _ ← optionalWord "static"
  let _ ← optionalWord "async"
  let _ ← optionalWord "move"
  takeMarks "|"
  let _ ← list (marks "|") (closureParameter g)
  takeMarks "|"
  if ← optionalMarks "->" then
    let _ ← g.typeExpr true
    block g
  else
    let _ ← g.expr takesRecord

def fieldValue (g : Grammar) : Reader Unit := do
  let _ ← outerAttrs g
  let isNamed ← member
  if !isNamed || (← sees (marks ":")) then
    takeMarks ":"
    let _ ← g.expr true

def fieldValuesFrom (g : Grammar) : (fuel : Nat) → Reader Unit
  | 0 => failure
  | fuel + 1 => do
    if ← sees nothing then return
    if ← optionalMarks ".." then
      if ← sees nothing then return
      let _ ← g.expr true
    else
      fieldValue g
      if ← sees nothing then return
      takeMarks ","
      fieldValuesFrom g fuel

def pathExpr (g : Grammar) (takesRecord : Bool) : Reader ExprForm := do
  let path ← qualifiedPath g true
  if path.isPlain && (← sees Look.bang) then
    takeMarks "!"
    let (bracket, _) ← takeGroup
    return if bracket = .curly then .curlyMacro else .plain
  if takesRecord && (← sees (group .curly)) then
    inside .curly do fieldValuesFrom g ((← get).rest.length + 1)
  return .plain

def arrayMembers (g : Grammar) : Reader Unit := do
  if ← sees nothing then return
  let _ ← g.expr true
  if ← optionalMarks ";" then
    let _ ← g.expr true
  else unless ← sees nothing do
    takeMarks ","
    let _ ← listToEnd (g.expr true)

def rangeTail (g : Grammar) (takesRecord : Bool) : Reader Unit := do
  require (!(← sees (marks "...")))
  let isClosed ← optionalMarks "..="
  unless isClosed do takeMarks ".."
  unless !isClosed && (← sees (Look.endsRange takesRecord)) do
    let _ ← g.exprAbove takesRecord Precedence.range.onRight

def optionalExpr (g : Grammar) : Reader Unit := do
  if ← sees Look.startsExpr then
    let _ ← g.expr true

def breakExpr (g : Grammar) (takesRecord : Bool) : Reader Unit := do
  takeWord "break"
  if ← optionalLifetime then require (!(← sees (marks ":")))
  if takesRecord || !(← sees (group .curly)) then optionalExpr g

def operand (g : Grammar) (takesRecord : Bool) : Reader ExprForm := do
  if ← sees literal then
    takeLiteral
    return .plain
  else if ← sees fun rest =>
      word "async" rest &&
        (second (group .curly) rest || (second (word "move") rest && third (group .curly) rest)) then
    takeWord "async"
    let _ ← optionalWord "move"
    block g
    return .plain
  else if ← sees fun rest => word "try" rest && second (group .curly) rest then
    takeWord "try"
    block g
    return .block
  else if ← sees Look.closure then
    closureExpr g takesRecord
    return .plain
  else if ← sees Look.builtin then
    builtinCall
    return .verbatim
  else if ← sees fun rest =>
      either [pathWord, marks "::", marks "<"] rest ||
        (word "try" rest && second (either [marks "!", marks "::"]) rest) then
    pathExpr g takesRecord
  else if ← sees (group .round) then
    let _ ← inside .round (listToEnd (g.expr true))
    return .plain
  else if ← sees (word "break") then
    breakExpr g takesRecord
    return .plain
  else if ← optionalWord "continue" then
    let _ ← optionalLifetime
    return .plain
  else if ← sees (either [word "return", word "yield"]) then
    let _ ← takeAnyWord
    optionalExpr g
    return .plain
  else if ← optionalWord "become" then
    let _ ← forgetting (g.expr true)
    return .verbatim
  else if ← sees (group .square) then
    inside .square (arrayMembers g)
    return .plain
  else if ← optionalWord "let" then
    let _ ← alternatives g
    takeMarks "="
    let _ ← g.exprAbove takesRecord .compare
    return .plain
  else if ← sees (word "if") then
    ifExpr g
    return .block
  else if ← sees (word "while") then
    whileExpr g
    return .block
  else if ← sees (word "for") then
    forExpr g
    return .block
  else if ← sees (word "loop") then
    loopExpr g
    return .block
  else if ← sees (word "match") then
    matchExpr g
    return .block
  else if ← sees (either [word "unsafe", word "const"]) then
    let _ ← takeAnyWord
    let _ ← blockWithAttrs g
    return .block
  else if ← sees (group .curly) then
    let _ ← blockWithAttrs g
    return .block
  else if ← sees (marks "..") then
    rangeTail g takesRecord
    return .range
  else if ← optionalWord "_" then return .plain
  else if ← sees lifetime then
    labelled g
    return .block
  else failure

def callValues (g : Grammar) : Reader Unit := do
  let _ ← inside .round (listToEnd (g.expr true))

def memberTail (g : Grammar) : Reader Unit := do
  let isDone : Bool ← do
    match (← get).rest with
    | .literal text .real :: _ =>
      require (isIndexPath text)
      advance 1
      pure (text.toList.getLast? ≠ some '.')
    | _ => pure false
  if isDone then return
  if ← optionalWord "await" then return
  let isNamed ← member
  if isNamed then
    if ← sees (marks "::") then
      let _ ← angleArguments g
      callValues g
    else if ← sees (group .round) then callValues g

def tailsFrom (g : Grammar) : (fuel : Nat) → ExprForm → Reader ExprForm
  | 0, _ => failure
  | fuel + 1, form => do
    if ← sees (group .round) then
      callValues g
      tailsFrom g fuel .plain
    else if form ≠ .range && (← sees dot) then
      takeMarks "."
      memberTail g
      tailsFrom g fuel .plain
    else if ← sees (group .square) then
      let _ ← inside .square (g.expr true)
      tailsFrom g fuel .plain
    else if form ≠ .range && (← sees (marks "?")) then
      takeMarks "?"
      tailsFrom g fuel .plain
    else return form

def tails (g : Grammar) (form : ExprForm) : Reader ExprForm := do
  tailsFrom g ((← get).rest.length + 1) form

def noteUnless (isVerbatim : Bool) (attached : List Item) : Reader Unit :=
  unless isVerbatim do note attached

def unaryFrom (g : Grammar) (takesRecord : Bool) : (fuel : Nat) → Reader ExprForm
  | 0 => failure
  | fuel + 1 => do
    let (attrs, attached) ← capture (outerAttrs g)
    if ← optionalMarks "&" then
      note attached
      let isRaw ← sees fun rest =>
        word "raw" rest && second (either [word "mut", word "const"]) rest
      if isRaw then takeWord "raw"
      let changes ← optionalWord "mut"
      if isRaw && !changes then takeWord "const"
      let _ ← unaryFrom g takesRecord fuel
      return .plain
    else if ← sees (either [marks "*", marks "!", marks "-"]) then
      note attached
      advance 1
      let _ ← unaryFrom g takesRecord fuel
      return .plain
    else
      let (form, inside) ← capture do tails g (← operand g takesRecord)
      require (attrs.isEmpty || form ≠ .range)
      noteUnless (form = .verbatim) attached
      note inside
      return form

def unary (g : Grammar) (takesRecord : Bool) : Reader ExprForm := do
  unaryFrom g takesRecord ((← get).rest.length + 1)

def castEnds : Reader Unit := do
  require (!(← sees (either [dot, marks "?", group .square, group .round])))

/-- Goes on after an operand with the operators that bind as tightly as `least`. A range is no
operand of another operator, and comparisons do not chain. -/
def operatorsFrom (g : Grammar) (takesRecord : Bool) (least : Precedence) :
    (fuel : Nat) → ExprForm → Reader ExprForm
  | 0, _ => failure
  | fuel + 1, left => do
    if left = .range then return left
    match binaryOperator? (← get).rest with
    | some (text, precedence) =>
      if precedence < least then return left
      require (precedence ≠ .compare || left ≠ .comparison)
      takeMarks text
      let _ ← g.exprAbove takesRecord precedence.onRight
      operatorsFrom g takesRecord least fuel (if precedence = .compare then .comparison else .plain)
    | none =>
      if least ≤ .assign && (← sees fun rest => marks "=" rest && !marks "=>" rest) then
        takeMarks "="
        let _ ← g.exprAbove takesRecord .assign
        operatorsFrom g takesRecord least fuel .plain
      else if least ≤ .range && (← sees (marks "..")) then
        rangeTail g takesRecord
        operatorsFrom g takesRecord least fuel .range
      else if least ≤ .cast && (← sees (word "as")) then
        takeWord "as"
        let _ ← g.typeExpr false
        castEnds
        operatorsFrom g takesRecord least fuel .plain
      else return left

def operators (g : Grammar) (takesRecord : Bool) (least : Precedence) (left : ExprForm) :
    Reader ExprForm := do
  operatorsFrom g takesRecord least ((← get).rest.length + 1) left

def exprRule (g : Grammar) (takesRecord : Bool) (least : Precedence) : Reader ExprForm := do
  operators g takesRecord least (← unary g takesRecord)

def Look.startsBlock (rest : List Lexeme) : Bool :=
  either [word "if", word "while", word "loop", word "match", word "unsafe", group .curly, lifetime] rest ||
    (word "for" rest && !Look.genericsAfterWord rest) ||
    (either [word "try", word "const"] rest && second (group .curly) rest)

def boundaryRule (g : Grammar) (attached : List Item) : Reader ExprForm := do
  let (_, more) ← capture (outerAttrs g)
  let (form, inside) ← capture do
    if ← sees Look.startsBlock then operand g true else unary g true
  noteUnless (form = .verbatim) (attached ++ more)
  note inside
  if form ≠ .block then operators g true .any form
  else if ← sees (either [dot, marks "?"]) then
    operators g true .any (← tails g form)
  else return form

end Grammar

end ApiScribe.Source
