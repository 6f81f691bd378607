import ApiScribe.Source.Grammar.Expressions

set_option autoImplicit false

namespace ApiScribe.Source

open Reader Look

def lastTaken? (before after : List Lexeme) : Option Lexeme :=
  (before.take (before.length - after.length)).getLast?

def Lexeme.isCurly : Lexeme → Bool
  | .group .curly _ => true
  | _ => false

def Look.startsItem (rest : List Lexeme) : Bool :=
  either [word "pub", word "extern", word "use", word "fn", word "mod", word "type", word "struct",
    word "enum", word "trait", word "impl", word "macro"] rest ||
    (word "crate" rest && !second (marks "::") rest) ||
    (word "static" rest &&
      (second (word "mut") rest || second name rest)) ||
    (word "const" rest &&
      !(second (either [group .curly, word "static", word "move", marks "|"]) rest ||
        (second (word "async") rest &&
          !third (either [word "unsafe", word "extern", word "fn"]) rest))) ||
    (word "unsafe" rest && !second (group .curly) rest) ||
    (word "async" rest && second (either [word "unsafe", word "extern", word "fn"]) rest) ||
    (word "union" rest && second name rest) ||
    (word "auto" rest && second (word "trait") rest) ||
    (word "default" rest && second (either [word "unsafe", word "impl"]) rest)

inductive MacroForm where
  | absent
  | item
  /-- With curly brackets that end the statement; `rest` starts at the mark. -/
  | statement (rest : List Lexeme)

def MacroForm.read (cursor : Cursor) : MacroForm :=
  match Grammar.modulePath cursor with
  | some (_, { rest, .. }) =>
    if marks "!" rest then
      if second (either [name, word "try"]) rest then .item
      else if second (group .curly) rest && !third (either [dot, marks "?"]) rest then .statement rest
      else .absent
    else .absent
  | none => .absent

namespace Grammar

/-- A binding. Its value may be followed by `else` and a block, unless it ends with curly brackets
itself. -/
def binding (g : Grammar) : Reader Unit := do
  takeWord "let"
  let _ ← g.pattern
  if ← optionalMarks ":" then
    let _ ← g.typeExpr true
  if ← optionalMarks "=" then
    let before := (← get).rest
    let _ ← g.expr true
    let endsCurly := (lastTaken? before (← get).rest).any Lexeme.isCurly
    if !endsCurly && (← optionalWord "else") then block g
  takeMarks ";"

/-- A statement; gives whether another one may follow only after a semicolon that is not there. -/
def statement (g : Grammar) : Reader Bool := do
  let (attrs, attached) ← capture (outerAttrs g)
  match MacroForm.read (← get) with
  | .item =>
    g.item attrs attached
    return false
  | .statement rest =>
    note attached
    modify fun cursor => { cursor with rest := rest }
    takeMarks "!"
    let _ ← takeGroup
    let _ ← optionalMarks ";"
    return false
  | .absent =>
    if ← sees (word "let") then
      note attached
      binding g
      return false
    else if ← sees Look.startsItem then
      g.item attrs attached
      return false
    else
      let form ← g.boundaryExpr attached
      let isClosed ← optionalMarks ";"
      return !isClosed && form ≠ .block && form ≠ .curlyMacro

def statementsFrom (g : Grammar) : (fuel : Nat) → Reader Unit
  | 0 => failure
  | fuel + 1 => do
    let _ ← asLongAs (marks ";") (takeMarks ";")
    if ← sees nothing then return
    let isOpen ← statement g
    if ← sees nothing then return
    require !isOpen
    statementsFrom g fuel

def statementsRule (g : Grammar) : Reader Unit := do
  statementsFrom g ((← get).rest.length + 1)

end Grammar

end ApiScribe.Source
