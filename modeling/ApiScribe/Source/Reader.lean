import ApiScribe.Source.Item

set_option autoImplicit false

namespace ApiScribe.Source

structure Cursor where
  rest : List Lexeme
  found : List Item

abbrev Reader := StateT Cursor Option

namespace Look

def reserved : List String :=
  ["_", "abstract", "as", "async", "await", "become", "box", "break", "const", "continue", "crate",
    "do", "dyn", "else", "enum", "extern", "false", "final", "fn", "for", "if", "impl", "in", "let",
    "loop", "macro", "match", "mod", "move", "mut", "override", "priv", "pub", "ref", "return",
    "Self", "self", "static", "struct", "super", "trait", "true", "try", "type", "typeof", "unsafe",
    "unsized", "use", "virtual", "where", "while", "yield"]

def word (text : String) : List Lexeme → Bool
  | .word found :: _ => found = text
  | _ => false

def anyWord : List Lexeme → Bool
  | .word _ :: _ => true
  | _ => false

def name : List Lexeme → Bool
  | .word text :: _ => !reserved.contains text
  | _ => false

def marksOf : List Char → List Lexeme → Bool
  | [c], .mark found _ :: _ => found = c
  | c :: more, .mark found joined :: rest => found = c && joined && marksOf more rest
  | _, _ => false

def marks (text : String) (rest : List Lexeme) : Bool :=
  marksOf text.toList rest

def group (bracket : Bracket) : List Lexeme → Bool
  | .group found _ :: _ => found = bracket
  | _ => false

def lifetime : List Lexeme → Bool
  | .mark '\'' _ :: .word _ :: _ => true
  | _ => false

def literal : List Lexeme → Bool
  | .literal _ _ :: _ => true
  | .word text :: _ => text = "true" || text = "false"
  | .mark '-' _ :: .literal _ kind :: _ => kind = .integer || kind = .real
  | _ => false

def textLiteral : List Lexeme → Bool
  | .literal _ (.text _) :: _ => true
  | _ => false

def nothing : List Lexeme → Bool
  | [] => true
  | _ => false

/-- The lexemes after the first; a lifetime counts as one. -/
def skip : List Lexeme → List Lexeme
  | .mark '\'' _ :: .word _ :: rest => rest
  | _ :: rest => rest
  | [] => []

def second (look : List Lexeme → Bool) (rest : List Lexeme) : Bool :=
  look (skip rest)

def third (look : List Lexeme → Bool) (rest : List Lexeme) : Bool :=
  look (skip (skip rest))

def either (looks : List (List Lexeme → Bool)) (rest : List Lexeme) : Bool :=
  looks.any (· rest)

def colon (rest : List Lexeme) : Bool :=
  marks ":" rest && !marks "::" rest

def dot (rest : List Lexeme) : Bool :=
  marks "." rest && !marks ".." rest

def pathWord : List Lexeme → Bool :=
  either [name, word "self", word "Self", word "super", word "crate"]

end Look

namespace Reader

open Look

variable {α : Type}

def sees (look : List Lexeme → Bool) : Reader Bool := do
  return look (← get).rest

def require (condition : Bool) : Reader Unit :=
  if condition then pure () else failure

def advance (count : Nat) : Reader Unit :=
  modify fun cursor => { cursor with rest := cursor.rest.drop count }

def takeWord (text : String) : Reader Unit := do
  require (← sees (word text))
  advance 1

def takeAnyWord : Reader String := do
  match (← get).rest with
  | .word text :: _ => advance 1; return text
  | _ => failure

def takeName : Reader String := do
  require (← sees name)
  takeAnyWord

def takeMarks (text : String) : Reader Unit := do
  require (← sees (marks text))
  advance text.length

def takeLifetime : Reader Unit := do
  require (← sees lifetime)
  advance 2

def takeLiteral : Reader Unit := do
  require (← sees literal)
  if ← sees (marks "-") then advance 2 else advance 1

def optionalWord (text : String) : Reader Bool := do
  if ← sees (word text) then
    advance 1
    return true
  else return false

def optionalMarks (text : String) : Reader Bool := do
  if ← sees (marks text) then
    advance text.length
    return true
  else return false

def optionalLifetime : Reader Bool := do
  if ← sees lifetime then
    advance 2
    return true
  else return false

def takeGroup : Reader (Bracket × List Lexeme) := do
  match (← get).rest with
  | .group bracket inner :: _ => advance 1; return (bracket, inner)
  | _ => failure

def note (items : List Item) : Reader Unit :=
  modify fun cursor => { cursor with found := cursor.found ++ items }

def capture (reader : Reader α) : Reader (α × List Item) := fun cursor => do
  let (value, after) ← reader { cursor with found := [] }
  return ((value, after.found), { after with found := cursor.found })

def forgetting (reader : Reader α) : Reader α := do
  return (← capture reader).1

def attempt (reader : Reader α) : Reader (Option α) := fun cursor =>
  match reader cursor with
  | some (value, after) => some (some value, after)
  | none => some (none, cursor)

def ahead (reader : Reader α) : Reader (Option α) := fun cursor =>
  some ((reader cursor).map (·.1), cursor)

def inside (bracket : Bracket) (reader : Reader α) : Reader α := fun cursor =>
  match cursor.rest with
  | .group found inner :: rest =>
    if found = bracket then do
      let (value, after) ← reader { cursor with rest := inner }
      if after.rest.isEmpty then some (value, { after with rest := rest }) else none
    else none
  | _ => none

def listFrom (stop : List Lexeme → Bool) (separator : String) (item : Reader α) :
    (fuel : Nat) → Reader (List α)
  | 0 => failure
  | fuel + 1 => do
    if ← sees stop then return []
    let value ← item
    if ← sees stop then return [value]
    takeMarks separator
    return value :: (← listFrom stop separator item fuel)

def list (stop : List Lexeme → Bool) (item : Reader α) : Reader (List α) := do
  listFrom stop "," item ((← get).rest.length + 1)

def listToEnd (item : Reader α) : Reader (List α) :=
  list nothing item

def sumTo (stop : List Lexeme → Bool) (item : Reader α) : Reader (List α) := do
  listFrom stop "+" item ((← get).rest.length + 1)

def chainFrom (stop : List Lexeme → Bool) (separator : String) (item : Reader α) :
    (fuel : Nat) → Reader (List α)
  | 0 => failure
  | fuel + 1 => do
    if ← sees stop then return []
    let value ← item
    if ← sees (marks separator) then
      takeMarks separator
      return value :: (← chainFrom stop separator item fuel)
    else return [value]

/-- Values as long as a separator follows one; at `stop` there need not be a further value. -/
def chain (stop : List Lexeme → Bool) (separator : String) (item : Reader α) : Reader (List α) := do
  chainFrom stop separator item ((← get).rest.length + 1)

def repeatFrom (step : Reader (Option α)) : (fuel : Nat) → Reader (List α)
  | 0 => failure
  | fuel + 1 => do
    match ← step with
    | none => return []
    | some value => return value :: (← repeatFrom step fuel)

/-- The values of `step` until it gives none. A step that gives one takes a lexeme. -/
def repeating (step : Reader (Option α)) : Reader (List α) := do
  repeatFrom step ((← get).rest.length + 1)

def asLongAs (continues : List Lexeme → Bool) (item : Reader α) : Reader (List α) :=
  repeating do
    if ← sees continues then return some (← item) else return none

def toEnd (item : Reader α) : Reader (List α) :=
  repeating do
    if ← sees nothing then return none else return some (← item)

end Reader

end ApiScribe.Source
