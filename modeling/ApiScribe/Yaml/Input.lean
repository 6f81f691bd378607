set_option autoImplicit false

namespace ApiScribe.Yaml

structure Spot where
  char : Char
  index : Nat
  line : Nat
  column : Nat
  deriving Repr

abbrev Input := List Spot

def byteOrderMark : Char := Char.ofNat 0xFEFF

def isBreak (c : Char) : Bool :=
  c == '\n' || c.toNat == 0x2028 || c.toNat == 0x2029

def isSpace (c : Char) : Bool := c == ' ' || c == '\t'

def isAllowed (c : Char) : Bool :=
  let n := c.toNat
  n == 0x09 || n == 0x0A || n == 0x0D || (0x20 ≤ n && n ≤ 0x7E) || n == 0x85 ||
    (0xA0 ≤ n && n ≤ 0xD7FF) || (0xE000 ≤ n && n ≤ 0xFFFD) || 0x10000 ≤ n

def place (index line column : Nat) : List Char → Input
  | [] => []
  | '\r' :: '\n' :: rest => ⟨'\n', index, line, column⟩ :: place (index + 2) (line + 1) 0 rest
  | c :: rest =>
    if c == '\r' || c.toNat == 0x85 then
      ⟨'\n', index, line, column⟩ :: place (index + 1) (line + 1) 0 rest
    else if isBreak c then ⟨c, index, line, column⟩ :: place (index + 1) (line + 1) 0 rest
    else ⟨c, index, line, column⟩ :: place (index + 1) line (column + 1) rest

def inputOf? (text : String) : Option Input :=
  let cs := text.toList
  if cs.all isAllowed then some (place 0 0 0 cs) else none

namespace Input

def peek (input : Input) (n : Nat) : Option Char :=
  match input, n with
  | [], _ => none
  | s :: _, 0 => some s.char
  | _ :: rest, n + 1 => peek rest n

def endsAt (input : Input) (n : Nat) : Bool :=
  match peek input n with
  | none => true
  | some c => isSpace c || isBreak c

/-- Whether the input starts with three times `c` as a line of its own or the start of one. -/
def marksDocument (input : Input) (c : Char) : Bool :=
  match input with
  | ⟨a, _, _, 0⟩ :: ⟨b, _, _, _⟩ :: ⟨d, _, _, _⟩ :: rest =>
    a == c && b == c && d == c && endsAt rest 0
  | _ => false

def atDocumentMark (input : Input) : Bool :=
  marksDocument input '-' || marksDocument input '.'

def restOfLine : Input → List Char × Input
  | [] => ([], [])
  | s :: rest =>
    if isBreak s.char then ([], s :: rest)
    else
      let (line, after) := restOfLine rest
      (s.char :: line, after)

def dropSpaces (input : Input) : Input := input.dropWhile fun s => isSpace s.char

def dropLine? (input : Input) : Option Input :=
  let input := dropSpaces input
  match input with
  | [] => some []
  | s :: _ =>
    if s.char == '#' || isBreak s.char then some (restOfLine input).2.tail else none

end Input

end ApiScribe.Yaml
