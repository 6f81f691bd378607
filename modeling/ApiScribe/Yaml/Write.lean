import ApiScribe.Number.Shortest
import ApiScribe.Value.Json
import ApiScribe.Yaml.Input
import ApiScribe.Yaml.Scalar

set_option autoImplicit false

namespace ApiScribe.Yaml

open Number

def isPrintable (c : Char) : Bool :=
  let n := c.toNat
  n == 0x0A || (0x20 ≤ n && n ≤ 0x7E) || (0xA0 ≤ n && n ≤ 0xD7FF) ||
    (0xE000 ≤ n && n ≤ 0xFFFD && n != 0xFEFF) || 0x10000 ≤ n

def breaksLine (c : Char) : Bool :=
  isBreak c || c == '\r' || c.toNat == 0x85

def whiteOrEnd : List Char → Bool
  | [] => true
  | c :: _ => isSpace c || breaksLine c || c.toNat == 0

def hasIndicator (white : Bool) : List Char → Bool
  | [] => false
  | c :: rest =>
    (c == ':' && whiteOrEnd rest) || (c == '#' && white) ||
      hasIndicator (isSpace c || breaksLine c || c.toNat == 0) rest

def startsWithIndicator : List Char → Bool
  | [] => false
  | c :: rest =>
    ['#', ',', '[', ']', '{', '}', '&', '*', '!', '|', '>', '\'', '"', '%', '@', '`'].contains c ||
      (['?', ':', '-'].contains c && whiteOrEnd rest)

def startsLikeMark (cs : List Char) : Bool :=
  cs.take 3 == ['-', '-', '-'] || cs.take 3 == ['.', '.', '.']

def hasPair (p q : Char → Bool) : List Char → Bool
  | a :: b :: rest => (p a && q b) || hasPair p q (b :: rest)
  | _ => false

structure Allowed where
  multiline : Bool
  plain : Bool
  singleQuoted : Bool
  block : Bool

def allowed (cs : List Char) : Allowed :=
  if cs.isEmpty then ⟨false, true, true, false⟩
  else
    let multiline := cs.any breaksLine
    let space (c : Char) := c == ' '
    let edge (c : Option Char) := c.any fun c => space c || breaksLine c
    let breakSpace := hasPair breaksLine space cs
    let special := hasPair space breaksLine cs || !cs.all isPrintable
    let indicator :=
      startsLikeMark cs || startsWithIndicator cs || hasIndicator true cs
    { multiline
      plain :=
        !(edge cs.head? || edge cs.getLast? || breakSpace || special || multiline || indicator)
      singleQuoted := !(breakSpace || special)
      block := !(special || cs.getLast? == some ' ') }

/-- Whether a plain text would be read as something else, or looks like a padded number. -/
def isAmbiguous (text : String) : Bool :=
  match readPlain text with
  | .text => isPaddedNumber text.toList
  | _ => true

def styleOf (text : String) (simpleKey : Bool) : Style :=
  let a := allowed text.toList
  if simpleKey && a.multiline then .doubleQuoted
  else if text.toList.contains '\n' then
    if a.block && !simpleKey then .literal else .doubleQuoted
  else if !isAmbiguous text && a.plain then .plain
  else if a.singleQuoted then .singleQuoted
  else .doubleQuoted

structure Sheet where
  out : String := ""
  column : Nat := 0
  white : Bool := true
  indention : Bool := true

namespace Sheet

def put (s : Sheet) (c : Char) : Sheet := { s with out := s.out.push c, column := s.column + 1 }

def putAll (s : Sheet) (cs : List Char) : Sheet := cs.foldl put s

def breakLine (s : Sheet) (c : Char) : Sheet := { s with out := s.out.push c, column := 0 }

/-- Goes to a column, on a new line unless the line is still free up to there. -/
def indentTo (s : Sheet) (indent : Nat) : Sheet :=
  let s :=
    if !s.indention || indent < s.column || (s.column == indent && !s.white) then s.breakLine '\n'
    else s
  { s.putAll (List.replicate (indent - s.column) ' ') with white := true, indention := true }

def indicator (s : Sheet) (text : String) (needsSpace keepsIndention : Bool) : Sheet :=
  let s := if needsSpace && !s.white then s.put ' ' else s
  { s.putAll text.toList with white := false, indention := s.indention && keepsIndention }

def written (s : Sheet) : Sheet := { s with white := false, indention := false }

def plain (s : Sheet) (cs : List Char) : Sheet :=
  let s := if s.white || cs.isEmpty then s else s.put ' '
  (s.putAll cs).written

def singleQuotedChars (indent : Nat) : List Char → Bool → Sheet → Sheet
  | [], broken, s => if broken then s.indentTo indent else s
  | c :: rest, broken, s =>
    if c == ' ' then singleQuotedChars indent rest broken (s.put c)
    else if breaksLine c then
      let s := if !broken && c == '\n' then s.breakLine '\n' else s
      singleQuotedChars indent rest true { s.breakLine c with indention := true }
    else
      let s := if broken then s.indentTo indent else s
      let s := if c == '\'' then s.put c else s
      singleQuotedChars indent rest false { s.put c with indention := false }

def singleQuoted (s : Sheet) (indent : Nat) (cs : List Char) : Sheet :=
  ((singleQuotedChars indent cs false (s.indicator "'" true false)).indicator "'" false false).written

def upperHex (width n : Nat) : List Char :=
  let digits := (Nat.toDigits 16 n).map Char.toUpper
  zeros (width - digits.length) ++ digits

def escapeChar (c : Char) : List Char :=
  if isPrintable c && !breaksLine c && c != '"' && c != '\\' then [c]
  else
    '\\' ::
      match c.toNat with
      | 0x00 => ['0']
      | 0x07 => ['a']
      | 0x08 => ['b']
      | 0x09 => ['t']
      | 0x0A => ['n']
      | 0x0B => ['v']
      | 0x0C => ['f']
      | 0x0D => ['r']
      | 0x1B => ['e']
      | 0x22 => ['"']
      | 0x5C => ['\\']
      | 0x85 => ['N']
      | 0xA0 => ['_']
      | 0x2028 => ['L']
      | 0x2029 => ['P']
      | n =>
        if n ≤ 0xFF then 'x' :: upperHex 2 n
        else if n ≤ 0xFFFF then 'u' :: upperHex 4 n
        else 'U' :: upperHex 8 n

def doubleQuoted (s : Sheet) (cs : List Char) : Sheet :=
  (((s.indicator "\"" true false).putAll (cs.flatMap escapeChar)).indicator "\"" false
    false).written

def chompingHint (cs : List Char) : String :=
  match cs.reverse with
  | [] => "-"
  | last :: rest =>
    if !breaksLine last then "-"
    else
      match rest with
      | [] => "+"
      | c :: _ => if breaksLine c then "+" else ""

def literalChars (indent : Nat) : List Char → Bool → Sheet → Sheet
  | [], _, s => s
  | c :: rest, broken, s =>
    if breaksLine c then literalChars indent rest true { s.breakLine c with indention := true }
    else
      let s := if broken then s.indentTo indent else s
      literalChars indent rest false { s.put c with indention := false }

def literal (s : Sheet) (indent : Nat) (cs : List Char) : Sheet :=
  let indentHint := if cs.head?.any fun c => c == ' ' || breaksLine c then "2" else ""
  let s := s.indicator "|" true false
  let s := s.indicator (indentHint ++ chompingHint cs) false false
  literalChars indent cs true { s.breakLine '\n' with white := true, indention := true }

def text (s : Sheet) (indent : Nat) (simpleKey : Bool) (text : String) : Sheet :=
  let cs := text.toList
  match styleOf text simpleKey with
  | .plain => s.plain cs
  | .singleQuoted => s.singleQuoted indent cs
  | .doubleQuoted => s.doubleQuoted cs
  | .literal => s.literal indent cs
  | .folded => s.literal indent cs

end Sheet

/-- A key stands on one line with its value if it has one line of at most 128 bytes. -/
def isSimpleKey (key : String) : Bool :=
  !key.toList.any breaksLine && key.utf8ByteSize ≤ 128

def inner (indent : Option Nat) : Nat :=
  match indent with
  | none => 0
  | some n => n + 2

def startKey (s : Sheet) (indent : Nat) (key : String) : Sheet :=
  let s := s.indentTo indent
  if isSimpleKey key then (s.text (indent + 2) true key).indicator ":" false false
  else
    let s := (s.indicator "?" true true).text (indent + 2) false key
    (s.indentTo indent).indicator ":" true true

mutual

def writeNode (indent : Option Nat) (inMapping : Bool) : Value → Sheet → Sheet
  | .null, s => s.plain "null".toList
  | .bool b, s => s.plain (if b then "true" else "false").toList
  | .int n, s => s.plain (Value.intText n).toList
  | .float x, s => s.plain (x.render .yaml).toList
  | .text t, s => s.text (max 2 (inner indent)) false t
  | .list [], s => (s.indicator "[" true false).indicator "]" false false
  | .list (x :: xs), s =>
    let column := if inMapping && !s.indention then indent.getD 0 else inner indent
    writeItems column (x :: xs) s
  | .object [], s => (s.indicator "\x7b" true false).indicator "\x7d" false false
  | .object (x :: xs), s => writeMembers (inner indent) (x :: xs) s

def writeItems (column : Nat) : List Value → Sheet → Sheet
  | [], s => s
  | x :: rest, s =>
    let s := (s.indentTo column).indicator "-" true true
    writeItems column rest (writeNode (some column) false x s)

def writeMembers (column : Nat) : List (String × Value) → Sheet → Sheet
  | [], s => s
  | (key, x) :: rest, s =>
    let s := startKey s column key
    writeMembers column rest (writeNode (some column) true x s)

end

def render (v : Value) : String :=
  ((writeNode none false v {}).indentTo 0).out

end ApiScribe.Yaml
