import ApiScribe.Number.Shortest
import ApiScribe.Text.Blank
import ApiScribe.Value

set_option autoImplicit false

namespace ApiScribe.Value

open Number

def hexDigit (n : Nat) : Char :=
  (Nat.toDigits 16 n).headD '0'

def hexQuad (n : Nat) : List Char :=
  [hexDigit (n / 4096 % 16), hexDigit (n / 256 % 16), hexDigit (n / 16 % 16), hexDigit (n % 16)]

def escapeChar (c : Char) : List Char :=
  match c with
  | '"' => ['\\', '"']
  | '\\' => ['\\', '\\']
  | '\n' => ['\\', 'n']
  | '\r' => ['\\', 'r']
  | '\t' => ['\\', 't']
  | c =>
    if c.toNat == 8 then ['\\', 'b']
    else if c.toNat == 12 then ['\\', 'f']
    else if c.toNat < 32 then '\\' :: 'u' :: hexQuad c.toNat
    else [c]

def quote (s : String) : String :=
  String.ofList ('"' :: (s.toList.flatMap escapeChar ++ ['"']))

def intText (n : Int) : String :=
  let digits := String.ofList (Nat.toDigits 10 n.natAbs)
  if n < 0 then "-" ++ digits else digits

/-- How the members of a list or an object are set: the text before the first, between two and after
the last of them, at a given depth, and the text after a name. -/
structure Layout where
  first : Nat → String
  between : Nat → String
  last : Nat → String
  colon : String

def lineBreak (depth : Nat) : String :=
  String.ofList ('\n' :: List.replicate (2 * depth) ' ')

def Layout.pretty : Layout :=
  ⟨fun d => lineBreak (d + 1), fun d => "," ++ lineBreak (d + 1), fun d => lineBreak d, ": "⟩

mutual

def json (layout : Layout) (depth : Nat) : Value → String
  | .null => "null"
  | .bool b => if b then "true" else "false"
  | .int n => intText n
  | .float x => x.render .json
  | .text s => quote s
  | .list [] => "[]"
  | .list (x :: xs) =>
    "[" ++ layout.first depth ++ json layout (depth + 1) x ++ jsonItems layout depth xs ++
      layout.last depth ++ "]"
  | .object [] => "\x7b\x7d"
  | .object ((k, x) :: xs) =>
    "\x7b" ++ layout.first depth ++ quote k ++ layout.colon ++ json layout (depth + 1) x ++
      jsonMembers layout depth xs ++ layout.last depth ++ "\x7d"

def jsonItems (layout : Layout) (depth : Nat) : List Value → String
  | [] => ""
  | x :: xs => layout.between depth ++ json layout (depth + 1) x ++ jsonItems layout depth xs

def jsonMembers (layout : Layout) (depth : Nat) : List (String × Value) → String
  | [] => ""
  | (k, x) :: xs =>
    layout.between depth ++ quote k ++ layout.colon ++ json layout (depth + 1) x ++
      jsonMembers layout depth xs

end

def prettyJson (v : Value) : String := v.json .pretty 0

end ApiScribe.Value
