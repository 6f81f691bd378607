import ApiScribe.Source.Lexeme.Literal
import ApiScribe.Text.Blank
import ApiScribe.Text.Visible

set_option autoImplicit false

namespace ApiScribe.Source

open Text

def isSpace (c : Char) : Bool :=
  isBlank c || c.toNat == 0x200E || c.toNat == 0x200F

def restOfLine : List Char → List Char × List Char
  | [] => ([], [])
  | '\r' :: '\n' :: rest => ([], '\n' :: rest)
  | c :: rest =>
    if c = '\n' then ([], c :: rest)
    else
      let (line, after) := restOfLine rest
      (c :: line, after)

def blockComment? (depth : Nat) : List Char → Option (List Char × List Char)
  | '/' :: '*' :: rest =>
    (blockComment? (depth + 1) rest).map fun (text, after) => ('/' :: '*' :: text, after)
  | '*' :: '/' :: rest =>
    match depth with
    | 0 => some ([], rest)
    | outer + 1 => (blockComment? outer rest).map fun (text, after) => ('*' :: '/' :: text, after)
  | c :: rest => (blockComment? depth rest).map fun (text, after) => (c :: text, after)
  | [] => none

inductive Comment where
  | absent
  | plain (rest : List Char)
  | doc (isInner : Bool) (text rest : List Char)

/-- Classifies the front of a text: `///` and `/**` document what follows, `//!` and `/*!` what they
stand in, while four slashes, three stars and the empty block say nothing. -/
def Comment.read : List Char → Comment
  | '/' :: '/' :: '/' :: '/' :: rest => .plain (restOfLine rest).2
  | '/' :: '/' :: '/' :: rest => .doc false (restOfLine rest).1 (restOfLine rest).2
  | '/' :: '/' :: '!' :: rest => .doc true (restOfLine rest).1 (restOfLine rest).2
  | '/' :: '/' :: rest => .plain (restOfLine rest).2
  | '/' :: '*' :: '*' :: '/' :: rest => .plain rest
  | '/' :: '*' :: '*' :: '*' :: rest =>
    match blockComment? 0 ('*' :: '*' :: rest) with
    | some (_, after) => .plain after
    | none => .absent
  | '/' :: '*' :: '*' :: rest =>
    match blockComment? 0 rest with
    | some (text, after) => .doc false text after
    | none => .absent
  | '/' :: '*' :: '!' :: rest =>
    match blockComment? 0 rest with
    | some (text, after) => .doc true text after
    | none => .absent
  | '/' :: '*' :: rest =>
    match blockComment? 0 rest with
    | some (_, after) => .plain after
    | none => .absent
  | _ => .absent

def carriagesPaired : List Char → Bool
  | [] => true
  | '\r' :: '\n' :: rest => carriagesPaired rest
  | c :: rest => c != '\r' && carriagesPaired rest

def literalChars : List Char → List Char
  | [] => []
  | c :: rest =>
    let isLong := c.toNat == 0 && rest.head?.any fun next => '0' ≤ next && next ≤ '7'
    (if isLong then ['\\', 'x', '0', '0'] else quotedChar c) ++ literalChars rest

def docAttribute (isInner : Bool) (text : List Char) : List Lexeme :=
  let literal := String.ofList ('"' :: (literalChars text ++ ['"']))
  [.mark '#' false] ++ (if isInner then [.mark '!' false] else []) ++
    [.group .square [.word "doc", .mark '=' false, .literal literal (.text (String.ofList text))]]

def isMark (c : Char) : Bool :=
  "~!@#$%^&*-=+|;:,<.>/?'".toList.contains c

def startsMark : List Char → Bool
  | '/' :: '/' :: _ => false
  | '/' :: '*' :: _ => false
  | c :: _ => isMark c
  | [] => false

/-- A word, raw or plain. The words for the places of a path, and the lone underscore, cannot be
raw. -/
def word? : List Char → Option (List Char × List Char)
  | 'r' :: '#' :: rest => do
    let (name, after) ← identifier? rest
    if ["_", "super", "self", "Self", "crate"].contains (String.ofList name) then none
    else some ('r' :: '#' :: name, after)
  | cs => identifier? cs

/-- Beginnings of literals, which no word has even where the literal does not go on. -/
def literalFronts : List String :=
  ["r\"", "r#\"", "r##", "b\"", "b'", "br\"", "br#", "c\"", "cr\"", "cr#"]

def mark? : List Char → Option (Lexeme × List Char)
  | [] => none
  | '\'' :: rest => do
    let (_, after) ← word? rest
    match after with
    | '\'' :: _ => none
    | '#' :: _ => if ['r', '#'].isPrefixOf rest then some (.mark '\'' true, rest) else none
    | _ => some (.mark '\'' true, rest)
  | c :: rest =>
    if startsMark (c :: rest) then some (.mark c (startsMark rest), rest) else none

/-- The text that stands for a lexeme that could not be made. It is a literal, not a group that
holds a comment. -/
def faultMark : List Char := "(/*ERROR*/)".toList

def leaf? (cs : List Char) : Option (Lexeme × List Char) :=
  match literal? cs with
  | some (kind, rest) =>
    some (.literal (String.ofList (cs.take (cs.length - rest.length))) kind, rest)
  | none =>
    match mark? cs with
    | some found => some found
    | none =>
      if faultMark.isPrefixOf cs then
        some (.literal (String.ofList faultMark) .other, cs.drop faultMark.length)
      else if literalFronts.any (·.toList.isPrefixOf cs) then none
      else (word? cs).map fun (name, rest) => (.word (String.ofList name), rest)

def openBracket? (c : Char) : Option Bracket :=
  if c = '(' then some .round
  else if c = '[' then some .square
  else if c = '\x7b' then some .curly
  else none

def closeBracket? (c : Char) : Option Bracket :=
  if c = ')' then some .round
  else if c = ']' then some .square
  else if c = '\x7d' then some .curly
  else none

structure Scan where
  outer : List (Bracket × List Lexeme)
  inner : List Lexeme

namespace Scan

def push (scan : Scan) (lexeme : Lexeme) : Scan :=
  { scan with inner := lexeme :: scan.inner }

def enter (scan : Scan) (bracket : Bracket) : Scan :=
  ⟨(bracket, scan.inner) :: scan.outer, []⟩

def leave? (scan : Scan) (bracket : Bracket) : Option Scan :=
  match scan.outer with
  | [] => none
  | (opened, before) :: outer =>
    if opened = bracket then some ⟨outer, .group bracket scan.inner.reverse :: before⟩ else none

def finish? (scan : Scan) : Option (List Lexeme) :=
  match scan.outer with
  | [] => some scan.inner.reverse
  | _ :: _ => none

end Scan

def scanFrom : (fuel : Nat) → Scan → List Char → Option (List Lexeme)
  | 0, _, _ => none
  | _ + 1, scan, [] => scan.finish?
  | fuel + 1, scan, c :: rest =>
    if isSpace c then scanFrom fuel scan rest
    else
      match Comment.read (c :: rest) with
      | .plain after => scanFrom fuel scan after
      | .doc isInner text after =>
        if carriagesPaired text then
          scanFrom fuel
            { scan with inner := (docAttribute isInner text).reverse ++ scan.inner } after
        else none
      | .absent =>
        match if faultMark.isPrefixOf (c :: rest) then none else openBracket? c, closeBracket? c with
        | some bracket, _ => scanFrom fuel (scan.enter bracket) rest
        | none, some bracket =>
          match scan.leave? bracket with
          | some closed => scanFrom fuel closed rest
          | none => none
        | none, none =>
          match leaf? (c :: rest) with
          | some (lexeme, after) => scanFrom fuel (scan.push lexeme) after
          | none => none

def withoutByteOrderMark : List Char → List Char
  | c :: rest => if c.toNat = 0xFEFF then rest else c :: rest
  | [] => []

def Lexeme.scan? (text : List Char) : Option (List Lexeme) :=
  scanFrom (text.length + 1) ⟨[], []⟩ (withoutByteOrderMark text)

def skipPlain : (fuel : Nat) → List Char → List Char
  | fuel + 1, c :: rest =>
    if isSpace c then skipPlain fuel rest
    else
      match Comment.read (c :: rest) with
      | .plain after => skipPlain fuel after
      | _ => c :: rest
  | _, cs => cs

/-- A file's text without the mark of byte order and without the line that names its interpreter:
a first line after `#!`, unless an inner attribute starts there. -/
def fileText (text : List Char) : List Char :=
  match withoutByteOrderMark text with
  | '#' :: '!' :: rest =>
    match skipPlain rest.length rest with
    | '[' :: _ => '#' :: '!' :: rest
    | _ => rest.dropWhile (· ≠ '\n')
  | plain => plain

end ApiScribe.Source
