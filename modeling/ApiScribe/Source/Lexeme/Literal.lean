import ApiScribe.Source.Lexeme
import ApiScribe.Text.Identifier

set_option autoImplicit false

namespace ApiScribe.Source

open Text

def identifier? : List Char → Option (List Char × List Char)
  | [] => none
  | c :: rest =>
    if startsIdentifier c then
      some (c :: rest.takeWhile continuesIdentifier, rest.dropWhile continuesIdentifier)
    else none

def afterSuffix (cs : List Char) : List Char :=
  match identifier? cs with
  | some (_, rest) => rest
  | none => cs

def hexDigit? (c : Char) : Option Nat :=
  if '0' ≤ c ∧ c ≤ '9' then some (c.toNat - '0'.toNat)
  else if 'a' ≤ c ∧ c ≤ 'f' then some (c.toNat - 'a'.toNat + 10)
  else if 'A' ≤ c ∧ c ≤ 'F' then some (c.toNat - 'A'.toNat + 10)
  else none

inductive QuoteKind where
  | text
  | bytes
  | terminated
  deriving DecidableEq, Repr

namespace QuoteKind

def admits : QuoteKind → Char → Bool
  | .text, _ => true
  | .bytes, c => c.toNat < 128
  | .terminated, c => c.toNat != 0

def admitsHex : QuoteKind → Nat → Bool
  | .text, code => code < 128
  | .bytes, _ => true
  | .terminated, code => code != 0

def admitsCodePoint : QuoteKind → Nat → Bool
  | .text, _ => true
  | .bytes, _ => false
  | .terminated, code => code != 0

def escape? (kind : QuoteKind) (c : Char) : Option Char :=
  if c = 'n' then some '\n'
  else if c = 'r' then some '\r'
  else if c = 't' then some '\t'
  else if c = '\\' ∨ c = '\'' ∨ c = '"' then some c
  else if c = '0' then (if kind = .terminated then none else some (Char.ofNat 0))
  else none

end QuoteKind

inductive QuotePlace where
  | plain
  | carriage
  | backslash
  | hex
  | hexSecond (high : Nat)
  | codeOpen
  | code (digits value : Nat)
  | fold
  | foldCarriage

/-- The value of a quoted literal and the characters after its closing quote. `value` holds the
characters read so far, the last one first. -/
def quotedBody (kind : QuoteKind) :
    QuotePlace → List Char → List Char → Option (List Char × List Char)
  | _, _, [] => none
  | .plain, value, c :: rest =>
    if c = '"' then some (value.reverse, rest)
    else if c = '\r' then quotedBody kind .carriage value rest
    else if c = '\\' then quotedBody kind .backslash value rest
    else if kind.admits c then quotedBody kind .plain (c :: value) rest
    else none
  | .carriage, value, c :: rest =>
    if c = '\n' then quotedBody kind .plain ('\n' :: value) rest else none
  | .backslash, value, c :: rest =>
    if c = 'x' then quotedBody kind .hex value rest
    else if c = 'u' then
      if kind = .bytes then none else quotedBody kind .codeOpen value rest
    else if c = '\n' then quotedBody kind .fold value rest
    else if c = '\r' then quotedBody kind .foldCarriage value rest
    else
      match kind.escape? c with
      | some character => quotedBody kind .plain (character :: value) rest
      | none => none
  | .hex, value, c :: rest =>
    match hexDigit? c with
    | some high => quotedBody kind (.hexSecond high) value rest
    | none => none
  | .hexSecond high, value, c :: rest =>
    match hexDigit? c with
    | some low =>
      if kind.admitsHex (16 * high + low) then
        quotedBody kind .plain (Char.ofNat (16 * high + low) :: value) rest
      else none
    | none => none
  | .codeOpen, value, c :: rest =>
    if c = '\x7b' then quotedBody kind (.code 0 0) value rest else none
  | .code digits code, value, c :: rest =>
    match hexDigit? c with
    | some digit =>
      if digits < 6 then quotedBody kind (.code (digits + 1) (16 * code + digit)) value rest
      else none
    | none =>
      if c = '_' ∧ 0 < digits then quotedBody kind (.code digits code) value rest
      else if c = '\x7d' ∧ 0 < digits ∧ code.isValidChar ∧ kind.admitsCodePoint code = true then
        quotedBody kind .plain (Char.ofNat code :: value) rest
      else none
  | .fold, value, c :: rest =>
    if c = ' ' ∨ c = '\t' ∨ c = '\n' then quotedBody kind .fold value rest
    else if c = '\r' then quotedBody kind .foldCarriage value rest
    -- The first character that is no blank is an ordinary one.
    else if c = '"' then some (value.reverse, rest)
    else if c = '\\' then quotedBody kind .backslash value rest
    else if kind.admits c then quotedBody kind .plain (c :: value) rest
    else none
  | .foldCarriage, value, c :: rest =>
    if c = '\n' then quotedBody kind .fold value rest else none

/-- The value of a raw literal, which ends at a quote with as many `#` after it as stand before the
first, and the characters after them. -/
def rawBody (kind : QuoteKind) (hashes : Nat) :
    Bool → List Char → List Char → Option (List Char × List Char)
  | _, _, [] => none
  | afterCarriage, value, c :: rest =>
    if afterCarriage then
      if c = '\n' then rawBody kind hashes false (c :: value) rest else none
    else if c = '"' ∧ (List.replicate hashes '#').isPrefixOf rest = true then
      some (value.reverse, rest.drop hashes)
    else if kind.admits c then rawBody kind hashes (c = '\r') (c :: value) rest
    else none

def quotedLiteral? (kind : QuoteKind) (cs : List Char) : Option (List Char × List Char) := do
  let (value, rest) ← quotedBody kind .plain [] cs
  return (value, afterSuffix rest)

def rawLiteral? (kind : QuoteKind) (cs : List Char) : Option (List Char × List Char) :=
  let hashes := (cs.takeWhile (· = '#')).length
  match cs.drop hashes with
  | '"' :: body =>
    if hashes ≤ 255 then do
      let (value, rest) ← rawBody kind hashes false [] body
      return (value, afterSuffix rest)
    else none
  | _ => none

def characterLiteral? (kind : QuoteKind) : List Char → Option (List Char)
  | '\\' :: c :: rest =>
    if c = 'x' then
      match rest with
      | a :: b :: '\'' :: after => do
        let high ← hexDigit? a
        let low ← hexDigit? b
        if kind.admitsHex (16 * high + low) then some (afterSuffix after) else none
      | _ => none
    else if c = 'u' then
      match rest with
      | '\x7b' :: body =>
        let digits := body.takeWhile fun d => (hexDigit? d).isSome || d = '_'
        let code := (digits.filterMap hexDigit?).foldl (fun n d => 16 * n + d) 0
        let length := (digits.filterMap hexDigit?).length
        match body.drop digits.length with
        | '\x7d' :: '\'' :: after =>
          if kind = .text ∧ 0 < length ∧ length ≤ 6 ∧ digits.head? ≠ some '_' ∧ code.isValidChar then
            some (afterSuffix after)
          else none
        | _ => none
      | _ => none
    else
      match kind.escape? c, rest with
      | some _, '\'' :: after => some (afterSuffix after)
      | _, _ => none
  | c :: '\'' :: after => if kind.admits c then some (afterSuffix after) else none
  | _ => none

def afterNumber? (cs : List Char) : Option (List Char) :=
  match afterSuffix cs with
  | [] => some []
  | c :: rest => if continuesIdentifier c then none else some (c :: rest)

def isDecimal (c : Char) : Bool :=
  '0' ≤ c && c ≤ '9'

/-- An exponent from the character after its `e` on: a sign, if any, and digits among underscores. A
second sign spoils it, and so does the want of a digit. -/
def exponent? : (signed digits : Bool) → List Char → Option (List Char)
  | _, digits, [] => if digits then some [] else none
  | signed, digits, c :: rest =>
    if c = '+' ∨ c = '-' then
      if digits then some (c :: rest) else if signed then none else exponent? true digits rest
    else if isDecimal c then exponent? signed true rest
    else if c = '_' then exponent? signed digits rest
    else if digits then some (c :: rest)
    else none

/-- What follows the digits of a real number: digits with one dot among them, or an exponent, or
both. A dot before a word or another dot belongs to no number. -/
def realDigits? (hasDot : Bool) : List Char → Option (List Char)
  | [] => if hasDot then some [] else none
  | c :: rest =>
    if isDecimal c ∨ c = '_' then realDigits? hasDot rest
    else if c = '.' ∧ hasDot = false then
      match rest with
      | next :: _ => if next = '.' ∨ startsIdentifier next then none else realDigits? true rest
      | [] => some []
    else if c = 'e' ∨ c = 'E' then
      match exponent? false false rest with
      | some after => some after
      | none => if hasDot then some (c :: rest) else none
    else if hasDot then some (c :: rest)
    else none

def realLiteral? : List Char → Option (List Char)
  | c :: rest => if isDecimal c then realDigits? false rest >>= afterNumber? else none
  | [] => none

/-- What follows the digits of a whole number; `found` tells whether there was one. A decimal digit
that the base lacks spoils the number, a letter ends it. -/
def wholeDigits? (base : Nat) (found : Bool) : List Char → Option (List Char)
  | [] => if found then some [] else none
  | c :: rest =>
    if c = '_' then
      if found = false ∧ base = 10 then none else wholeDigits? base found rest
    else
      match hexDigit? c with
      | some digit =>
        if digit < base then wholeDigits? base true rest
        else if isDecimal c then none
        else if found then some (c :: rest)
        else none
      | none => if found then some (c :: rest) else none

def wholeLiteral? (cs : List Char) : Option (List Char) :=
  (match cs with
    | '0' :: 'x' :: rest => wholeDigits? 16 false rest
    | '0' :: 'o' :: rest => wholeDigits? 8 false rest
    | '0' :: 'b' :: rest => wholeDigits? 2 false rest
    | _ => wholeDigits? 10 false cs) >>= afterNumber?

def literal? (cs : List Char) : Option (LiteralKind × List Char) :=
  let text (found : Option (List Char × List Char)) :=
    found.map fun (value, rest) => (LiteralKind.text (String.ofList value), rest)
  let other (found : Option (List Char × List Char)) :=
    found.map fun (_, rest) => (LiteralKind.other, rest)
  match cs with
  | '"' :: rest => text (quotedLiteral? .text rest)
  | 'r' :: rest => text (rawLiteral? .text rest)
  | 'b' :: '"' :: rest => other (quotedLiteral? .bytes rest)
  | 'b' :: 'r' :: rest => other (rawLiteral? .bytes rest)
  | 'b' :: '\'' :: rest => (characterLiteral? .bytes rest).map ((.other, ·))
  | 'c' :: '"' :: rest => other (quotedLiteral? .terminated rest)
  | 'c' :: 'r' :: rest => other (rawLiteral? .terminated rest)
  | '\'' :: rest => (characterLiteral? .text rest).map ((.other, ·))
  | _ =>
    match realLiteral? cs with
    | some rest => some (.real, rest)
    | none => (wholeLiteral? cs).map ((.integer, ·))

end ApiScribe.Source
