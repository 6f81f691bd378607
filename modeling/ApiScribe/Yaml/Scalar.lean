import ApiScribe.Number.Binary64
import ApiScribe.Text.Blank

set_option autoImplicit false

namespace ApiScribe.Yaml

open Number Text

-- A tag is a string of octets, since percent escapes may write octets that are no text; an octet of
-- zero ends it.
structure Tag where
  octets : List UInt8
  deriving DecidableEq, Repr

namespace Tag

def ofOctets (octets : List UInt8) : Tag := ⟨octets.takeWhile (· != 0)⟩

def ofText (text : String) : Tag := ofOctets text.toUTF8.data.toList

def append (start rest : Tag) : Tag := ⟨start.octets ++ rest.octets⟩

def isEmpty (tag : Tag) : Bool := tag.octets.isEmpty

def bare : Tag := ofText "!"

def core (name : String) : Tag := ofText ("tag:yaml.org,2002:" ++ name)

def isMarked (tag : Tag) : Bool := tag.octets.head? == some 0x21

def isLocal (tag : Tag) : Bool :=
  tag.isMarked && (ByteArray.mk tag.octets.tail.toArray).validateUTF8

end Tag

inductive Style where
  | plain
  | singleQuoted
  | doubleQuoted
  | literal
  | folded
  deriving DecidableEq, Repr

structure Scalar where
  text : String
  style : Style
  tag : Option Tag
  deriving DecidableEq, Repr

inductive Token where
  | version (major minor : Nat)
  | tagDirective (handle : String) (start : Tag)
  | documentStart
  | documentEnd
  | blockSequenceStart
  | blockMappingStart
  | blockEnd
  | flowSequenceStart
  | flowSequenceEnd
  | flowMappingStart
  | flowMappingEnd
  | blockEntry
  | flowEntry
  | key
  | value
  | alias (name : String)
  | anchor (name : String)
  | tag (handle : String) (suffix : Tag)
  | scalar (text : String) (style : Style)
  deriving DecidableEq, Repr

def isNullWord (text : String) : Bool :=
  ["null", "Null", "NULL", "~"].contains text

def boolWord? (text : String) : Option Bool :=
  if ["true", "True", "TRUE"].contains text then some true
  else if ["false", "False", "FALSE"].contains text then some false
  else none

/-- A run of digits with a leading zero is a text and no number. -/
def isPaddedNumber (cs : List Char) : Bool :=
  let digits :=
    match cs with
    | '-' :: rest => rest
    | '+' :: rest => rest
    | rest => rest
  match digits with
  | '0' :: rest => !rest.isEmpty && rest.all isDecimalDigit
  | _ => false

def startsWithSign (cs : List Char) : Bool :=
  match cs with
  | '+' :: _ => true
  | '-' :: _ => true
  | _ => false

def readUnsigned? (range : IntegerRange) (cs : List Char) : Option Int :=
  let body :=
    match cs with
    | '+' :: rest => rest
    | rest => rest
  let based (base : Nat) (digits : List Char) : Option Int :=
    if startsWithSign digits then none else (readInteger range base digits).toOption
  let decimal : Option Int :=
    if startsWithSign body || isPaddedNumber cs then none
    else (readInteger range 10 body).toOption
  match body with
  | '0' :: 'x' :: rest => based 16 rest
  | '0' :: 'o' :: rest => based 8 rest
  | '0' :: 'b' :: rest => based 2 rest
  | _ => decimal

def readNegative? (range : IntegerRange) (cs : List Char) : Option Int :=
  match cs with
  | '-' :: '0' :: 'x' :: rest => (readInteger range 16 ('-' :: rest)).toOption
  | '-' :: '0' :: 'o' :: rest => (readInteger range 8 ('-' :: rest)).toOption
  | '-' :: '0' :: 'b' :: rest => (readInteger range 2 ('-' :: rest)).toOption
  | _ => if isPaddedNumber cs then none else (readInteger range 10 cs).toOption

inductive IntReading where
  | unsigned (n : Nat)
  | negative (n : Nat)
  | tooWide
  deriving DecidableEq, Repr

def readInt? (cs : List Char) : Option IntReading :=
  match readUnsigned? (.unsigned 64) cs with
  | some n => some (.unsigned n.toNat)
  | none =>
    match readNegative? (.signed 64) cs with
    | some n => some (.negative n.natAbs)
    | none =>
      if (readUnsigned? (.unsigned 128) cs).isSome || (readNegative? (.signed 128) cs).isSome then
        some .tooWide
      else none

/-- Reads a floating-point number; the result is `none` inside if it is not finite. A decimal too
large to be finite is no number. -/
def readFloat? (cs : List Char) : Option (Option Binary64) :=
  let text := String.ofList cs
  let (plus, body) :=
    match cs with
    | '+' :: rest => (true, rest)
    | rest => (false, rest)
  if plus && startsWithSign body then none
  else if [".inf", ".Inf", ".INF"].contains (String.ofList body) then some none
  else if ["-.inf", "-.Inf", "-.INF", ".nan", ".NaN", ".NAN"].contains text then some none
  else
    match Binary64.read body with
    | .ok (.finite x) => some (some x)
    | _ => none

inductive PlainReading where
  | null
  | bool (b : Bool)
  | int (n : IntReading)
  | float (x : Option Binary64)
  | text

def readPlain (text : String) : PlainReading :=
  if text.isEmpty || isNullWord text then .null
  else
    match boolWord? text with
    | some b => .bool b
    | none =>
      match readInt? text.toList with
      | some n => .int n
      | none =>
        if isPaddedNumber text.toList then .text
        else
          match readFloat? text.toList with
          | some x => .float x
          | none => .text

end ApiScribe.Yaml
