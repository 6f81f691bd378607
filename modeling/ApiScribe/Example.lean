import ApiScribe.Number.Digits
import ApiScribe.Shape
import ApiScribe.Tag
import ApiScribe.Value

set_option autoImplicit false

namespace ApiScribe

open Number Text

def firstMatch? {α : Type} (needle : List Char) (accept : List Char → Option α) :
    List Char → Option α
  | [] => none
  | c :: rest =>
    match (dropStart? needle (c :: rest)).bind accept with
    | some found => some found
    | none => firstMatch? needle accept rest

def restOfLine? (cs : List Char) : Option (List Char) :=
  let line := cs.takeWhile (· != '\n')
  if line.isEmpty then none else some line

def findExample (doc : String) : Option String :=
  (firstMatch? "@openapi:example ".toList restOfLine? doc.toList).map fun line =>
    String.ofList (trim line)

def signedNames : List String := ["i8", "i16", "i32", "i64", "i128", "isize"]
def unsignedNames : List String := ["u8", "u16", "u32", "u64", "u128", "usize"]
def floatNames : List String := ["f32", "f64"]

/-- The value of an example text for a shape: a number where the innermost type is one, else the text
itself. -/
def convertExample (raw : String) (shape : Shape) : Except TagError Value :=
  let invalid (reason : String) : Except TagError Value := .error (.invalidExample raw reason)
  match shape.innermost with
  | .named name =>
    if signedNames.contains name then
      match readInteger (.signed 64) 10 raw.toList with
      | .ok n => .ok (.int n)
      | .error fault => invalid ("could not parse int: " ++ fault.message)
    else if unsignedNames.contains name then
      match readInteger (.unsigned 64) 10 raw.toList with
      | .ok n => .ok (.int n)
      | .error fault => invalid ("could not parse uint: " ++ fault.message)
    else if floatNames.contains name then
      match Binary64.read raw.toList with
      | .ok (.finite x) => .ok (.float x)
      | .ok .notFinite => invalid "not a finite number"
      | .error fault => invalid ("could not parse float: " ++ fault.message)
    else .ok (.text raw)
  | _ => .ok (.text raw)

end ApiScribe
