import ApiScribe.Diagnostic
import ApiScribe.Example
import ApiScribe.Text.Word

set_option autoImplicit false

namespace ApiScribe

open Text

structure SchemaMarker where
  customName : Option String
  deriving DecidableEq, Repr

/-- What follows a schema marker: a colon and a word are a name. -/
def markerName? : List Char → Option String
  | ':' :: rest =>
    let word := rest.takeWhile isWord
    if word.isEmpty then none else some (String.ofList word)
  | _ => none

def SchemaMarker.find? (doc : String) : Option SchemaMarker :=
  (after? "@openapi:schema".toList doc.toList).map fun rest => ⟨markerName? rest⟩

structure Block where
  kind : BlockKind
  content : String
  deriving DecidableEq, Repr

namespace Block

def isMarkerLine (line : List Char) : Bool :=
  (dropStart? "@openapi:".toList (trim line)).isSome

def opens? (line : List Char) : Option BlockKind :=
  if trim line = "@openapi:path".toList then some .path
  else if trim line = "@openapi:info".toList then some .info
  else none

def expandTabs (cs : List Char) : List Char :=
  cs.flatMap fun c => if c = '\t' then [' ', ' '] else [c]

def ofLines (kind : BlockKind) (lines : List (List Char)) : Block :=
  ⟨kind, String.ofList (expandTabs (List.intercalate ['\n'] lines))⟩

/-- The blocks of a list of lines. A block holds the lines up to the next marker line. -/
def findIn : List (List Char) → List Block
  | [] => []
  | line :: rest =>
    match opens? line with
    | some kind => ofLines kind (rest.takeWhile (!isMarkerLine ·)) :: findIn rest
    | none => findIn rest

def find (doc : String) : List Block :=
  findIn (charLines doc.toList)

end Block

end ApiScribe
