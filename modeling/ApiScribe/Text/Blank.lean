set_option autoImplicit false

namespace ApiScribe.Text

def inRanges (ranges : List (Nat × Nat)) (n : Nat) : Bool :=
  ranges.any fun r => r.1 ≤ n && n ≤ r.2

def isBlank (c : Char) : Bool :=
  let n := c.toNat
  (9 ≤ n && n ≤ 13) || n == 0x20 || n == 0x85 || n == 0xA0 || n == 0x1680 ||
    (0x2000 ≤ n && n ≤ 0x200A) || n == 0x2028 || n == 0x2029 || n == 0x202F || n == 0x205F ||
    n == 0x3000

def trimLeft (cs : List Char) : List Char :=
  cs.dropWhile isBlank

def trimRight (cs : List Char) : List Char :=
  (cs.reverse.dropWhile isBlank).reverse

def trim (cs : List Char) : List Char :=
  trimRight (trimLeft cs)

def trimmed (text : String) : String :=
  String.ofList (trim text.toList)

def allBlank (text : String) : Bool :=
  text.toList.all isBlank

/-- The pieces between the characters that `isCut` holds of; one more than there are cuts. -/
def pieces (isCut : Char → Bool) : List Char → List (List Char)
  | [] => [[]]
  | c :: rest =>
    if isCut c then [] :: pieces isCut rest
    else
      match pieces isCut rest with
      | [] => [[c]]
      | piece :: others => (c :: piece) :: others

def splitOnChar (cut : Char) (text : String) : List String :=
  (pieces (· == cut) text.toList).map String.ofList

def words (text : String) : List String :=
  ((pieces isBlank text.toList).filter (!·.isEmpty)).map String.ofList

private def dropReturn (line : List Char) : List Char :=
  match line.reverse with
  | '\r' :: rest => rest.reverse
  | _ => line

/-- The lines of a list of pieces cut at line feeds: an empty last piece is no line, and a carriage
return before a line feed belongs to the line break. -/
def linesOfPieces : List (List Char) → List (List Char)
  | [] => []
  | [last] => if last.isEmpty then [] else [last]
  | line :: rest => dropReturn line :: linesOfPieces rest

def charLines (cs : List Char) : List (List Char) :=
  linesOfPieces (pieces (· == '\n') cs)

def lines (text : String) : List String :=
  (charLines text.toList).map String.ofList

def joinWith (separator : String) : List String → String
  | [] => ""
  | [text] => text
  | text :: rest => text ++ separator ++ joinWith separator rest

def dropStart? : List Char → List Char → Option (List Char)
  | [], cs => some cs
  | _ :: _, [] => none
  | a :: start, c :: cs => if a = c then dropStart? start cs else none

def after? (needle : List Char) : List Char → Option (List Char)
  | [] => dropStart? needle []
  | c :: rest => (dropStart? needle (c :: rest)).or (after? needle rest)

end ApiScribe.Text
