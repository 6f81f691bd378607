set_option autoImplicit false

namespace ApiScribe.Source

inductive Bracket where
  | round
  | square
  | curly
  deriving DecidableEq, Repr

inductive LiteralKind where
  | text (value : String)
  | integer
  | real
  | other
  deriving DecidableEq, Repr

inductive Lexeme where
  /-- An identifier or a keyword; one that is written raw keeps its mark `r#`. -/
  | word (text : String)
  /-- A punctuation character; it is joined if another one follows at once. -/
  | mark (character : Char) (joined : Bool)
  | literal (text : String) (kind : LiteralKind)
  | group (bracket : Bracket) (inner : List Lexeme)

namespace Lexeme

mutual

def count : Lexeme → Nat
  | .group _ inner => countAll inner + 1
  | _ => 1

def countAll : List Lexeme → Nat
  | [] => 0
  | lexeme :: rest => lexeme.count + countAll rest

end

def isJoined : Lexeme → Bool
  | .mark _ joined => joined
  | _ => false

mutual

def render : Lexeme → String
  | .word text => text
  | .mark character _ => String.ofList [character]
  | .literal text _ => text
  | .group .round inner => "(" ++ renderAll inner ++ ")"
  | .group .square inner => "[" ++ renderAll inner ++ "]"
  | .group .curly inner =>
    "\x7b " ++ renderAll inner ++ (if inner.isEmpty then "" else " ") ++ "\x7d"

/-- The texts with one blank between any two, except after a joined mark. -/
def renderAll : List Lexeme → String
  | [] => ""
  | lexeme :: rest =>
    lexeme.render ++ (if rest.isEmpty || lexeme.isJoined then "" else " ") ++ renderAll rest

end

end Lexeme

end ApiScribe.Source
