import ApiScribe.Text.Blank

set_option autoImplicit false

namespace ApiScribe

open Text

inductive TagError where
  | unterminatedQuote (text : String)
  | malformedToken (token : String)
  | unknownKey (attr key : String)
  | missingValue (key : String)
  | conflictingRoles
  | invalidStringCoercion
  | invalidExample (value reason : String)
  deriving DecidableEq, Repr

def TagError.message : TagError → String
  | .unterminatedQuote text => "unterminated quoted value in tag `" ++ text ++ "`"
  | .malformedToken token => "malformed tag token `" ++ token ++ "`"
  | .unknownKey attr key => "unknown " ++ attr ++ " key `" ++ key ++ "`"
  | .missingValue key => "`" ++ key ++ "` needs a value"
  | .conflictingRoles => "field carries more than one JSON:API role"
  | .invalidStringCoercion =>
    "string coercion is only allowed on string, integer, number or boolean fields"
  | .invalidExample value reason => "could not parse example `" ++ value ++ "`: " ++ reason

structure Token where
  key : String
  value : Option String
  /-- The token is a group; its value is the text between the parentheses. -/
  nested : Bool
  deriving DecidableEq, Repr

namespace Token

inductive Place where
  | outside (depth : Nat)
  | quoted (depth : Nat)
  | escaped (depth : Nat)
  deriving DecidableEq, Repr

/-- The place after one more character. A closing parenthesis too many is without effect. -/
def Place.next : Place → Char → Place
  | .outside depth, c =>
    if c = '"' then .quoted depth
    else if c = '(' then .outside (depth + 1)
    else if c = ')' then .outside (depth - 1)
    else .outside depth
  | .quoted depth, c =>
    if c = '\\' then .escaped depth else if c = '"' then .outside depth else .quoted depth
  | .escaped depth, _ => .quoted depth

def Place.separates : Place → Bool
  | .outside 0 => true
  | _ => false

def consFirst (c : Char) : List (List Char) → List (List Char)
  | [] => [[c]]
  | piece :: rest => (c :: piece) :: rest

def cut (place : Place) : List Char → Option (List (List Char))
  | [] =>
    match place with
    | .outside _ => some [[]]
    | _ => none
  | c :: rest =>
    if c = ',' ∧ place.separates = true then (cut place rest).map ([] :: ·)
    else (cut (place.next c) rest).map (consFirst c)

def isKeyChar (c : Char) : Bool :=
  c.isAlphanum || c == '_' || c == '-'

def isKey (cs : List Char) : Bool :=
  !cs.isEmpty && cs.all isKeyChar

def unescape? : List Char → Option (List Char)
  | [] => some []
  | '\\' :: [] => none
  | '\\' :: 'n' :: rest => (unescape? rest).map ('\n' :: ·)
  | '\\' :: 't' :: rest => (unescape? rest).map ('\t' :: ·)
  | '\\' :: c :: rest => (unescape? rest).map (c :: ·)
  | c :: rest => (unescape? rest).map (c :: ·)

/-- A value is taken as it is unless it starts with a quote; then it must end with another one. -/
def readValue? : List Char → Option (List Char)
  | '"' :: rest =>
    match rest.reverse with
    | '"' :: inner => unescape? inner.reverse
    | _ => none
  | value => some value

/-- Reads a trimmed token; `none` if it is malformed. What comes first, `=` or `(`, decides between
a value and a group. -/
def read? (raw : List Char) : Option Token :=
  let key := trim (raw.takeWhile fun c => c != '=' && c != '(')
  let keyed (value : Option (List Char)) (nested : Bool) : Option Token :=
    if isKey key then some ⟨String.ofList key, value.map String.ofList, nested⟩ else none
  match raw.dropWhile fun c => c != '=' && c != '(' with
  | '(' :: rest =>
    match rest.reverse with
    | ')' :: inner => keyed (some (trim inner.reverse)) true
    | _ => none
  | _ :: rest =>
    match readValue? (trim rest) with
    | some value => keyed (some value) false
    | none => none
  | [] => keyed none false

def readAll : List (List Char) → Except TagError (List Token)
  | [] => .ok []
  | raw :: rest =>
    match read? raw with
    | none => .error (.malformedToken (String.ofList raw))
    | some token => (readAll rest).map (token :: ·)

def tokenize (text : String) : Except TagError (List Token) :=
  match cut (.outside 0) text.toList with
  | none => .error (.unterminatedQuote text)
  | some texts => readAll ((texts.map trim).filter (!·.isEmpty))

def escape : List Char → List Char
  | [] => []
  | c :: rest => if c = '\\' ∨ c = '"' then '\\' :: c :: escape rest else c :: escape rest

def render (token : Token) : String :=
  match token.value with
  | none => token.key
  | some value =>
    if token.nested then token.key ++ "(" ++ value ++ ")"
    else token.key ++ " = \"" ++ String.ofList (escape value.toList) ++ "\""

def renderAll (tokens : List Token) : String :=
  joinWith ", " (tokens.map render)

end Token

end ApiScribe
