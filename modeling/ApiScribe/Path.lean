import ApiScribe.Text.Blank

set_option autoImplicit false

namespace ApiScribe.Path

open Text

inductive Component where
  | root
  | here
  | up
  | name (s : String)
  deriving DecidableEq, Repr

namespace Component

def rank : Component → Nat
  | .root => 0
  | .here => 1
  | .up => 2
  | .name _ => 3

def le (a b : Component) : Bool :=
  match a, b with
  | .name s, .name t => !(t < s)
  | a, b => a.rank ≤ b.rank

def text : Component → String
  | .root => "/"
  | .here => "."
  | .up => ".."
  | .name s => s

end Component

def component? (segment : String) : Option Component :=
  if segment.isEmpty || segment == "." then none
  else if segment == ".." then some .up
  else some (.name segment)

def segments (path : String) : List String := splitOnChar '/' path

def isAbsolute (path : String) : Bool := path.toList.head? == some '/'

def components (path : String) : List Component :=
  match segments path with
  | [] => []
  | first :: rest =>
    let tail := rest.filterMap component?
    if isAbsolute path then .root :: tail
    else if first == "." then .here :: tail
    else (component? first).toList ++ tail

def leComponents : List Component → List Component → Bool
  | [], _ => true
  | _ :: _, [] => false
  | a :: as, b :: bs => if a = b then leComponents as bs else a.le b

def le (a b : String) : Bool := leComponents (components a) (components b)

def same (a b : String) : Bool := components a == components b

def fileName? (path : String) : Option String :=
  match (components path).getLast? with
  | some (.name s) => some s
  | _ => none

/-- What follows the last dot of a file name; a dot at its start does not count. -/
def extension? (path : String) : Option String :=
  (fileName? path).bind fun name =>
    let reversed := name.toList.reverse
    match reversed.dropWhile (· != '.') with
    | [] => none
    | [_] => none
    | _ => some (String.ofList (reversed.takeWhile (· != '.')).reverse)

def dropIdle : List String → List String
  | [] => []
  | [first] => [first]
  | segment :: rest => if segment.isEmpty || segment == "." then dropIdle rest else segment :: rest

def parent? (path : String) : Option String :=
  match dropIdle (segments path).reverse with
  | [] => none
  | [segment] => if segment.isEmpty then none else some ""
  | _ :: rest =>
    let rest := (dropIdle rest).reverse
    some (if rest == [""] then "/" else joinWith "/" rest)

/-- The path and the folders it is in, innermost first, up to the working folder or the root, which
are left out. At most `fuel` of them are listed. -/
def ancestorsFrom : (fuel : Nat) → String → List String
  | 0, _ => []
  | fuel + 1, path =>
    match parent? path with
    | none => []
    | some outer => if path.isEmpty then [] else path :: ancestorsFrom fuel outer

def ancestors (path : String) : List String :=
  ancestorsFrom (segments path).length path

def join (base rest : String) : String :=
  if isAbsolute rest then rest
  else if base.isEmpty || base.toList.getLast? == some '/' then base ++ rest
  else base ++ "/" ++ rest

end ApiScribe.Path
