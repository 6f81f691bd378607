import ApiScribe.Files

set_option autoImplicit false

namespace ApiScribe

open Text

structure Unreachable where
  root : String
  error : FileError
  deriving DecidableEq, Repr

def Unreachable.message (fault : Unreachable) : String :=
  "Failed to access path: IO error for operation on " ++ fault.root ++ ": " ++ fault.error.message

structure Discovery where
  sources : List String := []
  faults : List Unreachable := []

namespace Discovery

def isSkipped (name : String) : Bool :=
  name.toList.head? == some '.' || name == "target"

mutual

def walk (path : String) : Files → List String
  | .file _ => [path]
  | .folder entries => walkEntries path entries

def walkEntries (folder : String) : List (String × Files) → List String
  | [] => []
  | (name, node) :: rest =>
    if isSkipped name then walkEntries folder rest
    else walk (Path.join folder name) node ++ walkEntries folder rest

end

def containsRun (run : List String) : List String → Bool
  | [] => run.isEmpty
  | x :: xs => run.isPrefixOf (x :: xs) || containsRun run xs

/-- The components after the last vendor folder of a path; none if there is no vendor folder. -/
def vendored? (path : String) : Option (List String) :=
  let names := (Path.components path).map Path.Component.text
  if names.contains "vendor" then some (names.reverse.takeWhile (· != "vendor")).reverse else none

def isNamedBy (vendored : List String) (name : String) : Bool :=
  let parts := (splitOnChar '/' name).filter (!·.isEmpty)
  !parts.isEmpty && containsRun parts vendored

def accepts (vendors : List String) (path : String) : Bool :=
  Path.extension? path == some "rs" &&
    match vendored? path with
    | none => true
    | some vendored => vendors.any (isNamedBy vendored)

def dropRepeats : List String → List String
  | [] => []
  | path :: rest =>
    match dropRepeats rest with
    | [] => [path]
    | next :: others => if Path.same path next then path :: others else path :: next :: others

def gather (files : Files) (vendors : List String) : List String → Discovery
  | [] => {}
  | root :: rest =>
    let after := gather files vendors rest
    match files.get root with
    | .error error => { after with faults := ⟨root, error⟩ :: after.faults }
    | .ok node =>
      { after with sources := (walk root node).filter (accepts vendors) ++ after.sources }

def find (files : Files) (vendors roots : List String) : Discovery :=
  let gathered := gather files vendors roots
  { gathered with sources := dropRepeats (gathered.sources.mergeSort Path.le) }

end Discovery

end ApiScribe
