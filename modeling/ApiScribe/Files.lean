import ApiScribe.Dict
import ApiScribe.Path

set_option autoImplicit false

namespace ApiScribe

inductive Files where
  | file (text : Option String)
  | folder (entries : List (String × Files))

inductive FileError where
  | notFound
  | notADirectory
  | isADirectory
  | alreadyExists
  | nameTooLong
  | nulInPath
  | notText
  deriving DecidableEq, Repr

def FileError.message : FileError → String
  | .notFound => "No such file or directory (os error 2)"
  | .notADirectory => "Not a directory (os error 20)"
  | .isADirectory => "Is a directory (os error 21)"
  | .alreadyExists => "File exists (os error 17)"
  | .nameTooLong => "File name too long (os error 36)"
  | .nulInPath => "file name contained an unexpected NUL byte"
  | .notText => "stream did not contain valid UTF-8"

namespace Files

def empty : Files := .folder []

def longestName : Nat := 255
def longestPath : Nat := 4095

/-- Follows segments from a folder; `above` holds the folders it is in, innermost first. -/
def follow (here : Files) (above : List Files) : List String → Except FileError Files
  | [] => .ok here
  | segment :: rest =>
    match here with
    | .file _ => .error .notADirectory
    | .folder entries =>
      if segment.isEmpty || segment == "." then follow here above rest
      else if segment == ".." then
        match above with
        | [] => follow empty [] rest
        | outer :: others => follow outer others rest
      else if longestName < segment.utf8ByteSize then .error .nameTooLong
      else
        match Dict.get? entries segment with
        | none => .error .notFound
        | some next => follow next (here :: above) rest

def get (files : Files) (path : String) : Except FileError Files :=
  if path.toList.any (·.toNat == 0) then .error .nulInPath
  else if path.isEmpty then .error .notFound
  else if longestPath < path.utf8ByteSize then .error .nameTooLong
  else if Path.isAbsolute path then follow empty [] (Path.segments path)
  else follow files [] (Path.segments path)

def isFile (files : Files) (path : String) : Bool :=
  match files.get path with
  | .ok (.file _) => true
  | _ => false

def isFolder (files : Files) (path : String) : Bool :=
  match files.get path with
  | .ok (.folder _) => true
  | _ => false

def read (files : Files) (path : String) : Except FileError String :=
  match files.get path with
  | .error e => .error e
  | .ok (.folder _) => .error .isADirectory
  | .ok (.file none) => .error .notText
  | .ok (.file (some text)) => .ok text

def list (files : Files) (path : String) : Except FileError (List (String × Files)) :=
  match files.get path with
  | .error e => .error e
  | .ok (.file _) => .error .notADirectory
  | .ok (.folder entries) => .ok entries

/-- The segments of a path from the working folder, with dots and steps upward worked off; none if
the path leaves the folder. -/
def inside? (path : String) : Option (List String) :=
  if Path.isAbsolute path then none
  else
    (Path.segments path).foldl (fun done segment =>
      done.bind fun names =>
        if segment.isEmpty || segment == "." then some names
        else if segment == ".." then if names.isEmpty then none else some names.dropLast
        else some (names ++ [segment])) (some [])

def insertAt (files : Files) (names : List String) (node : Files) : Files :=
  match names, files with
  | [], _ => node
  | name :: rest, .folder entries =>
    .folder
      (Dict.insert name (insertAt ((Dict.get? entries name).getD empty) rest node) entries)
  | name :: rest, .file _ => .folder [(name, insertAt empty rest node)]
termination_by structural names

def create (files : Files) (path : String) (node : Files) : Except FileError Files :=
  let segments := Path.segments path
  match segments.getLast?.bind Path.component?, inside? path with
  | some (.name _), none => .ok files
  | some (.name _), some names =>
    match follow files [] segments.dropLast with
    | .ok (.folder _) => .ok (files.insertAt names node)
    | .ok (.file _) => .error .notADirectory
    | .error e => .error e
  | _, _ => .error .notFound

def addFolder (files : Files) (path : String) : Except FileError Files :=
  match files.get path with
  | .ok _ => .error .alreadyExists
  | .error .notFound => files.create path empty
  | .error e => .error e

def ensureFolder (files : Files) (path : String) : Except FileError Files :=
  match files.addFolder path with
  | .error .alreadyExists => if files.isFolder path then .ok files else .error .alreadyExists
  | result => result

/-- Makes the first folder; the others are the folders it is in, innermost first, and are made where
it cannot be made without them. A path may lead through folders that its own making brings about. -/
def ensureFolders (files : Files) : List String → Except FileError Files
  | [] => .ok files
  | path :: outer =>
    match files.ensureFolder path with
    | .error .notFound => do
      let files ← files.ensureFolders outer
      files.ensureFolder path
    | result => result

def makeFolder (files : Files) (path : String) : Except FileError Files :=
  files.ensureFolders (Path.ancestors path)

def write (files : Files) (path text : String) : Except FileError Files :=
  match files.get path with
  | .ok (.folder _) => .error .isADirectory
  | .ok (.file _) => .ok ((inside? path).elim files (files.insertAt · (.file (some text))))
  | .error .notFound =>
    if path.toList.getLast? == some '/' then .error .isADirectory
    else files.create path (.file (some text))
  | .error e => .error e

mutual

def texts (path : String) : Files → List (String × String)
  | .file (some text) => [(path, text)]
  | .file none => []
  | .folder entries => entryTexts path entries

def entryTexts (folder : String) : List (String × Files) → List (String × String)
  | [] => []
  | (name, node) :: rest => texts (Path.join folder name) node ++ entryTexts folder rest

end

mutual

def folders (path : String) : Files → List String
  | .file _ => []
  | .folder entries => path :: entryFolders path entries

def entryFolders (folder : String) : List (String × Files) → List String
  | [] => []
  | (name, node) :: rest => folders (Path.join folder name) node ++ entryFolders folder rest

end

def newFolders (before after : Files) : List String :=
  (folders "" after).filter fun path => !path.isEmpty && !before.isFolder path

def changes (before after : Files) : List (String × String) :=
  (texts "" after).filter fun e =>
    match before.read e.1 with
    | .ok text => text != e.2
    | .error _ => true

end Files

end ApiScribe
