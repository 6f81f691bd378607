import ApiScribe.Document.Blocks
import ApiScribe.Document.Encode
import ApiScribe.ExternalTypes
import ApiScribe.Files
import ApiScribe.Source
import ApiScribe.Value.Json
import ApiScribe.Yaml.Write

set_option autoImplicit false

namespace ApiScribe

inductive Format where
  | yaml
  | json
  deriving DecidableEq, Repr

namespace Document

def render (doc : Document) : Format → String
  | .yaml => Yaml.render doc.encode
  | .json => doc.encode.prettyJson

def ofText? (text : String) : Option Document :=
  match Yaml.read outline text with
  | .ok (some tree) => decode? tree
  | _ => none

end Document

inductive RunError where
  | failed (failure : Failure)
  | unreadableFile (path : String)
  | unreadableFolder (path : String)
  | unreadableTable (path : String)
  | noDocument (path : String)
  | badSource (path : String)
  | folderNotMade (path : String)
  | fileNotWritten (path : String)
  | rootNotFolder (path : String)
  | noMainFile (path : String)
  | notMergeFolder (path : String)
  deriving DecidableEq, Repr

def RunError.message : RunError → String
  | .failed failure => failure.message
  | .unreadableFile path => "Failed to read file: " ++ path
  | .unreadableFolder path => "Failed to read directory: " ++ path
  | .unreadableTable path => "Failed to read external types table: " ++ path
  | .noDocument path => "Failed to decode OpenAPI document: " ++ path
  | .badSource path => "Failed to parse Rust syntax in file: " ++ path
  | .folderNotMade path => "Failed to create directory: " ++ path
  | .fileNotWritten path => "Failed to write to file: " ++ path
  | .rootNotFolder path => "Source root is not a directory: " ++ path
  | .noMainFile path => "Main file does not exist: " ++ path
  | .notMergeFolder path => "Merge directory is not a directory: " ++ path

def SourceFile.read (path text : String) : Except RunError SourceFile :=
  match SourceFile.ofText? path text with
  | some source => .ok source
  | none => .error (.badSource path)

namespace Files

def reader (files : Files) : Document.FileReader := fun path =>
  (files.read path).mapError FileError.message

def readSource (files : Files) (path : String) : Except RunError SourceFile :=
  match files.read path with
  | .error _ => .error (.unreadableFile path)
  | .ok text => SourceFile.read path text

def readDocument (files : Files) (path : String) : Except RunError Document :=
  match files.read path with
  | .error _ => .error (.unreadableFile path)
  | .ok text =>
    match Document.ofText? text with
    | none => .error (.noDocument path)
    | some doc => .ok doc

def readTable (files : Files) (path : String) : Except RunError ExternalTypes :=
  if files.isFile path then
    match files.read path with
    | .error _ => .error (.unreadableTable path)
    | .ok text => .ok (ExternalTypes.ofText text)
  else .ok []

def writeText (files : Files) (path text : String) : Except RunError Files := do
  let files ←
    match Path.parent? path with
    | none => pure files
    | some parent =>
      if parent.isEmpty then pure files
      else (files.makeFolder parent).mapError fun _ => RunError.folderNotMade parent
  (files.write path text).mapError fun _ => RunError.fileNotWritten path

def yamlFiles (files : Files) (folder : String) : Except RunError (List String) :=
  match files.list folder with
  | .error _ => .error (.unreadableFolder folder)
  | .ok entries =>
    .ok <| entries.filterMap fun e =>
      let path := Path.join folder e.1
      match e.2 with
      | .file _ => if Path.extension? path == some "yaml" then some path else none
      | .folder _ => none

def mergeFiles (files : Files) (main : Document) : List String → Except RunError Document
  | [] => .ok main
  | path :: rest => do
    let aux ← files.readDocument path
    match main.merge aux ((Path.fileName? path).getD path) with
    | (main, none) => files.mergeFiles main rest
    | (_, some failure) => throw (.failed failure)

def mergeFolder (files : Files) (mainPath folder : String) : Except RunError Document := do
  let main ← files.readDocument mainPath
  let paths ← files.yamlFiles folder
  files.mergeFiles main paths

end Files

end ApiScribe
