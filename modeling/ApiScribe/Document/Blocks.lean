import ApiScribe.Block
import ApiScribe.Document.Decode
import ApiScribe.Path
import ApiScribe.Yaml.Read

set_option autoImplicit false

namespace ApiScribe

open Text

def decodeBlock {α : Type} (outline : Outline) (decode : Tree → Option α) (content : String) :
    Except String (Option α) :=
  match Yaml.read outline content with
  | .error e => .error e.message
  | .ok none => .ok none
  | .ok (some tree) =>
    match tree.optionOf? decode with
    | none => .error "the block does not have the expected shape"
    | some found => .ok found

namespace Document

/-- Adds an operation unless there is one for its URL and verb; one that differs is reported. -/
def addEntry (doc : Document) (entry : PathEntry) : Document × List Diagnostic :=
  let (url, verb, operation) := entry
  match doc.operation? url verb with
  | none => (doc.addOperation url verb operation, [])
  | some present =>
    if present == operation then (doc, [])
    else (doc, [{ problem := .verbExists, subject := verb ++ " " ++ url }])

def addEntries (doc : Document) : List PathEntry → Document × List Diagnostic
  | [] => (doc, [])
  | entry :: rest =>
    let (doc, here) := doc.addEntry entry
    let (doc, found) := doc.addEntries rest
    (doc, here ++ found)

def undecodable (kind : BlockKind) (reason : String) : Diagnostic :=
  { problem := .undecodable kind reason, subject := kind.name ++ " block" }

def applyPathBlock (doc : Document) (content : String) : Document × List Diagnostic :=
  match decodeBlock pathsOutline paths? content with
  | .error reason => (doc, [undecodable .path reason])
  | .ok none => (doc, [])
  | .ok (some paths) => doc.addEntries (pathEntries paths)

def parenthesized? (cs : List Char) : Option (List Char) :=
  let inner := cs.takeWhile (· != ')')
  if inner.isEmpty || (cs.dropWhile (· != ')')).isEmpty then none else some inner

def importPath? (description : String) : Option String :=
  (firstMatch? "import(".toList parenthesized? description.toList).map fun inner =>
    String.ofList (trim inner)

abbrev FileReader := String → Except String String

/-- The description that a block brings: that of the block or, where it asks for an import and none
is set yet, the text of a file. -/
def incomingDescription (read : FileReader) (base : Option String) (current description : String) :
    String × List Diagnostic :=
  match importPath? description with
  | none => (description, [])
  | some relative =>
    if !current.isEmpty then ("", [])
    else
      let path :=
        match base with
        | some folder => Path.join folder relative
        | none => relative
      match read path with
      | .ok text => (text, [])
      | .error reason =>
        ("", [{ problem := .importFailed path reason, subject := "info.description" }])

def mergeText (name current incoming : String) : String × List Diagnostic :=
  if incoming.isEmpty || current == incoming then (current, [])
  else if current.isEmpty then (incoming, [])
  else (current, [{ problem := .infoDiffers current incoming, subject := "info." ++ name }])

def mergeInfo (read : FileReader) (base : Option String) (current incoming : Info) :
    Info × List Diagnostic :=
  let (incomingText, importFound) :=
    incomingDescription read base current.description incoming.description
  let (version, versionFound) := mergeText "version" current.version incoming.version
  let (title, titleFound) := mergeText "title" current.title incoming.title
  let (description, descriptionFound) := mergeText "description" current.description incomingText
  ({ version, title, description
     logo := if current.logo.isEmpty then incoming.logo else current.logo
     contact := if current.contact.isEmpty then incoming.contact else current.contact
     license := if current.license.isEmpty then incoming.license else current.license },
    importFound ++ versionFound ++ titleFound ++ descriptionFound)

def applyInfoBlock (doc : Document) (read : FileReader) (base : Option String)
    (content : String) : Document × List Diagnostic :=
  match decodeBlock Info.outline Info.decode? content with
  | .error reason => (doc, [undecodable .info reason])
  | .ok none => (doc, [])
  | .ok (some incoming) =>
    let (info, found) := mergeInfo read base doc.info incoming
    ({ doc with info }, found)

def applyBlock (doc : Document) (read : FileReader) (base : Option String) (block : Block) :
    Document × List Diagnostic :=
  match block.kind with
  | .path => doc.applyPathBlock block.content
  | .info => doc.applyInfoBlock read base block.content

end Document

end ApiScribe
