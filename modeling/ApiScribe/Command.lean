import ApiScribe.Compilation
import ApiScribe.Discovery
import ApiScribe.Workspace

set_option autoImplicit false

namespace ApiScribe

structure GenerateOptions where
  roots : List String
  output : Option String := none
  format : Format := .yaml
  strict : Bool := false
  includes : Bool := true
  vendors : List String := []
  vendorsPath : Option String := none
  externalTypes : Option String := none
  deriving DecidableEq, Repr

structure MergeOptions where
  mainFile : String
  folder : String
  output : String := "merged-openapi.yaml"
  deriving DecidableEq, Repr

inductive Command where
  | generate (options : GenerateOptions)
  | merge (options : MergeOptions)
  deriving DecidableEq, Repr

structure Report where
  printed : String := ""
  files : Files
  outside : List (String × String) := []
  faults : List Unreachable := []
  diagnostics : List Diagnostic := []

/-- Reads sources in order. In strict mode the first that cannot be read ends it; otherwise such a
source is left out. -/
def Files.readSources (files : Files) (strict : Bool) :
    List String → Except RunError (List SourceFile)
  | [] => .ok []
  | path :: rest =>
    match files.readSource path with
    | .ok source => (files.readSources strict rest).map (source :: ·)
    | .error error => if strict then .error error else files.readSources strict rest

def Files.outside (path text : String) : List (String × String) :=
  if (inside? path).isNone then [(path, text)] else []

namespace GenerateOptions

def check (options : GenerateOptions) (files : Files) : Except RunError Unit :=
  match options.roots.find? (!files.isFolder ·) with
  | some root => .error (.rootNotFolder root)
  | none => .ok ()

def allRoots (options : GenerateOptions) : List String :=
  options.roots ++ options.vendorsPath.toList

def settings (options : GenerateOptions) (files : Files) : Except RunError Settings := do
  let table ←
    match options.externalTypes with
    | some path => files.readTable path
    | none => pure []
  return { strict := options.strict, includes := options.includes, table }

def compile (options : GenerateOptions) (files : Files) :
    Except RunError (Document × Discovery × List Diagnostic) := do
  let settings ← options.settings files
  let discovery := Discovery.find files options.vendors options.allRoots
  let sources ← files.readSources options.strict discovery.sources
  match Compilation.addFiles {} settings files.reader sources with
  | (_, some failure) => throw (.failed failure)
  | (run, none) =>
    let document ← (run.finish settings).mapError RunError.failed
    return (document, discovery, run.diagnostics)

def run (options : GenerateOptions) (files : Files) : Except RunError Report := do
  let (document, discovery, diagnostics) ← options.compile files
  let text := document.render options.format
  match options.output with
  | some path =>
    return {
      files := ← files.writeText path text
      outside := Files.outside path text
      faults := discovery.faults
      diagnostics }
  | none => return { printed := text ++ "\n", files, faults := discovery.faults, diagnostics }

end GenerateOptions

namespace MergeOptions

def check (options : MergeOptions) (files : Files) : Except RunError Unit :=
  if !files.isFile options.mainFile then .error (.noMainFile options.mainFile)
  else if !files.isFolder options.folder then .error (.notMergeFolder options.folder)
  else .ok ()

def run (options : MergeOptions) (files : Files) : Except RunError Report := do
  let merged ← files.mergeFolder options.mainFile options.folder
  let text := merged.render .yaml
  return {
    files := ← files.writeText options.output text
    outside := Files.outside options.output text }

end MergeOptions

namespace Command

def check : Command → Files → Except RunError Unit
  | .generate options => options.check
  | .merge options => options.check

def run : Command → Files → Except RunError Report
  | .generate options => options.run
  | .merge options => options.run

end Command

end ApiScribe
