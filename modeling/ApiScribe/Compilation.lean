import ApiScribe.Block
import ApiScribe.Document.Blocks
import ApiScribe.Example
import ApiScribe.Resource.Graph

set_option autoImplicit false

namespace ApiScribe

open Resolve

structure Settings where
  strict : Bool := false
  includes : Bool := true
  table : ExternalTypes := []

structure Gathered where
  registry : Registry := Registry.empty
  resources : ResourceGraph := {}
  document : Document := {}

structure Progress where
  gathered : Gathered
  found : List Diagnostic := []
  failure : Option Failure := none

inductive Product where
  | resource (resource : Resource)
  | schema (schema : Schema)
  | nothing

namespace Declaration

/-- What a marked declaration gives: a record is a resource if its fields have roles in one, and
otherwise any declaration is a schema, if its shape has one. -/
def product (declaration : Declaration) (table : ExternalTypes) (customName : Option String) :
    Outcome (Except Failure Product) :=
  let name := declaration.name
  match declaration.shape with
  | .record fields =>
    let (result, found) := Resource.analyze table name customName (annotated fields)
    match result with
    | .error failure => (.error failure, tagDiagnostics name fields ++ found)
    | .ok (some resource) => (.ok (.resource resource), tagDiagnostics name fields ++ found)
    | .ok none =>
      let (schema, found) := resolveRecord table name fields
      (.ok (.schema schema), found)
  | shape =>
    let (result, found) := resolve table (some name) shape none
    match result with
    | .ok node => (.ok (.schema (.plain node)), found)
    | .error error => (.ok .nothing, { problem := .unresolved error, subject := name } :: found)

/-- The schema with the example of the documentation. A composition has no place for one. -/
def withExample (declaration : Declaration) (schema : Schema) : Outcome Schema :=
  match findExample declaration.doc with
  | none => (schema, [])
  | some raw =>
    match convertExample raw declaration.shape with
    | .error error => (schema, [{ problem := .badTags error, subject := declaration.name }])
    | .ok value =>
      match schema with
      | .plain node => (.plain { node with example? := some value }, [])
      | composed => (composed, [])

end Declaration

namespace Gathered

def declare (gathered : Gathered) (table : ExternalTypes) (declaration : Declaration) : Progress :=
  match SchemaMarker.find? declaration.doc with
  | none => { gathered }
  | some marker =>
    let (product, found) := declaration.product table marker.customName
    match product with
    | .error failure => { gathered, found, failure := some failure }
    | .ok .nothing => { gathered, found }
    | .ok (.resource resource) =>
      { gathered := { gathered with resources := gathered.resources.insert resource }, found }
    | .ok (.schema schema) =>
      let (schema, exampleFound) := declaration.withExample schema
      let schema :=
        match marker.customName with
        | some custom => schema.withCustomName custom
        | none => schema
      { gathered := { gathered with registry := gathered.registry.register declaration.name schema }
        found := found ++ exampleFound }

def declareAll (gathered : Gathered) (table : ExternalTypes) : List Declaration → Progress
  | [] => { gathered }
  | declaration :: rest =>
    let step := gathered.declare table declaration
    match step.failure with
    | some _ => step
    | none =>
      let after := step.gathered.declareAll table rest
      { after with found := step.found ++ after.found }

def applyBlocks (gathered : Gathered) (read : Document.FileReader) (base : Option String) :
    List Block → Progress
  | [] => { gathered }
  | block :: rest =>
    let (document, found) := gathered.document.applyBlock read base block
    let after := { gathered with document }.applyBlocks read base rest
    { after with found := found ++ after.found }

def blocksOf (source : SourceFile) (kind : BlockKind) : List Block :=
  (source.docs.flatMap Block.find).filter (·.kind = kind)

/-- Folds in a file. A failure leaves its path blocks out. -/
def addFile (gathered : Gathered) (table : ExternalTypes) (read : Document.FileReader)
    (source : SourceFile) : Progress :=
  let base := Path.parent? source.path
  let informed := gathered.applyBlocks read base (blocksOf source .info)
  let declared := informed.gathered.declareAll table source.declarations
  match declared.failure with
  | some _ => { declared with found := informed.found ++ declared.found }
  | none =>
    let routed := declared.gathered.applyBlocks read base (blocksOf source .path)
    { routed with found := informed.found ++ declared.found ++ routed.found }

def finalize (gathered : Gathered) (includes : Bool) : Except Failure Document := do
  let registry ← gathered.resources.registerEnvelopes includes gathered.registry
  return gathered.document.withSchemas (← registry.finalize)

end Gathered

def strictFailure? (diagnostics : List Diagnostic) : Option Failure :=
  match diagnostics.filter Diagnostic.isError with
  | [] => none
  | first :: rest => some (.strict (rest.length + 1) first.display)

structure Compilation where
  gathered : Gathered := {}
  diagnostics : List Diagnostic := []

namespace Compilation

def declare (run : Compilation) (settings : Settings) (declaration : Declaration) :
    Compilation × Option Failure :=
  let step := run.gathered.declare settings.table declaration
  (⟨step.gathered, run.diagnostics ++ step.found⟩, step.failure)

def addFile (run : Compilation) (settings : Settings) (read : Document.FileReader)
    (source : SourceFile) : Compilation × Option Failure :=
  let step := run.gathered.addFile settings.table read source
  let found := step.found.map fun d => { d with file := some source.path }
  let after : Compilation := ⟨step.gathered, run.diagnostics ++ found⟩
  match step.failure with
  | none => (after, if settings.strict then strictFailure? found else none)
  | some failure =>
    if settings.strict || !failure.isStructural then (after, some failure)
    else
      let abandoned : Diagnostic :=
        { problem := .abandoned failure, subject := source.path, file := some source.path }
      ({ after with diagnostics := after.diagnostics ++ [abandoned] }, none)

def addFiles (run : Compilation) (settings : Settings) (read : Document.FileReader) :
    List SourceFile → Compilation × Option Failure
  | [] => (run, none)
  | source :: rest =>
    match run.addFile settings read source with
    | (after, none) => after.addFiles settings read rest
    | failed => failed

def finalize (run : Compilation) (settings : Settings) : Except Failure Document :=
  run.gathered.finalize settings.includes

def finish (run : Compilation) (settings : Settings) : Except Failure Document :=
  match if settings.strict then strictFailure? run.diagnostics else none with
  | some failure => .error failure
  | none => run.finalize settings

end Compilation

end ApiScribe
