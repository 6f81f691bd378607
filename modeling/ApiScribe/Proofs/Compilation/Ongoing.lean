import ApiScribe.Compilation
import ApiScribe.Proofs.Document.InfoBlocks
import ApiScribe.Proofs.Document.PathBlocks
import ApiScribe.Proofs.Resource.Analysis

set_option autoImplicit false

namespace ApiScribe

def Diagnostic.isStructural (d : Diagnostic) : Bool :=
  match d.problem with
  | .abandoned _ => true
  | _ => false

def Ongoing (diagnostics : List Diagnostic) : Prop := ∀ d ∈ diagnostics, d.isStructural = false

section Ongoing

theorem ongoing_append_iff (front back : List Diagnostic) :
    Ongoing (front ++ back) ↔ Ongoing front ∧ Ongoing back := by
  simp [Ongoing, or_imp, forall_and]

theorem ongoing_nil : Ongoing [] := by simp [Ongoing]

theorem ongoing_singleton {d : Diagnostic} (other : d.isStructural = false) : Ongoing [d] := by
  simpa [Ongoing] using other

theorem ongoing_flatMap {α : Type} {xs : List α} {found : α → List Diagnostic}
    (each : ∀ x ∈ xs, Ongoing (found x)) : Ongoing (xs.flatMap found) := by
  intro d member
  obtain ⟨x, listed, here⟩ := List.mem_flatMap.mp member
  exact each x listed d here

end Ongoing

namespace Resolve

variable (table : ExternalTypes)

theorem resolveRecord_ongoing (owner : String) (fields : List Field) :
    Ongoing (resolveRecord table owner fields).2 := by
  intro d member
  obtain ⟨path, field, problem, -, found, rfl⟩ := (mem_found_iff_located _ _ _ _).mp member
  cases fate : fate table field <;> rw [fate] at found <;> cases found <;> rfl

theorem tagDiagnostics_ongoing (owner : String) (fields : List Field) :
    Ongoing (tagDiagnostics owner fields) := by
  intro d member
  rw [tagDiagnostics, List.mem_filterMap] at member
  obtain ⟨field, -, found⟩ := member
  split at found
  next => cases found
  next =>
    cases found
    rfl

theorem resolve_ongoing (scope : Option String) (shape : Shape) (qualifier : Option String) :
    Ongoing (resolve table scope shape qualifier).2 := by
  rw [resolve_found]
  exact ongoing_flatMap fun inner _ => resolveRecord_ongoing table _ inner

theorem resolveField_ongoing (owner : String) (field : Field) (spec : FieldSpec) :
    Ongoing (resolveField table owner field spec).2 := by
  rw [resolveField_eq, ongoing_append_iff]
  refine ⟨ongoing_flatMap fun inner _ => resolveRecord_ongoing table _ inner, ?_⟩
  cases Fate.ofResult spec (resolve table none field.shape none).1 <;>
    simp [Fate.shapeProblem?, Ongoing, report, Diagnostic.isStructural]

end Resolve

open Resolve

theorem Resource.analyze_ongoing (table : ExternalTypes) (name : String)
    (customName : Option String) (fields : List (Field × FieldSpec)) :
    Ongoing (analyze table name customName fields).2 := by
  have each (f : Field × FieldSpec) : Ongoing (found table name f) := by
    rw [found]
    split
    · exact resolveField_ongoing table name f.1 f.2
    · exact ongoing_nil
  obtain ⟨-, result⟩ | ⟨-, -, fault, front, back, -, result⟩ | ⟨resourceType, -, result⟩ :=
    analyze_cases table name customName fields
  · rw [result]
    exact ongoing_nil
  · rw [result]
    exact ongoing_flatMap fun f _ => each f
  · rw [result]
    exact ongoing_flatMap fun f _ => each f

namespace Declaration

theorem product_ongoing (declaration : Declaration) (table : ExternalTypes)
    (customName : Option String) : Ongoing (declaration.product table customName).2 := by
  rw [product]
  split
  next fields _ =>
    have both := (ongoing_append_iff _ _).mpr ⟨tagDiagnostics_ongoing declaration.name fields,
      Resource.analyze_ongoing table declaration.name customName (annotated fields)⟩
    rcases analyzed : Resource.analyze table declaration.name customName (annotated fields) with
      ⟨result, found⟩
    rw [analyzed] at both
    match result with
    | .error failure => exact both
    | .ok (some resource) => exact both
    | .ok none => exact resolveRecord_ongoing table declaration.name fields
  next =>
    have resolved := resolve_ongoing table (some declaration.name) declaration.shape none
    rcases outcome : resolve table (some declaration.name) declaration.shape none with
      ⟨result, found⟩
    rw [outcome] at resolved
    match result with
    | .ok node => exact resolved
    | .error error => exact (ongoing_append_iff [_] found).mpr ⟨ongoing_singleton rfl, resolved⟩

theorem withExample_ongoing (declaration : Declaration) (schema : Schema) :
    Ongoing (declaration.withExample schema).2 := by
  rw [withExample]
  split
  next => exact ongoing_nil
  next =>
    split
    next => exact ongoing_singleton rfl
    next =>
      split
      next => exact ongoing_nil
      next => exact ongoing_nil

end Declaration

namespace Document

theorem conflictReports_ongoing (field current brought : String) :
    Ongoing (InfoBlock.conflictReports field current brought) := by
  rw [InfoBlock.conflictReports]
  split
  · exact ongoing_singleton rfl
  · exact ongoing_nil

theorem importReports_ongoing (read : FileReader) (block : InfoBlock) :
    Ongoing (block.importReports read) := by
  rw [InfoBlock.importReports]
  cases block.imported? with
  | none => exact ongoing_nil
  | some path =>
    dsimp only [Option.elim_some]
    split
    next => exact ongoing_nil
    next => exact ongoing_singleton rfl

theorem reports_ongoing (read : FileReader) (held : Info) (block : InfoBlock) :
    Ongoing (block.reports read held) := by
  rw [InfoBlock.reports]
  split
  next => exact ongoing_singleton rfl
  next =>
    simp only [ongoing_append_iff]
    refine ⟨⟨⟨?_, conflictReports_ongoing _ _ _⟩, conflictReports_ongoing _ _ _⟩,
      conflictReports_ongoing _ _ _⟩
    split
    · exact importReports_ongoing read block
    · exact ongoing_nil

theorem applyPathBlock_ongoing (doc : Document) (content : String) :
    Ongoing (doc.applyPathBlock content).2 := by
  cases read : decodeBlock pathsOutline paths? content with
  | error reason =>
    simp only [applyPathBlock, read]
    exact ongoing_singleton rfl
  | ok found =>
    cases found with
    | none =>
      simp only [applyPathBlock, read]
      exact ongoing_nil
    | some paths =>
      obtain ⟨conflicts, reported, -⟩ := doc.applyPathBlock_found read
      rw [reported]
      intro d member
      obtain ⟨route, -, rfl⟩ := List.mem_map.mp member
      rfl

theorem applyBlock_ongoing (doc : Document) (read : FileReader) (base : Option String)
    (block : Block) : Ongoing (doc.applyBlock read base block).2 := by
  obtain ⟨kind, content⟩ := block
  cases kind with
  | path => exact doc.applyPathBlock_ongoing content
  | info =>
    have same := congrArg Prod.snd (doc.applyInfoBlock_eq read ⟨base, content⟩)
    rw [applyBlock, same]
    exact reports_ongoing read doc.info ⟨base, content⟩

end Document

namespace Gathered

theorem declare_ongoing (gathered : Gathered) (table : ExternalTypes) (declaration : Declaration) :
    Ongoing (gathered.declare table declaration).found := by
  rw [declare]
  split
  next => exact ongoing_nil
  next marker _ =>
    have produced := declaration.product_ongoing table marker.customName
    rcases given : declaration.product table marker.customName with ⟨product, found⟩
    rw [given] at produced
    match product with
    | .error failure => exact produced
    | .ok .nothing => exact produced
    | .ok (.resource resource) => exact produced
    | .ok (.schema schema) =>
      exact (ongoing_append_iff _ _).mpr ⟨produced, declaration.withExample_ongoing schema⟩

theorem declareAll_ongoing (gathered : Gathered) (table : ExternalTypes)
    (declarations : List Declaration) :
    Ongoing (gathered.declareAll table declarations).found := by
  induction declarations generalizing gathered with
  | nil => exact ongoing_nil
  | cons declaration rest ih =>
    have here := gathered.declare_ongoing table declaration
    rw [declareAll]
    dsimp only
    split
    next => exact here
    next => exact (ongoing_append_iff _ _).mpr ⟨here, ih _⟩

theorem applyBlocks_ongoing (gathered : Gathered) (read : Document.FileReader)
    (base : Option String) (blocks : List Block) :
    Ongoing (gathered.applyBlocks read base blocks).found := by
  induction blocks generalizing gathered with
  | nil => exact ongoing_nil
  | cons block rest ih =>
    exact (ongoing_append_iff _ _).mpr
      ⟨gathered.document.applyBlock_ongoing read base block, ih _⟩

theorem addFile_ongoing (gathered : Gathered) (table : ExternalTypes)
    (read : Document.FileReader) (source : SourceFile) :
    Ongoing (gathered.addFile table read source).found := by
  have informed := gathered.applyBlocks_ongoing read (Path.parent? source.path)
    (blocksOf source .info)
  rw [addFile]
  dsimp only
  split
  next =>
    rw [ongoing_append_iff]
    exact ⟨informed, declareAll_ongoing _ table source.declarations⟩
  next =>
    rw [ongoing_append_iff, ongoing_append_iff]
    exact ⟨⟨informed, declareAll_ongoing _ table source.declarations⟩,
      applyBlocks_ongoing _ read _ (blocksOf source .path)⟩

end Gathered

end ApiScribe
