import ApiScribe.Proofs.Compilation.Plain
import ApiScribe.Proofs.Compilation.StrictMode
import ApiScribe.Proofs.Document.PathBlocks

set_option autoImplicit false

namespace ApiScribe

def SourceFile.Plain (source : SourceFile) : Prop := ∀ d ∈ source.declarations, d.Plain

def SourceFile.calls (table : ExternalTypes) (source : SourceFile) : List (String × Schema) :=
  source.declarations.filterMap (Declaration.schema? table)

def SourceFile.entries (source : SourceFile) : List Document.PathEntry :=
  (Gathered.blocksOf source .info ++ Gathered.blocksOf source .path).flatMap Block.entries

namespace Gathered

structure Grows (before after : Gathered) (calls : List (String × Schema))
    (entries : List Document.PathEntry) : Prop where
  registry : after.registry = before.registry.registerAll calls
  resources : after.resources = before.resources
  document : before.document.Extends after.document entries

theorem Grows.trans {a b c : Gathered} {calls more : List (String × Schema)}
    {front back : List Document.PathEntry} (first : a.Grows b calls front)
    (second : b.Grows c more back) : a.Grows c (calls ++ more) (front ++ back) where
  registry := by rw [second.registry, first.registry, Registry.registerAll_append]
  resources := second.resources.trans first.resources
  document := first.document.trans second.document

theorem grows_refl (gathered : Gathered) : gathered.Grows gathered [] [] :=
  ⟨rfl, rfl, Document.extends_of_paths rfl rfl⟩

theorem applyBlocks_grows (gathered : Gathered) (read : Document.FileReader)
    (base : Option String) (blocks : List Block) :
    gathered.Grows (gathered.applyBlocks read base blocks).gathered []
      (blocks.flatMap Block.entries) := by
  induction blocks generalizing gathered with
  | nil => exact gathered.grows_refl
  | cons block rest ih =>
    have here : gathered.Grows
        { gathered with document := (gathered.document.applyBlock read base block).1 } []
        block.entries := ⟨rfl, rfl, gathered.document.applyBlock_extends read base block⟩
    exact here.trans (ih _)

variable (table : ExternalTypes)

theorem declare_grows {declaration : Declaration} (plain : declaration.Plain)
    (gathered : Gathered) :
    (gathered.declare table declaration).failure = none ∧
      gathered.Grows (gathered.declare table declaration).gathered
        (declaration.schema? table).toList [] := by
  constructor
  · rw [declare]
    split
    next => rfl
    next marker marked =>
      have produced := Declaration.product_plain plain table marker.customName
      rcases given : declaration.product table marker.customName with ⟨product, found⟩
      rw [given] at produced
      rcases produced with none | ⟨schema, same, -⟩
      · obtain rfl : product = .ok .nothing := none
        rfl
      · obtain rfl : product = .ok (.schema schema) := same
        rfl
  · rw [declare_gathered]
    rcases Declaration.given_plain plain table with none | ⟨schema, given, -⟩
    · simp only [Declaration.schema?, none, take]
      exact gathered.grows_refl
    · simp only [Declaration.schema?, given, take]
      exact ⟨rfl, rfl, Document.extends_of_paths rfl rfl⟩

theorem declareAll_grows {declarations : List Declaration} (plain : ∀ d ∈ declarations, d.Plain)
    (gathered : Gathered) :
    (gathered.declareAll table declarations).failure = none ∧
      gathered.Grows (gathered.declareAll table declarations).gathered
        (declarations.filterMap (Declaration.schema? table)) [] := by
  induction declarations generalizing gathered with
  | nil => exact ⟨rfl, gathered.grows_refl⟩
  | cons declaration rest ih =>
    rw [List.forall_mem_cons] at plain
    obtain ⟨succeeds, here⟩ := declare_grows table plain.1 gathered
    obtain ⟨restSucceeds, later⟩ := ih plain.2 (gathered.declare table declaration).gathered
    have both := here.trans later
    have calls : (declaration.schema? table).toList ++
        rest.filterMap (Declaration.schema? table) =
          (declaration :: rest).filterMap (Declaration.schema? table) := by
      cases given : declaration.schema? table <;> simp [given]
    rw [calls] at both
    simp only [declareAll, succeeds]
    exact ⟨restSucceeds, both⟩

theorem addFile_grows {source : SourceFile} (plain : source.Plain) (read : Document.FileReader)
    (gathered : Gathered) :
    gathered.Grows (gathered.addFile table read source).gathered (source.calls table)
      source.entries := by
  let base := Path.parent? source.path
  have informed := gathered.applyBlocks_grows read base (blocksOf source .info)
  obtain ⟨succeeds, declared⟩ := declareAll_grows table plain
    (gathered.applyBlocks read base (blocksOf source .info)).gathered
  have routed := ((gathered.applyBlocks read base (blocksOf source .info)).gathered.declareAll table
    source.declarations).gathered.applyBlocks_grows read base (blocksOf source .path)
  have all := (informed.trans declared).trans routed
  have entries : (blocksOf source .info).flatMap Block.entries ++ [] ++
      (blocksOf source .path).flatMap Block.entries = source.entries := by
    simp [SourceFile.entries]
  have calls : [] ++ source.declarations.filterMap (Declaration.schema? table) ++ [] =
      source.calls table := by
    simp [SourceFile.calls]
  rw [entries, calls] at all
  simp only [addFile, base] at succeeds all ⊢
  rw [succeeds]
  exact all

end Gathered

theorem Compilation.addFiles_grows (settings : Settings) (read : Document.FileReader)
    {files : List SourceFile} (plain : ∀ source ∈ files, source.Plain) (run : Compilation) :
    run.gathered.Grows (run.addFiles (settings.inMode false) read files).1.gathered
      (files.flatMap (SourceFile.calls settings.table)) (files.flatMap SourceFile.entries) := by
  induction files generalizing run with
  | nil => exact run.gathered.grows_refl
  | cons source rest ih =>
    rw [List.forall_mem_cons] at plain
    rw [addFiles_lenient_cons, addFile_lenient]
    have here := Gathered.addFile_grows settings.table plain.1 read run.gathered
    simpa using here.trans (ih plain.2 ⟨_, run.diagnostics ++ run.recorded settings read source⟩)

end ApiScribe
