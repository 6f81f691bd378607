import ApiScribe.Proofs.Block
import ApiScribe.Proofs.Compilation.Ongoing
import ApiScribe.Proofs.Compilation.Replay

set_option autoImplicit false

namespace ApiScribe

-- Why a declaration fails, which is the same after all other declarations.
def Declaration.failure? (declaration : Declaration) (table : ExternalTypes) : Option Failure :=
  (({} : Gathered).declare table declaration).failure

def SourceFile.truncate (source : SourceFile) (count : Nat) : SourceFile where
  path := source.path
  declarations := source.declarations.take count
  docs := source.docs.map Block.withoutPaths

namespace Gathered

variable {table : ExternalTypes} {failing : Declaration} {failure : Failure}

theorem declare_failure_eq (gathered : Gathered) (table : ExternalTypes)
    (declaration : Declaration) :
    (gathered.declare table declaration).failure = declaration.failure? table :=
  declare_failure_congr table declaration gathered {}

theorem declare_of_failure (gathered : Gathered) (failed : failing.failure? table = some failure) :
    (gathered.declare table failing).gathered = gathered := by
  rw [← gathered.declare_failure_eq] at failed
  rw [declare] at failed ⊢
  split at failed
  next => cases failed
  next marker _ =>
    rcases given : failing.product table marker.customName with ⟨product, found⟩
    rw [given] at failed
    cases product with
    | error other => rfl
    | ok made => cases made <;> cases failed

theorem declareAll_succeeds (gathered : Gathered) {declarations : List Declaration}
    (succeed : ∀ d ∈ declarations, d.failure? table = none) :
    (gathered.declareAll table declarations).failure = none := by
  induction declarations generalizing gathered with
  | nil => rfl
  | cons declaration rest ih =>
    rw [List.forall_mem_cons] at succeed
    have here : (gathered.declare table declaration).failure = none :=
      (gathered.declare_failure_eq table declaration).trans succeed.1
    simp only [declareAll, here]
    exact ih _ succeed.2

theorem declareAll_fails (gathered : Gathered) {front : List Declaration}
    (succeed : ∀ d ∈ front, d.failure? table = none)
    (failed : failing.failure? table = some failure) (back : List Declaration) :
    let before := gathered.declareAll table front
    gathered.declareAll table (front ++ failing :: back) =
      { gathered := before.gathered
        found := before.found ++ (before.gathered.declare table failing).found
        failure := some failure } := by
  induction front generalizing gathered with
  | nil =>
    have here : (gathered.declare table failing).failure = some failure :=
      (gathered.declare_failure_eq table failing).trans failed
    have same := gathered.declare_of_failure failed
    rcases step : gathered.declare table failing with ⟨after, found, stopped⟩
    rw [step] at here same
    obtain rfl : stopped = some failure := here
    obtain rfl : after = gathered := same
    simp [declareAll, step]
  | cons declaration rest ih =>
    rw [List.forall_mem_cons] at succeed
    have here : (gathered.declare table declaration).failure = none :=
      (gathered.declare_failure_eq table declaration).trans succeed.1
    simp [declareAll, here, ih _ succeed.2]

theorem blocksOf_truncate (source : SourceFile) (count : Nat) (kind : BlockKind) :
    blocksOf (source.truncate count) kind =
      if kind = .path then [] else blocksOf source kind := by
  have docs : (source.truncate count).docs.flatMap Block.find =
      (source.docs.flatMap Block.find).filter (·.kind = .info) := by
    simp [SourceFile.truncate, List.flatMap_map, Block.find_withoutPaths, List.filter_flatMap]
  rw [blocksOf, blocksOf, docs, List.filter_filter]
  cases kind with
  | path =>
    rw [if_pos rfl, List.filter_eq_nil_iff]
    intro block _
    cases block.kind <;> simp
  | info =>
    rw [if_neg (by decide)]
    simp

-- What is left of a file is what its part before the failure leaves.
theorem addFile_fails (gathered : Gathered) (read : Document.FileReader) {source : SourceFile}
    {front back : List Declaration} (split : source.declarations = front ++ failing :: back)
    (succeed : ∀ d ∈ front, d.failure? table = none)
    (failed : failing.failure? table = some failure) :
    let cut := gathered.addFile table read (source.truncate front.length)
    cut.failure = none ∧
    gathered.addFile table read source =
      { gathered := cut.gathered
        found := cut.found ++ (cut.gathered.declare table failing).found
        failure := some failure } := by
  have kept : (source.truncate front.length).declarations = front := by
    simp [SourceFile.truncate, split]
  have informed : blocksOf (source.truncate front.length) .info = blocksOf source .info :=
    blocksOf_truncate source front.length .info
  have unrouted : blocksOf (source.truncate front.length) .path = [] :=
    blocksOf_truncate source front.length .path
  have here : (source.truncate front.length).path = source.path := rfl
  generalize source.truncate front.length = short at kept informed unrouted here
  have whole := ((gathered.applyBlocks read (Path.parent? source.path)
    (blocksOf source .info)).gathered).declareAll_fails succeed failed back
  have complete := ((gathered.applyBlocks read (Path.parent? source.path)
    (blocksOf source .info)).gathered).declareAll_succeeds succeed
  simp only [addFile, kept, informed, unrouted, here, split, whole, complete, applyBlocks,
    List.append_nil, List.append_assoc, and_self]

end Gathered

namespace Compilation

def abandonment (source : SourceFile) (failure : Failure) : Diagnostic :=
  { problem := .abandoned failure, subject := source.path, file := some source.path }

def inFile (source : SourceFile) (d : Diagnostic) : Diagnostic :=
  { d with file := some source.path }

theorem ongoing_inFile (source : SourceFile) {found : List Diagnostic} (ongoing : Ongoing found) :
    Ongoing (found.map (inFile source)) := by
  intro d member
  obtain ⟨before, listed, rfl⟩ := List.mem_map.mp member
  exact ongoing before listed

theorem recorded_eq (run : Compilation) (settings : Settings) (read : Document.FileReader)
    (source : SourceFile) :
    run.recorded settings read source =
      (run.gathered.addFile settings.table read source).found.map (inFile source) ++
        (run.gathered.addFile settings.table read source).failure.toList.map
          (abandonment source) := rfl

/-- A lenient run gives up a file at the first declaration that fails. What it has gathered then is
what the same file leaves without that declaration, those after it and the path blocks; the failing
declaration adds nothing. The diagnostics are those of the shorter file, then those found in the
declaration, then the one that says that the file was given up, all of them with the path of the
file. -/
theorem addFile_truncates (run : Compilation) (settings : Settings) (read : Document.FileReader)
    (source : SourceFile) (front back : List Declaration) (failing : Declaration)
    (failure : Failure) (split : source.declarations = front ++ failing :: back)
    (succeed : ∀ d ∈ front, d.failure? settings.table = none)
    (failed : failing.failure? settings.table = some failure) :
    let lenient := settings.inMode false
    let short := source.truncate front.length
    let cut := run.addFile lenient read short
    let last := cut.1.gathered.declare settings.table failing
    let analyzed := last.found.map (inFile source)
    (short.declarations = front ∧ ∀ kind, Gathered.blocksOf short kind =
      if kind = .path then [] else Gathered.blocksOf source kind) ∧
    (∀ (gathered : Gathered) (declaration : Declaration),
      (gathered.declare settings.table declaration).failure =
        declaration.failure? settings.table) ∧
    cut.2 = none ∧ last.gathered = cut.1.gathered ∧
    run.addFile lenient read source =
      (⟨cut.1.gathered, cut.1.diagnostics ++ analyzed ++ [abandonment source failure]⟩, none) ∧
    ∃ added, cut.1.diagnostics = run.diagnostics ++ added ∧
      let appended := added ++ analyzed ++ [abandonment source failure]
      (∀ d ∈ appended, d.file = some source.path) ∧
      appended.filter Diagnostic.isStructural = [abandonment source failure] := by
  intro lenient short cut last analyzed
  let step := run.gathered.addFile settings.table read short
  obtain ⟨complete, whole⟩ : step.failure = none ∧
      run.gathered.addFile settings.table read source =
        { gathered := step.gathered
          found := step.found ++ (step.gathered.declare settings.table failing).found
          failure := some failure } := run.gathered.addFile_fails read split succeed failed
  have shorter :
      cut = (⟨step.gathered, run.diagnostics ++ step.found.map (inFile source)⟩, none) := by
    have same : run.recorded settings read short = step.found.map (inFile source) := by
      rw [recorded_eq, show (run.gathered.addFile settings.table read short).failure = none from
        complete]
      exact List.append_nil _
    exact (addFile_lenient settings read run short).trans (by rw [same])
  have ongoing : Ongoing (step.found.map (inFile source) ++ analyzed) :=
    (ongoing_append_iff _ _).mpr ⟨ongoing_inFile source (run.gathered.addFile_ongoing _ read short),
      ongoing_inFile source (cut.1.gathered.declare_ongoing settings.table failing)⟩
  refine ⟨⟨by simp [short, SourceFile.truncate, split], Gathered.blocksOf_truncate source _⟩,
    fun gathered declaration => gathered.declare_failure_eq settings.table declaration,
    by rw [shorter], cut.1.gathered.declare_of_failure failed, ?_,
    step.found.map (inFile source), by rw [shorter], ?_, ?_⟩
  · rw [addFile_lenient, recorded_eq, whole]
    simp [shorter, analyzed, last]
  · intro d member
    rw [← List.map_append, List.mem_append, List.mem_map, List.mem_singleton] at member
    obtain ⟨before, -, rfl⟩ | rfl := member
    · rfl
    · rfl
  · rw [List.filter_append, List.filter_eq_nil_iff.mpr fun d member => by simp [ongoing d member]]
    rfl

def keeper : Declaration where
  name := "Keeper"
  shape := .record
    [⟨some "id", .named "Uuid", "", [⟨"jsonapi", "primary = \"keepers\""⟩]⟩,
      ⟨some "name", .named "String", "", []⟩,
      ⟨some "age", .named "u8", "", [⟨"jsonapi", "attr"⟩]⟩]
  doc := "@openapi:schema"

def animal : Declaration :=
  ⟨"Animal", .record [⟨some "name", .named "String", "", []⟩], "@openapi:schema"⟩

def keepersFile : SourceFile where
  path := "keepers.rs"
  declarations := [animal, keeper, ⟨"Cage", .record [], "@openapi:schema"⟩]
  docs := ["@openapi:info\ntitle: Zoo\n@openapi:path\n/keepers: \x7b\x7d\n"]

theorem declare_keeper (gathered : Gathered) : (gathered.declare [] keeper).found =
    [{ problem := .badTags (.missingValue "attr"), subject := "Keeper.age" }] := rfl

theorem addFile_truncates_keepers :
    let whole := ({} : Compilation).addFile (Settings.inMode {} false) .error keepersFile
    let cut := ({} : Compilation).addFile (Settings.inMode {} false) .error (keepersFile.truncate 1)
    animal.failure? [] = none ∧
    keeper.failure? [] = some (.resource "Keeper" (.missingFields ["name"])) ∧
    whole.2 = none ∧ whole.1.gathered = cut.1.gathered ∧
    whole.1.diagnostics = cut.1.diagnostics ++
      [{ problem := .badTags (.missingValue "attr"), subject := "Keeper.age"
         file := some "keepers.rs" }] ++
      [abandonment keepersFile (.resource "Keeper" (.missingFields ["name"]))] := by
  have first : animal.failure? [] = none := rfl
  have failed : keeper.failure? [] = some (.resource "Keeper" (.missingFields ["name"])) := rfl
  obtain ⟨-, -, -, -, same, -⟩ := addFile_truncates {} {} .error keepersFile [animal]
    [⟨"Cage", .record [], "@openapi:schema"⟩] keeper _ rfl (by simpa using first) failed
  rw [declare_keeper, List.length_singleton, List.map_singleton] at same
  refine ⟨first, failed, ?_, ?_, ?_⟩
  · rw [same]
  · rw [same]
  · rw [same]
    rfl

end Compilation

end ApiScribe
