import ApiScribe.Proofs.Compilation.StrictMode
import ApiScribe.Proofs.Document.InfoBlocks
import ApiScribe.Proofs.Document.PathBlocks
import ApiScribe.Proofs.Settling

set_option autoImplicit false

namespace ApiScribe

theorem holds_settles {α : Type} [DecidableEq α] (unset incoming : α) :
    Settles (Holds unset) fun current => if current = unset then incoming else current where
  keeps current := by
    by_cases empty : current = unset
    · exact .inl empty
    · simp [Holds, empty]
  again before after held := by
    by_cases empty : after = unset
    · -- Nothing was set, so the incoming value is not set either.
      have nothing : (if before = unset then incoming else before) = unset := by
        rcases held with nothing | same
        · exact nothing
        · exact same.symm.trans empty
      have unsetIncoming : incoming = unset := by
        by_cases first : before = unset
        · simpa [first] using nothing
        · simp [first] at nothing
      simp [empty, unsetIncoming]
    · simp [empty]

open FirstWins

structure Document.Within (before after : Document) : Prop where
  info : before.info.Within after.info
  routes : ∀ route x, byRoute.get? before route = some x → byRoute.get? after route = some x

namespace Document

theorem within_refl (doc : Document) : doc.Within doc :=
  ⟨doc.info.within_refl, fun _ _ found => found⟩

theorem within_trans (a b c : Document) (first : a.Within b) (second : b.Within c) :
    a.Within c :=
  ⟨first.info.trans second.info,
    fun route x found => second.routes route x (first.routes route x found)⟩

theorem mergeInfo_settles (read : FileReader) (base : Option String) (incoming : Info) :
    Settles Info.Within fun current => (mergeInfo read base current incoming).1 where
  keeps current := by
    rw [mergeInfo_eq]
    exact ⟨(holds_settles _ _).keeps _, (holds_settles _ _).keeps _, (holds_settles _ _).keeps _,
      (holds_settles _ _).keeps _, (holds_settles _ _).keeps _, (holds_settles _ _).keeps _⟩
  again before after held := by
    rw [mergeInfo_eq] at held ⊢
    obtain ⟨version, title, description, logo, contact, license⟩ := held
    rw [(holds_settles _ _).again _ _ version, (holds_settles _ _).again _ _ title,
      (holds_settles _ _).again _ _ description, (holds_settles _ _).again _ _ logo,
      (holds_settles _ _).again _ _ contact, (holds_settles _ _).again _ _ license]

theorem applyInfoBlock_settles (read : FileReader) (base : Option String) (content : String) :
    Settles Within fun doc => (doc.applyInfoBlock read base content).1 := by
  unfold applyInfoBlock
  cases decodeBlock Info.outline Info.decode? content with
  | error reason => exact .id within_refl
  | ok found =>
    cases found with
    | none => exact .id within_refl
    | some incoming =>
      have settles := mergeInfo_settles read base incoming
      constructor
      · intro doc
        exact ⟨settles.keeps doc.info, fun _ _ found => found⟩
      · intro before after held
        have same := settles.again before.info after.info held.info
        exact congrArg (fun info => { after with info }) same

theorem addEntry_settles (entry : PathEntry) :
    Settles Within fun doc => (doc.addEntry entry).1 where
  keeps doc := by
    refine ⟨?_, fun route x found => ?_⟩
    · have framed := congrArg info (doc.addEntry_frame entry)
      have same : (doc.addEntry entry).1.info = doc.info := framed
      rw [same]
      exact doc.info.within_refl
    · rw [(doc.addEntry_extends entry).found route, found, Option.some_or]
  again before after held := by
    obtain ⟨url, verb, operation⟩ := entry
    -- The first time has left an operation for the route, and there is still one.
    have added := (before.addEntry_extends (url, verb, operation)).found (url, verb)
    obtain ⟨present, found⟩ :
        ∃ x, byRoute.get? (before.addEntry (url, verb, operation)).1 (url, verb) = some x := by
      cases earlier : byRoute.get? before (url, verb) <;> simp [added, earlier, routes]
    have there : after.operation? url verb = some present := held.routes _ _ found
    simp only [addEntry, there]
    split <;> rfl

theorem addEntries_settles (entries : List PathEntry) :
    Settles Within fun doc => (doc.addEntries entries).1 := by
  induction entries with
  | nil => exact .id within_refl
  | cons entry rest ih => exact (addEntry_settles entry).comp within_trans ih

theorem applyBlock_settles (read : FileReader) (base : Option String) (block : Block) :
    Settles Within fun doc => (doc.applyBlock read base block).1 := by
  obtain ⟨kind, content⟩ := block
  cases kind with
  | info => exact applyInfoBlock_settles read base content
  | path =>
    have same : (fun doc : Document => (doc.applyBlock read base ⟨.path, content⟩).1) =
        fun doc => (doc.addEntries (pathEntries (ofPathBlock content).paths)).1 :=
      funext fun doc => doc.applyPathBlock_eq content
    rw [same]
    exact addEntries_settles _

end Document

namespace Gathered

structure Within (before after : Gathered) : Prop where
  registry : before.registry.store.Within after.registry.store
  resources : before.resources.store.Within after.resources.store
  document : before.document.Within after.document

theorem within_refl (gathered : Gathered) : gathered.Within gathered :=
  ⟨Store.within_refl _, Store.within_refl _, Document.within_refl _⟩

theorem within_trans (a b c : Gathered) (first : a.Within b) (second : b.Within c) :
    a.Within c :=
  ⟨first.registry.trans second.registry, first.resources.trans second.resources,
    Document.within_trans _ _ _ first.document second.document⟩

theorem take_settles (name : String) (product : Product) :
    Settles Within fun gathered => gathered.take name product := by
  cases product with
  | nothing => exact .id within_refl
  | schema schema =>
    have settles := Registry.register_settles name schema
    constructor
    · intro gathered
      exact { gathered.within_refl with registry := settles.keeps gathered.registry }
    · intro before after held
      have same := settles.again before.registry after.registry held.registry
      exact congrArg (fun registry => { after with registry }) same
  | resource resource =>
    have settles := ResourceGraph.insert_settles resource
    constructor
    · intro gathered
      exact { gathered.within_refl with resources := settles.keeps gathered.resources }
    · intro before after held
      have same := settles.again before.resources after.resources held.resources
      exact congrArg (fun resources => { after with resources }) same

theorem declare_failure_congr (table : ExternalTypes) (declaration : Declaration)
    (gathered other : Gathered) :
    (gathered.declare table declaration).failure = (other.declare table declaration).failure := by
  rw [declare, declare]
  cases SchemaMarker.find? declaration.doc with
  | none => rfl
  | some marker =>
    dsimp only
    rcases declaration.product table marker.customName with ⟨product, found⟩
    cases product with
    | error failure => rfl
    | ok product =>
      cases product with
      | nothing => rfl
      | resource resource => rfl
      | schema schema => rfl

theorem declareAll_failure_congr (table : ExternalTypes) (declarations : List Declaration)
    (gathered other : Gathered) :
    (gathered.declareAll table declarations).failure =
      (other.declareAll table declarations).failure := by
  induction declarations generalizing gathered other with
  | nil => rfl
  | cons declaration rest ih =>
    have here := declare_failure_congr table declaration gathered other
    rw [declareAll, declareAll]
    dsimp only
    cases failed : (other.declare table declaration).failure with
    | some failure => simp [here, failed]
    | none =>
      simp only [here, failed]
      exact ih _ _

theorem declareAll_settles (table : ExternalTypes) (declarations : List Declaration) :
    Settles Within fun gathered => (gathered.declareAll table declarations).gathered := by
  induction declarations with
  | nil => exact .id within_refl
  | cons declaration rest ih =>
    have taken := take_settles declaration.name (declaration.given table)
    have failures := declare_failure_congr table declaration
    -- In every state the declaration ends the list, or in none.
    cases failed : (({} : Gathered).declare table declaration).failure with
    | some failure =>
      have same : (fun gathered => (declareAll gathered table (declaration :: rest)).gathered) =
          fun gathered => gathered.take declaration.name (declaration.given table) := by
        funext gathered
        rw [← declare_gathered]
        simp only [declareAll, failures gathered {}, failed]
      rw [same]
      exact taken
    | none =>
      have same : (fun gathered => (declareAll gathered table (declaration :: rest)).gathered) =
          (fun gathered => (gathered.declareAll table rest).gathered) ∘
            fun gathered => gathered.take declaration.name (declaration.given table) := by
        funext gathered
        rw [Function.comp_apply, ← declare_gathered]
        simp only [declareAll, failures gathered {}, failed]
      rw [same]
      exact taken.comp within_trans ih

theorem applyBlocks_settles (read : Document.FileReader) (base : Option String)
    (blocks : List Block) :
    Settles Within fun gathered => (gathered.applyBlocks read base blocks).gathered := by
  induction blocks with
  | nil => exact .id within_refl
  | cons block rest ih =>
    have settles := Document.applyBlock_settles read base block
    have here : Settles Within fun gathered =>
        { gathered with document := (gathered.document.applyBlock read base block).1 } := by
      constructor
      · intro gathered
        exact { gathered.within_refl with document := settles.keeps gathered.document }
      · intro before after held
        have same := settles.again before.document after.document held.document
        exact congrArg (fun document => { after with document }) same
    exact here.comp within_trans ih

theorem addFile_settles (table : ExternalTypes) (read : Document.FileReader)
    (source : SourceFile) :
    Settles Within fun gathered => (gathered.addFile table read source).gathered := by
  let base := Path.parent? source.path
  have informed := applyBlocks_settles read base (blocksOf source .info)
  have declared := informed.comp within_trans (declareAll_settles table source.declarations)
  have failures := declareAll_failure_congr table source.declarations
  cases failed : (({} : Gathered).declareAll table source.declarations).failure with
  | some failure =>
    have same : (fun gathered => (addFile gathered table read source).gathered) =
        (fun gathered => (gathered.declareAll table source.declarations).gathered) ∘
          fun gathered => (gathered.applyBlocks read base (blocksOf source .info)).gathered := by
      funext gathered
      simp only [addFile, failures _ {}, failed, Function.comp_apply, base]
    rw [same]
    exact declared
  | none =>
    have same : (fun gathered => (addFile gathered table read source).gathered) =
        (fun gathered => (gathered.applyBlocks read base (blocksOf source .path)).gathered) ∘
          (fun gathered => (gathered.declareAll table source.declarations).gathered) ∘
          fun gathered => (gathered.applyBlocks read base (blocksOf source .info)).gathered := by
      funext gathered
      simp only [addFile, failures _ {}, failed, Function.comp_apply, base]
    rw [same]
    exact declared.comp within_trans (applyBlocks_settles read base (blocksOf source .path))

end Gathered

namespace Compilation

variable (settings : Settings) (read : Document.FileReader)

theorem addFiles_within (run : Compilation) (files : List SourceFile) :
    run.gathered.Within (run.addFiles (settings.inMode false) read files).1.gathered := by
  induction files generalizing run with
  | nil => exact run.gathered.within_refl
  | cons source rest ih =>
    rw [addFiles_lenient_cons, addFile_lenient]
    have here := (Gathered.addFile_settles settings.table read source).keeps run.gathered
    exact Gathered.within_trans _ _ _ here
      (ih ⟨_, run.diagnostics ++ run.recorded settings read source⟩)

/-- A file that a lenient run has folded in changes nothing when it is folded in again: only
diagnostics are added. -/
theorem addFile_again (start : Compilation) {files : List SourceFile} {source : SourceFile}
    (member : source ∈ files) :
    let run := (start.addFiles (settings.inMode false) read files).1
    let again := run.addFile (settings.inMode false) read source
    again.2 = none ∧ again.1.gathered = run.gathered ∧
      ∃ more, again.1.diagnostics = run.diagnostics ++ more := by
  intro run again
  have lenient : again = _ := addFile_lenient settings read run source
  have settles := Gathered.addFile_settles settings.table read source
  obtain ⟨front, back, rfl⟩ := List.append_of_mem member
  let before := (start.addFiles (settings.inMode false) read front).1
  have reached : run = ((before.addFile (settings.inMode false) read source).1.addFiles
      (settings.inMode false) read back).1 := by
    simp only [run, before, addFiles_lenient_append, addFiles_lenient_cons]
  have kept : (before.gathered.addFile settings.table read source).gathered.Within run.gathered := by
    have later := addFiles_within settings read
      (before.addFile (settings.inMode false) read source).1 back
    rw [← reached] at later
    rwa [addFile_lenient] at later
  refine ⟨by rw [lenient], ?_, run.recorded settings read source, by rw [lenient]⟩
  rw [lenient]
  exact settles.again before.gathered run.gathered kept

def namedPets : SourceFile :=
  ⟨"pets", [⟨"Pet", .named "String", "@openapi:schema"⟩],
    ["@openapi:path\n/pets:\n  get:\n    summary: All pets"]⟩

def abandonedOwners : SourceFile :=
  ⟨"owners",
    [⟨"Pet", .named "u32", "@openapi:schema"⟩,
      ⟨"Owner", .record [.mk (some "name") (.named "String") "" [⟨"jsonapi", "attr = \"name\""⟩]],
        "@openapi:schema"⟩],
    ["@openapi:info\ntitle: Owners\ndescription: import(owners.md)"]⟩

def ownersReader : Document.FileReader := fun _ => .ok "All owners"

theorem addFile_again_owners :
    let run := (({} : Compilation).addFiles (Settings.inMode {} false) ownersReader
      [abandonedOwners, namedPets, abandonedOwners]).1
    let again := run.addFile (Settings.inMode {} false) ownersReader abandonedOwners
    run.gathered.registry.conflicts = ["Pet"] ∧
      run.gathered.document.info.description = "All owners" ∧
      abandonedOwners ∈ [abandonedOwners, namedPets, abandonedOwners] ∧
      again.2 = none ∧ again.1.gathered = run.gathered ∧
      ∃ more, again.1.diagnostics = run.diagnostics ++ more := by
  have member : abandonedOwners ∈ [abandonedOwners, namedPets, abandonedOwners] := by simp
  refine ⟨by decide +kernel, by decide +kernel, member, ?_⟩
  exact addFile_again {} ownersReader {} member

end Compilation

end ApiScribe
