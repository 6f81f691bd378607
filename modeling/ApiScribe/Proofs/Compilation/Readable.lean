import ApiScribe.Proofs.Compilation.Declarations
import ApiScribe.Proofs.Document.Unnamed
import ApiScribe.Proofs.Resource.Readable

set_option autoImplicit false

namespace ApiScribe

open ApiScribe.Tree SchemaNode Resolve

def Product.Readable : Product → Prop
  | .resource found => ObjectWith (Throughout Legible) found.attributes
  | .schema found => found.Readable
  | .nothing => True

namespace Declaration

/-- The shape that the source of a declaration has: a record stands only at the top of it, and a path
only before an identifier. -/
def Lowered (declaration : Declaration) : Prop :=
  match declaration.shape with
  | .record fields => ∀ field ∈ fields, field.shape.isFlat = true
  | shape => shape.isFlat = true

theorem product_readable {declaration : Declaration} (lowered : declaration.Lowered)
    {table : ExternalTypes} {customName : Option String} {product : Product}
    (produced : (declaration.product table customName).1 = .ok product) : product.Readable := by
  unfold Declaration.product at produced
  unfold Lowered at lowered
  dsimp only at produced
  split at produced
  next fields shape =>
    rcases analyzed : Resource.analyze table declaration.name customName (annotated fields) with
      ⟨outcome, found⟩
    rw [analyzed] at produced
    match outcome with
    | .error failure => cases produced
    | .ok (some resource) =>
      cases produced
      exact Resource.analyze_objectWith (Resource.annotated_specified fields)
        (congrArg Prod.fst analyzed)
    | .ok none =>
      cases produced
      exact resolveRecord_readable table declaration.name fields
  next shape other =>
    rcases resolved : resolve table (some declaration.name) declaration.shape none with
      ⟨result, found⟩
    rw [resolved] at produced
    cases result with
    | error error =>
      cases produced
      trivial
    | ok node =>
      cases produced
      -- Under an optional layer a record with embedded fields would be taken for a composition.
      have flat : declaration.shape.isFlat = true := by
        split at lowered
        next fields same => exact absurd same (other fields)
        next => exact lowered
      exact resolve_readable flat (congrArg Prod.fst resolved)

theorem withExample_readable (declaration : Declaration) {schema : Schema}
    (readable : schema.Readable) : (declaration.withExample schema).1.Readable := by
  unfold withExample
  split
  next => exact readable
  next raw _ =>
    split
    next => exact readable
    next value converted =>
      cases schema with
      | composed members names => exact readable
      | plain node =>
        refine ⟨readable.legible.change rfl fun legible => ?_, readable.evident⟩
        refine { legible with example? := ?_ }
        intro v same
        cases same
        exact convertExample_back converted

theorem given_readable {declaration : Declaration} (lowered : declaration.Lowered)
    (table : ExternalTypes) : (declaration.given table).Readable := by
  unfold given
  split
  next => trivial
  next marker _ =>
    split
    next => trivial
    next schema produced =>
      have readable : schema.Readable := product_readable lowered produced
      have shown := declaration.withExample_readable readable
      change Schema.Readable _
      split
      next => exact shown.withNames _
      next => exact shown
    next product _ produced => exact product_readable lowered produced

end Declaration

structure Gathered.Readable (gathered : Gathered) : Prop where
  registry : gathered.registry.Readable
  resources : gathered.resources.Readable
  document : gathered.document.Filled

/-- The declarations of the file have the shapes that sources have, and the operations of its blocks
could be read from values. What an info block holds can be read back in any case. -/
structure SourceFile.Regular (source : SourceFile) : Prop where
  lowered : ∀ declaration ∈ source.declarations, declaration.Lowered
  blocks : ∀ block ∈ source.docs.flatMap Block.find, block.OfValue

namespace Gathered

theorem Readable.empty : ({} : Gathered).Readable where
  registry := Registry.empty_readable
  resources := by simp [ResourceGraph.Readable]
  document := Document.Filled.empty

theorem Readable.declare {gathered : Gathered} (readable : gathered.Readable)
    (table : ExternalTypes) {declaration : Declaration} (lowered : declaration.Lowered) :
    (gathered.declare table declaration).gathered.Readable := by
  have given := Declaration.given_readable lowered table
  rw [declare_gathered]
  cases product : declaration.given table with
  | nothing => exact readable
  | schema schema =>
    rw [product] at given
    exact { readable with registry := readable.registry.register declaration.name given }
  | resource resource =>
    rw [product] at given
    exact { readable with resources := readable.resources.insert given }

theorem Readable.declareAll {gathered : Gathered} (readable : gathered.Readable)
    (table : ExternalTypes) {declarations : List Declaration}
    (lowered : ∀ declaration ∈ declarations, declaration.Lowered) :
    (gathered.declareAll table declarations).gathered.Readable := by
  induction declarations generalizing gathered with
  | nil => exact readable
  | cons declaration rest ih =>
    rw [List.forall_mem_cons] at lowered
    have here := readable.declare table lowered.1
    unfold Gathered.declareAll
    dsimp only
    split
    next => exact here
    next => exact ih here lowered.2

theorem Readable.applyBlocks {gathered : Gathered} (readable : gathered.Readable)
    (read : Document.FileReader) (base : Option String) {blocks : List Block}
    (given : ∀ block ∈ blocks, block.OfValue) :
    (gathered.applyBlocks read base blocks).gathered.Readable := by
  induction blocks generalizing gathered with
  | nil => exact readable
  | cons block rest ih =>
    rw [List.forall_mem_cons] at given
    have document := readable.document.applyBlock read base given.1
    exact ih { readable with document } given.2

theorem Readable.addFile {gathered : Gathered} (readable : gathered.Readable)
    (table : ExternalTypes) (read : Document.FileReader) {source : SourceFile}
    (given : source.Regular) : (gathered.addFile table read source).gathered.Readable := by
  have blocks (kind : BlockKind) : ∀ block ∈ blocksOf source kind, block.OfValue :=
    fun block member => given.blocks block (List.mem_of_mem_filter member)
  have informed := readable.applyBlocks read (Path.parent? source.path) (blocks .info)
  have declared := informed.declareAll table given.lowered
  unfold Gathered.addFile
  dsimp only
  split
  next => exact declared
  next => exact declared.applyBlocks read _ (blocks .path)

theorem Readable.finalize {gathered : Gathered} (readable : gathered.Readable) {includes : Bool}
    {doc : Document} (finalized : gathered.finalize includes = .ok doc) : doc.Filled := by
  simp only [Gathered.finalize, bind, Except.bind] at finalized
  split at finalized
  next => cases finalized
  next registry registered =>
    split at finalized
    next => cases finalized
    next schemas published =>
      cases finalized
      have all := readable.resources.registerEnvelopes readable.registry registered
      obtain ⟨sorted, each⟩ := all.finalize published
      exact readable.document.withSchemas sorted each

end Gathered

namespace Compilation

variable (settings : Settings) (read : Document.FileReader)

theorem addFile_gathered (run : Compilation) (source : SourceFile) :
    (run.addFile settings read source).1.gathered =
      (run.gathered.addFile settings.table read source).gathered := by
  unfold Compilation.addFile
  dsimp only
  split
  next => rfl
  next => split <;> rfl

theorem addFiles_readable {files : List SourceFile} (given : ∀ source ∈ files, source.Regular)
    {run : Compilation} (readable : run.gathered.Readable) :
    (run.addFiles settings read files).1.gathered.Readable := by
  induction files generalizing run with
  | nil => exact readable
  | cons source rest ih =>
    rw [List.forall_mem_cons] at given
    have here := readable.addFile settings.table read given.1
    rw [← addFile_gathered] at here
    -- A failure ends the run, with all that was gathered before it.
    unfold addFiles
    split
    next after added =>
      rw [added] at here
      exact ih given.2 here
    next => exact here

/-- The document that a run ends with, in either mode, is read back as an equal one once it is written,
and every component schema comes back composed exactly if it was. -/
theorem finalize_reread {files : List SourceFile} (given : ∀ source ∈ files, source.Regular)
    {doc : Document}
    (finalized : (({} : Compilation).addFiles settings read files).1.finalize settings = .ok doc) :
    ∃ copy, Document.decode? (ofValue doc.encode) = some copy ∧ (doc == copy) = true ∧
      ∀ name, (copy.schema? name).map Schema.isComposed =
        (doc.schema? name).map Schema.isComposed := by
  have gathered : (({} : Compilation).addFiles settings read files).1.gathered.Readable :=
    addFiles_readable settings read given Gathered.Readable.empty
  have filled := gathered.finalize finalized
  refine ⟨doc.unnamed, filled.decode?_encode, doc.beq_unnamed, fun name => ?_⟩
  rw [Document.schema?_unnamed, Option.map_map]
  exact Option.map_congr fun schema _ => schema.isComposed_unnamed

def kennel : SourceFile :=
  ⟨"kennel",
    [⟨"Pet", .record [
        .mk none (.named "Animal") "" [],
        .mk (some "age") (.optional (.named "u8")) "@openapi:example 3" []],
      "@openapi:schema"⟩,
      ⟨"Owner", .record [
        .mk (some "id") (.named "String") "" [⟨"jsonapi", "primary = \"owners\""⟩],
        .mk (some "pets") (.sequence (.named "Pet")) "" [⟨"jsonapi", "relation = \"pets\""⟩]],
      "@openapi:schema"⟩,
      ⟨"Animal", .enumeration ["cat", "dog"], "@openapi:schema:Kind"⟩],
    ["@openapi:path\n/pets:\n  get:\n    summary: All pets", "@openapi:info\ntitle: Kennel"]⟩

def kennelRun : Compilation := (({} : Compilation).addFiles {} (fun _ => .error "") [kennel]).1

def isPetList : Dict PathItem → Bool
  | [(url, [(verb, ⟨summary, "", "", [], [], [], none, [], [], false, [], none⟩)])] =>
    url == "/pets" && verb == "get" && summary == "All pets"
  | _ => false

theorem isPetList_ofValue {paths : Dict PathItem} (listed : isPetList paths = true) :
    ∃ v, paths? (ofValue v) = some paths := by
  refine ⟨.object [("/pets", .object [("get", .object [("summary", .text "All pets")])])], ?_⟩
  unfold isPetList at listed
  split at listed
  next url verb summary =>
    simp only [Bool.and_eq_true, beq_iff_eq] at listed
    obtain ⟨⟨rfl, rfl⟩, rfl⟩ := listed
    rfl
  next => cases listed

theorem kennel_regular : kennel.Regular where
  lowered := by
    simp [kennel, Declaration.Lowered, Field.shape, Shape.isFlat]
  blocks := by
    have found : kennel.docs.flatMap Block.find =
        [⟨.path, "/pets:\n  get:\n    summary: All pets"⟩, ⟨.info, "title: Kennel"⟩] := by
      decide +kernel
    have listed : ((decodeBlock pathsOutline paths?
        "/pets:\n  get:\n    summary: All pets").toOption.all (·.all isPetList)) = true := by
      decide +kernel
    rw [found]
    intro block member
    simp only [List.mem_cons, List.not_mem_nil, or_false] at member
    rcases member with rfl | rfl
    · intro _ paths same
      rw [same] at listed
      exact isPetList_ofValue listed
    · intro kind
      cases kind

theorem finalize_reread_kennel :
    kennel.Regular ∧ ∃ doc, kennelRun.finalize {} = .ok doc ∧
      doc.components.schemas.length = 11 ∧
      (doc.schema? "Pet").map Schema.isComposed = some true ∧
      ∃ copy, Document.decode? (ofValue doc.encode) = some copy ∧ (doc == copy) = true ∧
        ∀ name, (copy.schema? name).map Schema.isComposed =
          (doc.schema? name).map Schema.isComposed := by
  have compiled : ((kennelRun.finalize {}).toOption.any fun doc =>
      doc.components.schemas.length == 11 &&
        (doc.schema? "Pet").map Schema.isComposed == some true) = true := by decide +kernel
  cases finalized : kennelRun.finalize {} with
  | error failure => simp [finalized, Except.toOption] at compiled
  | ok doc =>
    simp only [finalized, Except.toOption, Option.any_some, Bool.and_eq_true, beq_iff_eq] at compiled
    have given : ∀ source ∈ [kennel], source.Regular := by simp [kennel_regular]
    exact ⟨kennel_regular, doc, rfl, compiled.1, compiled.2,
      finalize_reread {} (fun _ => .error "") given finalized⟩

end Compilation

end ApiScribe
