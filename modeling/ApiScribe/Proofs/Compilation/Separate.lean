import ApiScribe.Proofs.Compilation.Growth
import ApiScribe.Proofs.Document.MergeAll
import ApiScribe.Proofs.Registry.Order

set_option autoImplicit false

namespace ApiScribe

namespace Registry

def Unnamed (calls : List (String × Schema)) : Prop := ∀ call ∈ calls, call.2.customName = none

section Unnamed

variable {calls : List (String × Schema)} (unnamed : Unnamed calls)

include unnamed

theorem registered?_unnamed {name : String} {schema : Schema}
    (found : registered? calls name = some schema) : schema.customName = none := by
  rcases List.mem_cons.mp (Dict.mem_of_get? found) with same | member
  · cases same
    rfl
  · exact unnamed _ member

theorem custom?_unnamed (name : String) : custom? calls name = none := by
  cases found : registered? calls name with
  | none => simp [custom?, found]
  | some schema => simp [custom?, found, registered?_unnamed unnamed found]

theorem display_unnamed (name : String) : display calls name = name := by
  simp [display, custom?_unnamed unnamed]

theorem turn_unnamed : turn calls = id := by
  funext reference
  cases named : refName? reference <;> simp [turn, named, custom?_unnamed unnamed]

theorem succeeds_unnamed :
    (∃ published, (empty.registerAll calls).finalize = .ok published) ↔ Agreeing calls := by
  rw [succeeds_iff, and_iff_left_iff_imp]
  intro _ m n _ _ same
  rwa [display_unnamed unnamed, display_unnamed unnamed] at same

theorem get?_published_unnamed {published : Dict Schema}
    (succeeded : (empty.registerAll calls).finalize = .ok published) (name : String) :
    Dict.get? published name = (registered? calls name).map (kept name) := by
  cases found : registered? calls name with
  | none =>
    rw [Option.map_none, Dict.get?_eq_none_iff, (keys_published succeeded).2]
    rintro ⟨other, registered, same⟩
    rw [display_unnamed unnamed] at same
    subst same
    simp [found] at registered
  | some schema =>
    have value := get?_published succeeded found
    rwa [display_unnamed unnamed, turn_unnamed unnamed, Schema.mapReferences_id] at value

end Unnamed

theorem registered?_append (calls more : List (String × Schema)) (name : String) :
    registered? (calls ++ more) name = (registered? calls name).or (registered? more name) := by
  by_cases any : Schema.anyValueName = name
  · simp [registered?, first, Dict.get?, any]
  · simp [registered?, first, Dict.get?, any, Dict.get?_append]

open FirstWins in
theorem registered?_of_consistent {calls : List (String × Schema)}
    (consistent : Consistent view (first :: calls)) {call : String × Schema}
    (member : call ∈ first :: calls) :
    ∃ schema, registered? calls call.1 = some schema ∧ view schema = view call.2 := by
  obtain ⟨schema, found⟩ := (Dict.get?_isSome_iff (first :: calls) call.1).mpr
    (List.mem_map_of_mem member)
  exact ⟨schema, found, consistent _ (Dict.mem_of_get? found) call member rfl⟩

-- In either list all registrations of a name look like the first, so only these need to agree.
theorem agreeing_append_iff {calls more : List (String × Schema)} (left : Agreeing calls)
    (right : Agreeing more) :
    Agreeing (calls ++ more) ↔ ∀ name a b, registered? calls name = some a →
      registered? more name = some b → view a = view b := by
  rw [agreeing_iff] at left right ⊢
  have parts {call : String × Schema} :
      call ∈ first :: (calls ++ more) ↔ call ∈ first :: calls ∨ call ∈ first :: more := by
    simp only [List.mem_cons, List.mem_append]
    tauto
  constructor
  · intro all name a b here there
    exact all (name, a) (parts.mpr (.inl (Dict.mem_of_get? here))) (name, b)
      (parts.mpr (.inr (Dict.mem_of_get? there))) rfl
  · intro agree
    have across {a b : String × Schema} (inCalls : a ∈ first :: calls) (inMore : b ∈ first :: more)
        (same : a.1 = b.1) : view a.2 = view b.2 := by
      obtain ⟨x, here, looks⟩ := registered?_of_consistent left inCalls
      obtain ⟨y, there, looksToo⟩ := registered?_of_consistent right inMore
      rw [← looks, ← looksToo]
      exact agree a.1 x y here (same ▸ there)
    intro a aMember b bMember same
    rcases parts.mp aMember with aLeft | aRight <;> rcases parts.mp bMember with bLeft | bRight
    · exact left a aLeft b bLeft same
    · exact across aLeft bRight same
    · exact (across bLeft aRight same.symm).symm
    · exact right a aRight b bRight same

end Registry

namespace SourceFile

theorem calls_unnamed {table : ExternalTypes} {files : List SourceFile}
    (plain : ∀ source ∈ files, source.Plain) :
    Registry.Unnamed (files.flatMap (calls table)) := by
  intro call member
  obtain ⟨source, inFiles, inCalls⟩ := List.mem_flatMap.mp member
  obtain ⟨declaration, declared, found⟩ := List.mem_filterMap.mp inCalls
  rw [Declaration.schema?] at found
  rcases Declaration.given_plain (plain source inFiles declaration declared) table with
    none | ⟨schema, given, unnamed⟩
  · rw [none] at found
    cases found
  · rw [given] at found
    cases found
    exact unnamed

end SourceFile

namespace Compilation

variable (settings : Settings) (read : Document.FileReader)

def compile (files : List SourceFile) : Except Failure Document :=
  (({} : Compilation).addFiles (settings.inMode false) read files).1.finalize settings

structure Compiled (files : List SourceFile) (document : Document) : Prop where
  unnamed : Registry.Unnamed (files.flatMap (SourceFile.calls settings.table))
  agreeing : Registry.Agreeing (files.flatMap (SourceFile.calls settings.table))
  routes : ∀ route, Document.byRoute.get? document route =
    (Document.routes (files.flatMap SourceFile.entries)).lookup route
  names : ∀ name, Document.byName.get? document name =
    (Registry.registered? (files.flatMap (SourceFile.calls settings.table)) name).map
      (Registry.kept name)
  ordered : document.Ordered
  routed : ({} : Document).Routed document

theorem compile_eq {files : List SourceFile} (plain : ∀ source ∈ files, source.Plain) :
    ∃ document : Document,
      ({} : Document).Extends document (files.flatMap SourceFile.entries) ∧
      compile settings read files =
        (Registry.empty.registerAll
          (files.flatMap (SourceFile.calls settings.table))).finalize.map document.withSchemas := by
  have grown := addFiles_grows settings read plain {}
  refine ⟨_, grown.document, ?_⟩
  -- There are no resources, so there are no envelopes to register.
  have envelopes : ({} : ResourceGraph).registerEnvelopes settings.includes
      (Registry.empty.registerAll (files.flatMap (SourceFile.calls settings.table))) =
        .ok (Registry.empty.registerAll (files.flatMap (SourceFile.calls settings.table))) := rfl
  have resources : (({} : Compilation).addFiles (settings.inMode false) read
      files).1.gathered.resources = {} := grown.resources
  have registry : (({} : Compilation).addFiles (settings.inMode false) read
      files).1.gathered.registry =
        Registry.empty.registerAll (files.flatMap (SourceFile.calls settings.table)) :=
    grown.registry
  simp only [compile, finalize, Gathered.finalize, registry, resources, envelopes, bind,
    Except.bind]
  cases (Registry.empty.registerAll
    (files.flatMap (SourceFile.calls settings.table))).finalize <;> rfl

variable {settings} {read}

theorem compiled_of_ok {files : List SourceFile} (plain : ∀ source ∈ files, source.Plain)
    {document : Document} (ok : compile settings read files = .ok document) :
    Compiled settings files document := by
  obtain ⟨base, extended, outcome⟩ := compile_eq settings read plain
  rw [outcome] at ok
  cases published : (Registry.empty.registerAll
      (files.flatMap (SourceFile.calls settings.table))).finalize with
  | error failure =>
    rw [published] at ok
    cases ok
  | ok schemas =>
    rw [published] at ok
    obtain rfl : base.withSchemas schemas = document := Except.ok.inj ok
    have unnamed : Registry.Unnamed (files.flatMap (SourceFile.calls settings.table)) :=
      SourceFile.calls_unnamed plain
    have ordered : base.Ordered :=
      extended.ordered ⟨by simp [Dict.Sorted], by simp, by simp [Dict.Sorted]⟩
    have found (route : String × String) :
        Document.byRoute.get? base route = (Document.routes _).lookup route :=
      extended.found route
    exact ⟨unnamed, Registry.agreeing_of_finalize published, found,
      Registry.get?_published_unnamed unnamed published,
      ⟨ordered.urls, ordered.verbs, (Registry.keys_published published).1⟩,
      extended.routed {} (Document.routed_refl {})⟩

theorem compile_ok_iff {files : List SourceFile} (plain : ∀ source ∈ files, source.Plain) :
    (∃ document, compile settings read files = .ok document) ↔
      Registry.Agreeing (files.flatMap (SourceFile.calls settings.table)) := by
  obtain ⟨base, -, outcome⟩ := compile_eq settings read plain
  rw [← Registry.succeeds_unnamed (SourceFile.calls_unnamed plain), outcome]
  cases (Registry.empty.registerAll
    (files.flatMap (SourceFile.calls settings.table))).finalize <;> simp [Except.map]

theorem compile_failure {files : List SourceFile} (plain : ∀ source ∈ files, source.Plain)
    (disagreeing : ¬ Registry.Agreeing (files.flatMap (SourceFile.calls settings.table))) :
    ∃ name, compile settings read files = .error (.duplicateSchema name) := by
  obtain ⟨base, -, outcome⟩ := compile_eq settings read plain
  rw [← Registry.succeeds_unnamed (SourceFile.calls_unnamed plain)] at disagreeing
  obtain ⟨name, failed⟩ := Registry.finalize_failure (Registry.history_follows _).sorted disagreeing
  exact ⟨name, by rw [outcome, failed]; rfl⟩

section Joint

variable {front back : List SourceFile} {left right : Document}
  (first : Compiled settings front left) (second : Compiled settings back right)

include first second

theorem agreeing_joint_iff :
    Registry.Agreeing ((front ++ back).flatMap (SourceFile.calls settings.table)) ↔
      Document.byName.Agree left right := by
  rw [List.flatMap_append, Registry.agreeing_append_iff first.agreeing second.agreeing]
  constructor
  · intro agree name x y here there
    rw [first.names] at here
    rw [second.names] at there
    obtain ⟨a, inFront, rfl⟩ := Option.map_eq_some_iff.mp here
    obtain ⟨b, inBack, rfl⟩ := Option.map_eq_some_iff.mp there
    rw [Schema.seenBy_content, Registry.content_kept, Registry.content_kept]
    exact congrArg Prod.fst (agree name a b inFront inBack)
  · intro agree name a b inFront inBack
    have equal := agree name (Registry.kept name a) (Registry.kept name b)
      (by rw [first.names, inFront, Option.map_some])
      (by rw [second.names, inBack, Option.map_some])
    rw [Schema.seenBy_content, Registry.content_kept, Registry.content_kept] at equal
    rw [Registry.view, Registry.view, equal, Registry.registered?_unnamed first.unnamed inFront,
      Registry.registered?_unnamed second.unnamed inBack]

theorem joint_eq_merged {joint merged : Document} (both : Compiled settings (front ++ back) joint)
    (routes : Document.byRoute.Union merged left right)
    (names : Document.byName.Union merged left right) (ordered : merged.Ordered)
    (routed : ({} : Document).Routed merged) :
    joint.paths = merged.paths ∧ joint.components.schemas = merged.components.schemas := by
  have sameRoutes (route : String × String) :
      Document.byRoute.get? joint route = Document.byRoute.get? merged route := by
    rw [both.routes, routes, first.routes, second.routes, Document.routes, List.flatMap_append,
      List.map_append, List.lookup_append]
    rfl
  have sameNames (name : String) :
      Document.byName.get? joint name = Document.byName.get? merged name := by
    rw [both.names, names, first.names, second.names, List.flatMap_append,
      Registry.registered?_append, Option.map_or]
  constructor
  · have viewed (route : String × String) : (Document.byRoute.get? joint route).map id =
        (Document.byRoute.get? merged route).map id := by rw [sameRoutes]
    have paths := Document.paths_ext both.ordered ordered
      (both.routed.urls_congr routed viewed) viewed
    simpa [Dict.mapValues] using paths
  · exact Dict.Sorted.ext both.ordered.schemas ordered.schemas sameNames

end Joint

/-- Files compiled apart and merged give what they give when they are compiled together, if no
declaration has a custom name and no field a `jsonapi` attribute: where the merge succeeds, the
common run has the paths and schemas of the merged document, and where schemas stop the merge, the
common run reports a schema that is declared twice. -/
theorem compile_append (settings : Settings) (read : Document.FileReader)
    {front back : List SourceFile} (frontPlain : ∀ source ∈ front, source.Plain)
    (backPlain : ∀ source ∈ back, source.Plain) {left right : Document}
    (leftOk : compile settings read front = .ok left)
    (rightOk : compile settings read back = .ok right) (source : String) :
    ((left.merge right source).2 = none →
      ∃ joint, compile settings read (front ++ back) = .ok joint ∧
        joint.paths = (left.merge right source).1.paths ∧
        joint.components.schemas = (left.merge right source).1.components.schemas) ∧
    ∀ name origin, (left.merge right source).2 = some (.schemaConflict name origin) →
      ∃ other, compile settings read (front ++ back) = .error (.duplicateSchema other) := by
  have first := compiled_of_ok frontPlain leftOk
  have second := compiled_of_ok backPlain rightOk
  have plain : ∀ source ∈ front ++ back, source.Plain := by
    intro source member
    exact (List.mem_append.mp member).elim (frontPlain source) (backPlain source)
  constructor
  · intro succeeded
    have compatible := (Document.merge_eq_none_iff left source second.ordered).mp succeeded
    obtain ⟨joint, jointOk⟩ := (compile_ok_iff plain).mpr
      ((agreeing_joint_iff first second).mpr compatible.2)
    obtain ⟨routes, names⟩ := Document.merge_union left source second.ordered succeeded
    exact ⟨joint, jointOk, joint_eq_merged first second (compiled_of_ok plain jointOk) routes names
      (Document.merge_ordered right source first.ordered) (first.routed.merge right source)⟩
  · intro name origin failed
    apply compile_failure plain
    rw [agreeing_joint_iff first second]
    intro agree
    rcases Document.merge_failure left source second.ordered failed with
      ⟨url, verb, same, -⟩ | ⟨-, other, -, ⟨x, y, here, there, differs⟩, -⟩
    · cases same
    · rw [agree other x y here there] at differs
      cases differs

def petDeclaration : Declaration :=
  ⟨"Pet", .record [.mk (some "name") (.named "String") "" []], "@openapi:schema"⟩

def shopDeclaration : Declaration :=
  ⟨"Shop", .record [.mk (some "pets") (.sequence (.named "Pet")) "" []], "@openapi:schema"⟩

def petFiles : List SourceFile :=
  [⟨"pets", [petDeclaration], ["@openapi:path\n/pets:\n  get:\n    summary: All pets"]⟩]

def shopFiles : List SourceFile :=
  [⟨"shops", [shopDeclaration, petDeclaration],
    ["@openapi:path\n/shops:\n  get:\n    summary: All shops"]⟩]

def emptyReader : Document.FileReader := fun _ => .error "not found"

theorem compile_append_pets :
    ∃ left right joint, compile {} emptyReader petFiles = .ok left ∧
      compile {} emptyReader shopFiles = .ok right ∧ (left.merge right "shops").2 = none ∧
      compile {} emptyReader (petFiles ++ shopFiles) = .ok joint ∧
      joint.paths = (left.merge right "shops").1.paths ∧ joint.paths.length = 2 ∧
      joint.components.schemas = (left.merge right "shops").1.components.schemas := by
  have marked : SchemaMarker.find? "@openapi:schema" = some ⟨none⟩ := by decide +kernel
  have record (name : String) (fields : List Field) (bare : ∀ f ∈ fields, f.attributes = []) :
      Declaration.Plain ⟨name, .record fields, "@openapi:schema"⟩ := by
    constructor
    · intro marker found
      rw [marked] at found
      cases found
      rfl
    · intro others same f member
      cases same
      simp [bare f member]
  have pet : petDeclaration.Plain := record _ _ (by simp [Field.attributes])
  have shop : shopDeclaration.Plain := record _ _ (by simp [Field.attributes])
  have petsPlain : ∀ source ∈ petFiles, source.Plain := by
    simp [petFiles, SourceFile.Plain, pet]
  have shopsPlain : ∀ source ∈ shopFiles, source.Plain := by
    simp [shopFiles, SourceFile.Plain, pet, shop]
  have merges : ((compile {} emptyReader petFiles).toOption.any fun left =>
      (compile {} emptyReader shopFiles).toOption.any fun right =>
        (left.merge right "shops").2.isNone &&
          (left.merge right "shops").1.paths.length == 2) = true := by decide +kernel
  cases leftOk : compile {} emptyReader petFiles with
  | error failure => simp [leftOk, Except.toOption] at merges
  | ok left =>
    cases rightOk : compile {} emptyReader shopFiles with
    | error failure => simp [leftOk, rightOk, Except.toOption] at merges
    | ok right =>
      simp only [leftOk, rightOk, Except.toOption, Option.any_some, Bool.and_eq_true,
        Option.isNone_iff_eq_none, beq_iff_eq] at merges
      obtain ⟨joint, jointOk, paths, schemas⟩ :=
        (compile_append {} emptyReader petsPlain shopsPlain leftOk rightOk "shops").1 merges.1
      exact ⟨left, right, joint, rfl, rfl, merges.1, jointOk, paths, paths ▸ merges.2, schemas⟩

end Compilation

end ApiScribe
