import ApiScribe.Document
import ApiScribe.Proofs.Dict
import ApiScribe.Proofs.Keyed

set_option autoImplicit false

namespace ApiScribe.Document

structure Ordered (doc : Document) : Prop where
  urls : Dict.Sorted doc.paths
  verbs : ∀ entry ∈ doc.paths, Dict.Sorted entry.2
  schemas : Dict.Sorted doc.components.schemas

theorem operation?_addOperation (doc : Document) (url verb : String) (operation : Operation)
    (route : String × String) :
    (doc.addOperation url verb operation).operation? route.1 route.2 =
      if (url, verb) = route then some operation else doc.operation? route.1 route.2 := by
  obtain ⟨otherUrl, otherVerb⟩ := route
  simp only [operation?, addOperation, Dict.get?_insert, Prod.mk.injEq]
  by_cases sameUrl : url = otherUrl
  · subst sameUrl
    simp only [if_true, Option.bind_some, Dict.get?_insert, true_and]
    cases Dict.get? doc.paths url <;> simp [Dict.get?]
  · simp [sameUrl]

theorem schema?_addSchema (doc : Document) (name : String) (schema : Schema) (other : String) :
    (doc.addSchema name schema).schema? other =
      if name = other then some schema else doc.schema? other :=
  Dict.get?_insert _ name other schema

def byRoute : Keyed Document (String × String) Operation where
  get? doc route := doc.operation? route.1 route.2
  add doc route operation := doc.addOperation route.1 route.2 operation
  get?_add doc route operation other := operation?_addOperation doc route.1 route.2 operation other

def byName : Keyed Document String Schema where
  get? := schema?
  add := addSchema
  get?_add := schema?_addSchema

def routes (entries : List PathEntry) : List ((String × String) × Operation) :=
  entries.map fun e => ((e.1, e.2.1), e.2.2)

theorem mem_routes_iff {doc : Document} (ordered : doc.Ordered) (route : String × String)
    (operation : Operation) :
    (route, operation) ∈ routes (pathEntries doc.paths) ↔
      doc.operation? route.1 route.2 = some operation := by
  obtain ⟨url, verb⟩ := route
  simp only [routes, pathEntries, List.map_flatMap, List.map_map, List.mem_flatMap, List.mem_map,
    Function.comp_apply, Prod.mk.injEq, operation?, Option.bind_eq_some_iff]
  constructor
  · rintro ⟨⟨url, item⟩, inPaths, ⟨verb, operation⟩, inItem, ⟨rfl, rfl⟩, rfl⟩
    exact ⟨item, Dict.get?_of_mem ordered.urls.nodup inPaths,
      Dict.get?_of_mem (ordered.verbs _ inPaths).nodup inItem⟩
  · rintro ⟨item, inPaths, inItem⟩
    exact ⟨(url, item), Dict.mem_of_get? inPaths, (verb, operation), Dict.mem_of_get? inItem,
      ⟨rfl, rfl⟩, rfl⟩

theorem routes_ordered {doc : Document} (ordered : doc.Ordered) :
    (routes (pathEntries doc.paths)).Pairwise fun a b => Prod.Lex (· < ·) (· < ·) a.1 b.1 := by
  simp only [routes, pathEntries, List.map_flatMap, List.map_map, List.pairwise_flatMap,
    List.pairwise_map, List.mem_map, Function.comp_apply]
  constructor
  · intro entry member
    exact (List.pairwise_map.mp (ordered.verbs entry member)).imp fun less => .right _ less
  · refine (List.pairwise_map.mp ordered.urls).imp fun less => ?_
    rintro _ ⟨a, -, rfl⟩ _ ⟨b, -, rfl⟩
    exact .left _ _ less

theorem lists_routes {doc : Document} (ordered : doc.Ordered) :
    byRoute.Lists doc (routes (pathEntries doc.paths)) where
  mem_iff := mem_routes_iff ordered
  distinct := by
    refine List.pairwise_map.mpr ((routes_ordered ordered).imp ?_)
    rintro a b before same
    rw [same, Prod.lex_def] at before
    rcases before with less | ⟨-, less⟩ <;> exact String.lt_irrefl _ less

theorem lists_schemas {doc : Document} (ordered : doc.Ordered) :
    byName.Lists doc doc.components.schemas where
  mem_iff _ _ := ⟨Dict.get?_of_mem ordered.schemas.nodup, Dict.mem_of_get?⟩
  distinct := ordered.schemas.nodup

theorem mergeOperations_eq (source : String) (main : Document) (entries : List PathEntry) :
    mergeOperations source main entries =
      ((byRoute.extend main (routes entries)).1, (byRoute.extend main (routes entries)).2.map
        fun route => .pathConflict route.1 route.2 source) := by
  induction entries generalizing main with
  | nil => rfl
  | cons entry rest ih =>
    obtain ⟨url, verb, operation⟩ := entry
    rw [mergeOperations, routes, List.map_cons]
    cases found : main.operation? url verb with
    | none =>
      have absent : byRoute.get? main (url, verb) = none := found
      rw [Keyed.extend_absent _ absent]
      exact ih _
    | some present =>
      have here : byRoute.get? main (url, verb) = some present := found
      by_cases equal : (present == operation) = true
      · simp only [equal, if_true]
        rw [Keyed.extend_equal _ here equal]
        exact ih main
      · simp only [equal]
        rw [Keyed.extend_different _ here equal]
        rfl

theorem mergeSchemas_eq (source : String) (main : Document) (entries : List (String × Schema)) :
    mergeSchemas source main entries =
      ((byName.extend main entries).1, (byName.extend main entries).2.map
        fun name => .schemaConflict name source) := by
  induction entries generalizing main with
  | nil => rfl
  | cons entry rest ih =>
    obtain ⟨name, schema⟩ := entry
    rw [mergeSchemas]
    cases found : main.schema? name with
    | none =>
      have absent : byName.get? main name = none := found
      rw [Keyed.extend_absent _ absent]
      exact ih _
    | some present =>
      have here : byName.get? main name = some present := found
      by_cases equal : (present == schema) = true
      · simp only [equal, if_true]
        rw [Keyed.extend_equal _ here equal]
        exact ih main
      · simp only [equal]
        rw [Keyed.extend_different _ here equal]
        rfl

theorem addOperation_ordered {doc : Document} (ordered : doc.Ordered) (url verb : String)
    (operation : Operation) : (doc.addOperation url verb operation).Ordered where
  urls := Dict.insert_sorted ordered.urls _ _
  verbs := by
    intro entry member
    rcases Dict.mem_insert member with rfl | present
    · apply Dict.insert_sorted
      cases found : Dict.get? doc.paths url with
      | none => simp [Dict.Sorted]
      | some item => exact ordered.verbs _ (Dict.mem_of_get? found)
    · exact ordered.verbs entry present
  schemas := ordered.schemas

theorem addSchema_ordered {doc : Document} (ordered : doc.Ordered) (name : String)
    (schema : Schema) : (doc.addSchema name schema).Ordered where
  urls := ordered.urls
  verbs := ordered.verbs
  schemas := Dict.insert_sorted ordered.schemas _ _

def Routed (main doc : Document) : Prop :=
  ∀ url, url ∈ Dict.keys doc.paths ↔
    url ∈ Dict.keys main.paths ∨ ∃ verb operation, doc.operation? url verb = some operation

theorem routed_refl (main : Document) : main.Routed main := by
  intro url
  refine ⟨.inl, ?_⟩
  rintro (here | ⟨verb, operation, found⟩)
  · exact here
  · obtain ⟨item, here, -⟩ := Option.bind_eq_some_iff.mp found
    exact (Dict.get?_isSome_iff _ _).mp ⟨item, here⟩

theorem Routed.addOperation {main doc : Document} (before : main.Routed doc) (url verb : String)
    (operation : Operation) : main.Routed (doc.addOperation url verb operation) := by
  intro other
  have keys : other ∈ Dict.keys (doc.addOperation url verb operation).paths ↔
      other = url ∨ other ∈ Dict.keys doc.paths := Dict.mem_keys_insert _ _ _ _
  have found (otherVerb : String) :=
    operation?_addOperation doc url verb operation (other, otherVerb)
  simp only [Prod.mk.injEq] at found
  rw [keys, before other]
  simp only [found]
  by_cases same : url = other
  · subst same
    exact ⟨fun _ => .inr ⟨verb, operation, by simp⟩, fun _ => .inl rfl⟩
  · simp [same, Ne.symm same]

def shell (doc : Document) : Document :=
  { doc with paths := [], components := { doc.components with schemas := [] } }

section Merge

variable (main aux : Document) (source : String)

def routed : Document × Option (String × String) :=
  byRoute.extend main (routes (pathEntries aux.paths))

def described : Document × Option String :=
  byName.extend (main.routed aux).1 aux.components.schemas

theorem merge_eq :
    main.merge aux source =
      match (main.routed aux).2 with
      | some route => ((main.routed aux).1, some (.pathConflict route.1 route.2 source))
      | none =>
        ((main.described aux).1, (main.described aux).2.map (.schemaConflict · source)) := by
  rw [merge, mergeOperations_eq, ← routed]
  cases (main.routed aux).2 with
  | some route => rfl
  | none => exact mergeSchemas_eq source _ _

theorem routed_components : (main.routed aux).1.components = main.components :=
  byRoute.extend_keeps (·.components = main.components) (fun _ _ _ same => same) rfl _

theorem routed_shell : (main.routed aux).1.shell = main.shell :=
  byRoute.extend_keeps (·.shell = main.shell) (fun _ _ _ same => same) rfl _

theorem described_paths : (main.described aux).1.paths = (main.routed aux).1.paths :=
  byName.extend_keeps (·.paths = (main.routed aux).1.paths) (fun _ _ _ same => same) rfl _

theorem described_shell : (main.described aux).1.shell = main.shell :=
  byName.extend_keeps (·.shell = main.shell) (fun _ _ _ same => same) (main.routed_shell aux) _

theorem byName_routed (name : String) :
    byName.get? (main.routed aux).1 name = byName.get? main name := by
  simp only [byName, schema?, routed_components]

theorem byRoute_described (route : String × String) :
    byRoute.get? (main.described aux).1 route = byRoute.get? (main.routed aux).1 route := by
  simp only [byRoute, operation?, described_paths]

theorem merge_ordered {main : Document} (ordered : main.Ordered) :
    (main.merge aux source).1.Ordered := by
  have routedOrdered : (main.routed aux).1.Ordered :=
    byRoute.extend_keeps Ordered (fun _ _ _ before => addOperation_ordered before _ _ _) ordered _
  have describedOrdered : (main.described aux).1.Ordered :=
    byName.extend_keeps Ordered (fun _ _ _ before => addSchema_ordered before _ _) routedOrdered _
  rw [merge_eq]
  split
  · exact routedOrdered
  · exact describedOrdered

theorem Routed.merge {base main : Document} (before : base.Routed main) :
    base.Routed (main.merge aux source).1 := by
  have routed : base.Routed (main.routed aux).1 :=
    byRoute.extend_keeps base.Routed (fun _ _ _ earlier => earlier.addOperation _ _ _) before _
  have described : base.Routed (main.described aux).1 :=
    byName.extend_keeps base.Routed (fun _ _ _ same => same) routed _
  rw [merge_eq]
  split
  · exact routed
  · exact described

theorem merge_shell : (main.merge aux source).1.shell = main.shell := by
  rw [merge_eq]
  split
  · exact main.routed_shell aux
  · exact main.described_shell aux

def Compatible (a b : Document) : Prop := byRoute.Agree a b ∧ byName.Agree a b

variable {aux} (ordered : aux.Ordered)

include ordered

theorem routed_eq_none_iff : (main.routed aux).2 = none ↔ byRoute.Agree main aux :=
  (lists_routes ordered).extend_eq_none_iff

theorem described_eq_none_iff : (main.described aux).2 = none ↔ byName.Agree main aux := by
  rw [described, (lists_schemas ordered).extend_eq_none_iff]
  simp only [Keyed.Agree, byName_routed]

theorem merge_eq_none_iff : (main.merge aux source).2 = none ↔ main.Compatible aux := by
  rw [Compatible, ← routed_eq_none_iff main ordered, ← described_eq_none_iff main ordered, merge_eq]
  cases (main.routed aux).2 <;> simp

theorem merge_union (succeeded : (main.merge aux source).2 = none) :
    byRoute.Union (main.merge aux source).1 main aux ∧
      byName.Union (main.merge aux source).1 main aux := by
  obtain ⟨routes, names⟩ := (merge_eq_none_iff main source ordered).mp succeeded
  have routesAdded := (routed_eq_none_iff main ordered).mpr routes
  have namesAdded := (described_eq_none_iff main ordered).mpr names
  simp only [merge_eq, routesAdded]
  constructor
  · intro route
    rw [byRoute_described]
    exact (lists_routes ordered).extend_union routesAdded route
  · intro name
    rw [← byName_routed main aux]
    exact (lists_schemas ordered).extend_union namesAdded name

theorem merge_within :
    byRoute.Within (main.merge aux source).1 main aux ∧
      byName.Within (main.merge aux source).1 main aux := by
  have routes : byRoute.Within (main.routed aux).1 main aux := (lists_routes ordered).extend_within
  have names : byName.Within (main.described aux).1 (main.routed aux).1 aux :=
    (lists_schemas ordered).extend_within
  rw [merge_eq]
  split
  · refine ⟨routes, ?_⟩
    simp only [Keyed.Within, byName_routed]
    exact ⟨fun _ _ here => here, fun _ _ here => .inl here⟩
  · constructor
    · simp only [Keyed.Within, byRoute_described]
      exact routes
    · simpa only [Keyed.Within, byName_routed] using names

theorem merge_failure {failure : Failure} (failed : (main.merge aux source).2 = some failure) :
    (∃ url verb, failure = .pathConflict url verb source ∧ byRoute.Clash main aux (url, verb) ∧
      (∀ other, byRoute.Clash main aux other →
        other = (url, verb) ∨ Prod.Lex (· < ·) (· < ·) (url, verb) other) ∧
      (main.merge aux source).1.components.schemas = main.components.schemas) ∨
    (∀ route, ¬ byRoute.Clash main aux route) ∧
      ∃ name, failure = .schemaConflict name source ∧ byName.Clash main aux name ∧
        ∀ other, byName.Clash main aux other → other = name ∨ name < other := by
  rw [merge_eq] at failed ⊢
  cases outcome : (main.routed aux).2 with
  | some route =>
    simp only [outcome, Option.some.injEq] at failed
    obtain ⟨clash, least⟩ := (lists_routes ordered).extend_first (routes_ordered ordered) outcome
    refine .inl ⟨route.1, route.2, failed.symm, clash, least, ?_⟩
    rw [routed_components]
  | none =>
    simp only [outcome, Option.map_eq_some_iff] at failed
    obtain ⟨name, found, same⟩ := failed
    have agree := (routed_eq_none_iff main ordered).mp outcome
    obtain ⟨clash, least⟩ := (lists_schemas ordered).extend_first
      (List.pairwise_map.mp ordered.schemas) found
    simp only [Keyed.Clash, byName_routed] at clash least
    refine .inr ⟨?_, name, same.symm, clash, least⟩
    rintro route ⟨x, y, left, right, differs⟩
    rw [agree route x y left right] at differs
    cases differs

/-- Merging succeeds exactly if the documents are compatible, and then gives the union of both.
Otherwise it reports the first route of `aux` that differs, or the first schema if all routes agree.
Whatever comes of it, nothing of `main` is lost or changed, and only parts of `aux` are added. -/
theorem merge_outcome :
    ((main.merge aux source).2 = none ↔ main.Compatible aux) ∧
    ((main.merge aux source).2 = none →
      byRoute.Union (main.merge aux source).1 main aux ∧
        byName.Union (main.merge aux source).1 main aux) ∧
    (∀ failure, (main.merge aux source).2 = some failure →
      (∃ url verb, failure = .pathConflict url verb source ∧ byRoute.Clash main aux (url, verb) ∧
        (∀ other, byRoute.Clash main aux other →
          other = (url, verb) ∨ Prod.Lex (· < ·) (· < ·) (url, verb) other) ∧
        (main.merge aux source).1.components.schemas = main.components.schemas) ∨
      (∀ route, ¬ byRoute.Clash main aux route) ∧
        ∃ name, failure = .schemaConflict name source ∧ byName.Clash main aux name ∧
          ∀ other, byName.Clash main aux other → other = name ∨ name < other) ∧
    byRoute.Within (main.merge aux source).1 main aux ∧
    byName.Within (main.merge aux source).1 main aux ∧
    (main.merge aux source).1.shell = main.shell ∧
    (main.Ordered → (main.merge aux source).1.Ordered) := by
  obtain ⟨routes, names⟩ := merge_within main source ordered
  refine ⟨merge_eq_none_iff main source ordered, merge_union main source ordered,
    fun failure failed => merge_failure main source ordered failed, routes, names,
    merge_shell main aux source, merge_ordered aux source⟩

end Merge

def petsDocument : Document :=
  { paths := [("/pets", [("get", { summary := "All pets" })])]
    components := { schemas := [("Pet", .plain { type := some "object" })] } }

def toysDocument : Document :=
  { paths := [("/owners", [("get", { summary := "All owners" })]),
      ("/pets", [("get", { summary := "Pets and toys" })])]
    components := { schemas := [("Toy", .plain { type := some "string" })] } }

theorem merge_outcome_toys :
    toysDocument.Ordered ∧ petsDocument.Ordered ∧ ¬ petsDocument.Compatible toysDocument ∧
      (petsDocument.merge toysDocument "toys.yaml").2 =
        some (.pathConflict "/pets" "get" "toys.yaml") ∧
      byRoute.Clash petsDocument toysDocument ("/pets", "get") ∧
      byRoute.Within (petsDocument.merge toysDocument "toys.yaml").1 petsDocument toysDocument ∧
      (petsDocument.merge toysDocument "toys.yaml").1.components.schemas =
        petsDocument.components.schemas := by
  have ordered : toysDocument.Ordered := by
    constructor <;> unfold Dict.Sorted toysDocument <;> decide
  have mainOrdered : petsDocument.Ordered := by
    constructor <;> unfold Dict.Sorted petsDocument <;> decide
  have failed : (petsDocument.merge toysDocument "toys.yaml").2 =
      some (.pathConflict "/pets" "get" "toys.yaml") := rfl
  obtain ⟨succeeds, -, fails, within, -, -, -⟩ := merge_outcome petsDocument "toys.yaml" ordered
  have incompatible : ¬ petsDocument.Compatible toysDocument := by
    rw [← succeeds, failed]
    simp
  obtain ⟨url, verb, same, clash, -, kept⟩ | ⟨-, name, same, -⟩ := fails _ failed
  · cases same
    exact ⟨ordered, mainOrdered, incompatible, failed, clash, within, kept⟩
  · cases same

end ApiScribe.Document
