import ApiScribe.Proofs.Compilation.Declarations
import ApiScribe.Proofs.Resource.Order

set_option autoImplicit false

namespace ApiScribe

open FirstWins

def Compilation.declareEach (run : Compilation) (settings : Settings)
    (declarations : List Declaration) : Compilation :=
  declarations.foldl (fun run declaration => (run.declare settings declaration).1) run

theorem Compilation.declareEach_gathered (settings : Settings) (declarations : List Declaration)
    (run : Compilation) :
    (run.declareEach settings declarations).gathered =
      { run.gathered with
        registry := run.gathered.registry.registerAll
          (declarations.filterMap (Declaration.schema? settings.table))
        resources := (declarations.filterMap (Declaration.resource? settings.table)).foldl
          ResourceGraph.insert run.gathered.resources } := by
  induction declarations generalizing run with
  | nil => rfl
  | cons declaration rest ih =>
    rw [declareEach, List.foldl_cons]
    refine (ih _).trans ?_
    rw [declare, Gathered.declare_gathered]
    -- One of the three lists of additions grows, or none of them.
    cases given : declaration.given settings.table with
    | nothing => simp [Declaration.schema?, Declaration.resource?, given, Gathered.take]
    | schema schema =>
      simp [Declaration.schema?, Declaration.resource?, given, Gathered.take, Registry.registerAll]
    | resource resource =>
      simp [Declaration.schema?, Declaration.resource?, given, Gathered.take]

section Finalize

variable {calls others : List (String × Schema)} {resources rest : List Resource}

def gatheredOf (calls : List (String × Schema)) (resources : List Resource)
    (document : Document) : Gathered :=
  ⟨Registry.empty.registerAll calls, ResourceGraph.ofList resources, document⟩

theorem finalize_of_conflict (document : Document) (includes : Bool)
    (clash : ¬ Consistent Resource.view (ResourceGraph.keyed resources)) :
    ∃ name, (gatheredOf calls resources document).finalize includes =
      .error (.duplicateSchema name) := by
  have conflicts : (ResourceGraph.ofList resources).conflicts ≠ [] :=
    fun none => clash ((ResourceGraph.ofList_follows resources).settled.mp none)
  obtain ⟨name, more, first⟩ := List.exists_cons_of_ne_nil conflicts
  exact ⟨name, by simp [Gathered.finalize, gatheredOf, ResourceGraph.registerEnvelopes, first, bind,
    Except.bind]⟩

theorem finalize_of_consistent (document : Document) (includes : Bool)
    (unnamed : ∀ resource ∈ resources, resource.Unnamed)
    (consistent : Consistent Resource.view (ResourceGraph.keyed resources)) :
    (gatheredOf calls resources document).finalize includes =
      (Registry.empty.registerAll
        ((ResourceGraph.ofList resources).allCalls includes calls)).finalize.map
          document.withSchemas := by
  have settled := (ResourceGraph.ofList_follows resources).settled.mpr consistent
  have registered := ResourceGraph.registerEnvelopes_allCalls
    (ResourceGraph.ofList_wellFormed unnamed) settled includes calls
  simp only [Gathered.finalize, gatheredOf, registered, bind, Except.bind]
  cases (Registry.empty.registerAll
    ((ResourceGraph.ofList resources).allCalls includes calls)).finalize <;> rfl

-- Envelopes ask the registry for display names, which are settled only if its schemas agree.
theorem allCalls_alike (alike : Alike Registry.view calls others)
    (agreeing : Registry.Agreeing calls)
    (alikeResources : Alike Resource.view (ResourceGraph.keyed resources) (ResourceGraph.keyed rest))
    (consistent : Consistent Resource.view (ResourceGraph.keyed resources))
    (unnamed : ∀ resource ∈ resources, resource.Unnamed)
    (restUnnamed : ∀ resource ∈ rest, resource.Unnamed) (includes : Bool) :
    Alike Registry.view ((ResourceGraph.ofList resources).allCalls includes calls)
      ((ResourceGraph.ofList rest).allCalls includes others) := by
  have same := (ResourceGraph.ofList_follows resources).viewed_eq
    (ResourceGraph.ofList_follows rest) alikeResources consistent
  have shown : (Registry.empty.registerAll calls).displayName =
      (Registry.empty.registerAll others).displayName := by
    funext name
    rw [Registry.displayName_registerAll, Registry.displayName_registerAll,
      Registry.display_congr alike agreeing]
  exact alike.append (ResourceGraph.allEnvelopes_alike same shown
    (ResourceGraph.ofList_wellFormed unnamed) (ResourceGraph.ofList_wellFormed restUnnamed) includes)

theorem finalize_of_disagreement (document : Document) (includes : Bool)
    (unnamed : ∀ resource ∈ resources, resource.Unnamed)
    (consistent : Consistent Resource.view (ResourceGraph.keyed resources))
    (disagreeing : ¬ Registry.Agreeing calls) :
    ∃ name, (gatheredOf calls resources document).finalize includes =
      .error (.duplicateSchema name) := by
  rw [finalize_of_consistent document includes unnamed consistent]
  have fails : ¬ ∃ published, (Registry.empty.registerAll
      ((ResourceGraph.ofList resources).allCalls includes calls)).finalize = .ok published := by
    rintro ⟨published, succeeded⟩
    exact disagreeing (Registry.Agreeing.of_append (Registry.agreeing_of_finalize succeeded))
  obtain ⟨name, failed⟩ := Registry.finalize_failure (Registry.history_follows _).sorted fails
  exact ⟨name, by rw [failed]; rfl⟩

theorem finalize_gatheredOf (alike : Alike Registry.view calls others)
    (alikeResources : Alike Resource.view (ResourceGraph.keyed resources) (ResourceGraph.keyed rest))
    (unnamed : ∀ resource ∈ resources, resource.Unnamed)
    (restUnnamed : ∀ resource ∈ rest, resource.Unnamed) (document : Document) (includes : Bool) :
    (∃ left right, (gatheredOf calls resources document).finalize includes = .ok left ∧
      (gatheredOf others rest document).finalize includes = .ok right ∧
      (left.components.schemas == right.components.schemas) = true) ∨
    (∃ name, (gatheredOf calls resources document).finalize includes =
        .error (.duplicateSchema name)) ∧
      ∃ name, (gatheredOf others rest document).finalize includes =
        .error (.duplicateSchema name) := by
  -- Resources are compared before the envelopes are made, and a disagreement of the schemas that
  -- were declared outlasts the envelopes.
  by_cases consistent : Consistent Resource.view (ResourceGraph.keyed resources)
  · have restConsistent := alikeResources.consistent_iff.mp consistent
    by_cases agreeing : Registry.Agreeing calls
    · rw [finalize_of_consistent document includes unnamed consistent,
        finalize_of_consistent document includes restUnnamed restConsistent]
      rcases Registry.finalize_alike (allCalls_alike alike agreeing alikeResources consistent unnamed
        restUnnamed includes) with ⟨left, right, leftOk, rightOk, same⟩ | ⟨⟨name, failed⟩, other, fails⟩
      · rw [leftOk, rightOk]
        exact .inl ⟨_, _, rfl, rfl, same⟩
      · rw [failed, fails]
        exact .inr ⟨⟨name, rfl⟩, other, rfl⟩
    · have restDisagree : ¬ Registry.Agreeing others :=
        fun holds => agreeing ((Registry.agreeing_congr alike).mpr holds)
      exact .inr ⟨finalize_of_disagreement document includes unnamed consistent agreeing,
        finalize_of_disagreement document includes restUnnamed restConsistent restDisagree⟩
  · have restClash : ¬ Consistent Resource.view (ResourceGraph.keyed rest) :=
      fun holds => consistent (alikeResources.consistent_iff.mpr holds)
    exact .inr ⟨finalize_of_conflict document includes consistent,
      finalize_of_conflict document includes restClash⟩

end Finalize

/-- The published schemas do not depend on the order of the declarations. -/
theorem Compilation.finalize_of_perm (settings : Settings) {declarations others : List Declaration}
    (perm : declarations.Perm others) :
    let left := (({} : Compilation).declareEach settings declarations).finalize settings
    let right := (({} : Compilation).declareEach settings others).finalize settings
    (∃ document other, left = .ok document ∧ right = .ok other ∧
      (document.components.schemas == other.components.schemas) = true) ∨
    (∃ name, left = .error (.duplicateSchema name)) ∧
      ∃ name, right = .error (.duplicateSchema name) := by
  have unnamed (list : List Declaration) :
      ∀ resource ∈ list.filterMap (Declaration.resource? settings.table), resource.Unnamed := by
    intro resource member
    obtain ⟨declaration, -, given⟩ := List.mem_filterMap.mp member
    exact Declaration.resource?_unnamed given
  simp only [finalize, declareEach_gathered]
  exact finalize_gatheredOf (Alike.of_perm (perm.filterMap _))
    (Alike.of_perm ((perm.filterMap _).map _)) (unnamed declarations) (unnamed others) {}
    settings.includes

def sampleDeclarations : List Declaration :=
  [⟨"Color", .enumeration ["red", "blue"], "@openapi:schema:Paint"⟩,
    ⟨"Palette", .sequence (.named "Color"), "@openapi:schema"⟩,
    ⟨"Post", .record [
      .mk (some "id") (.named "String") "" [⟨"jsonapi", "primary = \"posts\""⟩],
      .mk (some "cover") (.named "Color") "" [⟨"jsonapi", "attr = \"cover\""⟩],
      .mk (some "reply") (.named "Post") "" [⟨"jsonapi", "relation = \"reply\""⟩]],
      "@openapi:schema"⟩,
    ⟨"Draft", .record [
      .mk (some "key") (.named "String") "" [⟨"jsonapi", "primary = \"drafts\""⟩]],
      "@openapi:schema"⟩,
    ⟨"Color", .enumeration ["red", "blue"], "@openapi:schema:Paint"⟩]

theorem Compilation.finalize_reversed :
    ∃ document other,
      (({} : Compilation).declareEach {} sampleDeclarations).finalize {} = .ok document ∧
      (({} : Compilation).declareEach {} sampleDeclarations.reverse).finalize {} = .ok other ∧
      (document.components.schemas == other.components.schemas) = true := by
  have succeeds :
      ((({} : Compilation).declareEach {} sampleDeclarations).finalize {}).isOk = true := by
    decide +kernel
  rcases finalize_of_perm {} sampleDeclarations.reverse_perm.symm with found | ⟨⟨name, failed⟩, -⟩
  · exact found
  · rw [failed] at succeeds
    cases succeeds

end ApiScribe
