import ApiScribe.Proofs.Document.Canonical
import ApiScribe.Proofs.Document.Merge
import ApiScribe.Workspace
import Mathlib.Data.List.Pairwise

set_option autoImplicit false

namespace ApiScribe

namespace Keyed

variable {σ κ ν β : Type} [DecidableEq κ] [BEq ν] {k : Keyed σ κ ν} {view : ν → β}

theorem agree_refl (seen : SeenBy view) (a : σ) : k.Agree a a := by
  intro key x y left right
  obtain rfl : x = y := Option.some.inj (left.symm.trans right)
  exact seen.refl x

theorem Agree.symm (seen : SeenBy view) {a b : σ} (agree : k.Agree a b) : k.Agree b a :=
  fun key x y left right => (seen x y).mpr ((seen y x).mp (agree key y x right left)).symm

-- A conflict with what an earlier document added is a conflict with that document.
theorem agree_union_iff (seen : SeenBy view) {a b c : σ} (union : k.Union c a b)
    (agree : k.Agree a b) (d : σ) : k.Agree c d ↔ k.Agree a d ∧ k.Agree b d := by
  constructor
  · intro whole
    refine ⟨fun key x y left => whole key x y (by rw [union, left, Option.some_or]), ?_⟩
    intro key x y left right
    cases first : k.get? a key with
    | none => exact whole key x y (by rw [union, first, Option.none_or, left]) right
    | some z =>
      have both := agree key z x first left
      have later := whole key z y (by rw [union, first, Option.some_or]) right
      rw [seen] at both later ⊢
      exact both.symm.trans later
  · rintro ⟨left, right⟩ key x y found other
    rw [union, Option.or_eq_some_iff] at found
    rcases found with here | ⟨-, here⟩
    · exact left key x y here other
    · exact right key x y here other

def UnionAll (k : Keyed σ κ ν) (c : σ) (docs : List σ) : Prop :=
  ∀ key, k.get? c key = docs.findSome? (k.get? · key)

omit [BEq ν] in
theorem UnionAll.of_union {a b c result : σ} {rest : List σ} (whole : k.UnionAll result (c :: rest))
    (union : k.Union c a b) : k.UnionAll result (a :: b :: rest) := by
  intro key
  rw [whole key]
  simp only [List.findSome?_cons, union key]
  cases k.get? a key <;> cases k.get? b key <;> rfl

end Keyed

theorem findSome?_congr {α ν β : Type} {f : α → Option ν} {view : ν → β} {xs ys : List α}
    (same : ∀ a, a ∈ xs ↔ a ∈ ys)
    (alike : ∀ a ∈ xs, ∀ b ∈ xs, ∀ x y, f a = some x → f b = some y → view x = view y) :
    (xs.findSome? f).map view = (ys.findSome? f).map view := by
  cases first : xs.findSome? f with
  | none =>
    rw [List.findSome?_eq_none_iff] at first
    have absent : ys.findSome? f = none :=
      List.findSome?_eq_none_iff.mpr fun a member => first a ((same a).mpr member)
    rw [absent]
  | some x =>
    obtain ⟨a, inXs, found⟩ := List.exists_of_findSome?_eq_some first
    cases other : ys.findSome? f with
    | none =>
      rw [List.findSome?_eq_none_iff.mp other a ((same a).mp inXs)] at found
      cases found
    | some y =>
      obtain ⟨b, inYs, otherFound⟩ := List.exists_of_findSome?_eq_some other
      simp [alike a inXs b ((same b).mpr inYs) x y found otherFound]

namespace Document

theorem compatible_refl (a : Document) : a.Compatible a :=
  ⟨Keyed.agree_refl Operation.seenBy_canonical a, Keyed.agree_refl Schema.seenBy_content a⟩

instance : Std.Symm Compatible where
  symm _ _ compatible := ⟨Keyed.Agree.symm Operation.seenBy_canonical compatible.1,
    Keyed.Agree.symm Schema.seenBy_content compatible.2⟩

def mergeAll (main : Document) : List (String × Document) → Merged
  | [] => (main, none)
  | (source, aux) :: rest =>
    match main.merge aux source with
    | (merged, none) => merged.mergeAll rest
    | conflict => conflict

theorem mergeAll_keeps (holds : Document → Prop)
    (step : ∀ doc aux source, holds doc → holds (doc.merge aux source).1) {main : Document}
    (initially : holds main) (auxs : List (String × Document)) :
    holds (main.mergeAll auxs).1 := by
  induction auxs generalizing main with
  | nil => exact initially
  | cons entry rest ih =>
    have next := step main entry.2 entry.1 initially
    rw [mergeAll]
    split
    next merged ok =>
      rw [ok] at next
      exact ih next
    next => exact next

theorem mergeAll_cons (main aux : Document) (source : String) (rest : List (String × Document)) :
    main.mergeAll ((source, aux) :: rest) =
      if (main.merge aux source).2 = none then (main.merge aux source).1.mergeAll rest
      else main.merge aux source := by
  rw [mergeAll]
  split
  next merged ok => simp [ok]
  next notOk =>
    rw [if_neg]
    exact fun none => notOk _ (Prod.ext rfl none)

theorem mergeAll_eq_none_iff (main : Document) {auxs : List (String × Document)}
    (ordered : ∀ aux ∈ auxs, aux.2.Ordered) :
    (main.mergeAll auxs).2 = none ↔ (main :: auxs.map Prod.snd).Pairwise Compatible := by
  induction auxs generalizing main with
  | nil => simp [mergeAll]
  | cons entry rest ih =>
    obtain ⟨source, aux⟩ := entry
    have auxOrdered : aux.Ordered := ordered _ List.mem_cons_self
    have succeeds := merge_eq_none_iff main source auxOrdered
    rw [mergeAll_cons]
    by_cases ok : (main.merge aux source).2 = none
    · obtain ⟨routes, names⟩ := merge_union main source auxOrdered ok
      have compatible := succeeds.mp ok
      have both (doc : Document) : (main.merge aux source).1.Compatible doc ↔
          main.Compatible doc ∧ aux.Compatible doc := by
        rw [Compatible, Keyed.agree_union_iff Operation.seenBy_canonical routes compatible.1,
          Keyed.agree_union_iff Schema.seenBy_content names compatible.2]
        exact and_and_and_comm
      rw [if_pos ok, ih _ fun other member => ordered other (List.mem_cons_of_mem _ member)]
      simp only [List.map_cons, List.pairwise_cons, List.mem_cons, forall_eq_or_imp, both,
        compatible, true_and, forall_and, and_assoc]
    · rw [if_neg ok]
      refine iff_of_false ok fun pairwise => ok (succeeds.mpr ?_)
      exact (List.pairwise_cons.mp pairwise).1 aux (by simp)

theorem mergeAll_union {main : Document} {auxs : List (String × Document)}
    (ordered : ∀ aux ∈ auxs, aux.2.Ordered) (succeeded : (main.mergeAll auxs).2 = none) :
    byRoute.UnionAll (main.mergeAll auxs).1 (main :: auxs.map Prod.snd) ∧
      byName.UnionAll (main.mergeAll auxs).1 (main :: auxs.map Prod.snd) := by
  induction auxs generalizing main with
  | nil => simp [mergeAll, Keyed.UnionAll]
  | cons entry rest ih =>
    obtain ⟨source, aux⟩ := entry
    rw [mergeAll_cons] at succeeded ⊢
    by_cases ok : (main.merge aux source).2 = none
    · rw [if_pos ok] at succeeded ⊢
      obtain ⟨routes, names⟩ := merge_union main source (ordered _ List.mem_cons_self) ok
      obtain ⟨restRoutes, restNames⟩ :=
        ih (fun other member => ordered other (List.mem_cons_of_mem _ member)) succeeded
      exact ⟨restRoutes.of_union routes, restNames.of_union names⟩
    · rw [if_neg ok] at succeeded
      exact absurd succeeded ok

theorem paths_ext {β : Type} {view : Operation → β} {a b : Document} (left : a.Ordered)
    (right : b.Ordered) (urls : ∀ url, url ∈ Dict.keys a.paths ↔ url ∈ Dict.keys b.paths)
    (routes : ∀ route, (byRoute.get? a route).map view = (byRoute.get? b route).map view) :
    Dict.mapValues (Dict.mapValues view) a.paths =
      Dict.mapValues (Dict.mapValues view) b.paths := by
  apply Dict.Sorted.ext (left.urls.map _) (right.urls.map _)
  intro url
  rw [Dict.get?_map, Dict.get?_map]
  by_cases present : url ∈ Dict.keys a.paths
  · obtain ⟨item, here⟩ := (Dict.get?_isSome_iff _ _).mpr present
    obtain ⟨other, there⟩ := (Dict.get?_isSome_iff _ _).mpr ((urls url).mp present)
    have leftItem := left.verbs _ (Dict.mem_of_get? here)
    have rightItem := right.verbs _ (Dict.mem_of_get? there)
    have same : Dict.mapValues view item = Dict.mapValues view other := by
      apply Dict.Sorted.ext (leftItem.map _) (rightItem.map _)
      intro verb
      rw [Dict.get?_map, Dict.get?_map]
      simpa [byRoute, operation?, here, there] using routes (url, verb)
    simp [here, there, same]
  · have absent : url ∉ Dict.keys b.paths := fun member => present ((urls url).mpr member)
    rw [(Dict.get?_eq_none_iff _ _).mpr present, (Dict.get?_eq_none_iff _ _).mpr absent]

theorem Routed.urls_congr {β : Type} {view : Operation → β} {main a b : Document}
    (left : main.Routed a) (right : main.Routed b)
    (routes : ∀ route, (byRoute.get? a route).map view = (byRoute.get? b route).map view)
    (url : String) : url ∈ Dict.keys a.paths ↔ url ∈ Dict.keys b.paths := by
  have present (verb : String) :
      (∃ operation, a.operation? url verb = some operation) ↔
        ∃ operation, b.operation? url verb = some operation := by
    have both := congrArg Option.isSome (routes (url, verb))
    rw [Option.isSome_map, Option.isSome_map] at both
    rw [← Option.isSome_iff_exists, ← Option.isSome_iff_exists]
    exact Bool.eq_iff_iff.mp both
  rw [left url, right url]
  simp only [present]

theorem canonical_ext {a b : Document} (left : a.Ordered) (right : b.Ordered)
    (shells : a.shell = b.shell)
    (urls : ∀ url, url ∈ Dict.keys a.paths ↔ url ∈ Dict.keys b.paths)
    (routes : ∀ route, (byRoute.get? a route).map Operation.canonical =
      (byRoute.get? b route).map Operation.canonical)
    (names : ∀ name, (byName.get? a name).map Schema.content =
      (byName.get? b name).map Schema.content) : a.canonical = b.canonical := by
  have paths := paths_ext left right urls routes
  have schemas : Dict.mapValues Schema.content a.components.schemas =
      Dict.mapValues Schema.content b.components.schemas := by
    apply Dict.Sorted.ext (left.schemas.map _) (right.schemas.map _)
    intro name
    rw [Dict.get?_map, Dict.get?_map]
    exact names name
  simp only [shell, mk.injEq, Components.mk.injEq, true_and] at shells
  obtain ⟨openapi, info, servers, tags, securitySchemes, security, tagGroups⟩ := shells
  simp [canonical, Components.canonical, paths, schemas, openapi, info, servers, tags,
    securitySchemes, security, tagGroups]

theorem pairwise_compatible_iff (docs : List Document) :
    docs.Pairwise Compatible ↔ ∀ a ∈ docs, ∀ b ∈ docs, a.Compatible b := by
  constructor
  · intro pairwise a left b right
    exact pairwise.forall_of_forall (fun doc _ => doc.compatible_refl) left right
  · intro all
    exact List.pairwise_of_forall_mem_list all

theorem mergeAll_frame {main : Document} (mainOrdered : main.Ordered)
    (auxs : List (String × Document)) :
    (main.mergeAll auxs).1.Ordered ∧ (main.mergeAll auxs).1.shell = main.shell ∧
      main.Routed (main.mergeAll auxs).1 :=
  ⟨mergeAll_keeps Ordered (fun _ aux source before => merge_ordered aux source before)
      mainOrdered auxs,
    mergeAll_keeps (·.shell = main.shell)
      (fun doc aux source before => (merge_shell doc aux source).trans before) rfl auxs,
    mergeAll_keeps main.Routed (fun _ aux source before => before.merge aux source)
      (routed_refl main) auxs⟩

theorem mergeAll_congr {main : Document} {auxs others : List (String × Document)}
    (mainOrdered : main.Ordered) (ordered : ∀ aux ∈ auxs, aux.2.Ordered)
    (same : ∀ doc, doc ∈ main :: others.map Prod.snd ↔ doc ∈ main :: auxs.map Prod.snd) :
    ((main.mergeAll others).2 = none ↔ (main.mergeAll auxs).2 = none) ∧
      ((main.mergeAll auxs).2 = none →
        ((main.mergeAll others).1 == (main.mergeAll auxs).1) = true) := by
  have othersOrdered : ∀ other ∈ others, other.2.Ordered := by
    intro other member
    have known : other.2 ∈ main :: auxs.map Prod.snd :=
      (same other.2).mp (List.mem_cons_of_mem _ (List.mem_map_of_mem member))
    rcases List.mem_cons.mp known with here | inAuxs
    · rw [here]
      exact mainOrdered
    · obtain ⟨aux, auxMember, here⟩ := List.mem_map.mp inAuxs
      rw [← here]
      exact ordered aux auxMember
  have succeeds : (main.mergeAll others).2 = none ↔ (main.mergeAll auxs).2 = none := by
    rw [mergeAll_eq_none_iff main othersOrdered, mergeAll_eq_none_iff main ordered,
      pairwise_compatible_iff, pairwise_compatible_iff]
    simp only [same]
  refine ⟨succeeds, fun succeeded => ?_⟩
  have compatible := (pairwise_compatible_iff _).mp
    ((mergeAll_eq_none_iff main othersOrdered).mp (succeeds.mpr succeeded))
  obtain ⟨leftRoutes, leftNames⟩ := mergeAll_union othersOrdered (succeeds.mpr succeeded)
  obtain ⟨rightRoutes, rightNames⟩ := mergeAll_union ordered succeeded
  have routes (route : String × String) :
      (byRoute.get? (main.mergeAll others).1 route).map Operation.canonical =
        (byRoute.get? (main.mergeAll auxs).1 route).map Operation.canonical := by
    rw [leftRoutes, rightRoutes]
    apply findSome?_congr same
    intro a left b right x y here there
    exact (Operation.seenBy_canonical x y).mp ((compatible a left b right).1 route x y here there)
  have names (name : String) :
      (byName.get? (main.mergeAll others).1 name).map Schema.content =
        (byName.get? (main.mergeAll auxs).1 name).map Schema.content := by
    rw [leftNames, rightNames]
    apply findSome?_congr same
    intro a left b right x y here there
    exact (Schema.seenBy_content x y).mp ((compatible a left b right).2 name x y here there)
  obtain ⟨leftOrdered, leftShell, leftUrls⟩ := mergeAll_frame mainOrdered others
  obtain ⟨rightOrdered, rightShell, rightUrls⟩ := mergeAll_frame mainOrdered auxs
  rw [seenBy_canonical]
  exact canonical_ext leftOrdered rightOrdered (leftShell.trans rightShell.symm)
    (leftUrls.urls_congr rightUrls routes) routes names

/-- Merging documents one after the other succeeds exactly if all of them, with the one that they
are merged into, are compatible in pairs. Neither success nor the result depends on the order, and a
copy of any of them may be added anywhere. -/
theorem mergeAll_outcome {main : Document} {auxs : List (String × Document)}
    (mainOrdered : main.Ordered) (ordered : ∀ aux ∈ auxs, aux.2.Ordered) :
    ((main.mergeAll auxs).2 = none ↔ (main :: auxs.map Prod.snd).Pairwise Compatible) ∧
    (∀ others, others.Perm auxs →
      ((main.mergeAll others).2 = none ↔ (main.mergeAll auxs).2 = none) ∧
      ((main.mergeAll auxs).2 = none →
        ((main.mergeAll others).1 == (main.mergeAll auxs).1) = true)) ∧
    ∀ front back copy, auxs = front ++ back → copy.2 ∈ main :: auxs.map Prod.snd →
      ((main.mergeAll (front ++ copy :: back)).2 = none ↔ (main.mergeAll auxs).2 = none) ∧
      ((main.mergeAll auxs).2 = none →
        ((main.mergeAll (front ++ copy :: back)).1 == (main.mergeAll auxs).1) = true) := by
  refine ⟨mergeAll_eq_none_iff main ordered, ?_, ?_⟩
  · intro others perm
    apply mergeAll_congr mainOrdered ordered
    intro doc
    exact ((perm.map Prod.snd).cons main).mem_iff
  · rintro front back copy rfl known
    apply mergeAll_congr mainOrdered ordered
    intro doc
    have regrouped : (main :: (front ++ copy :: back).map Prod.snd).Perm
        (copy.2 :: main :: (front ++ back).map Prod.snd) :=
      ((List.perm_middle.map Prod.snd).cons main).trans (List.Perm.swap _ _ _)
    rw [regrouped.mem_iff, List.mem_cons]
    exact or_iff_right_of_imp fun same => same ▸ known

def ownersDocument : Document :=
  { paths := [("/owners", [("get", { summary := "All owners" })])] }

def shopsDocument : Document :=
  { paths := [("/pets", [("get", { summary := "All pets" })]),
      ("/shops", [("get", { summary := "All shops" })])] }

theorem mergeAll_outcome_shops :
    petsDocument.Ordered ∧ ownersDocument.Ordered ∧ shopsDocument.Ordered ∧
      (petsDocument.mergeAll [("owners", ownersDocument), ("shops", shopsDocument)]).2 = none ∧
      [petsDocument, ownersDocument, shopsDocument].Pairwise Compatible ∧
      ((petsDocument.mergeAll [("shops", shopsDocument), ("owners", ownersDocument)]).1 ==
        (petsDocument.mergeAll [("owners", ownersDocument), ("shops", shopsDocument)]).1) = true ∧
      ((petsDocument.mergeAll
          [("owners", ownersDocument), ("pets", petsDocument), ("shops", shopsDocument)]).1 ==
        (petsDocument.mergeAll
          [("owners", ownersDocument), ("shops", shopsDocument)]).1) = true := by
  have pets : petsDocument.Ordered := by
    constructor <;> unfold Dict.Sorted petsDocument <;> decide
  have owners : ownersDocument.Ordered := by
    constructor <;> unfold Dict.Sorted ownersDocument <;> decide
  have shops : shopsDocument.Ordered := by
    constructor <;> unfold Dict.Sorted shopsDocument <;> decide
  have succeeded :
      (petsDocument.mergeAll [("owners", ownersDocument), ("shops", shopsDocument)]).2 = none := rfl
  have ordered : ∀ aux ∈ [("owners", ownersDocument), ("shops", shopsDocument)],
      aux.2.Ordered := by simp [owners, shops]
  obtain ⟨succeeds, reordered, repeated⟩ := mergeAll_outcome pets ordered
  refine ⟨pets, owners, shops, succeeded, succeeds.mp succeeded, ?_, ?_⟩
  · exact (reordered _ (List.Perm.swap _ _ _)).2 succeeded
  · exact (repeated [("owners", ownersDocument)] [("shops", shopsDocument)] ("pets", petsDocument)
      rfl List.mem_cons_self).2 succeeded

end Document

theorem Files.mergeFiles_eq (files : Files) (main : Document) {paths : List String}
    {document : String → Document}
    (reads : ∀ path ∈ paths, files.readDocument path = .ok (document path)) :
    files.mergeFiles main paths =
      match main.mergeAll (paths.map fun path =>
        ((Path.fileName? path).getD path, document path)) with
      | (merged, none) => .ok merged
      | (_, some failure) => .error (.failed failure) := by
  induction paths generalizing main with
  | nil => rfl
  | cons path rest ih =>
    rw [List.forall_mem_cons] at reads
    have opened : files.mergeFiles main (path :: rest) =
        match main.merge (document path) ((Path.fileName? path).getD path) with
        | (merged, none) => files.mergeFiles merged rest
        | (_, some failure) => .error (.failed failure) := by
      rw [mergeFiles, reads.1]
      rfl
    rw [opened, List.map_cons, Document.mergeAll]
    cases outcome : main.merge (document path) ((Path.fileName? path).getD path) with
    | mk merged failure =>
      cases failure with
      | none => exact ih merged reads.2
      | some failure => rfl

end ApiScribe
