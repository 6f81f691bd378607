import ApiScribe.Proofs.FieldSpec.Run
import Mathlib.Data.List.Perm.Basic

set_option autoImplicit false

namespace ApiScribe.FieldSpec

namespace Change

theorem roles_comm (first second role : Role) :
    (roles first role).bind (roles second) = (roles second role).bind (roles first) := by
  unfold roles
  split_ifs <;> simp_all

structure Independent (first second : Change) : Prop where
  name : first.name = none ∨ second.name = none
  enumValues : first.enumValues = none ∨ second.enumValues = none
  description : first.description = none ∨ second.description = none

theorem write_comm {first second : Change} (independent : Independent first second)
    (draft : Draft) :
    second.write (first.write draft .none) = first.write (second.write draft .none) := by
  obtain ⟨name, values, description⟩ := independent
  have names : second.name.or (first.name.or draft.spec.name) =
      first.name.or (second.name.or draft.spec.name) := by
    obtain same | same := name <;> simp [same]
  have lists : second.enumValues.getD (first.enumValues.getD draft.spec.enumValues) =
      first.enumValues.getD (second.enumValues.getD draft.spec.enumValues) := by
    obtain same | same := values <;> simp [same]
  have descriptions : second.description.or (first.description.or draft.spec.description) =
      first.description.or (second.description.or draft.spec.description) := by
    obtain same | same := description <;> simp [same]
  funext role
  simp only [write, names, lists, descriptions, Bool.or_left_comm]

theorem apply_apply (first second : Change) (draft : Draft) :
    (first.apply draft).bind second.apply =
      ((roles first.role draft.spec.role).bind (roles second.role)).map
        (second.write (first.write draft .none)) := by
  rw [apply, Option.bind_map, Option.map_bind]
  rfl

theorem apply_comm {first second : Change} (independent : Independent first second)
    (draft : Draft) :
    (first.apply draft).bind second.apply = (second.apply draft).bind first.apply := by
  rw [apply_apply, apply_apply, roles_comm, write_comm independent]

end Change

section Order

variable {shape : Shape}

def actItem (shape : Shape) (draft : Option Draft) (item : Option Mark) : Option Draft :=
  item.bind fun m => draft.bind (act shape m)

theorem foldl_actItem_none (items : List (Option Mark)) :
    items.foldl (actItem shape) none = none := by
  induction items with
  | nil => rfl
  | cons item rest ih =>
    have stopped : actItem shape none item = none := by cases item <;> rfl
    rw [List.foldl_cons, stopped, ih]

theorem run?_unskipped {items : List (Option Mark)} {draft : Draft}
    (unskipped : ∀ m, some m ∈ items → m.skips = false) :
    run? shape draft items = (items.foldl (actItem shape) (some draft)).map .reading := by
  induction items generalizing draft with
  | nil => rfl
  | cons item rest ih =>
    rw [List.foldl_cons]
    cases item with
    | none =>
      rw [actItem, Option.bind_none, foldl_actItem_none]
      rfl
    | some m =>
      have unskippedHere : m.skips = false := unskipped m List.mem_cons_self
      rw [run?, step?, unskippedHere, actItem, Option.bind_some, Option.bind_some]
      cases act shape m draft with
      | none =>
        rw [foldl_actItem_none]
        rfl
      | some between => exact ih fun m' later => unskipped m' (List.mem_cons_of_mem _ later)

theorem act_comm {first second : Mark} (names : first.givesName = false ∨ second.givesName = false)
    (values : first.givesValues = false ∨ second.givesValues = false)
    (descriptions : first.describes = false ∨ second.describes = false) (draft : Draft) :
    (act shape first draft).bind (act shape second) =
      (act shape second draft).bind (act shape first) := by
  unfold act
  cases made : change? shape first with
  | none => cases change? shape second <;> simp
  | some change =>
    cases madeToo : change? shape second with
    | none => simp
    | some other =>
      have one := change?_of made
      have two := change?_of madeToo
      have unnamed (m : Mark) (c : Change) (own : c.Of shape m) (without : m.givesName = false) :
          c.name = none := by
        simpa [show m.kind.givesName = false from without] using own.name
      exact Change.apply_comm ⟨names.imp (unnamed _ _ one) (unnamed _ _ two),
        values.imp one.enumValues two.enumValues,
        descriptions.imp one.description two.description⟩ draft

theorem not_both_of_countP {α : Type} {p : α → Bool} {xs : List α} (once : xs.countP p ≤ 1)
    {a b : α} (first : a ∈ xs) (second : b ∈ xs) (different : a ≠ b) :
    p a = false ∨ p b = false := by
  by_contra both
  rw [not_or, Bool.not_eq_false, Bool.not_eq_false] at both
  have left : a ∈ xs.filter p := List.mem_filter.mpr ⟨first, both.1⟩
  have right : b ∈ xs.filter p := List.mem_filter.mpr ⟨second, both.2⟩
  rw [List.countP_eq_length_filter] at once
  cases found : xs.filter p with
  | nil => simp [found] at left
  | cons c rest =>
    obtain rfl : rest = [] := by
      rw [found, List.length_cons] at once
      exact List.length_eq_zero_iff.mp (by omega)
    rw [found, List.mem_singleton] at left right
    exact different (left.trans right.symm)

-- Attributes of which no token ends the reading and at most one token each sets the name, the values
-- and the description.
structure Unordered (attributes : List Attribute) : Prop where
  unskipped : ∀ m ∈ marks attributes, Mark.skips m = false
  name : (marks attributes).countP Mark.givesName ≤ 1
  enumValues : (marks attributes).countP Mark.givesValues ≤ 1
  description : (marks attributes).countP Mark.describes ≤ 1

end Order

section Permutations

variable {shape : Shape} {attributes permuted : List Attribute}

theorem mem_marks_of_items {m : Mark} (listed : some m ∈ items attributes) :
    m ∈ marks attributes := by
  rw [← reduceOption_items, List.reduceOption_mem_iff]
  exact listed

theorem items_perm (perm : attributes.Perm permuted) : (items attributes).Perm (items permuted) :=
  perm.flatMap_right _

theorem foldl_actItem_perm (unordered : Unordered attributes) (perm : attributes.Perm permuted)
    (draft : Option Draft) :
    (items attributes).foldl (actItem shape) draft =
      (items permuted).foldl (actItem shape) draft := by
  apply (items_perm perm).foldl_eq'
  intro first inside second insideToo draft
  cases first with
  | none => cases second <;> simp [actItem]
  | some m =>
    cases second with
    | none => simp [actItem]
    | some m' =>
      have inside := mem_marks_of_items inside
      have insideToo := mem_marks_of_items insideToo
      by_cases same : m = m'
      · rw [same]
      · cases draft with
        | none => rfl
        | some draft =>
          exact act_comm (not_both_of_countP unordered.name inside insideToo same)
            (not_both_of_countP unordered.enumValues inside insideToo same)
            (not_both_of_countP unordered.description inside insideToo same) draft

theorem readAttributes_perm (unordered : Unordered attributes) (perm : attributes.Perm permuted)
    (draft : Draft) (progress : Progress) :
    readAttributes shape draft attributes = .ok progress ↔
      readAttributes shape draft permuted = .ok progress := by
  have unskipped (m : Mark) (listed : some m ∈ items attributes) : m.skips = false :=
    unordered.unskipped m (mem_marks_of_items listed)
  have same : (readAttributes shape draft attributes).toOption =
      (readAttributes shape draft permuted).toOption := by
    rw [readAttributes_run, readAttributes_run, run?_unskipped unskipped,
      run?_unskipped fun m listed => unskipped m ((items_perm perm).mem_iff.mpr listed),
      foldl_actItem_perm unordered perm]
  generalize readAttributes shape draft attributes = first at same ⊢
  generalize readAttributes shape draft permuted = second at same ⊢
  cases first <;> cases second <;> simp_all [Except.toOption]

theorem bind_ok_congr {first second : Except TagError Progress}
    {settle : Progress → Except TagError FieldSpec}
    (same : ∀ progress, first = .ok progress ↔ second = .ok progress) (spec : FieldSpec) :
    (first >>= settle) = .ok spec ↔ (second >>= settle) = .ok spec := by
  cases first with
  | ok progress => rw [(same progress).mp rfl]
  | error e =>
    cases second with
    | ok progress => cases (same progress).mpr rfl
    | error other => simp [bind, Except.bind]

/-- The order of the attributes on a field does not matter if none of them skips it and no two tokens
set the same thing. -/
theorem ofField_of_perm {name : Option String} {doc : String} (unordered : Unordered attributes)
    (perm : attributes.Perm permuted) (spec : FieldSpec) :
    ofField ⟨name, shape, doc, attributes⟩ = .ok spec ↔
      ofField ⟨name, shape, doc, permuted⟩ = .ok spec :=
  bind_ok_congr (readAttributes_perm unordered perm ⟨{ name }, name.isNone, false⟩) spec

def titleAttributes : List Attribute :=
  [⟨"jsonapi", "omitempty, attr = \"top\""⟩, ⟨"serde", "flatten"⟩,
    ⟨"validate", "oneof = \"a b\", range(min)"⟩, ⟨"openapi", "nullable"⟩]

theorem marks_titleAttributes : marks titleAttributes =
    [("jsonapi", ⟨"omitempty", none, false⟩), ("jsonapi", ⟨"attr", some "top", false⟩),
      ("serde", ⟨"flatten", none, false⟩), ("validate", ⟨"oneof", some "a b", false⟩),
      ("openapi", ⟨"nullable", none, false⟩)] := by
  decide +kernel

theorem ofField_of_perm_title :
    let spec : FieldSpec := { enumValues := ["a", "b"], nullable := true, role := .attr true }
    Unordered titleAttributes ∧
    ofField ⟨some "title", .named "String", "", titleAttributes⟩ = .ok spec ∧
    ofField ⟨some "title", .named "String", "", titleAttributes.reverse⟩ = .ok spec := by
  intro spec
  have unordered : Unordered titleAttributes := by
    constructor <;> rw [marks_titleAttributes] <;> decide
  have read : ofField ⟨some "title", .named "String", "", titleAttributes⟩ = .ok spec := by
    rfl
  exact ⟨unordered, read,
    (ofField_of_perm unordered titleAttributes.reverse_perm.symm spec).mp read⟩

end Permutations

end ApiScribe.FieldSpec
