import ApiScribe.Dict
import Mathlib.Data.List.Nodup

set_option autoImplicit false

namespace ApiScribe.Dict

variable {α β : Type}

@[simp] theorem keys_nil : keys ([] : List (String × α)) = [] := rfl

@[simp] theorem keys_cons (e : String × α) (rest : List (String × α)) :
    keys (e :: rest) = e.1 :: keys rest := rfl

theorem get?_append (front back : List (String × α)) (key : String) :
    get? (front ++ back) key = (get? front key).or (get? back key) := by
  induction front with
  | nil => simp [get?]
  | cons e rest ih => by_cases here : e.1 = key <;> simp [get?, here, ih]

theorem get?_eq_none_iff (d : List (String × α)) (key : String) :
    get? d key = none ↔ key ∉ keys d := by
  induction d with
  | nil => simp [get?]
  | cons e rest ih =>
    by_cases here : e.1 = key
    · simp [get?, here]
    · simp [get?, here, ih, Ne.symm here]

theorem get?_isSome_iff (d : List (String × α)) (key : String) :
    (∃ x, get? d key = some x) ↔ key ∈ keys d := by
  rw [← not_iff_not, ← get?_eq_none_iff, Option.eq_none_iff_forall_ne_some, not_exists]

theorem contains_iff (d : List (String × α)) (key : String) :
    contains d key = true ↔ key ∈ keys d := by
  rw [contains, Option.isSome_iff_exists, get?_isSome_iff]

theorem mem_of_get? {d : List (String × α)} {key : String} {x : α}
    (found : get? d key = some x) : (key, x) ∈ d := by
  induction d with
  | nil => simp [get?] at found
  | cons e rest ih =>
    obtain ⟨k, y⟩ := e
    by_cases here : k = key
    · simp_all [get?]
    · simp only [get?, here, if_false] at found
      exact List.mem_cons_of_mem _ (ih found)

theorem get?_of_mem {d : List (String × α)} {key : String} {x : α}
    (distinct : (keys d).Nodup) (member : (key, x) ∈ d) : get? d key = some x := by
  induction d with
  | nil => simp at member
  | cons e rest ih =>
    obtain ⟨k, y⟩ := e
    rw [keys_cons, List.nodup_cons] at distinct
    rcases List.mem_cons.mp member with same | later
    · simp_all [get?]
    · have different : k ≠ key := by
        rintro rfl
        exact distinct.1 (List.mem_map.mpr ⟨_, later, rfl⟩)
      simp [get?, different, ih distinct.2 later]

theorem get?_map (f : α → β) (d : List (String × α)) (key : String) :
    get? (d.map fun e => (e.1, f e.2)) key = (get? d key).map f := by
  induction d with
  | nil => rfl
  | cons e rest ih => by_cases here : e.1 = key <;> simp [get?, here, ih]

theorem get?_insert (d : List (String × α)) (key other : String) (x : α) :
    get? (insert key x d) other = if key = other then some x else get? d other := by
  by_cases same : key = other
  · subst same
    simp [get?_insert_self]
  · simp [same, get?_insert_of_ne d x (Ne.symm same)]

theorem mem_keys_insert (d : List (String × α)) (key other : String) (x : α) :
    other ∈ keys (insert key x d) ↔ other = key ∨ other ∈ keys d := by
  rw [← get?_isSome_iff, ← get?_isSome_iff, get?_insert]
  by_cases same : key = other
  · simp [same]
  · simp [same, Ne.symm same]

theorem mem_insert {d : List (String × α)} {key : String} {x : α} {e : String × α}
    (member : e ∈ insert key x d) : e = (key, x) ∨ e ∈ d := by
  induction d with
  | nil => exact .inl (List.mem_singleton.mp member)
  | cons entry rest ih =>
    obtain ⟨k, y⟩ := entry
    rw [insert] at member
    split at member
    · rcases List.mem_cons.mp member with here | later
      · exact .inl here
      · exact .inr (List.mem_cons_of_mem _ later)
    · split at member
      · exact List.mem_cons.mp member
      · rcases List.mem_cons.mp member with here | later
        · exact .inr (here ▸ List.mem_cons_self)
        · exact (ih later).imp_right (List.mem_cons_of_mem _)

theorem Sorted.nodup {d : List (String × α)} (sorted : Sorted d) : (keys d).Nodup := by
  apply List.Pairwise.imp _ sorted
  rintro a b less rfl
  exact String.lt_irrefl a less

theorem insert_sorted {d : List (String × α)} (sorted : Sorted d) (key : String) (x : α) :
    Sorted (insert key x d) := by
  induction d with
  | nil => simp [insert, Sorted]
  | cons e rest ih =>
    obtain ⟨k, y⟩ := e
    simp only [Sorted, keys_cons, List.pairwise_cons] at sorted ih
    rw [insert]
    split
    next same =>
      subst same
      simpa [Sorted] using sorted
    next different =>
      split
      next less =>
        simp only [Sorted, keys_cons, List.pairwise_cons, List.mem_cons]
        refine ⟨?_, sorted⟩
        rintro other (rfl | later)
        · exact less
        · exact String.lt_trans less (sorted.1 other later)
      next notLess =>
        have greater : k < key := by
          by_contra notGreater
          exact different (String.le_antisymm notGreater notLess)
        simp only [Sorted, keys_cons, List.pairwise_cons]
        refine ⟨?_, ih sorted.2⟩
        intro other member
        rcases (mem_keys_insert rest key other x).mp member with rfl | later
        · exact greater
        · exact sorted.1 other later

theorem Sorted.map {d : List (String × α)} (sorted : Sorted d) (f : α → β) :
    Sorted (d.map fun e => (e.1, f e.2)) := by
  simpa [Sorted, keys, Function.comp_def] using sorted

theorem Sorted.ext {d e : List (String × α)} (left : Sorted d) (right : Sorted e)
    (same : ∀ key, get? d key = get? e key) : d = e := by
  have members : ∀ entry, entry ∈ d ↔ entry ∈ e := by
    intro entry
    constructor
    · intro member
      exact mem_of_get? ((same _).symm.trans (get?_of_mem left.nodup member))
    · intro member
      exact mem_of_get? ((same _).trans (get?_of_mem right.nodup member))
  have perm : d.Perm e := (List.perm_ext_iff_of_nodup
    (List.Nodup.of_map _ left.nodup) (List.Nodup.of_map _ right.nodup)).mpr members
  apply perm.eq_of_pairwise _ (List.pairwise_map.mp left) (List.pairwise_map.mp right)
  intro a b _ _ less greater
  exact absurd (String.lt_trans less greater) (String.lt_irrefl _)

theorem ofList_sorted (entries : List (String × α)) : Sorted (ofList entries) := by
  have fold (d : Dict α) (sorted : Sorted d) :
      Sorted (entries.foldl (fun d e => insert e.1 e.2 d) d) := by
    induction entries generalizing d with
    | nil => exact sorted
    | cons e rest ih => exact ih _ (insert_sorted sorted _ _)
  exact fold [] (by simp [Sorted])

theorem get?_ofList (entries : List (String × α)) (key : String) :
    get? (ofList entries) key = get? entries.reverse key := by
  have fold (d : Dict α) : get? (entries.foldl (fun d e => insert e.1 e.2 d) d) key =
      (get? entries.reverse key).or (get? d key) := by
    induction entries generalizing d with
    | nil => simp [get?]
    | cons e rest ih =>
      rw [List.foldl_cons, ih, List.reverse_cons, get?_append, Option.or_assoc, get?_insert]
      by_cases same : e.1 = key <;> simp [get?, same]
  rw [ofList, fold]
  simp [get?]

theorem mem_of_mem_ofList {entries : List (String × α)} {e : String × α}
    (member : e ∈ ofList entries) : e ∈ entries := by
  have found := get?_of_mem (ofList_sorted entries).nodup member
  rw [get?_ofList] at found
  exact List.mem_reverse.mp (mem_of_get? found)

theorem get?_reverse {d : List (String × α)} (distinct : (keys d).Nodup) (key : String) :
    get? d.reverse key = get? d key := by
  cases found : get? d key with
  | none =>
    rw [get?_eq_none_iff] at found ⊢
    simpa [keys] using found
  | some x =>
    apply get?_of_mem
    · simpa [keys, List.nodup_reverse] using distinct
    · exact List.mem_reverse.mpr (mem_of_get? found)

theorem Sorted.ofList_eq {d : List (String × α)} (sorted : Sorted d) : ofList d = d := by
  apply Sorted.ext (ofList_sorted d) sorted
  intro key
  rw [get?_ofList, get?_reverse sorted.nodup]

end ApiScribe.Dict
