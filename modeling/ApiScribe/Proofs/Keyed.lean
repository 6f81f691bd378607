import Mathlib.Data.List.Nodup

set_option autoImplicit false

namespace ApiScribe

structure Keyed (σ κ ν : Type) [DecidableEq κ] where
  get? : σ → κ → Option ν
  add : σ → κ → ν → σ
  get?_add : ∀ state key value other,
    get? (add state key value) other = if key = other then some value else get? state other

namespace Keyed

variable {σ κ ν : Type} [DecidableEq κ] [BEq ν] (k : Keyed σ κ ν)

def extend (state : σ) : List (κ × ν) → σ × Option κ
  | [] => (state, none)
  | (key, value) :: rest =>
    match k.get? state key with
    | none => extend (k.add state key value) rest
    | some present => if present == value then extend state rest else (state, some key)

section Extend

variable {k} {state : σ} {key : κ} {value present : ν} (rest : List (κ × ν))

theorem extend_absent (absent : k.get? state key = none) :
    k.extend state ((key, value) :: rest) = k.extend (k.add state key value) rest := by
  simp [extend, absent]

theorem extend_equal (found : k.get? state key = some present)
    (equal : (present == value) = true) :
    k.extend state ((key, value) :: rest) = k.extend state rest := by
  simp [extend, found, equal]

theorem extend_different (found : k.get? state key = some present)
    (different : ¬ (present == value) = true) :
    k.extend state ((key, value) :: rest) = (state, some key) := by
  simp [extend, found, different]

end Extend

def Admits (state : σ) (entry : κ × ν) : Prop :=
  ∀ present, k.get? state entry.1 = some present → (present == entry.2) = true

def Clash (a b : σ) (key : κ) : Prop :=
  ∃ x y, k.get? a key = some x ∧ k.get? b key = some y ∧ (x == y) = false

def Agree (a b : σ) : Prop :=
  ∀ key x y, k.get? a key = some x → k.get? b key = some y → (x == y) = true

/-- A state has all values of `before`, and each other one from `source`. -/
def Within (after before source : σ) : Prop :=
  (∀ key x, k.get? before key = some x → k.get? after key = some x) ∧
    ∀ key x, k.get? after key = some x →
      k.get? before key = some x ∨ k.get? before key = none ∧ k.get? source key = some x

def Union (c a b : σ) : Prop := ∀ key, k.get? c key = (k.get? a key).or (k.get? b key)

structure Lists (state : σ) (entries : List (κ × ν)) : Prop where
  mem_iff : ∀ key value, (key, value) ∈ entries ↔ k.get? state key = some value
  distinct : (entries.map Prod.fst).Nodup

theorem admits_add (state : σ) {key : κ} (value : ν) {entry : κ × ν} (different : key ≠ entry.1) :
    k.Admits (k.add state key value) entry ↔ k.Admits state entry := by
  simp [Admits, k.get?_add, different]

-- Distinct keys keep what was added from getting in the way of a later entry.
theorem extend_prefix (state : σ) (entries : List (κ × ν))
    (distinct : (entries.map Prod.fst).Nodup) :
    ∃ front back, entries = front ++ back ∧ (∀ entry ∈ front, k.Admits state entry) ∧
      (∀ key value, k.get? (k.extend state entries).1 key = some value ↔
        k.get? state key = some value ∨ k.get? state key = none ∧ (key, value) ∈ front) ∧
      (back = [] ∧ (k.extend state entries).2 = none ∨
        ∃ entry rest, back = entry :: rest ∧ (k.extend state entries).2 = some entry.1 ∧
          ¬ k.Admits state entry) := by
  induction entries generalizing state with
  | nil => exact ⟨[], [], rfl, by simp, by simp [extend], .inl ⟨rfl, rfl⟩⟩
  | cons entry rest ih =>
    obtain ⟨key, value⟩ := entry
    rw [List.map_cons, List.nodup_cons] at distinct
    obtain ⟨fresh, restDistinct⟩ := distinct
    cases found : k.get? state key with
    | none =>
      obtain ⟨front, back, rfl, admitted, held, ended⟩ :=
        ih (k.add state key value) restDistinct
      have apart {entry : κ × ν} (member : entry ∈ front ++ back) : key ≠ entry.1 :=
        fun same => fresh (List.mem_map.mpr ⟨entry, member, same.symm⟩)
      rw [extend_absent _ found]
      refine ⟨(key, value) :: front, back, rfl, ?_, ?_, ?_⟩
      · intro entry member
        rcases List.mem_cons.mp member with rfl | later
        · intro present here
          rw [found] at here
          cases here
        · exact (k.admits_add state value (apart (List.mem_append_left _ later))).mp
            (admitted entry later)
      · intro other x
        rw [held, k.get?_add, List.mem_cons]
        by_cases same : key = other
        · subst same
          have absent : (key, x) ∉ front :=
            fun member => apart (List.mem_append_left _ member) rfl
          simp [found, absent, eq_comm]
        · simp [same, Ne.symm same]
      · refine ended.imp_right ?_
        rintro ⟨entry, more, rfl, failed, refused⟩
        exact ⟨entry, more, rfl, failed,
          fun admits => refused ((k.admits_add state value (apart (by simp))).mpr admits)⟩
    | some present =>
      by_cases equal : (present == value) = true
      · obtain ⟨front, back, rfl, admitted, held, ended⟩ := ih state restDistinct
        rw [extend_equal _ found equal]
        refine ⟨(key, value) :: front, back, rfl, ?_, ?_, ended⟩
        · intro entry member
          rcases List.mem_cons.mp member with rfl | later
          · intro other here
            rw [found, Option.some.injEq] at here
            exact here ▸ equal
          · exact admitted entry later
        · intro other x
          rw [held, List.mem_cons]
          by_cases same : key = other
          · subst same
            simp [found]
          · simp [Ne.symm same]
      · rw [extend_different _ found equal]
        exact ⟨[], (key, value) :: rest, rfl, by simp, by simp,
          .inr ⟨_, _, rfl, rfl, fun admits => equal (admits present found)⟩⟩

theorem extend_keeps (holds : σ → Prop)
    (step : ∀ state key value, holds state → holds (k.add state key value)) {state : σ}
    (initially : holds state) (entries : List (κ × ν)) : holds (k.extend state entries).1 := by
  induction entries generalizing state with
  | nil => exact initially
  | cons entry rest ih =>
    rw [extend]
    split
    · exact ih (step _ _ _ initially)
    · split
      · exact ih initially
      · exact initially

section Lists

variable {k} {state source : σ} {entries : List (κ × ν)} (lists : k.Lists source entries)

include lists

omit [BEq ν] in
theorem Lists.lookup_eq [BEq κ] [LawfulBEq κ] (key : κ) : entries.lookup key = k.get? source key := by
  apply Option.ext
  intro value
  rw [← lists.mem_iff, List.lookup_eq_some_iff]
  constructor
  · rintro ⟨front, back, rfl, -⟩
    simp
  · intro member
    obtain ⟨front, back, rfl⟩ := List.append_of_mem member
    refine ⟨front, back, rfl, ?_⟩
    rintro ⟨other, x⟩ earlier
    have distinct := lists.distinct
    rw [List.map_append, List.nodup_append] at distinct
    have apart := distinct.2.2 other (List.mem_map_of_mem earlier) key (by simp)
    simpa using apart.symm

theorem Lists.admits_iff :
    (∀ entry ∈ entries, k.Admits state entry) ↔ k.Agree state source := by
  constructor
  · intro admitted key x y left right
    exact admitted (key, y) ((lists.mem_iff key y).mpr right) x left
  · rintro agree ⟨key, y⟩ member x left
    exact agree key x y left ((lists.mem_iff key y).mp member)

theorem Lists.clash_iff (key : κ) :
    k.Clash state source key ↔ ∃ value, (key, value) ∈ entries ∧ ¬ k.Admits state (key, value) := by
  constructor
  · rintro ⟨x, y, left, right, differs⟩
    refine ⟨y, (lists.mem_iff key y).mpr right, fun admits => ?_⟩
    rw [admits x left] at differs
    cases differs
  · rintro ⟨y, member, refused⟩
    simp only [Admits, not_forall, Bool.not_eq_true] at refused
    obtain ⟨x, left, differs⟩ := refused
    exact ⟨x, y, left, (lists.mem_iff key y).mp member, differs⟩

theorem Lists.extend_eq_none_iff :
    (k.extend state entries).2 = none ↔ k.Agree state source := by
  rw [← lists.admits_iff]
  obtain ⟨front, back, rfl, admitted, -, ⟨rfl, ended⟩ | ⟨entry, rest, rfl, ended, refused⟩⟩ :=
    k.extend_prefix state entries lists.distinct
  · exact iff_of_true ended (by simpa using admitted)
  · exact iff_of_false (by simp [ended]) fun all => refused (all entry (by simp))

theorem Lists.extend_union (succeeded : (k.extend state entries).2 = none) :
    k.Union (k.extend state entries).1 state source := by
  obtain ⟨front, back, rfl, -, held, ⟨rfl, -⟩ | ⟨entry, rest, rfl, ended, -⟩⟩ :=
    k.extend_prefix state entries lists.distinct
  · intro key
    apply Option.ext
    intro value
    rw [held, ← List.append_nil front, lists.mem_iff]
    cases k.get? state key <;> simp
  · rw [ended] at succeeded
    cases succeeded

theorem Lists.extend_within : k.Within (k.extend state entries).1 state source := by
  obtain ⟨front, back, rfl, -, held, -⟩ := k.extend_prefix state entries lists.distinct
  refine ⟨fun key x here => (held key x).mpr (.inl here), ?_⟩
  intro key x here
  refine ((held key x).mp here).imp_right ?_
  rintro ⟨absent, member⟩
  exact ⟨absent, (lists.mem_iff key x).mp (List.mem_append_left _ member)⟩

theorem Lists.extend_first {before : κ → κ → Prop}
    (ordered : entries.Pairwise fun a b => before a.1 b.1) {key : κ}
    (failed : (k.extend state entries).2 = some key) :
    k.Clash state source key ∧
      ∀ other, k.Clash state source other → other = key ∨ before key other := by
  simp only [lists.clash_iff]
  obtain ⟨front, back, rfl, admitted, -, ⟨rfl, ended⟩ | ⟨entry, rest, rfl, ended, refused⟩⟩ :=
    k.extend_prefix state entries lists.distinct
  · rw [ended] at failed
    cases failed
  · obtain rfl : entry.1 = key := Option.some.inj (ended.symm.trans failed)
    refine ⟨⟨entry.2, by simp, refused⟩, ?_⟩
    rintro other ⟨value, member, otherRefused⟩
    rcases List.mem_append.mp member with earlier | here
    · exact absurd (admitted _ earlier) otherRefused
    · rcases List.mem_cons.mp here with same | later
      · exact .inl (congrArg Prod.fst same)
      · have tail := (List.pairwise_append.mp ordered).2.1
        exact .inr ((List.pairwise_cons.mp tail).1 _ later)

end Lists

end Keyed

end ApiScribe
