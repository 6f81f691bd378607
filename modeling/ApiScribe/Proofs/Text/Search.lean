import ApiScribe.Example
import Mathlib.Data.List.Infix
import Mathlib.Data.List.TakeWhile

set_option autoImplicit false

namespace ApiScribe

namespace Text

theorem dropStart?_eq_some_iff (start cs rest : List Char) :
    dropStart? start cs = some rest ↔ cs = start ++ rest := by
  fun_induction dropStart? start cs with
  | case1 cs => simp
  | case2 => simp
  | case3 => simp_all
  | case4 a start c cs different => simp [Ne.symm different]

theorem dropStart?_isSome_iff (start cs : List Char) :
    (dropStart? start cs).isSome = true ↔ start <+: cs := by
  rw [Option.isSome_iff_exists]
  constructor
  · rintro ⟨rest, found⟩
    exact ⟨rest, ((dropStart?_eq_some_iff _ _ _).mp found).symm⟩
  · rintro ⟨rest, same⟩
    exact ⟨rest, (dropStart?_eq_some_iff _ _ _).mpr same.symm⟩

theorem span_ne_iff (stop : Char) (cs front back : List Char) :
    (cs.takeWhile (· != stop) = front ∧ cs.dropWhile (· != stop) = back) ↔
      cs = front ++ back ∧ stop ∉ front ∧ ∀ c ∈ back.head?, c = stop := by
  constructor
  · rintro ⟨rfl, rfl⟩
    refine ⟨List.takeWhile_append_dropWhile.symm, ?_, ?_⟩
    · intro member
      have inside := List.mem_takeWhile_imp member
      simp at inside
    · intro c next
      have stops := List.head?_dropWhile_not (· != stop) cs
      rw [Option.mem_def.mp next] at stops
      simpa using stops
  · rintro ⟨rfl, free, stops⟩
    have kept : ∀ c ∈ front, (c != stop) = true := by
      intro c member
      rw [bne_iff_ne]
      rintro rfl
      exact free member
    rw [List.takeWhile_append_of_pos kept, List.dropWhile_append_of_pos kept]
    cases back with
    | nil => simp
    | cons c rest => simp [stops c rfl]

end Text

open Text

section FirstMatch

variable {α : Type} {needle : List Char} {accept : List Char → Option α} {cs : List Char} {x : α}

-- The needle stands behind `front`, and what follows it is accepted as `x`.
def MatchAt (needle : List Char) (accept : List Char → Option α) (cs front : List Char) (x : α) :
    Prop :=
  ∃ back, cs = front ++ (needle ++ back) ∧ accept back = some x

theorem matchAt_start_iff :
    MatchAt needle accept cs [] x ↔ (dropStart? needle cs).bind accept = some x := by
  simp only [MatchAt, List.nil_append, Option.bind_eq_some_iff, dropStart?_eq_some_iff]

theorem matchAt_later_iff {c first : Char} {later : List Char} :
    MatchAt needle accept (c :: cs) (first :: later) x ↔
      c = first ∧ MatchAt needle accept cs later x := by
  simp only [MatchAt, List.cons_append, List.cons.injEq, and_assoc, exists_and_left]

theorem firstMatch?_eq_none_iff (visible : needle ≠ []) :
    firstMatch? needle accept cs = none ↔ ∀ front x, ¬ MatchAt needle accept cs front x := by
  induction cs with
  | nil => simp [firstMatch?, MatchAt, visible]
  | cons c rest ih =>
    rw [firstMatch?]
    cases here : (dropStart? needle (c :: rest)).bind accept with
    | some x =>
      constructor
      · intro none
        cases none
      · intro unmatched
        exact absurd (matchAt_start_iff.mpr here) (unmatched [] x)
    | none =>
      rw [ih]
      constructor
      · intro unmatched front x matched
        cases front with
        | nil =>
          rw [matchAt_start_iff, here] at matched
          cases matched
        | cons first later => exact unmatched later x (matchAt_later_iff.mp matched).2
      · intro unmatched front x matched
        exact unmatched (c :: front) x (matchAt_later_iff.mpr ⟨rfl, matched⟩)

theorem firstMatch?_first (found : firstMatch? needle accept cs = some x) :
    ∃ front, MatchAt needle accept cs front x ∧
      ∀ earlier y, MatchAt needle accept cs earlier y → front.length ≤ earlier.length := by
  induction cs with
  | nil => cases found
  | cons c rest ih =>
    rw [firstMatch?] at found
    cases here : (dropStart? needle (c :: rest)).bind accept with
    | some first =>
      rw [here] at found
      obtain rfl : first = x := Option.some.inj found
      exact ⟨[], matchAt_start_iff.mpr here, fun _ _ _ => Nat.zero_le _⟩
    | none =>
      rw [here] at found
      obtain ⟨front, matched, first⟩ := ih found
      refine ⟨c :: front, matchAt_later_iff.mpr ⟨rfl, matched⟩, ?_⟩
      intro earlier y other
      cases earlier with
      | nil =>
        rw [matchAt_start_iff, here] at other
        cases other
      | cons initial later =>
        exact Nat.succ_le_succ (first later y (matchAt_later_iff.mp other).2)

end FirstMatch

end ApiScribe
