import ApiScribe.Text.Blank
import Mathlib.Data.List.TakeWhile

set_option autoImplicit false

namespace ApiScribe.Text

variable {cs : List Char} {c : Char}

theorem trimLeft_parts (cs : List Char) :
    ∃ front, (∀ c ∈ front, isBlank c = true) ∧ cs = front ++ trimLeft cs :=
  ⟨cs.takeWhile isBlank, fun _ member => List.mem_takeWhile_imp member,
    List.takeWhile_append_dropWhile.symm⟩

theorem trimRight_parts (cs : List Char) :
    ∃ back, (∀ c ∈ back, isBlank c = true) ∧ cs = trimRight cs ++ back := by
  obtain ⟨back, blank, parts⟩ := trimLeft_parts cs.reverse
  refine ⟨back.reverse, by simpa using blank, ?_⟩
  calc cs = cs.reverse.reverse := cs.reverse_reverse.symm
    _ = (back ++ trimLeft cs.reverse).reverse := by rw [← parts]
    _ = trimRight cs ++ back.reverse := by rw [List.reverse_append]; rfl

theorem trim_parts (cs : List Char) :
    ∃ front back, (∀ c ∈ front, isBlank c = true) ∧ (∀ c ∈ back, isBlank c = true) ∧
      cs = front ++ (trim cs ++ back) := by
  obtain ⟨front, leading, left⟩ := trimLeft_parts cs
  obtain ⟨back, trailing, right⟩ := trimRight_parts (trimLeft cs)
  exact ⟨front, back, leading, trailing, by rw [trim, ← right, ← left]⟩

theorem head?_trimLeft (first : (trimLeft cs).head? = some c) : isBlank c = false := by
  have outcome := List.head?_dropWhile_not isBlank cs
  rw [show (cs.dropWhile isBlank).head? = some c from first] at outcome
  simpa using outcome

theorem getLast?_trimRight (last : (trimRight cs).getLast? = some c) : isBlank c = false := by
  rw [trimRight, List.getLast?_reverse] at last
  exact head?_trimLeft last

theorem head?_trim (first : (trim cs).head? = some c) : isBlank c = false := by
  obtain ⟨back, -, parts⟩ := trimRight_parts (trimLeft cs)
  have kept : (trimLeft cs).head? = some c := by
    rw [parts, List.head?_append, show (trimRight (trimLeft cs)).head? = some c from first]
    rfl
  exact head?_trimLeft kept

theorem getLast?_trim (last : (trim cs).getLast? = some c) : isBlank c = false :=
  getLast?_trimRight last

theorem trimLeft_eq_self (first : ∀ c, cs.head? = some c → isBlank c = false) :
    trimLeft cs = cs := by
  cases cs with
  | nil => rfl
  | cons c rest => exact List.dropWhile_cons_of_neg (by simp [first c rfl])

theorem trimRight_eq_self (last : ∀ c, cs.getLast? = some c → isBlank c = false) :
    trimRight cs = cs := by
  have reversed : trimLeft cs.reverse = cs.reverse :=
    trimLeft_eq_self fun c found => last c (by rwa [List.head?_reverse] at found)
  rw [trimRight, show cs.reverse.dropWhile isBlank = cs.reverse from reversed, List.reverse_reverse]

theorem trim_eq_self (first : ∀ c, cs.head? = some c → isBlank c = false)
    (last : ∀ c, cs.getLast? = some c → isBlank c = false) : trim cs = cs := by
  rw [trim, trimLeft_eq_self first, trimRight_eq_self last]

@[simp] theorem trim_trim (cs : List Char) : trim (trim cs) = trim cs :=
  trim_eq_self (fun _ => head?_trim) (fun _ => getLast?_trim)

theorem trim_cons_blank (blank : isBlank c = true) (cs : List Char) :
    trim (c :: cs) = trim cs := by
  rw [trim, trimLeft, List.dropWhile_cons_of_pos blank]
  rfl

theorem trimRight_append_blank (blank : isBlank c = true) (cs : List Char) :
    trimRight (cs ++ [c]) = trimRight cs := by
  rw [trimRight, List.reverse_append, List.reverse_singleton, List.singleton_append,
    List.dropWhile_cons_of_pos blank]
  rfl

theorem trim_append_blank (blank : isBlank c = true) (cs : List Char) :
    trim (cs ++ [c]) = trim cs := by
  rw [trim, trimLeft, List.dropWhile_append]
  split
  next empty =>
    have nothing : trimLeft cs = [] := List.isEmpty_iff.mp empty
    rw [List.dropWhile_cons_of_pos blank, trim, nothing]
    rfl
  next => exact trimRight_append_blank blank (trimLeft cs)

theorem trim_around {before after : List Char} (leading : ∀ c ∈ before, isBlank c = true)
    (trailing : ∀ c ∈ after, isBlank c = true) (cs : List Char) :
    trim (before ++ cs ++ after) = trim cs := by
  induction before with
  | nil =>
    rw [List.nil_append]
    induction after generalizing cs with
    | nil => rw [List.append_nil]
    | cons c rest ih =>
      rw [List.forall_mem_cons] at trailing
      rw [List.append_cons, ih trailing.2, trim_append_blank trailing.1]
  | cons c rest ih =>
    rw [List.forall_mem_cons] at leading
    rw [List.cons_append, List.cons_append, trim_cons_blank leading.1, ih leading.2]

theorem trim_eq_nil_iff (cs : List Char) : trim cs = [] ↔ ∀ c ∈ cs, isBlank c = true := by
  constructor
  · intro nothing
    obtain ⟨front, back, leading, trailing, parts⟩ := trim_parts cs
    rw [parts, nothing, List.nil_append, List.forall_mem_append]
    exact ⟨leading, trailing⟩
  · intro blank
    have whole : trim (cs ++ [] ++ []) = trim [] := trim_around blank (by simp) []
    rw [List.append_nil, List.append_nil] at whole
    exact whole

end ApiScribe.Text
