import ApiScribe.Text.Blank
import Mathlib.Data.List.Basic

set_option autoImplicit false

namespace ApiScribe.Text

theorem pieces_eq_splitOnP (isCut : Char → Bool) (cs : List Char) :
    pieces isCut cs = cs.splitOnP isCut := by
  induction cs with
  | nil => simp [pieces]
  | cons c rest ih =>
    rw [pieces, List.splitOnP_cons_eq_if_modifyHead, ih]
    split
    · rfl
    · split
      next none => exact absurd none (List.splitOnP_ne_nil isCut rest)
      next some => rw [some, List.modifyHead_cons]

theorem pieces_ne_nil (isCut : Char → Bool) (cs : List Char) : pieces isCut cs ≠ [] := by
  rw [pieces_eq_splitOnP]
  exact List.splitOnP_ne_nil isCut cs

theorem eq_of_pieces_eq_singleton {isCut : Char → Bool} {cs piece : List Char}
    (single : pieces isCut cs = [piece]) : piece = cs := by
  induction cs generalizing piece with
  | nil => simpa [pieces, eq_comm] using single
  | cons c rest ih =>
    rw [pieces] at single
    split at single
    · simp [pieces_ne_nil] at single
    · split at single
      next none => exact absurd none (pieces_ne_nil isCut rest)
      next first others some =>
        rw [List.cons.injEq] at single
        obtain ⟨rfl, rfl⟩ := single
        rw [ih some]

theorem pieces_append {isCut : Char → Bool} {front : List Char} {cut : Char}
    (whole : ∀ c ∈ front, isCut c = false) (cuts : isCut cut = true) (back : List Char) :
    pieces isCut (front ++ cut :: back) = front :: pieces isCut back := by
  rw [pieces_eq_splitOnP, pieces_eq_splitOnP]
  exact List.splitOnP_append_cons_of_forall_mem whole cut cuts back

theorem mem_pieces {isCut : Char → Bool} {cs piece : List Char} (member : piece ∈ pieces isCut cs) :
    ∀ c ∈ piece, isCut c = false := by
  induction cs generalizing piece with
  | nil =>
    rw [pieces, List.mem_singleton] at member
    simp [member]
  | cons first rest ih =>
    rw [pieces] at member
    split at member
    next =>
      rw [List.mem_cons] at member
      obtain rfl | later := member
      · simp
      · exact ih later
    next inside =>
      have kept : isCut first = false := by simpa using inside
      split at member
      next =>
        rw [List.mem_singleton] at member
        simp [member, kept]
      next next others found =>
        rw [List.mem_cons] at member
        obtain rfl | later := member
        · rw [List.forall_mem_cons]
          exact ⟨kept, ih (by simp [found])⟩
        · exact ih (by simp [found, later])

theorem pieces_concat {isCut : Char → Bool} {c : Char} (uncut : isCut c = false) (cs : List Char) :
    ∃ init last, pieces isCut cs = init ++ [last] ∧
      pieces isCut (cs ++ [c]) = init ++ [last ++ [c]] := by
  induction cs with
  | nil => exact ⟨[], [], rfl, by simp [pieces, uncut]⟩
  | cons d rest ih =>
    obtain ⟨init, last, before, after⟩ := ih
    by_cases cuts : isCut d = true
    · exact ⟨[] :: init, last, by simp [pieces, cuts, before], by simp [pieces, cuts, after]⟩
    · cases init with
      | nil =>
        exact ⟨[], d :: last, by simp [pieces, cuts, before], by simp [pieces, cuts, after]⟩
      | cons first others =>
        exact ⟨(d :: first) :: others, last, by simp [pieces, cuts, before],
          by simp [pieces, cuts, after]⟩

theorem forall_mem_intercalate {cut : Char} {holds : Char → Prop} (here : holds cut)
    (parts : List (List Char)) :
    (∀ c ∈ [cut].intercalate parts, holds c) ↔ ∀ part ∈ parts, ∀ c ∈ part, holds c := by
  induction parts with
  | nil => simp
  | cons part rest ih =>
    cases rest with
    | nil => simp
    | cons next others =>
      rw [List.intercalate_cons_cons, List.forall_mem_append, List.forall_mem_append, ih,
        List.forall_mem_cons]
      simp [here]

theorem pieces_eq_iff (cut : Char) (cs : List Char) (parts : List (List Char)) :
    pieces (· == cut) cs = parts ↔
      parts ≠ [] ∧ (∀ part ∈ parts, cut ∉ part) ∧ cs = [cut].intercalate parts := by
  constructor
  · rintro rfl
    refine ⟨pieces_ne_nil _ _, ?_, ?_⟩
    · intro part member here
      simpa using mem_pieces member cut here
    · rw [pieces_eq_splitOnP, ← List.splitOn_eq_splitOnP]
      exact (List.intercalate_splitOn cut).symm
  · rintro ⟨some, whole, rfl⟩
    rw [pieces_eq_splitOnP, ← List.splitOn_eq_splitOnP]
    exact List.splitOn_intercalate cut whole some

theorem linesOfPieces_cons (line next : List Char) (rest : List (List Char)) :
    linesOfPieces (line :: next :: rest) =
      (match line.reverse with
        | '\r' :: before => before.reverse
        | _ => line) :: linesOfPieces (next :: rest) := rfl

theorem mem_linesOfPieces {pieces : List (List Char)} {line : List Char}
    (member : line ∈ linesOfPieces pieces) : ∃ piece ∈ pieces, ∀ c ∈ line, c ∈ piece := by
  induction pieces with
  | nil => cases member
  | cons piece rest ih =>
    cases rest with
    | nil =>
      rw [linesOfPieces] at member
      split at member
      · cases member
      · rw [List.mem_singleton] at member
        exact ⟨piece, by simp, by simp [member]⟩
    | cons next others =>
      rw [linesOfPieces_cons, List.mem_cons] at member
      obtain rfl | later := member
      · refine ⟨piece, by simp, ?_⟩
        intro c here
        split at here
        next before same =>
          have kept : c ∈ piece.reverse := by
            rw [same]
            exact List.mem_cons_of_mem _ (List.mem_reverse.mp here)
          exact List.mem_reverse.mp kept
        next => exact here
      · obtain ⟨found, listed, all⟩ := ih later
        exact ⟨found, List.mem_cons_of_mem _ listed, all⟩

theorem mem_charLines {cs line : List Char} (member : line ∈ charLines cs) : '\n' ∉ line := by
  intro feed
  obtain ⟨piece, listed, all⟩ := mem_linesOfPieces member
  have uncut := mem_pieces listed '\n' (all '\n' feed)
  simp at uncut

theorem filterMap_charLines {α : Type} {f : List Char → Option α} (empty : f [] = none)
    (ended : ∀ line, f (line ++ ['\r']) = f line) (cs : List Char) :
    (charLines cs).filterMap f = (pieces (· == '\n') cs).filterMap f := by
  rw [charLines]
  induction pieces (· == '\n') cs with
  | nil => rfl
  | cons line rest ih =>
    cases rest with
    | nil =>
      rw [linesOfPieces]
      split
      next none => simp [List.isEmpty_iff.mp none, empty]
      next => rfl
    | cons next others =>
      rw [linesOfPieces_cons, List.filterMap_cons, List.filterMap_cons, ih]
      congr 1
      split
      next before same =>
        have whole : line = before.reverse ++ ['\r'] := by
          rw [← List.reverse_cons, ← same, List.reverse_reverse]
        rw [whole, ended]
      next => rfl

theorem charLines_ended {lines : List (List Char)} (whole : ∀ line ∈ lines, '\n' ∉ line) :
    charLines (lines.flatMap (· ++ ['\r', '\n'])) = lines := by
  induction lines with
  | nil => rfl
  | cons line rest ih =>
    rw [List.forall_mem_cons] at whole
    have text : (line :: rest).flatMap (· ++ ['\r', '\n']) =
        (line ++ ['\r']) ++ '\n' :: rest.flatMap (· ++ ['\r', '\n']) := by simp
    have uncut : ∀ c ∈ line ++ ['\r'], (c == '\n') = false := by
      intro c member
      rw [List.mem_append, List.mem_singleton] at member
      obtain here | rfl := member
      · rw [beq_eq_false_iff_ne]
        exact fun same => whole.1 (same ▸ here)
      · decide
    have later := ih whole.2
    rw [charLines] at later ⊢
    rw [text, pieces_append uncut (by decide)]
    cases parts : pieces (· == '\n') (rest.flatMap (· ++ ['\r', '\n'])) with
    | nil => exact absurd parts (pieces_ne_nil _ _)
    | cons next others =>
      rw [parts] at later
      rw [linesOfPieces_cons, later]
      simp

end ApiScribe.Text
