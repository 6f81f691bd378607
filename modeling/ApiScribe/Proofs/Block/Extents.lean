import ApiScribe.Block
import ApiScribe.Proofs.Text.Search

set_option autoImplicit false

namespace ApiScribe.Block

open Text

def Opens (kind : BlockKind) (line : List Char) : Prop :=
  trim line = ("@openapi:" ++ kind.name).toList

def Marks (line : List Char) : Prop := "@openapi:".toList <+: trim line

theorem opens?_iff (line : List Char) (kind : BlockKind) :
    opens? line = some kind ↔ Opens kind line := by
  unfold opens? Opens
  by_cases path : trim line = "@openapi:path".toList
  · rw [if_pos path, path]
    cases kind <;> decide
  · rw [if_neg path]
    by_cases info : trim line = "@openapi:info".toList
    · rw [if_pos info, info]
      cases kind <;> decide
    · rw [if_neg info]
      cases kind with
      | path => simpa [BlockKind.name] using path
      | info => simpa [BlockKind.name] using info

theorem isMarkerLine_iff (line : List Char) : isMarkerLine line = true ↔ Marks line :=
  dropStart?_isSome_iff _ _

structure Extent where
  kind : BlockKind
  opening : Nat
  stop : Nat

namespace Extent

def Holds (e : Extent) (i : Nat) : Prop := e.opening < i ∧ i < e.stop

structure Fits (lines : List (List Char)) (e : Extent) : Prop where
  opens : ∃ line, lines[e.opening]? = some line ∧ Opens e.kind line
  ahead : e.opening < e.stop
  within : e.stop ≤ lines.length
  unmarked : ∀ i line, e.Holds i → lines[i]? = some line → ¬ Marks line
  ended : ∀ line, lines[e.stop]? = some line → Marks line

def block (lines : List (List Char)) (e : Extent) : Block where
  kind := e.kind
  content := String.ofList
    (expandTabs (List.intercalate ['\n'] (lines.extract (e.opening + 1) e.stop)))

end Extent

def nextMarker (lines : List (List Char)) (i : Nat) : Nat :=
  i + 1 + (lines.drop (i + 1)).findIdx isMarkerLine

def extentAt? (lines : List (List Char)) (i : Nat) : Option Extent :=
  (lines[i]?.bind opens?).map fun kind => ⟨kind, i, nextMarker lines i⟩

def extents (lines : List (List Char)) : List Extent :=
  (List.range lines.length).filterMap (extentAt? lines)

theorem block_extentAt (front rest : List (List Char)) (line : List Char) (kind : BlockKind) :
    Extent.block (front ++ line :: rest)
        ⟨kind, front.length, nextMarker (front ++ line :: rest) front.length⟩ =
      ofLines kind (rest.takeWhile (!isMarkerLine ·)) := by
  have dropped : (front ++ line :: rest).drop (front.length + 1) = rest := by
    simp [List.drop_append]
  have between : (front ++ line :: rest).extract (front.length + 1)
      (nextMarker (front ++ line :: rest) front.length) = rest.takeWhile (!isMarkerLine ·) := by
    rw [List.extract_eq_take_drop, nextMarker, dropped, Nat.add_sub_cancel_left,
      List.takeWhile_eq_take_findIdx_not]
    simp
  rw [Extent.block, between, ofLines]

theorem findIn_eq (lines : List (List Char)) :
    findIn lines = (extents lines).map (Extent.block lines) := by
  have run (front rest : List (List Char)) : findIn rest =
      ((List.range' front.length rest.length).filterMap (extentAt? (front ++ rest))).map
        (Extent.block (front ++ rest)) := by
    induction rest generalizing front with
    | nil => rfl
    | cons line rest ih =>
      have later := ih (front ++ [line])
      rw [List.length_append, List.length_singleton, List.append_assoc, List.singleton_append]
        at later
      have here : (front ++ line :: rest)[front.length]? = some line := by simp
      rw [findIn, List.length_cons, List.range'_succ, List.filterMap_cons, extentAt?, here,
        Option.bind_some]
      cases opens? line with
      | none => exact later
      | some kind =>
        rw [Option.map_some, List.map_cons, block_extentAt, ← later]
  have all := run [] lines
  rwa [List.length_nil, List.nil_append, ← List.range_eq_range'] at all

theorem lt_nextMarker (lines : List (List Char)) (i : Nat) : i < nextMarker lines i := by
  rw [nextMarker]
  omega

theorem nextMarker_le {lines : List (List Char)} {i : Nat} (inside : i < lines.length) :
    nextMarker lines i ≤ lines.length := by
  have bound : (lines.drop (i + 1)).findIdx isMarkerLine ≤ (lines.drop (i + 1)).length :=
    List.findIdx_le_length
  rw [List.length_drop] at bound
  rw [nextMarker]
  omega

theorem unmarked_before_next {lines : List (List Char)} {i j : Nat} {line : List Char}
    (later : i < j) (earlier : j < nextMarker lines i) (found : lines[j]? = some line) :
    ¬ Marks line := by
  obtain ⟨k, rfl⟩ : ∃ k, j = i + 1 + k := ⟨j - (i + 1), by omega⟩
  have before : k < (lines.drop (i + 1)).findIdx isMarkerLine := by
    rw [nextMarker] at earlier
    omega
  rw [← List.getElem?_drop] at found
  obtain ⟨_, rfl⟩ := List.getElem?_eq_some_iff.mp found
  rw [← isMarkerLine_iff, List.not_of_lt_findIdx before]
  decide

theorem marks_next {lines : List (List Char)} {i : Nat} {line : List Char}
    (found : lines[nextMarker lines i]? = some line) : Marks line := by
  rw [nextMarker, ← List.getElem?_drop] at found
  obtain ⟨_, rfl⟩ := List.getElem?_eq_some_iff.mp found
  rw [← isMarkerLine_iff]
  exact List.findIdx_getElem

theorem marks_of_opens {kind : BlockKind} {line : List Char} (opens : Opens kind line) :
    Marks line := by
  rw [Marks, opens, String.toList_append]
  exact List.prefix_append _ _

namespace Extent

variable {lines : List (List Char)} {a b : Extent}

theorem Fits.stop_le (fits : a.Fits lines) {j : Nat} {line : List Char} (later : a.opening < j)
    (found : lines[j]? = some line) (marks : Marks line) : a.stop ≤ j := by
  by_contra inside
  exact fits.unmarked j line ⟨later, by omega⟩ found marks

theorem Fits.stop_le_opening (first : a.Fits lines) (second : b.Fits lines)
    (less : a.opening < b.opening) : a.stop ≤ b.opening := by
  obtain ⟨line, found, opens⟩ := second.opens
  exact first.stop_le less found (marks_of_opens opens)

theorem Fits.stop_le_stop (first : a.Fits lines) (second : b.Fits lines)
    (less : a.opening < b.stop) : a.stop ≤ b.stop := by
  by_cases inside : b.stop < lines.length
  · have found := List.getElem?_eq_getElem inside
    exact first.stop_le less found (second.ended _ found)
  · have bound := first.within
    omega

theorem Fits.eq_of_opening (first : a.Fits lines) (second : b.Fits lines)
    (same : a.opening = b.opening) : a = b := by
  have above := first.stop_le_stop second (same ▸ second.ahead)
  have below := second.stop_le_stop first (same ▸ first.ahead)
  obtain ⟨line, found, opens⟩ := first.opens
  obtain ⟨other, there, opensOther⟩ := second.opens
  obtain rfl : line = other := by
    rw [same, there] at found
    exact (Option.some.inj found).symm
  have kinds : some a.kind = some b.kind := by
    rw [← (opens?_iff line a.kind).mpr opens, (opens?_iff line b.kind).mpr opensOther]
  obtain ⟨kind, opening, stop⟩ := a
  obtain ⟨_, _, _⟩ := b
  cases same
  cases kinds
  obtain rfl := Nat.le_antisymm above below
  rfl

end Extent

theorem extentAt?_fits {lines : List (List Char)} {i : Nat} {e : Extent}
    (found : extentAt? lines i = some e) : e.Fits lines ∧ e.opening = i := by
  obtain ⟨kind, opened, rfl⟩ := Option.map_eq_some_iff.mp found
  obtain ⟨line, here, opens⟩ := Option.bind_eq_some_iff.mp opened
  exact ⟨{
    opens := ⟨line, here, (opens?_iff line kind).mp opens⟩
    ahead := lt_nextMarker lines i
    within := nextMarker_le (List.getElem?_eq_some_iff.mp here).1
    unmarked := fun _ _ held => unmarked_before_next held.1 held.2
    ended := fun _ => marks_next }, rfl⟩

theorem extentAt?_of_opens {lines : List (List Char)} {i : Nat} {line : List Char}
    {kind : BlockKind} (found : lines[i]? = some line) (opens : Opens kind line) :
    extentAt? lines i = some ⟨kind, i, nextMarker lines i⟩ := by
  rw [extentAt?, found, Option.bind_some, (opens?_iff line kind).mpr opens, Option.map_some]

theorem mem_extents_iff (lines : List (List Char)) (e : Extent) :
    e ∈ extents lines ↔ e.Fits lines := by
  rw [extents, List.mem_filterMap]
  constructor
  · rintro ⟨i, -, found⟩
    exact (extentAt?_fits found).1
  · intro fits
    obtain ⟨line, found, opens⟩ := fits.opens
    have here := extentAt?_of_opens found opens
    obtain ⟨same, -⟩ := extentAt?_fits here
    refine ⟨e.opening, List.mem_range.mpr (List.getElem?_eq_some_iff.mp found).1, ?_⟩
    rw [here, same.eq_of_opening fits rfl]

theorem extents_ordered (lines : List (List Char)) :
    (extents lines).Pairwise fun a b => a.stop ≤ b.opening := by
  rw [extents, List.pairwise_filterMap]
  apply List.pairwise_lt_range.imp
  intro i j less a here b there
  obtain ⟨first, rfl⟩ := extentAt?_fits here
  obtain ⟨second, rfl⟩ := extentAt?_fits there
  exact first.stop_le_opening second less

-- A line is in a block if it is no marker and the last marker before it opens one.
theorem held_iff {lines : List (List Char)} {i : Nat} {line : List Char}
    (found : lines[i]? = some line) :
    (∃ e ∈ extents lines, e.Holds i) ↔ ¬ Marks line ∧ ∃ j opener kind, j < i ∧
      lines[j]? = some opener ∧ Opens kind opener ∧
      ∀ k between, j < k → k < i → lines[k]? = some between → ¬ Marks between := by
  constructor
  · rintro ⟨e, member, held⟩
    have fits := (mem_extents_iff lines e).mp member
    obtain ⟨opener, there, opens⟩ := fits.opens
    refine ⟨fits.unmarked i line held found, e.opening, opener, e.kind, held.1, there, opens, ?_⟩
    intro k between later earlier
    exact fits.unmarked k between ⟨later, earlier.trans held.2⟩
  · rintro ⟨unmarked, j, opener, kind, less, there, opens, free⟩
    obtain ⟨fits, -⟩ := extentAt?_fits (extentAt?_of_opens there opens)
    refine ⟨_, (mem_extents_iff lines _).mpr fits, less, ?_⟩
    by_contra reached
    have behind : nextMarker lines j ≤ i := Nat.le_of_not_lt reached
    have inside : nextMarker lines j < lines.length :=
      behind.trans_lt (List.getElem?_eq_some_iff.mp found).1
    have next := List.getElem?_eq_getElem inside
    rcases behind.eq_or_lt with rfl | earlier
    · exact unmarked (marks_next found)
    · exact free _ _ (lt_nextMarker lines j) earlier next (marks_next next)

theorem held_once {lines : List (List Char)} {i : Nat} {a b : Extent} (first : a.Fits lines)
    (second : b.Fits lines) (here : a.Holds i) (there : b.Holds i) : a = b := by
  obtain ⟨above, below⟩ := here
  obtain ⟨aboveToo, belowToo⟩ := there
  rcases Nat.lt_trichotomy a.opening b.opening with less | same | greater
  · have apart := first.stop_le_opening second less
    omega
  · exact first.eq_of_opening second same
  · have apart := second.stop_le_opening first greater
    omega

/-- The blocks of a documentation, in the order of the lines that open them. Every such line opens one
block of its kind, and its content is what stands between that line and the next marker line or the
end of the text, with two spaces for every tab. A line is in no block if it is a marker, if no marker
stands before it or if the last one before it opens no block, and no line is in two blocks. -/
theorem find_outcome (doc : String) :
    let lines := charLines doc.toList
    ∃ extents : List Extent,
      find doc = extents.map (Extent.block lines) ∧
      (extents.Pairwise fun a b => a.stop ≤ b.opening) ∧
      (∀ e, e ∈ extents ↔ e.Fits lines) ∧
      (∀ i line kind, lines[i]? = some line →
        (Opens kind line ↔ ∃ e ∈ extents, e.opening = i ∧ e.kind = kind)) ∧
      (∀ i line, lines[i]? = some line → ((∃ e ∈ extents, e.Holds i) ↔
        ¬ Marks line ∧ ∃ j opener kind, j < i ∧ lines[j]? = some opener ∧ Opens kind opener ∧
          ∀ k between, j < k → k < i → lines[k]? = some between → ¬ Marks between)) ∧
      ∀ i, ∀ a ∈ extents, a.Holds i → ∀ b ∈ extents, b.Holds i → a = b := by
  intro lines
  have fits (e : Extent) := mem_extents_iff lines e
  refine ⟨extents lines, findIn_eq lines, extents_ordered lines, fits, ?_,
    fun _ _ found => held_iff found, ?_⟩
  · intro i line kind found
    constructor
    · intro opens
      have here := extentAt?_of_opens found opens
      exact ⟨_, (fits _).mpr (extentAt?_fits here).1, rfl, rfl⟩
    · rintro ⟨e, member, rfl, rfl⟩
      obtain ⟨opener, there, opens⟩ := ((fits e).mp member).opens
      rw [found, Option.some.injEq] at there
      exact there ▸ opens
  · intro i a first here b second there
    exact held_once ((fits a).mp first) ((fits b).mp second) here there

example : find "Pets\n@openapi:path\n/pets:\n\tget: {}\n @openapi:info \n@openapi:example 3\nlast" =
    [⟨.path, "/pets:\n  get: {}"⟩, ⟨.info, ""⟩] := by
  decide +kernel

end ApiScribe.Block
