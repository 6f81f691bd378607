import ApiScribe.Block
import ApiScribe.Proofs.Text.Pieces

set_option autoImplicit false

namespace ApiScribe

namespace Block

open Text

def closed (line : List Char) : List Char :=
  if opens? line = some .path then "@openapi:".toList else line

theorem isMarkerLine_of_opens {line : List Char} {kind : BlockKind}
    (opened : opens? line = some kind) : isMarkerLine line = true := by
  unfold opens? at opened
  split at opened
  next path =>
    rw [isMarkerLine, path]
    decide
  next =>
    split at opened
    next info =>
      rw [isMarkerLine, info]
      decide
    next => cases opened

theorem isMarkerLine_closed (line : List Char) :
    isMarkerLine (closed line) = isMarkerLine line := by
  unfold closed
  split
  next opened =>
    rw [isMarkerLine_of_opens opened]
    decide
  next => rfl

theorem opens?_closed (line : List Char) :
    opens? (closed line) = if opens? line = some .path then none else opens? line := by
  unfold closed
  split
  · decide
  · rfl

theorem takeWhile_closed (lines : List (List Char)) :
    (lines.map closed).takeWhile (!isMarkerLine ·) = lines.takeWhile (!isMarkerLine ·) := by
  induction lines with
  | nil => rfl
  | cons line rest ih =>
    rw [List.map_cons, List.takeWhile_cons, List.takeWhile_cons, isMarkerLine_closed, ih]
    cases marker : isMarkerLine line with
    | true => rfl
    | false =>
      have same : closed line = line := by
        unfold closed
        split
        next opened => simp [isMarkerLine_of_opens opened] at marker
        next => rfl
      rw [same]

theorem findIn_closed (lines : List (List Char)) :
    findIn (lines.map closed) = (findIn lines).filter (·.kind = .info) := by
  induction lines with
  | nil => rfl
  | cons line rest ih =>
    rw [List.map_cons, findIn, findIn, opens?_closed, takeWhile_closed, ih]
    cases opened : opens? line with
    | none => simp
    | some kind => cases kind <;> simp [ofLines]

def withoutPaths (doc : String) : String :=
  String.ofList (((charLines doc.toList).map closed).flatMap (· ++ ['\r', '\n']))

theorem find_withoutPaths (doc : String) :
    find (withoutPaths doc) = (find doc).filter (·.kind = .info) := by
  have whole : ∀ line ∈ (charLines doc.toList).map closed, '\n' ∉ line := by
    intro line member
    obtain ⟨before, listed, rfl⟩ := List.mem_map.mp member
    unfold closed
    split
    · decide
    · exact mem_charLines listed
  rw [find, withoutPaths, String.toList_ofList, charLines_ended whole, findIn_closed, find]

end Block

end ApiScribe
