import ApiScribe.Tag
import ApiScribe.Proofs.Text.Blank
import Mathlib.Data.List.Forall2

set_option autoImplicit false

namespace ApiScribe.Token

open Text

-- Where a reader stands after a text in which it meets no separating comma.
def pass (place : Place) : List Char → Option Place
  | [] => some place
  | c :: rest => if c = ',' ∧ place.separates = true then none else pass (place.next c) rest

theorem pass_append (place : Place) (front back : List Char) :
    pass place (front ++ back) = (pass place front).bind (pass · back) := by
  induction front generalizing place with
  | nil => rfl
  | cons c rest ih =>
    rw [List.cons_append, pass, pass]
    split
    · rfl
    · exact ih (place.next c)

theorem pass_then {place between : Place} {front : List Char}
    (passed : pass place front = some between) (back : List Char) :
    pass place (front ++ back) = pass between back := by
  rw [pass_append, passed, Option.bind_some]

section Plain

def isPlain (c : Char) : Bool := c != '"' && c != '(' && c != ')' && c != ','

theorem isPlain_of_blank {c : Char} (blank : isBlank c = true) : isPlain c = true := by
  simp only [isPlain, Bool.and_eq_true, bne_iff_ne]
  refine ⟨⟨⟨?_, ?_⟩, ?_⟩, ?_⟩ <;> rintro rfl <;> exact absurd blank (by decide)

theorem isPlain_of_keyChar {c : Char} (keyed : isKeyChar c = true) : isPlain c = true := by
  simp only [isPlain, Bool.and_eq_true, bne_iff_ne]
  refine ⟨⟨⟨?_, ?_⟩, ?_⟩, ?_⟩ <;> rintro rfl <;> exact absurd keyed (by decide)

theorem pass_plain {front : List Char} (plain : ∀ c ∈ front, isPlain c = true) (depth : Nat) :
    pass (.outside depth) front = some (.outside depth) := by
  induction front with
  | nil => rfl
  | cons c rest ih =>
    rw [List.forall_mem_cons] at plain
    have ordinary := plain.1
    simp only [isPlain, Bool.and_eq_true, bne_iff_ne] at ordinary
    obtain ⟨⟨⟨quote, opening⟩, closing⟩, comma⟩ := ordinary
    simpa [pass, Place.next, quote, opening, closing, comma] using ih plain.2

theorem next_closing {place : Place} {depth : Nat} (closed : place.next ')' = .outside depth) :
    ∃ before, place = .outside before := by
  cases place with
  | outside before => exact ⟨before, rfl⟩
  | quoted _ | escaped _ => simp [Place.next] at closed

theorem next_blank {place : Place} {c : Char} {depth : Nat} (blank : isBlank c = true)
    (closed : place.next c = .outside depth) : place = .outside depth := by
  have plain := isPlain_of_blank blank
  simp only [isPlain, Bool.and_eq_true, bne_iff_ne] at plain
  obtain ⟨⟨⟨quote, opening⟩, closing⟩, -⟩ := plain
  cases place with
  | outside before => simpa [Place.next, quote, opening, closing] using closed
  | quoted before =>
    simp only [Place.next, quote, if_false] at closed
    split at closed <;> cases closed
  | escaped before => cases closed

theorem place_of_blanks {place : Place} {back : List Char} {depth : Nat}
    (blank : ∀ c ∈ back, isBlank c = true) (passed : pass place back = some (.outside depth)) :
    place = .outside depth := by
  induction back generalizing place with
  | nil => exact Option.some.inj passed
  | cons c rest ih =>
    rw [List.forall_mem_cons] at blank
    rw [pass] at passed
    split at passed
    · cases passed
    · exact next_blank blank.1 (ih blank.2 passed)

theorem pass_trim {start depth : Nat} {text : List Char}
    (passed : pass (.outside start) text = some (.outside depth)) :
    pass (.outside start) (trim text) = some (.outside depth) := by
  obtain ⟨front, back, leading, trailing, parts⟩ := trim_parts text
  rw [parts, pass_then (pass_plain (fun c member => isPlain_of_blank (leading c member)) start),
    pass_append, Option.bind_eq_some_iff] at passed
  obtain ⟨between, reached, last⟩ := passed
  rw [reached, place_of_blanks trailing last]

end Plain

section Apart

inductive Apart : List (List Char) → Prop
  | none : Apart []
  | last {piece : List Char} {depth : Nat} (closed : pass (.outside 0) piece = some (.outside depth)) :
      Apart [piece]
  | more {piece : List Char} {rest : List (List Char)}
      (closed : pass (.outside 0) piece = some (.outside 0)) (others : Apart rest) :
      Apart (piece :: rest)

theorem Apart.closed {pieces : List (List Char)} (apart : Apart pieces) :
    ∀ piece ∈ pieces, ∃ depth, pass (.outside 0) piece = some (.outside depth) := by
  induction apart with
  | none => simp
  | @last _ depth closed => simpa using ⟨depth, closed⟩
  | more closed _ ih => exact List.forall_mem_cons.mpr ⟨⟨0, closed⟩, ih⟩

theorem foldr_consFirst (front first : List Char) (rest : List (List Char)) :
    front.foldr consFirst (first :: rest) = (front ++ first) :: rest := by
  induction front with
  | nil => rfl
  | cons c others ih => rw [List.foldr_cons, ih]; rfl

theorem cut_append {place between : Place} {front : List Char}
    (passed : pass place front = some between) (back : List Char) :
    cut place (front ++ back) = (cut between back).map (front.foldr consFirst) := by
  induction front generalizing place with
  | nil =>
    obtain rfl : place = between := Option.some.inj passed
    simp
  | cons c rest ih =>
    rw [pass] at passed
    split at passed
    next => cases passed
    next inside => rw [List.cons_append, cut, if_neg inside, ih passed, Option.map_map]; rfl

theorem cut_last {piece : List Char} {depth : Nat}
    (closed : pass (.outside 0) piece = some (.outside depth)) :
    cut (.outside 0) piece = some [piece] := by
  have whole := cut_append closed []
  rwa [List.append_nil, cut, Option.map_some, foldr_consFirst, List.append_nil] at whole

theorem cut_comma {piece : List Char} (closed : pass (.outside 0) piece = some (.outside 0))
    (back : List Char) :
    cut (.outside 0) (piece ++ ',' :: back) = (cut (.outside 0) back).map (piece :: ·) := by
  rw [cut_append closed, cut, if_pos ⟨rfl, rfl⟩, Option.map_map]
  congr 1
  funext pieces
  simp [foldr_consFirst]

theorem cut_intercalate {pieces : List (List Char)} (apart : Apart pieces) (nonempty : pieces ≠ []) :
    cut (.outside 0) ([','].intercalate pieces) = some pieces := by
  induction apart with
  | none => exact absurd rfl nonempty
  | last closed => rw [List.intercalate_singleton, cut_last closed]
  | @more piece rest closed others ih =>
    cases rest with
    | nil => rw [List.intercalate_singleton, cut_last closed]
    | cons next rest =>
      rw [List.intercalate_cons_cons, List.append_assoc, List.singleton_append, cut_comma closed,
        ih (by simp), Option.map_some]

theorem separates_iff (place : Place) : place.separates = true ↔ place = .outside 0 := by
  unfold Place.separates
  split <;> simp_all

theorem cut_parts {place : Place} {text : List Char} {pieces : List (List Char)}
    (found : cut place text = some pieces) :
    ∃ first rest, pieces = first :: rest ∧ text = [','].intercalate pieces ∧ Apart rest ∧
      ∃ depth, pass place first = some (.outside depth) ∧ (rest ≠ [] → depth = 0) := by
  induction text generalizing place pieces with
  | nil =>
    cases place with
    | outside depth =>
      cases found
      exact ⟨[], [], rfl, rfl, .none, depth, rfl, by simp⟩
    | quoted _ | escaped _ => cases found
  | cons c rest ih =>
    rw [cut] at found
    split at found
    next separating =>
      obtain ⟨others, later, rfl⟩ := Option.map_eq_some_iff.mp found
      obtain ⟨first, more, rfl, text, apart, depth, closed, sole⟩ := ih later
      obtain ⟨rfl, outside⟩ := separating
      obtain rfl := (separates_iff place).mp outside
      refine ⟨[], first :: more, rfl, by simp [text, List.intercalate_cons_cons], ?_, 0, rfl, by simp⟩
      cases more with
      | nil => exact .last closed
      | cons next more =>
        obtain rfl := sole (by simp)
        exact .more closed apart
    next inside =>
      obtain ⟨others, later, rfl⟩ := Option.map_eq_some_iff.mp found
      obtain ⟨first, more, rfl, text, apart, depth, closed, sole⟩ := ih later
      refine ⟨c :: first, more, rfl, ?_, apart, depth, by rwa [pass, if_neg inside], sole⟩
      cases more with
      | nil => simpa [consFirst] using text
      | cons next more => simpa [consFirst, List.intercalate_cons_cons] using text

theorem cut_eq_some_iff (text : List Char) (pieces : List (List Char)) :
    cut (.outside 0) text = some pieces ↔
      pieces ≠ [] ∧ Apart pieces ∧ text = [','].intercalate pieces := by
  constructor
  · intro found
    obtain ⟨first, rest, rfl, text, apart, depth, closed, sole⟩ := cut_parts found
    refine ⟨by simp, ?_, text⟩
    cases rest with
    | nil => exact .last closed
    | cons next rest =>
      obtain rfl := sole (by simp)
      exact .more closed apart
  · rintro ⟨nonempty, apart, rfl⟩
    exact cut_intercalate apart nonempty

end Apart

section Reading

variable {key : List Char}

def IsHead (key : List Char) : Prop := ∀ c ∈ key, (c != '=' && c != '(') = true

theorem takeWhile_head (head : IsHead key) {c : Char} (ends : (c != '=' && c != '(') = false)
    (rest : List Char) :
    (key ++ c :: rest).takeWhile (fun c => c != '=' && c != '(') = key := by
  rw [List.takeWhile_append_of_pos head, List.takeWhile_cons_of_neg (by simp [ends]),
    List.append_nil]

theorem dropWhile_head (head : IsHead key) {c : Char} (ends : (c != '=' && c != '(') = false)
    (rest : List Char) :
    (key ++ c :: rest).dropWhile (fun c => c != '=' && c != '(') = c :: rest := by
  rw [List.dropWhile_append_of_pos head, List.dropWhile_cons_of_neg (by simp [ends])]

theorem read?_bare (head : IsHead key) :
    read? key = if isKey (trim key) then some ⟨String.ofList (trim key), none, false⟩ else none := by
  simp [read?, List.takeWhile_eq_self_iff.mpr head, List.dropWhile_eq_nil_iff.mpr head]

theorem read?_value (head : IsHead key) (value : List Char) :
    read? (key ++ '=' :: value) = (readValue? (trim value)).bind fun inner =>
      if isKey (trim key) then some ⟨String.ofList (trim key), some (String.ofList inner), false⟩
      else none := by
  cases inner : readValue? (trim value) <;>
    simp [read?, takeWhile_head head (c := '=') rfl, dropWhile_head head (c := '=') rfl, inner]

theorem read?_group (head : IsHead key) (inner : List Char) :
    read? (key ++ '(' :: (inner ++ [')'])) =
      if isKey (trim key) then
        some ⟨String.ofList (trim key), some (String.ofList (trim inner)), true⟩
      else none := by
  simp [read?, takeWhile_head head (c := '(') rfl, dropWhile_head head (c := '(') rfl]

theorem head_parts (raw : List Char) :
    ∃ key, IsHead key ∧ (raw = key ∨ ∃ rest, raw = key ++ '=' :: rest ∨ raw = key ++ '(' :: rest) := by
  induction raw with
  | nil => exact ⟨[], by simp [IsHead], .inl rfl⟩
  | cons c later ih =>
    by_cases value : c = '='
    · exact ⟨[], by simp [IsHead], .inr ⟨later, .inl (by simp [value])⟩⟩
    · by_cases group : c = '('
      · exact ⟨[], by simp [IsHead], .inr ⟨later, .inr (by simp [group])⟩⟩
      · obtain ⟨key, head, parts⟩ := ih
        have longer : IsHead (c :: key) :=
          List.forall_mem_cons.mpr ⟨by simp [value, group], head⟩
        refine ⟨c :: key, longer, ?_⟩
        obtain rfl | ⟨rest, rfl | rfl⟩ := parts
        · exact .inl rfl
        · exact .inr ⟨rest, .inl rfl⟩
        · exact .inr ⟨rest, .inr rfl⟩

theorem read?_parts {raw : List Char} {token : Token} (found : read? raw = some token) :
    ∃ key, IsHead key ∧ isKey (trim key) = true ∧
      (raw = key ∧ token = ⟨String.ofList (trim key), none, false⟩ ∨
        (∃ value inner, raw = key ++ '=' :: value ∧
          token = ⟨String.ofList (trim key), some inner, false⟩) ∨
        ∃ inner, raw = key ++ '(' :: (inner ++ [')']) ∧
          token = ⟨String.ofList (trim key), some (String.ofList (trim inner)), true⟩) := by
  obtain ⟨key, head, rfl | ⟨rest, rfl | rfl⟩⟩ := head_parts raw
  · rw [read?_bare head] at found
    split at found
    next valid =>
      cases found
      exact ⟨raw, head, valid, .inl ⟨rfl, rfl⟩⟩
    next => cases found
  · rw [read?_value head, Option.bind_eq_some_iff] at found
    obtain ⟨inner, -, found⟩ := found
    split at found
    next valid =>
      cases found
      exact ⟨key, head, valid, .inr (.inl ⟨rest, String.ofList inner, rfl, rfl⟩)⟩
    next => cases found
  · obtain rfl | ⟨inner, last, rfl⟩ := rest.eq_nil_or_concat
    · simp [read?, dropWhile_head head (c := '(') rfl] at found
    · by_cases closing : last = ')'
      · rw [List.concat_eq_append, closing, read?_group head] at found
        split at found
        next valid =>
          cases found
          exact ⟨key, head, valid, .inr (.inr ⟨inner, by simp [closing], rfl⟩)⟩
        next => cases found
      · simp [read?, dropWhile_head head (c := '(') rfl, closing] at found

theorem readAll_ok_iff (raws : List (List Char)) (tokens : List Token) :
    readAll raws = .ok tokens ↔
      List.Forall₂ (fun raw token => read? raw = some token) raws tokens := by
  induction raws generalizing tokens with
  | nil => simp [readAll, eq_comm]
  | cons raw rest ih =>
    rw [readAll, List.forall₂_cons_left_iff]
    cases read? raw with
    | none => simp
    | some token =>
      simp only [← ih]
      cases readAll rest with
      | error e => simp [Except.map]
      | ok others => simp [Except.map, eq_comm]

theorem readAll_malformed {raws : List (List Char)} {raw : List Char} (listed : raw ∈ raws)
    (malformed : read? raw = none) : ∃ bad, readAll raws = .error (.malformedToken bad) := by
  induction raws with
  | nil => cases listed
  | cons first rest ih =>
    rw [readAll]
    cases here : read? first with
    | none => exact ⟨_, rfl⟩
    | some token =>
      rw [List.mem_cons] at listed
      obtain rfl | later := listed
      · rw [malformed] at here
        cases here
      · obtain ⟨bad, failed⟩ := ih later
        exact ⟨bad, by simp [failed, Except.map]⟩

end Reading

end ApiScribe.Token
