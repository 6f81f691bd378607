import ApiScribe.Proofs.Tag

set_option autoImplicit false

namespace ApiScribe.Token

open Text

section Inside

-- The inside of a quotation: every quote is escaped, and no backslash stands alone.
inductive Inside : List Char → Prop
  | nil : Inside []
  | char {c : Char} {rest : List Char} (quote : c ≠ '"') (backslash : c ≠ '\\')
      (later : Inside rest) : Inside (c :: rest)
  | escape (c : Char) {rest : List Char} (later : Inside rest) : Inside ('\\' :: c :: rest)

theorem Inside.pass {cs : List Char} (inside : Inside cs) (depth : Nat) :
    pass (.quoted depth) cs = some (.quoted depth) := by
  induction inside with
  | nil => rfl
  | char quote backslash _ ih =>
    simpa [Token.pass, Place.separates, Place.next, quote, backslash] using ih
  | escape c _ ih => simpa [Token.pass, Place.separates, Place.next] using ih

theorem Inside.pass_closed {cs : List Char} (inside : Inside cs) (depth : Nat) :
    Token.pass (.outside depth) ('"' :: (cs ++ ['"'])) = some (.outside depth) := by
  have opened : Token.pass (.outside depth) ['"'] = some (.quoted depth) := by
    simp [Token.pass, Place.next]
  have closed : Token.pass (.quoted depth) ['"'] = some (.outside depth) := by
    simp [Token.pass, Place.next]
  rw [← List.singleton_append, pass_then opened, pass_then (inside.pass depth), closed]

theorem quotation_parts (depth after : Nat) (text : List Char) :
    (pass (.quoted depth) text = some (.outside after) →
      ∃ inside rest, text = inside ++ '"' :: rest ∧ Inside inside) ∧
    (pass (.escaped depth) text = some (.outside after) →
      ∃ c inside rest, text = c :: (inside ++ '"' :: rest) ∧ Inside inside) := by
  induction text with
  | nil => exact ⟨nofun, nofun⟩
  | cons c later ih =>
    constructor
    · intro passed
      by_cases quote : c = '"'
      · exact ⟨[], later, by rw [quote]; rfl, .nil⟩
      · by_cases backslash : c = '\\'
        · have next : pass (.escaped depth) later = some (.outside after) := by
            simpa [pass, Place.separates, Place.next, backslash] using passed
          obtain ⟨escaped, inside, rest, rfl, body⟩ := ih.2 next
          exact ⟨c :: escaped :: inside, rest, rfl, backslash ▸ .escape escaped body⟩
        · have next : pass (.quoted depth) later = some (.outside after) := by
            simpa [pass, Place.separates, Place.next, quote, backslash] using passed
          obtain ⟨inside, rest, rfl, body⟩ := ih.1 next
          exact ⟨c :: inside, rest, rfl, .char quote backslash body⟩
    · intro passed
      have next : pass (.quoted depth) later = some (.outside after) := by
        simpa [pass, Place.separates, Place.next] using passed
      obtain ⟨inside, rest, rfl, body⟩ := ih.1 next
      exact ⟨c, inside, rest, rfl, body⟩

end Inside

section Values

theorem unescape?_char {c : Char} (backslash : c ≠ '\\') (rest : List Char) :
    unescape? (c :: rest) = (unescape? rest).map (c :: ·) := by
  rw [unescape?] <;> simp [backslash]

theorem unescape?_escape (c : Char) (rest : List Char) :
    (unescape? ('\\' :: c :: rest)).isSome = (unescape? rest).isSome := by
  by_cases line : c = 'n'
  · simp [unescape?, line]
  · by_cases tab : c = 't'
    · simp [unescape?, tab]
    · simp [unescape?]

theorem next_eq_escaped {place : Place} {c : Char} {depth : Nat}
    (reached : place.next c = .escaped depth) : place = .quoted depth ∧ c = '\\' := by
  cases place with
  | outside before => grind [Place.next]
  | quoted before => grind [Place.next]
  | escaped before => cases reached

theorem next_eq_quoted {place : Place} {depth : Nat}
    (reached : place.next '\\' = .quoted depth) : place = .escaped depth := by
  cases place with
  | outside before => simp [Place.next] at reached
  | quoted before => simp [Place.next] at reached
  | escaped before => cases reached; rfl

-- Outside quotes a backslash means nothing to the one who cuts the text and escapes a character for
-- the one who reads the value. Where a quotation ends both stand at the same place again.
theorem unescape?_of_closed (front : List Char) (depth : Nat) :
    (∀ place : Place, (∀ before, place ≠ .escaped before) →
      pass place (front ++ ['"']) = some (.outside depth) → (unescape? front).isSome = true) ∧
    (∀ place : Place, (∀ before, place ≠ .quoted before) →
      pass place (front ++ ['"']) = some (.outside depth) →
        (unescape? ('\\' :: front)).isSome = true) := by
  induction front with
  | nil =>
    refine ⟨fun _ _ _ => rfl, ?_⟩
    intro place unquoted passed
    cases place with
    | outside before => simp [pass, Place.next] at passed
    | quoted before => exact absurd rfl (unquoted before)
    | escaped before => simp [pass, Place.next] at passed
  | cons c later ih =>
    constructor
    · intro place unescaped passed
      rw [List.cons_append, pass] at passed
      split at passed
      · cases passed
      · by_cases backslash : c = '\\'
        · subst backslash
          apply ih.2 (place.next '\\') ?_ passed
          exact fun before reached => unescaped before (next_eq_quoted reached)
        · rw [unescape?_char backslash, Option.isSome_map]
          apply ih.1 (place.next c) ?_ passed
          exact fun before reached => backslash (next_eq_escaped reached).2
    · intro place unquoted passed
      rw [List.cons_append, pass] at passed
      split at passed
      · cases passed
      · rw [unescape?_escape]
        apply ih.1 (place.next c) ?_ passed
        exact fun before reached => unquoted before (next_eq_escaped reached).1

theorem readValue?_closed (inner : List Char) :
    readValue? ('"' :: (inner ++ ['"'])) = unescape? inner := by
  simp [readValue?]

theorem readValue?_last {rest : List Char} (given : (readValue? ('"' :: rest)).isSome = true) :
    rest.getLast? = some '"' := by
  rw [readValue?] at given
  split at given
  next inner same => rw [← List.head?_reverse, same]; rfl
  next => cases given

theorem readValue?_isSome_iff {rest : List Char} {start depth : Nat}
    (passed : pass (.outside start) ('"' :: rest) = some (.outside depth)) :
    (readValue? ('"' :: rest)).isSome = true ↔ rest.getLast? = some '"' := by
  refine ⟨readValue?_last, ?_⟩
  intro last
  obtain ⟨inner, rfl⟩ := List.getLast?_eq_some_iff.mp last
  have opened : pass (.quoted start) (inner ++ ['"']) = some (.outside depth) := by
    simpa [pass, Place.next] using passed
  rw [readValue?_closed]
  exact (unescape?_of_closed inner depth).1 (.quoted start) (by simp) opened

end Values

section Outcome

variable {text : String} {pieces : List (List Char)} {raw key value rest : List Char}

theorem tokenize_of_cut (whole : cut (.outside 0) text.toList = some pieces) :
    tokenize text = readAll ((pieces.map trim).filter (!·.isEmpty)) := by
  rw [tokenize, whole]

theorem isPlain_of_key (valid : isKey (trim key) = true) : ∀ c ∈ key, isPlain c = true := by
  obtain ⟨front, back, leading, trailing, parts⟩ := trim_parts key
  simp only [isKey, Bool.and_eq_true, List.all_eq_true] at valid
  intro c member
  rw [parts, List.mem_append, List.mem_append] at member
  obtain before | inside | after := member
  · exact isPlain_of_blank (leading c before)
  · exact isPlain_of_keyChar (valid.2 c inside)
  · exact isPlain_of_blank (trailing c after)

theorem pass_value {depth : Nat} (valid : isKey (trim key) = true)
    (passed : pass (.outside 0) (key ++ '=' :: value) = some (.outside depth)) :
    pass (.outside 0) (trim value) = some (.outside depth) := by
  rw [pass_then (pass_plain (isPlain_of_key valid) 0)] at passed
  apply pass_trim
  simpa [pass, Place.next] using passed

theorem listed_of_cut (whole : cut (.outside 0) text.toList = some pieces)
    (listed : raw ∈ pieces.map trim) :
    ∃ depth, pass (.outside 0) raw = some (.outside depth) := by
  obtain ⟨-, apart, -⟩ := (cut_eq_some_iff text.toList pieces).mp whole
  obtain ⟨piece, member, rfl⟩ := List.mem_map.mp listed
  obtain ⟨depth, closed⟩ := apart.closed piece member
  exact ⟨depth, pass_trim closed⟩

theorem tokenize_malformed (whole : cut (.outside 0) text.toList = some pieces)
    (listed : raw ∈ pieces.map trim) (nonempty : raw ≠ []) (malformed : read? raw = none) :
    ∃ bad, tokenize text = .error (.malformedToken bad) := by
  rw [tokenize_of_cut whole]
  exact readAll_malformed (List.mem_filter.mpr ⟨listed, by simpa using nonempty⟩) malformed

theorem read?_quoted (head : IsHead key) (quoted : trim value = '"' :: rest) :
    (read? (key ++ '=' :: value)).isSome = true ↔
      isKey (trim key) = true ∧ (readValue? ('"' :: rest)).isSome = true := by
  rw [read?_value head, quoted]
  cases readValue? ('"' :: rest) <;> by_cases valid : isKey (trim key) = true <;> simp [valid]

/-- A value that begins with a quote, in arguments of which every quotation is closed. If they are
read, then nothing stands after its first quotation or another quote ends it; any other text there
makes a token malformed. Under a proper key that is all: the token is read if it ends with a quote. -/
theorem quotation_outcome (whole : cut (.outside 0) text.toList = some pieces)
    (listed : raw ∈ pieces.map trim) (parts : raw = key ++ '=' :: value) (head : IsHead key)
    (quoted : trim value = '"' :: rest) :
    (∀ tokens, tokenize text = .ok tokens → ∃ inside after, rest = inside ++ '"' :: after ∧
      Inside inside ∧ (after = [] ∨ after.getLast? = some '"')) ∧
    (∀ inside after, rest = inside ++ '"' :: after → Inside inside → after ≠ [] →
      after.getLast? ≠ some '"' → ∃ bad, tokenize text = .error (.malformedToken bad)) ∧
    (isKey (trim key) = true → ((read? raw).isSome = true ↔ rest.getLast? = some '"')) := by
  have nonempty : raw ≠ [] := by simp [parts]
  obtain ⟨depth, passed⟩ := listed_of_cut whole listed
  subst parts
  have valuePassed (valid : isKey (trim key) = true) :
      pass (.outside 0) ('"' :: rest) = some (.outside depth) := quoted ▸ pass_value valid passed
  refine ⟨?_, ?_, ?_⟩
  · intro tokens accepted
    have given : (read? (key ++ '=' :: value)).isSome = true := by
      rw [Option.isSome_iff_ne_none]
      intro malformed
      obtain ⟨bad, failed⟩ := tokenize_malformed whole listed nonempty malformed
      rw [accepted] at failed
      cases failed
    obtain ⟨valid, read⟩ := (read?_quoted head quoted).mp given
    have opened : pass (.quoted 0) rest = some (.outside depth) := by
      simpa [pass, Place.next] using valuePassed valid
    obtain ⟨inside, after, rfl, body⟩ := (quotation_parts 0 depth rest).1 opened
    refine ⟨inside, after, rfl, body, ?_⟩
    have last := readValue?_last read
    cases after with
    | nil => exact .inl rfl
    | cons c more => exact .inr (by simpa [List.getLast?_append] using last)
  · rintro inside after rfl - more other
    apply tokenize_malformed whole listed nonempty
    by_contra given
    have read := ((read?_quoted head quoted).mp (Option.isSome_iff_ne_none.mpr given)).2
    apply other
    obtain ⟨c, later, rfl⟩ := List.exists_cons_of_ne_nil more
    simpa [List.getLast?_append] using readValue?_last read
  · intro valid
    rw [read?_quoted head quoted, readValue?_isSome_iff (valuePassed valid)]
    exact and_iff_right valid

theorem quotation_outcome_word :
    ∃ bad, tokenize "required, rename = \"a, \\\"b\\\"\" c" = .error (.malformedToken bad) := by
  have whole : cut (.outside 0) "required, rename = \"a, \\\"b\\\"\" c".toList =
      some ["required".toList, " rename = \"a, \\\"b\\\"\" c".toList] := by decide +kernel
  have parts : "rename = \"a, \\\"b\\\"\" c".toList =
      "rename ".toList ++ '=' :: " \"a, \\\"b\\\"\" c".toList := by decide +kernel
  have head : IsHead "rename ".toList := List.all_eq_true.mp (by decide +kernel)
  have quoted : trim " \"a, \\\"b\\\"\" c".toList =
      '"' :: ("a, \\\"b\\\"".toList ++ '"' :: [' ', 'c']) := by decide +kernel
  have inside : Inside "a, \\\"b\\\"".toList :=
    .char (by decide) (by decide) (.char (by decide) (by decide) (.char (by decide) (by decide)
      (.escape '"' (.char (by decide) (by decide) (.escape '"' .nil)))))
  exact (quotation_outcome whole (by decide +kernel) parts head quoted).2.1 _ [' ', 'c'] rfl inside
    (by simp) (by decide)

theorem second_quotation_accepted :
    tokenize "rename = \"a\" \"b\"" = .ok [⟨"rename", some "a\" \"b", false⟩] := by
  decide +kernel

end Outcome

end ApiScribe.Token
