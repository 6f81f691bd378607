import ApiScribe.Proofs.Tag.Quotations

set_option autoImplicit false

namespace ApiScribe.Token

open Text

section Writable

inductive Balanced : List Char → Prop
  | nil : Balanced []
  | char {c : Char} {rest : List Char} (quote : c ≠ '"') (opening : c ≠ '(') (closing : c ≠ ')')
      (later : Balanced rest) : Balanced (c :: rest)
  | quotation {inside rest : List Char} (body : Inside inside) (later : Balanced rest) :
      Balanced ('"' :: (inside ++ ['"']) ++ rest)
  | group {inner rest : List Char} (body : Balanced inner) (later : Balanced rest) :
      Balanced ('(' :: (inner ++ [')']) ++ rest)

/-- Tokens with a proper key: a key alone, a key with any text as its value, and a key with a group
that is trimmed and balanced. -/
inductive Writable : Token → Prop
  | bare {key : String} (valid : isKey key.toList = true) : Writable ⟨key, none, false⟩
  | plain {key : String} (valid : isKey key.toList = true) (value : String) :
      Writable ⟨key, some value, false⟩
  | group {key text : String} (valid : isKey key.toList = true) (whole : trimmed text = text)
      (balanced : Balanced text.toList) : Writable ⟨key, some text, true⟩

theorem pass_group {inner : List Char} {depth inside : Nat}
    (passed : pass (.outside (depth + 1)) inner = some (.outside inside)) :
    pass (.outside depth) ('(' :: (inner ++ [')'])) = some (.outside (inside - 1)) := by
  have opened : pass (.outside depth) ['('] = some (.outside (depth + 1)) := by
    simp [pass, Place.next]
  have closed : pass (.outside inside) [')'] = some (.outside (inside - 1)) := by
    simp [pass, Place.next]
  rw [← List.singleton_append, pass_then opened, pass_then passed, closed]

theorem Balanced.pass {text : List Char} (balanced : Balanced text) (depth : Nat) :
    pass (.outside (depth + 1)) text = some (.outside (depth + 1)) := by
  induction balanced generalizing depth with
  | nil => rfl
  | char quote opening closing _ ih =>
    simpa [Token.pass, Place.separates, Place.next, quote, opening, closing] using ih depth
  | quotation body _ ih => rw [pass_then (body.pass_closed (depth + 1)), ih depth]
  | group _ _ inner ih => rw [pass_then (pass_group (inner (depth + 1))), Nat.add_sub_cancel, ih depth]

end Writable

section Written

variable {key : List Char}

theorem isHead_of_key (valid : isKey key = true) : IsHead key := by
  simp only [isKey, Bool.and_eq_true, List.all_eq_true] at valid
  intro c member
  have keyed := valid.2 c member
  simp only [Bool.and_eq_true, bne_iff_ne]
  constructor <;> rintro rfl <;> exact absurd keyed (by decide)

theorem not_blank_of_keyChar {c : Char} (keyed : isKeyChar c = true) : isBlank c = false := by
  rw [isKeyChar, Bool.or_eq_true, Bool.or_eq_true, beq_iff_eq, beq_iff_eq] at keyed
  obtain (letter | rfl) | rfl := keyed
  · have ascii : 48 ≤ c.toNat ∧ c.toNat ≤ 122 := by
      delta Char.isAlphanum Char.isAlpha Char.isUpper Char.isLower Char.isDigit at letter
      simp [UInt32.le_iff_toNat_le] at letter
      omega
    simp [isBlank]
    omega
  · decide
  · decide

theorem not_blank_of_key (valid : isKey key = true) : ∀ c ∈ key, isBlank c = false := by
  simp only [isKey, Bool.and_eq_true, List.all_eq_true] at valid
  exact fun c member => not_blank_of_keyChar (valid.2 c member)

theorem trim_key (valid : isKey key = true) : trim key = key :=
  trim_eq_self (fun c first => not_blank_of_key valid c (List.mem_of_head? first))
    (fun c last => not_blank_of_key valid c (List.mem_of_getLast? last))

theorem render_bare (key : String) (nested : Bool) :
    (render ⟨key, none, nested⟩).toList = key.toList := rfl

theorem render_plain (key value : String) :
    (render ⟨key, some value, false⟩).toList =
      (key.toList ++ [' ']) ++ '=' :: ' ' :: '"' :: (escape value.toList ++ ['"']) := by
  simp [render]

theorem render_group (key text : String) :
    (render ⟨key, some text, true⟩).toList = key.toList ++ '(' :: (text.toList ++ [')']) := by
  simp [render]

theorem inside_escape (cs : List Char) : Inside (escape cs) := by
  induction cs with
  | nil => exact .nil
  | cons c rest ih =>
    rw [escape]
    split
    next => exact .escape c ih
    next ordinary =>
      rw [not_or] at ordinary
      exact .char ordinary.2 ordinary.1 ih

theorem unescape?_escaped (cs : List Char) : unescape? (escape cs) = some cs := by
  induction cs with
  | nil => rfl
  | cons c rest ih =>
    rw [escape]
    split
    next special =>
      obtain rfl | rfl := special <;> simp [unescape?, ih]
    next ordinary =>
      rw [not_or] at ordinary
      rw [unescape?_char ordinary.1, ih, Option.map_some]

end Written

section Proper

structure Proper (token : Token) : Prop where
  key : isKey token.key.toList = true
  group : token.nested = true → ∃ text, token.value = some text ∧ trim text.toList = text.toList

theorem Writable.proper {token : Token} (writable : Writable token) : token.Proper := by
  cases writable with
  | bare valid => exact ⟨valid, nofun⟩
  | plain valid value => exact ⟨valid, nofun⟩
  | @group key text valid whole _ =>
    have same : (trimmed text).toList = text.toList := by rw [whole]
    exact ⟨valid, fun _ => ⟨text, rfl, by rwa [trimmed, String.toList_ofList] at same⟩⟩

theorem proper_of_read? {raw : List Char} {token : Token} (found : read? raw = some token) :
    token.Proper := by
  obtain ⟨key, -, valid, ⟨-, rfl⟩ | ⟨value, inner, -, rfl⟩ | ⟨inner, -, rfl⟩⟩ := read?_parts found
  · exact ⟨by rwa [String.toList_ofList], nofun⟩
  · exact ⟨by rwa [String.toList_ofList], nofun⟩
  · exact ⟨by rwa [String.toList_ofList], fun _ => ⟨_, rfl, by rw [String.toList_ofList, trim_trim]⟩⟩

variable {token : Token}

theorem Proper.cases (proper : token.Proper) :
    token = ⟨token.key, none, false⟩ ∨ (∃ value, token = ⟨token.key, some value, false⟩) ∨
      ∃ text, token = ⟨token.key, some text, true⟩ ∧ trim text.toList = text.toList := by
  obtain ⟨key, value, nested⟩ := token
  cases nested with
  | true =>
    obtain ⟨text, rfl, whole⟩ := proper.group rfl
    exact .inr (.inr ⟨text, rfl, whole⟩)
  | false =>
    cases value with
    | none => exact .inl rfl
    | some value => exact .inr (.inl ⟨value, rfl⟩)

theorem trim_quoted (inner : List Char) :
    trim (' ' :: '"' :: (inner ++ ['"'])) = '"' :: (inner ++ ['"']) := by
  rw [trim_cons_blank (by decide)]
  apply trim_eq_self
  · rintro c ⟨⟩
    decide
  · intro c last
    obtain rfl : '"' = c := by simpa [List.getLast?_cons, List.getLast?_append] using last
    decide

theorem Proper.read?_render (proper : token.Proper) : read? token.render.toList = some token := by
  have valid := proper.key
  have head := isHead_of_key valid
  have whole := trim_key valid
  obtain same | ⟨value, same⟩ | ⟨text, same, trimmed⟩ := proper.cases
  · rw [same, render_bare, read?_bare head, whole, if_pos valid, String.ofList_toList]
  · have spaced : IsHead (token.key.toList ++ [' ']) := by
      intro c member
      rw [List.mem_append, List.mem_singleton] at member
      obtain inside | rfl := member
      · exact head c inside
      · rfl
    rw [same, render_plain, read?_value spaced, trim_quoted, readValue?_closed, unescape?_escaped,
      Option.bind_some, trim_append_blank (by decide), whole, if_pos valid, String.ofList_toList,
      String.ofList_toList]
  · rw [same, render_group, read?_group head, whole, if_pos valid, trimmed, String.ofList_toList,
      String.ofList_toList]

theorem trim_key_append {key tail : List Char} (valid : isKey key = true)
    (last : ∀ c, tail.getLast? = some c → isBlank c = false) : trim (key ++ tail) = key ++ tail := by
  have blankless := not_blank_of_key valid
  apply trim_eq_self
  · intro c first
    cases key with
    | nil => cases valid
    | cons k rest => exact blankless c (by simp_all)
  · intro c found
    rw [List.getLast?_append, Option.or_eq_some_iff] at found
    obtain inTail | ⟨-, inKey⟩ := found
    · exact last c inTail
    · exact blankless c (List.mem_of_getLast? inKey)

theorem Proper.trim_render (proper : token.Proper) :
    trim token.render.toList = token.render.toList ∧ token.render.toList ≠ [] := by
  have valid := proper.key
  have nonempty : token.key.toList ≠ [] := by
    intro empty
    rw [empty] at valid
    cases valid
  obtain same | ⟨value, same⟩ | ⟨text, same, -⟩ := proper.cases
  · rw [same, render_bare]
    exact ⟨trim_key valid, nonempty⟩
  · rw [same, render_plain, List.append_assoc]
    refine ⟨trim_key_append valid ?_, by simp⟩
    intro c last
    obtain rfl : '"' = c := by simpa [List.getLast?_cons, List.getLast?_append] using last
    decide
  · rw [same, render_group]
    refine ⟨trim_key_append valid ?_, by simp⟩
    intro c last
    obtain rfl : ')' = c := by simpa [List.getLast?_cons, List.getLast?_append] using last
    decide

end Proper

section Passing

variable {token : Token}

theorem pass_key {key : List Char} (valid : isKey key = true) (depth : Nat) :
    pass (.outside depth) key = some (.outside depth) := by
  simp only [isKey, Bool.and_eq_true, List.all_eq_true] at valid
  exact pass_plain (fun c member => isPlain_of_keyChar (valid.2 c member)) depth

theorem pass_single (proper : token.Proper) (single : token.nested = false) :
    pass (.outside 0) token.render.toList = some (.outside 0) := by
  obtain same | ⟨value, same⟩ | ⟨text, same, -⟩ := proper.cases
  · rw [same, render_bare, pass_key proper.key]
  · rw [same, render_plain, List.append_assoc, pass_then (pass_key proper.key 0)]
    have between : pass (.outside 0) [' ', '=', ' '] = some (.outside 0) :=
      pass_plain (List.all_eq_true.mp (by decide)) 0
    exact (pass_then between _).trans ((inside_escape value.toList).pass_closed 0)
  · rw [same] at single
    cases single

theorem pass_written_group {key text : String} {inside : Nat} (valid : isKey key.toList = true)
    (passed : pass (.outside 1) text.toList = some (.outside inside)) :
    pass (.outside 0) (render ⟨key, some text, true⟩).toList = some (.outside (inside - 1)) := by
  rw [render_group, pass_then (pass_key valid 0), pass_group passed]

theorem Writable.pass (writable : Writable token) :
    pass (.outside 0) token.render.toList = some (.outside 0) := by
  cases writable with
  | bare valid => exact pass_single ⟨valid, nofun⟩ rfl
  | plain valid value => exact pass_single ⟨valid, nofun⟩ rfl
  | group valid _ balanced => exact pass_written_group valid (balanced.pass 0)

theorem pass_of_read? {raw : List Char} {depth : Nat} (found : read? raw = some token)
    (passed : pass (.outside 0) raw = some (.outside depth)) :
    ∃ after, pass (.outside 0) token.render.toList = some (.outside after) ∧
      (depth = 0 → after = 0) := by
  have proper := proper_of_read? found
  obtain ⟨key, -, valid, parts⟩ := read?_parts found
  obtain ⟨-, rfl⟩ | ⟨value, inner, -, rfl⟩ | ⟨inner, rfl, rfl⟩ := parts
  · exact ⟨0, pass_single proper rfl, fun _ => rfl⟩
  · exact ⟨0, pass_single proper rfl, fun _ => rfl⟩
  · rw [pass_then (pass_plain (isPlain_of_key valid) 0)] at passed
    have inside : pass (.outside 1) (inner ++ [')']) = some (.outside depth) := by
      simpa [pass, Place.next] using passed
    rw [pass_append, Option.bind_eq_some_iff] at inside
    obtain ⟨between, reached, closed⟩ := inside
    have ended : between.next ')' = .outside depth := by simpa [pass] using closed
    obtain ⟨before, rfl⟩ := next_closing ended
    obtain rfl : before - 1 = depth := by simpa [Place.next] using ended
    refine ⟨before - 1, pass_written_group proper.key ?_, id⟩
    rw [String.toList_ofList]
    exact pass_trim reached

end Passing

section Lists

theorem toList_joinWith (first : String) (rest : List String) :
    (joinWith ", " (first :: rest)).toList =
      [','].intercalate (first.toList :: rest.map fun text => ' ' :: text.toList) := by
  induction rest generalizing first with
  | nil => simp [joinWith]
  | cons next rest ih => simp [joinWith, ih, List.intercalate_cons_cons]

theorem pass_space (piece : List Char) : pass (.outside 0) (' ' :: piece) = pass (.outside 0) piece := by
  simp [pass, Place.next]

theorem Apart.spaced {pieces : List (List Char)} (apart : Apart pieces) :
    Apart (pieces.map (' ' :: ·)) := by
  induction apart with
  | none => exact .none
  | last closed => exact .last ((pass_space _).trans closed)
  | more closed _ ih => exact .more ((pass_space _).trans closed) ih

theorem Apart.spaced_tail {piece : List Char} {rest : List (List Char)}
    (apart : Apart (piece :: rest)) : Apart (piece :: rest.map (' ' :: ·)) := by
  cases apart with
  | last closed => exact .last closed
  | more closed others => exact .more closed others.spaced

theorem Apart.of_forall {pieces : List (List Char)}
    (closed : ∀ piece ∈ pieces, pass (.outside 0) piece = some (.outside 0)) : Apart pieces := by
  induction pieces with
  | nil => exact .none
  | cons piece rest ih =>
    rw [List.forall_mem_cons] at closed
    exact .more closed.1 (ih closed.2)

variable {tokens : List Token}

theorem cut_renderAll (apart : Apart (tokens.map (·.render.toList)))
    (proper : ∀ token ∈ tokens, token.Proper) :
    ∃ pieces, cut (.outside 0) (renderAll tokens).toList = some pieces ∧
      (pieces.map trim).filter (!·.isEmpty) = tokens.map (·.render.toList) := by
  cases tokens with
  | nil => exact ⟨[[]], rfl, rfl⟩
  | cons token rest =>
    have spaced : Apart (token.render.toList :: (rest.map render).map fun text => ' ' :: text.toList) := by
      simpa [Function.comp_def] using apart.spaced_tail
    refine ⟨_, (cut_eq_some_iff _ _).mpr ⟨by simp, spaced, toList_joinWith _ _⟩, ?_⟩
    have same : (token.render.toList :: (rest.map render).map fun text => ' ' :: text.toList).map trim =
        (token :: rest).map (·.render.toList) := by
      rw [List.map_cons, List.map_map, List.map_map, List.map_cons,
        (proper token List.mem_cons_self).trim_render.1]
      congr 1
      apply List.map_congr_left
      intro other member
      have whole := (proper other (List.mem_cons_of_mem _ member)).trim_render.1
      exact (trim_cons_blank (by decide) _).trans whole
    rw [same, List.filter_eq_self]
    intro text member
    obtain ⟨other, listed, rfl⟩ := List.mem_map.mp member
    simpa using (proper other listed).trim_render.2

theorem tokenize_of_apart (apart : Apart (tokens.map (·.render.toList)))
    (proper : ∀ t ∈ tokens, t.Proper) : tokenize (renderAll tokens) = .ok tokens := by
  obtain ⟨pieces, whole, texts⟩ := cut_renderAll apart proper
  rw [tokenize_of_cut whole, texts, readAll_ok_iff, List.forall₂_map_left_iff, List.forall₂_same]
  exact fun token member => (proper token member).read?_render

theorem proper_of_read {raws : List (List Char)}
    (read : List.Forall₂ (fun raw token => read? raw = some token) raws tokens) :
    ∀ token ∈ tokens, token.Proper := by
  induction read with
  | nil => simp
  | cons found _ ih => exact List.forall_mem_cons.mpr ⟨proper_of_read? found, ih⟩

theorem apart_of_read {pieces : List (List Char)} (apart : Apart pieces)
    (read : List.Forall₂ (fun raw token => read? raw = some token)
      ((pieces.map trim).filter (!·.isEmpty)) tokens) :
    Apart (tokens.map (·.render.toList)) := by
  induction apart generalizing tokens with
  | none =>
    obtain rfl := List.forall₂_nil_left_iff.mp read
    exact .none
  | last closed =>
    rw [List.map_cons, List.map_nil, List.filter_cons] at read
    split at read
    next =>
      obtain ⟨token, others, found, rest, rfl⟩ := List.forall₂_cons_left_iff.mp read
      obtain rfl := List.forall₂_nil_left_iff.mp rest
      obtain ⟨after, passed, -⟩ := pass_of_read? found (pass_trim closed)
      exact .last passed
    next =>
      obtain rfl := List.forall₂_nil_left_iff.mp read
      exact .none
  | more closed _ ih =>
    rw [List.map_cons, List.filter_cons] at read
    split at read
    next =>
      obtain ⟨token, others, found, rest, rfl⟩ := List.forall₂_cons_left_iff.mp read
      obtain ⟨after, passed, balanced⟩ := pass_of_read? found (pass_trim closed)
      obtain rfl := balanced rfl
      exact .more passed (ih rest)
    next => exact ih read

/-- Reading undoes writing: tokens that can be written are read from the text that they are written
as, and so are the tokens of any text that is read. -/
theorem tokenize_renderAll :
    (∀ tokens : List Token, (∀ token ∈ tokens, Writable token) →
      tokenize (renderAll tokens) = .ok tokens) ∧
    (∀ (text : String) (tokens : List Token), tokenize text = .ok tokens →
      tokenize (renderAll tokens) = .ok tokens) := by
  constructor
  · intro tokens writable
    apply tokenize_of_apart _ fun token member => (writable token member).proper
    apply Apart.of_forall
    intro text member
    obtain ⟨token, listed, rfl⟩ := List.mem_map.mp member
    exact (writable token listed).pass
  · intro text tokens accepted
    rw [tokenize] at accepted
    split at accepted
    next => cases accepted
    next pieces whole =>
      obtain ⟨-, apart, -⟩ := (cut_eq_some_iff text.toList pieces).mp whole
      have read := (readAll_ok_iff _ tokens).mp accepted
      exact tokenize_of_apart (apart_of_read apart read) (proper_of_read read)

theorem tokenize_renderAll_marks :
    tokenize (renderAll [⟨"enum", some "a, (b\\ = \"\n", false⟩, ⟨"-", none, false⟩,
        ⟨"rename", some "x = \")\", f(y)", true⟩]) =
      .ok [⟨"enum", some "a, (b\\ = \"\n", false⟩, ⟨"-", none, false⟩,
        ⟨"rename", some "x = \")\", f(y)", true⟩] ∧
    tokenize "a(b)c) , d ( (e, f )" = .ok [⟨"a", some "b)c", true⟩, ⟨"d", some "(e, f", true⟩] ∧
    tokenize (renderAll [⟨"a", some "b)c", true⟩, ⟨"d", some "(e, f", true⟩]) =
      .ok [⟨"a", some "b)c", true⟩, ⟨"d", some "(e, f", true⟩] := by
  have balanced : Balanced "x = \")\", f(y)".toList := by
    have call : Balanced ('(' :: (['y'] ++ [')']) ++ []) :=
      .group (.char (by decide) (by decide) (by decide) .nil) .nil
    have quoted : Balanced ('"' :: ([')'] ++ ['"']) ++ [',', ' ', 'f', '(', 'y', ')']) :=
      .quotation (.char (by decide) (by decide) .nil)
        (.char (by decide) (by decide) (by decide) (.char (by decide) (by decide) (by decide)
          (.char (by decide) (by decide) (by decide) call)))
    exact .char (by decide) (by decide) (by decide) (.char (by decide) (by decide) (by decide)
      (.char (by decide) (by decide) (by decide) (.char (by decide) (by decide) (by decide) quoted)))
  have read : tokenize "a(b)c) , d ( (e, f )" =
      .ok [⟨"a", some "b)c", true⟩, ⟨"d", some "(e, f", true⟩] := by decide +kernel
  refine ⟨tokenize_renderAll.1 _ ?_, read, tokenize_renderAll.2 _ _ read⟩
  simp only [List.forall_mem_cons]
  exact ⟨.plain (by decide) _, .bare (by decide), .group (by decide) (by decide +kernel) balanced,
    by simp⟩

end Lists

end ApiScribe.Token
