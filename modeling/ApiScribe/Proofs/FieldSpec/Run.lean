import ApiScribe.Proofs.FieldSpec.Change
import Mathlib.Data.List.ReduceOption

set_option autoImplicit false

namespace ApiScribe.FieldSpec

section Runs

variable {shape : Shape} {draft : Draft}

-- As `marks`, with nothing in the place of an attribute that does not come apart into tokens.
def items (attributes : List Attribute) : List (Option Mark) :=
  attributes.flatMap fun attr =>
    match Token.tokenize attr.arguments with
    | .ok tokens => (tokens.filter (!·.nested)).map fun token => some (attr.name, token)
    | .error _ => [none]

theorem reduceOption_items (attributes : List Attribute) :
    (items attributes).reduceOption = marks attributes := by
  rw [List.reduceOption, items, List.filterMap_flatMap, marks]
  apply List.flatMap_congr
  intro attr _
  cases Token.tokenize attr.arguments <;> simp [List.filterMap_map]

def run? (shape : Shape) (draft : Draft) : List (Option Mark) → Option Progress
  | [] => some (.reading draft)
  | none :: _ => none
  | some m :: rest =>
    match step? shape m draft with
    | some (.reading draft) => run? shape draft rest
    | done => done

theorem run?_append (front back : List (Option Mark)) :
    run? shape draft (front ++ back) =
      match run? shape draft front with
      | some (.reading draft) => run? shape draft back
      | done => done := by
  induction front generalizing draft with
  | nil => rfl
  | cons item rest ih =>
    cases item with
    | none => rfl
    | some m =>
      rw [List.cons_append, run?, run?]
      cases step? shape m draft with
      | none => rfl
      | some progress =>
        cases progress with
        | reading next => exact ih
        | skipped spec => rfl

theorem readTokens_run {attr : String} {tokens : List Token} :
    (readTokens shape attr draft tokens).toOption =
      run? shape draft ((tokens.filter (!·.nested)).map fun token => some (attr, token)) := by
  induction tokens generalizing draft with
  | nil => rfl
  | cons token rest ih =>
    rw [readTokens]
    cases nested : token.nested with
    | true =>
      rw [List.filter_cons_of_neg (by simp [nested]), readToken, if_pos nested]
      exact ih
    | false =>
      have step : (readToken shape attr draft token).toOption = step? shape (attr, token) draft :=
        readToken_step (m := (attr, token)) nested
      rw [List.filter_cons_of_pos (by simp [nested]), List.map_cons, run?, ← step]
      cases readToken shape attr draft token with
      | error e => rfl
      | ok progress =>
        cases progress with
        | reading next => exact ih
        | skipped spec => rfl

theorem readAttributes_run {attributes : List Attribute} :
    (readAttributes shape draft attributes).toOption = run? shape draft (items attributes) := by
  induction attributes generalizing draft with
  | nil => rfl
  | cons attr rest ih =>
    rw [readAttributes, items, List.flatMap_cons]
    cases Token.tokenize attr.arguments with
    | error e => rfl
    | ok tokens =>
      dsimp only
      rw [run?_append, ← readTokens_run]
      cases readTokens shape attr.name draft tokens with
      | error e => rfl
      | ok progress =>
        cases progress with
        | reading next => exact ih
        | skipped spec => rfl

inductive Run (shape : Shape) : Draft → List Mark → Draft → Prop
  | done (draft : Draft) : Run shape draft [] draft
  | next {draft between after : Draft} {m : Mark} {rest : List Mark} {change : Change}
      (made : change? shape m = some change) (applied : change.apply draft = some between)
      (later : Run shape between rest after) : Run shape draft (m :: rest) after

-- A reading that succeeds runs to its end, or to the first token that skips the field.
theorem run?_cases {items : List (Option Mark)} {progress : Progress}
    (read : run? shape draft items = some progress) :
    ∃ front after, front <+: items.reduceOption ∧ Run shape draft front after ∧
      (progress = .reading after ∧ front = items.reduceOption ∨
        progress = .skipped { after.spec with ignored := true }) := by
  induction items generalizing draft with
  | nil =>
    cases read
    exact ⟨[], draft, List.nil_prefix, .done draft, .inl ⟨rfl, rfl⟩⟩
  | cons item rest ih =>
    cases item with
    | none => cases read
    | some m =>
      rw [run?, step?] at read
      split_ifs at read
      · cases read
        exact ⟨[], draft, List.nil_prefix, .done draft, .inr rfl⟩
      · cases acted : act shape m draft with
        | none =>
          rw [acted] at read
          cases read
        | some between =>
          rw [acted] at read
          obtain ⟨front, after, leads, run, outcome⟩ := ih read
          obtain ⟨change, made, applied⟩ := Option.bind_eq_some_iff.mp acted
          rw [List.reduceOption_cons_of_some]
          refine ⟨m :: front, after, List.cons_prefix_cons.mpr ⟨rfl, leads⟩,
            .next made applied run, ?_⟩
          rcases outcome with ⟨reached, all⟩ | skipped
          · exact .inl ⟨reached, by rw [all]⟩
          · exact .inr skipped

end Runs

namespace Run

variable {shape : Shape} {draft after : Draft} {marks : List Mark}

theorem example_kept (run : Run shape draft marks after) :
    after.spec.example? = draft.spec.example? := by
  induction run with
  | done => rfl
  | next _ applied _ ih =>
    obtain ⟨role, -, rfl⟩ := Change.apply_eq_some_iff.mp applied
    exact ih

theorem role_kept (run : Run shape draft marks after)
    (without : ∀ m ∈ marks, m.kind.givesRole = false) : after.spec.role = draft.spec.role := by
  induction run with
  | done => rfl
  | next made applied _ ih =>
    rw [List.forall_mem_cons] at without
    have free := (change?_of made).role
    obtain ⟨role, given, rfl⟩ := Change.apply_eq_some_iff.mp applied
    simp only [without.1, Bool.false_eq_true, if_false] at free
    rw [free, Change.roles, if_pos rfl] at given
    exact (ih without.2).trans (Option.some.inj given).symm

end Run

end ApiScribe.FieldSpec
