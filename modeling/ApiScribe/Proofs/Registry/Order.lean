import ApiScribe.Proofs.Registry.History

set_option autoImplicit false

namespace ApiScribe

open FirstWins

theorem Schema.beq_iff_content (d e : List (String × Schema)) :
    (d == e) = true ↔ viewed Schema.content d = viewed Schema.content e := by
  induction d generalizing e with
  | nil => cases e <;> simp [viewed]
  | cons entry rest ih =>
    cases e with
    | nil => simp [viewed]
    | cons other others =>
      have heads : (entry == other) = true ↔
          entry.1 = other.1 ∧ entry.2.content = other.2.content := by
        rw [show (entry == other) = (entry.1 == other.1 && entry.2.same other.2) from rfl,
          Bool.and_eq_true, beq_iff_eq, Schema.same_iff]
      have tails := ih others
      simp only [viewed] at tails
      simp only [List.cons_beq_cons, Bool.and_eq_true, heads, tails, viewed, List.map_cons,
        List.cons.injEq, Prod.mk.injEq]

namespace Registry

theorem finalize_failure {r : Registry} (sorted : Dict.Sorted r.entries)
    (fails : ¬ ∃ published, r.finalize = .ok published) :
    ∃ name, r.finalize = .error (.duplicateSchema name) := by
  cases outcome : r.finalize with
  | ok published => exact absurd ⟨published, outcome⟩ fails
  | error failure =>
    rcases finalize_error sorted outcome with ⟨name, -, rfl⟩ | ⟨-, name, -, rfl, -⟩
    · exact ⟨_, rfl⟩
    · exact ⟨_, rfl⟩

section Alike

variable {calls others : List (String × Schema)}

theorem alike_first (alike : Alike view calls others) :
    Alike view (first :: calls) (first :: others) := by
  have same : Alike view [first] [first] := Alike.of_eq rfl
  exact same.append alike

theorem agreeing_congr (alike : Alike view calls others) : Agreeing calls ↔ Agreeing others := by
  rw [agreeing_iff, agreeing_iff]
  exact (alike_first alike).consistent_iff

theorem registered?_congr (alike : Alike view calls others) (agreeing : Agreeing calls)
    (name : String) : (registered? calls name).map view = (registered? others name).map view :=
  (alike_first alike).get?_eq ((agreeing_iff calls).mp agreeing) name

theorem custom?_congr (alike : Alike view calls others) (agreeing : Agreeing calls) :
    custom? calls = custom? others := by
  funext name
  have same := congrArg (Option.bind · Prod.snd) (registered?_congr alike agreeing name)
  simpa [custom?, Option.bind_map, Function.comp_def, view] using same

theorem display_congr (alike : Alike view calls others) (agreeing : Agreeing calls) :
    display calls = display others := by
  funext name
  rw [display, display, custom?_congr alike agreeing]

theorem turn_congr (alike : Alike view calls others) (agreeing : Agreeing calls) :
    turn calls = turn others := by
  funext reference
  rw [turn, turn, custom?_congr alike agreeing]

theorem present_congr (alike : Alike view calls others) (agreeing : Agreeing calls)
    (name : String) : (registered? calls name).isSome = (registered? others name).isSome := by
  simpa using congrArg Option.isSome (registered?_congr alike agreeing name)

theorem distinct_congr (alike : Alike view calls others) (agreeing : Agreeing calls) :
    Distinct calls ↔ Distinct others := by
  simp only [Distinct, display_congr alike agreeing, present_congr alike agreeing]

theorem published_congr (alike : Alike view calls others) {left right : Dict Schema}
    (leftSucceeded : (empty.registerAll calls).finalize = .ok left)
    (rightSucceeded : (empty.registerAll others).finalize = .ok right) :
    viewed Schema.content left = viewed Schema.content right := by
  have agreeing := agreeing_of_finalize leftSucceeded
  obtain ⟨leftSorted, leftKeys⟩ := keys_published leftSucceeded
  obtain ⟨rightSorted, rightKeys⟩ := keys_published rightSucceeded
  apply Dict.Sorted.ext (leftSorted.map _) (rightSorted.map _)
  intro key
  rw [Dict.get?_map, Dict.get?_map]
  by_cases member : key ∈ Dict.keys left
  · -- The key shows a name that both have registered, with contents that agree.
    obtain ⟨name, present, rfl⟩ := (leftKeys key).mp member
    obtain ⟨schema, found⟩ := Option.isSome_iff_exists.mp present
    have same := registered?_congr alike agreeing name
    rw [found, Option.map_some] at same
    obtain ⟨other, otherFound, sameView⟩ := Option.map_eq_some_iff.mp same.symm
    have sameContent : other.content = schema.content := congrArg Prod.fst sameView
    rw [get?_published leftSucceeded found, display_congr alike agreeing,
      get?_published rightSucceeded otherFound]
    simp only [Option.map_some, Schema.content_mapReferences, content_kept, sameContent,
      turn_congr alike agreeing]
  · have absent : key ∉ Dict.keys right := by
      simpa only [leftKeys, rightKeys, display_congr alike agreeing, present_congr alike agreeing]
        using member
    rw [(Dict.get?_eq_none_iff left key).mpr member, (Dict.get?_eq_none_iff right key).mpr absent]

theorem finalize_alike (alike : Alike view calls others) :
    (∃ left right, (empty.registerAll calls).finalize = .ok left ∧
      (empty.registerAll others).finalize = .ok right ∧ (left == right) = true) ∨
    (∃ name, (empty.registerAll calls).finalize = .error (.duplicateSchema name)) ∧
      ∃ name, (empty.registerAll others).finalize = .error (.duplicateSchema name) := by
  by_cases holds : Agreeing calls ∧ Distinct calls
  · have agreeing := holds.1
    have otherHolds : Agreeing others ∧ Distinct others :=
      ⟨(agreeing_congr alike).mp agreeing, (distinct_congr alike agreeing).mp holds.2⟩
    obtain ⟨left, leftSucceeded⟩ := (succeeds_iff calls).mpr holds
    obtain ⟨right, rightSucceeded⟩ := (succeeds_iff others).mpr otherHolds
    refine .inl ⟨left, right, leftSucceeded, rightSucceeded, ?_⟩
    rw [Schema.beq_iff_content]
    exact published_congr alike leftSucceeded rightSucceeded
  · have otherFails : ¬ (Agreeing others ∧ Distinct others) := by
      rintro ⟨agreeing, distinct⟩
      exact holds ⟨(agreeing_congr alike).mpr agreeing,
        (distinct_congr alike.symm agreeing).mp distinct⟩
    rw [← succeeds_iff] at holds otherFails
    exact .inr ⟨finalize_failure (history_follows calls).sorted holds,
      finalize_failure (history_follows others).sorted otherFails⟩

end Alike

end Registry

end ApiScribe
