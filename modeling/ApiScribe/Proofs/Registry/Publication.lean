import ApiScribe.Registry
import ApiScribe.Proofs.Dict

set_option autoImplicit false

namespace ApiScribe.Registry

def shown (entry : String × Schema) : String :=
  entry.2.customName.getD entry.1

theorem shown_eq {r : Registry} (sorted : Dict.Sorted r.entries) {entry : String × Schema}
    (member : entry ∈ r.entries) : shown entry = r.displayName entry.1 := by
  have found : r.get? entry.1 = some entry.2 := Dict.get?_of_mem sorted.nodup member
  simp [shown, displayName, found]

theorem publishAll_cons (r : Registry) (done : Dict Schema) (entry : String × Schema)
    (rest : List (String × Schema)) :
    r.publishAll done (entry :: rest) =
      if shown entry ∈ Dict.keys done then .error (.duplicateSchema (shown entry))
      else r.publishAll (Dict.insert (shown entry) (r.published entry.1 entry.2) done) rest := by
  rw [publishAll]
  simp only [Dict.contains_iff]
  rfl

theorem publishAll_ok (r : Registry) {done : Dict Schema} (entries : List (String × Schema))
    (distinct : (entries.map shown).Nodup) (fresh : ∀ e ∈ entries, shown e ∉ Dict.keys done) :
    ∃ published, r.publishAll done entries = .ok published := by
  induction entries generalizing done with
  | nil => exact ⟨done, rfl⟩
  | cons entry rest ih =>
    rw [List.map_cons, List.nodup_cons] at distinct
    have absent : shown entry ∉ Dict.keys done := fresh entry (by simp)
    have restFresh : ∀ e ∈ rest,
        shown e ∉ Dict.keys (Dict.insert (shown entry) (r.published entry.1 entry.2) done) := by
      intro e member
      rw [Dict.mem_keys_insert, not_or]
      refine ⟨?_, fresh e (List.mem_cons_of_mem _ member)⟩
      intro same
      exact distinct.1 (same ▸ List.mem_map_of_mem member)
    rw [publishAll_cons, if_neg absent]
    exact ih distinct.2 restFresh

theorem publishAll_result (r : Registry) {done published : Dict Schema}
    (entries : List (String × Schema)) (succeeded : r.publishAll done entries = .ok published)
    (sorted : Dict.Sorted done) :
    Dict.Sorted published ∧ (entries.map shown).Nodup ∧
      (∀ e ∈ entries, shown e ∉ Dict.keys done) ∧
      ∀ key, Dict.get? published key =
        (Dict.get? (entries.map fun e => (shown e, r.published e.1 e.2)) key).or
          (Dict.get? done key) := by
  induction entries generalizing done with
  | nil =>
    simp only [publishAll, Except.ok.injEq] at succeeded
    subst succeeded
    simp [sorted, Dict.get?]
  | cons entry rest ih =>
    rw [publishAll_cons] at succeeded
    split at succeeded
    next => cases succeeded
    next absent =>
      obtain ⟨published_sorted, distinct, fresh, found⟩ :=
        ih succeeded (Dict.insert_sorted sorted _ _)
      -- A later entry of this display name would have found it taken.
      have unused : shown entry ∉ rest.map shown := by
        intro member
        obtain ⟨e, later, same⟩ := List.mem_map.mp member
        exact fresh e later ((Dict.mem_keys_insert _ _ _ _).mpr (.inl same))
      refine ⟨published_sorted, by simp [unused, distinct], ?_, ?_⟩
      · rintro e member
        rcases List.mem_cons.mp member with rfl | later
        · exact absent
        · intro inDone
          exact fresh e later ((Dict.mem_keys_insert _ _ _ _).mpr (.inr inDone))
      · intro key
        rw [found key, List.map_cons, Dict.get?_insert]
        by_cases same : shown entry = key
        · have later : Dict.get? (rest.map fun e => (shown e, r.published e.1 e.2)) key = none := by
            rw [Dict.get?_eq_none_iff, Dict.keys, List.map_map, ← same]
            exact unused
          simp [Dict.get?, same, later]
        · simp [Dict.get?, same]

theorem publishAll_error (r : Registry) {done : Dict Schema} {failure : Failure}
    (entries : List (String × Schema)) (failed : r.publishAll done entries = .error failure) :
    ∃ before entry after, entries = before ++ entry :: after ∧
      failure = .duplicateSchema (shown entry) ∧
      (shown entry ∈ Dict.keys done ∨ shown entry ∈ before.map shown) ∧
      (before.map shown).Nodup ∧ ∀ e ∈ before, shown e ∉ Dict.keys done := by
  induction entries generalizing done with
  | nil => simp [publishAll] at failed
  | cons entry rest ih =>
    rw [publishAll_cons] at failed
    split at failed
    next taken =>
      exact ⟨[], entry, rest, rfl, (Except.error.inj failed).symm, .inl taken, by simp, by simp⟩
    next absent =>
      obtain ⟨before, last, after, rfl, same, taken, distinct, fresh⟩ := ih failed
      refine ⟨entry :: before, last, after, rfl, same, ?_, ?_, ?_⟩
      · rw [Dict.mem_keys_insert] at taken
        rcases taken with (here | inDone) | inBefore
        · exact .inr (by simp [here])
        · exact .inl inDone
        · exact .inr (List.mem_cons_of_mem _ inBefore)
      · rw [List.map_cons, List.nodup_cons]
        refine ⟨?_, distinct⟩
        intro member
        obtain ⟨e, inBefore, again⟩ := List.mem_map.mp member
        exact fresh e inBefore ((Dict.mem_keys_insert _ _ _ _).mpr (.inl again))
      · rintro e member
        rcases List.mem_cons.mp member with rfl | inBefore
        · exact absent
        · intro inDone
          exact fresh e inBefore ((Dict.mem_keys_insert _ _ _ _).mpr (.inr inDone))

theorem finalize_ok_iff {r : Registry} (sorted : Dict.Sorted r.entries) :
    (∃ published, r.finalize = .ok published) ↔
      r.conflicts = [] ∧ ∀ m ∈ Dict.keys r.entries, ∀ n ∈ Dict.keys r.entries,
        r.displayName m = r.displayName n → m = n := by
  -- Entries are told apart by their names, so two that are shown alike have different names.
  have entriesNodup : r.entries.Nodup := List.Nodup.of_map _ sorted.nodup
  have shownNodup : (r.entries.map shown).Nodup ↔ ∀ m ∈ Dict.keys r.entries,
      ∀ n ∈ Dict.keys r.entries, r.displayName m = r.displayName n → m = n := by
    rw [List.nodup_map_iff_inj_on entriesNodup]
    constructor
    · intro injective m left n right same
      obtain ⟨a, aMember, rfl⟩ := List.mem_map.mp left
      obtain ⟨b, bMember, rfl⟩ := List.mem_map.mp right
      rw [← shown_eq sorted aMember, ← shown_eq sorted bMember] at same
      rw [injective a aMember b bMember same]
    · intro injective a aMember b bMember same
      rw [shown_eq sorted aMember, shown_eq sorted bMember] at same
      have names : a.1 = b.1 := injective a.1 (List.mem_map_of_mem aMember) b.1
        (List.mem_map_of_mem bMember) same
      have found := Dict.get?_of_mem sorted.nodup aMember
      rw [names, Dict.get?_of_mem sorted.nodup bMember] at found
      exact Prod.ext names (Option.some.inj found).symm
  rw [← shownNodup, finalize]
  cases r.conflicts with
  | cons name rest => simp
  | nil =>
    constructor
    · rintro ⟨published, succeeded⟩
      exact ⟨rfl, (publishAll_result r r.entries succeeded (by simp [Dict.Sorted])).2.1⟩
    · rintro ⟨-, distinct⟩
      exact publishAll_ok r r.entries distinct (by simp)

theorem finalize_result {r : Registry} (sorted : Dict.Sorted r.entries) {published : Dict Schema}
    (succeeded : r.finalize = .ok published) :
    Dict.Sorted published ∧
      (∀ key, key ∈ Dict.keys published ↔ ∃ name ∈ Dict.keys r.entries, r.displayName name = key) ∧
      ∀ name schema, r.get? name = some schema →
        Dict.get? published (r.displayName name) = some (r.published name schema) := by
  have settled : r.conflicts = [] := ((finalize_ok_iff sorted).mp ⟨_, succeeded⟩).1
  simp only [finalize, settled] at succeeded
  obtain ⟨published_sorted, distinct, -, found⟩ :=
    publishAll_result r r.entries succeeded (by simp [Dict.Sorted])
  simp only [Dict.get?, Option.or_none] at found
  refine ⟨published_sorted, ?_, ?_⟩
  · intro key
    rw [← Dict.get?_isSome_iff, found key, Dict.get?_isSome_iff, Dict.keys, List.map_map,
      List.mem_map]
    constructor
    · rintro ⟨entry, member, rfl⟩
      exact ⟨entry.1, List.mem_map_of_mem member, (shown_eq sorted member).symm⟩
    · rintro ⟨name, member, rfl⟩
      obtain ⟨entry, here, rfl⟩ := List.mem_map.mp member
      exact ⟨entry, here, shown_eq sorted here⟩
  · intro name schema registered
    have member := Dict.mem_of_get? registered
    rw [found, ← shown_eq sorted member]
    apply Dict.get?_of_mem
    · simpa [Dict.keys, Function.comp_def] using distinct
    · exact List.mem_map_of_mem member

theorem finalize_error {r : Registry} (sorted : Dict.Sorted r.entries) {failure : Failure}
    (failed : r.finalize = .error failure) :
    (∃ name, r.conflicts.head? = some name ∧ failure = .duplicateSchema name) ∨
      r.conflicts = [] ∧ ∃ name ∈ Dict.keys r.entries,
        failure = .duplicateSchema (r.displayName name) ∧
        (∃ m ∈ Dict.keys r.entries, m < name ∧ r.displayName m = r.displayName name) ∧
        ∀ m ∈ Dict.keys r.entries, ∀ n ∈ Dict.keys r.entries, m < name → n < name →
          r.displayName m = r.displayName n → m = n := by
  rw [finalize] at failed
  cases conflicts : r.conflicts with
  | cons name rest =>
    simp only [conflicts, Except.error.injEq] at failed
    exact .inl ⟨name, rfl, failed.symm⟩
  | nil =>
    simp only [conflicts] at failed
    obtain ⟨before, entry, after, split, same, taken, distinct, -⟩ :=
      publishAll_error r r.entries failed
    have order := List.pairwise_map.mp sorted
    rw [split, List.pairwise_append] at order
    have inEntries {e : String × Schema} (member : e ∈ before) : e ∈ r.entries :=
      split ▸ List.mem_append_left _ member
    have here : entry ∈ r.entries := by simp [split]
    -- The entries with smaller names are those before the one that failed.
    have smaller {e : String × Schema} (member : e ∈ r.entries) (less : e.1 < entry.1) :
        e ∈ before := by
      rw [split, List.mem_append, List.mem_cons] at member
      rcases member with earlier | rfl | later
      · exact earlier
      · exact absurd less (String.lt_irrefl _)
      · have greater := (List.pairwise_cons.mp order.2.1).1 e later
        exact absurd (String.lt_trans less greater) (String.lt_irrefl _)
    refine .inr ⟨rfl, entry.1, List.mem_map_of_mem here, ?_, ?_, ?_⟩
    · rw [same, shown_eq sorted here]
    · rcases taken with inNothing | inBefore
      · simp at inNothing
      · obtain ⟨e, earlier, sameName⟩ := List.mem_map.mp inBefore
        rw [shown_eq sorted (inEntries earlier), shown_eq sorted here] at sameName
        exact ⟨e.1, List.mem_map_of_mem (inEntries earlier),
          order.2.2 e earlier entry (by simp), sameName⟩
    · intro m left n right mLess nLess sameName
      obtain ⟨a, aMember, rfl⟩ := List.mem_map.mp left
      obtain ⟨b, bMember, rfl⟩ := List.mem_map.mp right
      rw [← shown_eq sorted aMember, ← shown_eq sorted bMember] at sameName
      rw [List.inj_on_of_nodup_map distinct (smaller aMember mLess) (smaller bMember nLess) sameName]

end ApiScribe.Registry
