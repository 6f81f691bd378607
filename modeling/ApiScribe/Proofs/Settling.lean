import ApiScribe.Proofs.Resource.Graph

set_option autoImplicit false

namespace ApiScribe

-- A step that changes no state that still has what the step once added; `within` says that a later
-- state has all of an earlier one.
structure Settles {σ : Type} (within : σ → σ → Prop) (step : σ → σ) : Prop where
  keeps : ∀ state, within state (step state)
  again : ∀ before after, within (step before) after → step after = after

namespace Settles

variable {σ : Type} {within : σ → σ → Prop} {first second : σ → σ}

theorem id (refl : ∀ state, within state state) : Settles within id :=
  ⟨refl, fun _ _ _ => rfl⟩

theorem comp (trans : ∀ a b c, within a b → within b c → within a c)
    (earlier : Settles within first) (later : Settles within second) :
    Settles within (second ∘ first) where
  keeps state := trans _ _ _ (earlier.keeps state) (later.keeps (first state))
  again before after held := by
    have firstHeld : within (first before) after := trans _ _ _ (later.keeps _) held
    have firstAgain : first after = after := earlier.again before after firstHeld
    have secondAgain : second after = after := later.again (first before) after held
    rw [Function.comp_apply, firstAgain, secondAgain]

end Settles

namespace FirstWins

variable {α : Type}

structure Store.Within (before after : Store α) : Prop where
  entries : ∀ key x, Dict.get? before.entries key = some x → Dict.get? after.entries key = some x
  conflicts : before.conflicts ⊆ after.conflicts

theorem Store.within_refl (s : Store α) : s.Within s := ⟨fun _ _ found => found, fun _ => id⟩

theorem Store.Within.trans {a b c : Store α} (first : a.Within b) (second : b.Within c) :
    a.Within c :=
  ⟨fun key x found => second.entries key x (first.entries key x found),
    fun _ member => second.conflicts (first.conflicts member)⟩

theorem Store.add_settles {agree : α → α → Bool} (agrees : ∀ x, agree x x = true)
    (item : String × α) : Settles Store.Within fun s => s.add agree item where
  keeps s := by
    unfold Store.add
    split
    next absent =>
      refine ⟨fun key x found => ?_, fun _ => id⟩
      have different : item.1 ≠ key := by
        rintro rfl
        rw [absent] at found
        cases found
      simpa [Dict.get?_insert, different] using found
    next =>
      split
      · exact s.within_refl
      · exact ⟨fun _ _ found => found, List.subset_append_left _ _⟩
  again before after held := by
    -- The item is the entry of its key, agrees with it, or is a conflict already.
    obtain ⟨entries, conflicts⟩ := held
    unfold Store.add at entries conflicts
    split at entries
    next absent =>
      have found := entries item.1 item.2 (by simp [Dict.get?_insert])
      simp [Store.add, found, agrees]
    next present known =>
      rw [known] at conflicts
      by_cases quiet : (agree present item.2 || before.conflicts.contains item.1) = true
      · simp only [quiet, if_true] at entries conflicts
        have found := entries item.1 present known
        have again : (agree present item.2 || after.conflicts.contains item.1) = true := by
          rcases Bool.or_eq_true_iff.mp quiet with same | noted
          · simp [same]
          · simp [conflicts (List.contains_iff_mem.mp noted)]
        simp only [Store.add, found, again, if_true]
      · simp only [quiet, Bool.false_eq_true, if_false] at entries conflicts
        have found := entries item.1 present known
        have noted : item.1 ∈ after.conflicts := conflicts (by simp)
        simp [Store.add, found, noted]

end FirstWins

open FirstWins

theorem Registry.register_settles (name : String) (schema : Schema) :
    Settles (fun before after : Registry => before.store.Within after.store)
      fun r => r.register name schema where
  keeps r := by
    rw [store_register]
    exact (Store.add_settles (fun x => (agrees_iff x x).mpr rfl) _).keeps r.store
  again before after held := by
    rw [store_register] at held
    have same := (Store.add_settles (fun x => (agrees_iff x x).mpr rfl) _).again _ _ held
    rw [← store_register] at same
    exact congrArg (fun s : Store Schema => (⟨s.entries, s.conflicts⟩ : Registry)) same

theorem ResourceGraph.insert_settles (resource : Resource) :
    Settles (fun before after : ResourceGraph => before.store.Within after.store)
      fun g => g.insert resource where
  keeps g := by
    rw [store_insert]
    exact (Store.add_settles (fun x => (Resource.same_iff x x).mpr rfl) _).keeps g.store
  again before after held := by
    rw [store_insert] at held
    have same := (Store.add_settles (fun x => (Resource.same_iff x x).mpr rfl) _).again _ _ held
    rw [← store_insert] at same
    exact congrArg (fun s : Store Resource => (⟨s.entries, s.conflicts⟩ : ResourceGraph)) same

theorem Registry.registerAll_settles (calls : List (String × Schema)) :
    Settles (fun before after : Registry => before.store.Within after.store)
      fun r => r.registerAll calls := by
  induction calls with
  | nil => exact .id fun r => r.store.within_refl
  | cons call rest ih =>
    have first := register_settles call.1 call.2
    exact first.comp (fun _ _ _ left right => left.trans right) ih

end ApiScribe
