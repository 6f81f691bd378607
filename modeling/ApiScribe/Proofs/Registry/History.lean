import ApiScribe.Proofs.FirstWins
import ApiScribe.Proofs.Registry.Publication
import ApiScribe.Proofs.Schema.Content
import ApiScribe.Proofs.Schema.Places

set_option autoImplicit false

namespace ApiScribe.Registry

open FirstWins

def store (r : Registry) : Store Schema := ⟨r.entries, r.conflicts⟩

def view (schema : Schema) : Schema × Option String := (schema.content, schema.customName)

theorem agrees_iff (a b : Schema) : agrees a b = true ↔ view a = view b := by
  simp [agrees, view, Schema.same_iff]

def noted (call : String × Schema) : String × Schema :=
  (call.1, call.2.withDeclaredName call.1)

theorem store_register (r : Registry) (name : String) (schema : Schema) :
    (r.register name schema).store = r.store.add agrees (noted (name, schema)) := by
  simp only [register, store, Store.add, noted]
  cases Dict.get? r.entries name with
  | none => rfl
  | some present =>
    by_cases quiet : (agrees present (schema.withDeclaredName name) ||
        r.conflicts.contains name) = true
    · simp only [if_pos quiet]
      exact (if_pos quiet).symm
    · simp only [if_neg quiet]
      exact (if_neg quiet).symm

theorem registerAll_follows {r : Registry} {items : List (String × Schema)}
    (follows : r.store.Follows view items) (calls : List (String × Schema)) :
    (r.registerAll calls).store.Follows view (items ++ calls.map noted) := by
  have added : (r.registerAll calls).store = r.store.addAll agrees (calls.map noted) := by
    clear follows
    induction calls generalizing r with
    | nil => rfl
    | cons call rest ih =>
      rw [registerAll, List.foldl_cons]
      exact (ih (r := r.register call.1 call.2)).trans (by rw [store_register]; rfl)
  rw [added]
  exact addAll_follows agrees_iff follows _

def first : String × Schema := (Schema.anyValueName, Schema.anyValue)

def history (calls : List (String × Schema)) : List (String × Schema) :=
  first :: calls.map noted

theorem empty_follows : empty.store.Follows view [first] := by
  refine ⟨by simp [Dict.Sorted, Dict.keys, empty, store], fun _ => rfl, ?_, ?_⟩
  · simp [empty, store, Consistent]
  · simp [empty, store]

theorem history_follows (calls : List (String × Schema)) :
    (empty.registerAll calls).store.Follows view (history calls) :=
  registerAll_follows empty_follows calls

def registered? (calls : List (String × Schema)) (name : String) : Option Schema :=
  Dict.get? (first :: calls) name

def custom? (calls : List (String × Schema)) (name : String) : Option String :=
  (registered? calls name).bind Schema.customName

def display (calls : List (String × Schema)) (name : String) : String :=
  (custom? calls name).getD name

-- A reference that names a schema with a custom name leads to that name, and no other changes.
def turn (calls : List (String × Schema)) (reference : String) : String :=
  match (refName? reference).bind (custom? calls) with
  | some custom => refPath custom
  | none => reference

def kept (name : String) (schema : Schema) : Schema :=
  if name = Schema.anyValueName then schema else schema.withDeclaredName name

/-- Whatever was registered under one name has one content and one custom name. -/
def Agreeing (calls : List (String × Schema)) : Prop :=
  ∀ a ∈ first :: calls, ∀ b ∈ first :: calls, a.1 = b.1 →
    a.2.same b.2 = true ∧ a.2.customName = b.2.customName

def Distinct (calls : List (String × Schema)) : Prop :=
  ∀ m n, (registered? calls m).isSome → (registered? calls n).isSome →
    display calls m = display calls n → m = n

theorem viewed_history (calls : List (String × Schema)) :
    viewed view (history calls) = viewed view (first :: calls) := by
  simp [viewed, history, noted, view]

theorem agreeing_iff (calls : List (String × Schema)) :
    Agreeing calls ↔ Consistent view (first :: calls) := by
  simp [Agreeing, Consistent, view, Schema.same_iff]

theorem Agreeing.of_append {calls more : List (String × Schema)} (agreeing : Agreeing (calls ++ more)) :
    Agreeing calls :=
  fun a left b right => agreeing a (List.mem_append_left more left) b
    (List.mem_append_left more right)

theorem consistent_history (calls : List (String × Schema)) :
    Consistent view (history calls) ↔ Agreeing calls := by
  rw [← consistent_viewed, viewed_history, consistent_viewed, agreeing_iff]

theorem get?_history (calls : List (String × Schema)) (name : String) :
    Dict.get? (history calls) name = (registered? calls name).map (kept name) := by
  by_cases any : Schema.anyValueName = name
  · simp [history, registered?, first, Dict.get?, any, kept]
  · have later : Dict.get? (calls.map noted) name =
        (Dict.get? calls name).map (kept name) := by
      induction calls with
      | nil => rfl
      | cons call rest ih =>
        by_cases here : call.1 = name
        · subst here
          simp [Dict.get?, noted, kept, Ne.symm any]
        · simp [Dict.get?, noted, here] at ih ⊢
          exact ih
    simp [history, registered?, first, Dict.get?, any, later]

theorem breaksAt_history {calls : List (String × Schema)} {name : String}
    (breaks : BreaksAt view (history calls) name) :
    ∃ before call after, calls = before ++ call :: after ∧ call.1 = name ∧ Agreeing before ∧
      ¬ Agreeing (before ++ [call]) := by
  rw [← breaksAt_viewed, viewed_history, breaksAt_viewed] at breaks
  obtain ⟨before, call, after, split, same, consistent, broken⟩ := breaks
  cases before with
  | nil =>
    simp [Consistent] at broken
  | cons head rest =>
    rw [List.cons_append, List.cons.injEq] at split
    obtain ⟨rfl, split⟩ := split
    exact ⟨rest, call, after, split, same, (agreeing_iff rest).mpr consistent,
      fun agreeing => broken ((agreeing_iff _).mp agreeing)⟩

section Registered

variable (calls : List (String × Schema))

theorem get?_registerAll (name : String) :
    (empty.registerAll calls).get? name = (registered? calls name).map (kept name) :=
  ((history_follows calls).first name).trans (get?_history calls name)

theorem mem_keys_registerAll (name : String) :
    name ∈ Dict.keys (empty.registerAll calls).entries ↔ (registered? calls name).isSome := by
  rw [← Dict.get?_isSome_iff, ← Option.isSome_iff_exists]
  exact (congrArg Option.isSome (get?_registerAll calls name)).trans Option.isSome_map ▸ Iff.rfl

theorem customName_kept (name : String) (schema : Schema) :
    (kept name schema).customName = schema.customName := by
  rw [kept]
  split_ifs <;> simp

theorem content_kept (name : String) (schema : Schema) :
    (kept name schema).content = schema.content := by
  rw [kept]
  split_ifs <;> simp

theorem renamed?_registerAll (name : String) :
    (empty.registerAll calls).renamed? name = custom? calls name := by
  rw [renamed?, get?_registerAll, custom?]
  cases registered? calls name <;> simp [customName_kept]

theorem displayName_registerAll (name : String) :
    (empty.registerAll calls).displayName name = display calls name :=
  congrArg (Option.getD · name) (renamed?_registerAll calls name)

theorem rename_registerAll : (empty.registerAll calls).rename = turn calls := by
  funext reference
  have renames : (empty.registerAll calls).renamed? = custom? calls :=
    funext (renamed?_registerAll calls)
  cases found : (refName? reference).bind (custom? calls) with
  | none => simp [rename, turn, renames, found]
  | some custom => simp [rename, turn, renames, found]

theorem published_registerAll {name : String} {schema : Schema}
    (registered : registered? calls name = some schema) :
    (empty.registerAll calls).published name (kept name schema) =
      (kept name schema).mapReferences (turn calls) := by
  rw [published, rename_registerAll]
  split_ifs with any
  · -- The schema of any value has no reference, so leaving it out of the turning makes no difference.
    subst any
    obtain rfl : Schema.anyValue = schema := Option.some.inj registered
    rfl
  · rfl

variable {calls}

theorem registered?_of_mem (agreeing : Agreeing calls) {call : String × Schema}
    (member : call ∈ calls) :
    ∃ schema, registered? calls call.1 = some schema ∧ schema.same call.2 = true ∧
      schema.customName = call.2.customName := by
  obtain ⟨schema, registered⟩ := (Dict.get?_isSome_iff (first :: calls) call.1).mpr
    (List.mem_map_of_mem (List.mem_cons_of_mem _ member))
  exact ⟨schema, registered,
    agreeing _ (Dict.mem_of_get? registered) call (List.mem_cons_of_mem _ member) rfl⟩

variable (calls)

theorem settled_registerAll : (empty.registerAll calls).conflicts = [] ↔ Agreeing calls :=
  (history_follows calls).settled.trans (consistent_history calls)

theorem succeeds_iff :
    (∃ published, (empty.registerAll calls).finalize = .ok published) ↔
      Agreeing calls ∧ Distinct calls := by
  rw [finalize_ok_iff (history_follows calls).sorted, settled_registerAll]
  simp only [mem_keys_registerAll, displayName_registerAll]
  exact and_congr_right fun _ => ⟨fun injective m n left right => injective m left n right,
    fun injective m left n right => injective m n left right⟩

variable {calls}

theorem agreeing_of_finalize {published : Dict Schema}
    (succeeded : (empty.registerAll calls).finalize = .ok published) : Agreeing calls :=
  ((succeeds_iff calls).mp ⟨published, succeeded⟩).1

theorem keys_published {published : Dict Schema}
    (succeeded : (empty.registerAll calls).finalize = .ok published) :
    Dict.Sorted published ∧ ∀ key, key ∈ Dict.keys published ↔
      ∃ name, (registered? calls name).isSome ∧ display calls name = key := by
  obtain ⟨sorted, keys, -⟩ := finalize_result (history_follows calls).sorted succeeded
  simp only [mem_keys_registerAll, displayName_registerAll] at keys
  exact ⟨sorted, keys⟩

theorem get?_published {published : Dict Schema}
    (succeeded : (empty.registerAll calls).finalize = .ok published) {name : String}
    {schema : Schema} (registered : registered? calls name = some schema) :
    Dict.get? published (display calls name) =
      some ((kept name schema).mapReferences (turn calls)) := by
  obtain ⟨-, -, values⟩ := finalize_result (history_follows calls).sorted succeeded
  rw [← displayName_registerAll, ← published_registerAll calls registered]
  exact values name _ (by rw [get?_registerAll, registered, Option.map_some])

theorem published_of_mem {published : Dict Schema}
    (succeeded : (empty.registerAll calls).finalize = .ok published) {call : String × Schema}
    (member : call ∈ calls) :
    ∃ value, Dict.get? published (call.2.customName.getD call.1) = some value ∧
      value.same (call.2.mapReferences (empty.registerAll calls).rename) = true := by
  obtain ⟨schema, registered, same, custom⟩ :=
    registered?_of_mem (agreeing_of_finalize succeeded) member
  have shown : display calls call.1 = call.2.customName.getD call.1 := by
    simp [display, custom?, registered, custom]
  refine ⟨_, shown ▸ get?_published succeeded registered, ?_⟩
  rw [Schema.same_iff] at same ⊢
  rw [rename_registerAll, Schema.content_mapReferences, Schema.content_mapReferences, content_kept,
    same]

theorem renamed?_of_mem (agreeing : Agreeing calls) {call : String × Schema}
    (member : call ∈ calls) :
    (empty.registerAll calls).renamed? call.1 = call.2.customName := by
  obtain ⟨schema, registered, -, custom⟩ := registered?_of_mem agreeing member
  rw [renamed?_registerAll, custom?, registered]
  exact custom

variable (calls)

/-- Publishing what was registered. It succeeds exactly if the registrations of every name agree and no
two names are displayed alike; then the first schema of every name is published under its display
name, with the references turned once, all at the same time. Otherwise the failure names the first
registration that disagrees with an earlier one or, if all agree, the first display name in the order
of declared names that a smaller name has too. -/
theorem finalize_registerAll :
    ((∃ published, (empty.registerAll calls).finalize = .ok published) ↔
      Agreeing calls ∧ Distinct calls) ∧
    (∀ published, (empty.registerAll calls).finalize = .ok published →
      Dict.Sorted published ∧
      (∀ key, key ∈ Dict.keys published ↔
        ∃ name, (registered? calls name).isSome ∧ display calls name = key) ∧
      ∀ name schema, registered? calls name = some schema →
        ∃ value, Dict.get? published (display calls name) = some value ∧
          (kept name schema).Turned (turn calls) value ∧
          ∀ node ∈ (kept name schema).walk, ∀ reference, node.reference = some reference →
            { node with reference := some (turn calls reference) } ∈ value.walk) ∧
    ∀ failure, (empty.registerAll calls).finalize = .error failure →
      (∃ before call after, calls = before ++ call :: after ∧ Agreeing before ∧
        ¬ Agreeing (before ++ [call]) ∧ failure = .duplicateSchema call.1) ∨
      Agreeing calls ∧ ∃ name, (registered? calls name).isSome ∧
        failure = .duplicateSchema (display calls name) ∧
        (∃ m, (registered? calls m).isSome ∧ m < name ∧ display calls m = display calls name) ∧
        ∀ m n, (registered? calls m).isSome → (registered? calls n).isSome → m < name → n < name →
          display calls m = display calls n → m = n := by
  refine ⟨succeeds_iff calls, ?_, ?_⟩
  · intro published succeeded
    obtain ⟨sorted, keys⟩ := keys_published succeeded
    refine ⟨sorted, keys, ?_⟩
    intro name schema registered
    have turned := Schema.turned_mapReferences (turn calls) (kept name schema)
    exact ⟨_, get?_published succeeded registered, turned,
      fun node member reference leaf => turned.mem_walk member leaf⟩
  · intro failure failed
    have follows := history_follows calls
    rcases finalize_error follows.sorted failed with
      ⟨name, head, rfl⟩ | ⟨none, name, here, same, clash, first⟩
    · obtain ⟨before, call, after, split, rfl, agreeing, broken⟩ :=
        breaksAt_history (follows.blamed name head)
      exact .inl ⟨before, call, after, split, agreeing, broken, rfl⟩
    · simp only [mem_keys_registerAll, displayName_registerAll] at here same clash first
      exact .inr ⟨(settled_registerAll calls).mp none, name, here, same, clash,
        fun m n left right => first m left n right⟩

end Registered

end ApiScribe.Registry
