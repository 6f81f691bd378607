import ApiScribe.Proofs.Dict

set_option autoImplicit false

namespace ApiScribe.FirstWins

variable {α β : Type}

structure Store (α : Type) where
  entries : Dict α
  conflicts : List String

def Store.add (agree : α → α → Bool) (s : Store α) (item : String × α) : Store α :=
  match Dict.get? s.entries item.1 with
  | none => { s with entries := Dict.insert item.1 item.2 s.entries }
  | some present =>
    if agree present item.2 || s.conflicts.contains item.1 then s
    else { s with conflicts := s.conflicts ++ [item.1] }

def Store.addAll (agree : α → α → Bool) (s : Store α) (items : List (String × α)) : Store α :=
  items.foldl (Store.add agree) s

def Consistent (view : α → β) (items : List (String × α)) : Prop :=
  ∀ a ∈ items, ∀ b ∈ items, a.1 = b.1 → view a.2 = view b.2

-- The first item that does not look like an earlier one of its key is under this key.
def BreaksAt (view : α → β) (items : List (String × α)) (key : String) : Prop :=
  ∃ before item after, items = before ++ item :: after ∧ item.1 = key ∧
    Consistent view before ∧ ¬ Consistent view (before ++ [item])

-- What a store holds after the items were added in turn.
structure Store.Follows (view : α → β) (s : Store α) (items : List (String × α)) : Prop where
  sorted : Dict.Sorted s.entries
  first : ∀ key, Dict.get? s.entries key = Dict.get? items key
  settled : s.conflicts = [] ↔ Consistent view items
  blamed : ∀ key, s.conflicts.head? = some key → BreaksAt view items key

theorem Consistent.mono {view : α → β} {items more : List (String × α)}
    (consistent : Consistent view more) (included : items ⊆ more) : Consistent view items :=
  fun a left b right same => consistent a (included left) b (included right) same

theorem consistent_append_iff (view : α → β) (items : List (String × α)) (item : String × α) :
    Consistent view (items ++ [item]) ↔
      Consistent view items ∧
        ∀ first, Dict.get? items item.1 = some first → view first = view item.2 := by
  constructor
  · intro consistent
    refine ⟨consistent.mono (List.subset_append_left _ _), ?_⟩
    intro first found
    exact consistent _ (List.mem_append_left _ (Dict.mem_of_get? found)) item (by simp) rfl
  · rintro ⟨consistent, agrees⟩
    -- An earlier item of the key looks like the first one, which looks like the new one.
    have later : ∀ a ∈ items, a.1 = item.1 → view a.2 = view item.2 := by
      intro a member same
      obtain ⟨first, found⟩ := (Dict.get?_isSome_iff items item.1).mpr
        (same ▸ List.mem_map_of_mem member)
      rw [← agrees first found]
      exact consistent a member _ (Dict.mem_of_get? found) same
    intro a left b right same
    simp only [List.mem_append, List.mem_singleton] at left right
    rcases left with left | rfl <;> rcases right with right | rfl
    · exact consistent a left b right same
    · exact later a left same
    · exact (later b right same.symm).symm
    · rfl

def viewed (view : α → β) (items : List (String × α)) : List (String × β) :=
  items.map fun item => (item.1, view item.2)

theorem get?_viewed (view : α → β) (items : List (String × α)) (key : String) :
    Dict.get? (viewed view items) key = (Dict.get? items key).map view :=
  Dict.get?_map view items key

theorem consistent_viewed (view : α → β) (items : List (String × α)) :
    Consistent id (viewed view items) ↔ Consistent view items := by
  constructor
  · intro consistent a left b right same
    exact consistent _ (List.mem_map_of_mem left) _ (List.mem_map_of_mem right) same
  · intro consistent a left b right same
    obtain ⟨c, cMember, rfl⟩ := List.mem_map.mp left
    obtain ⟨d, dMember, rfl⟩ := List.mem_map.mp right
    exact consistent c cMember d dMember same

def Alike (view : α → β) (items others : List (String × α)) : Prop :=
  ∀ item, item ∈ viewed view items ↔ item ∈ viewed view others

namespace Alike

variable {view : α → β} {items others : List (String × α)}

theorem symm (alike : Alike view items others) : Alike view others items :=
  fun item => (alike item).symm

theorem of_perm (perm : items.Perm others) : Alike view items others :=
  fun _ => (perm.map _).mem_iff

theorem of_eq (same : viewed view items = viewed view others) : Alike view items others := by
  intro item
  rw [same]

theorem append (alike : Alike view items others) {more rest : List (String × α)}
    (later : Alike view more rest) : Alike view (items ++ more) (others ++ rest) := by
  intro item
  simp only [viewed, List.map_append, List.mem_append]
  exact or_congr (alike item) (later item)

theorem consistent_iff (alike : Alike view items others) :
    Consistent view items ↔ Consistent view others := by
  rw [← consistent_viewed, ← consistent_viewed view others]
  simp only [Consistent, alike _]

theorem get?_eq (alike : Alike view items others) (consistent : Consistent view items)
    (key : String) : (Dict.get? items key).map view = (Dict.get? others key).map view := by
  have found {list : List (String × α)} (agreeing : Consistent view list) (value : β) :
      (Dict.get? list key).map view = some value ↔ (key, value) ∈ viewed view list := by
    rw [← get?_viewed]
    constructor
    · exact Dict.mem_of_get?
    · intro member
      obtain ⟨first, here⟩ := (Dict.get?_isSome_iff (viewed view list) key).mpr
        (List.mem_map_of_mem member)
      have same : first = value :=
        (consistent_viewed view list).mpr agreeing _ (Dict.mem_of_get? here) _ member rfl
      rw [here, same]
  apply Option.ext
  intro value
  rw [found consistent, found (alike.consistent_iff.mp consistent), alike]

end Alike

theorem breaksAt_viewed (view : α → β) (items : List (String × α)) (key : String) :
    BreaksAt id (viewed view items) key ↔ BreaksAt view items key := by
  constructor
  · rintro ⟨before, item, after, split, same, consistent, broken⟩
    obtain ⟨front, back, rfl, rfl, tail⟩ := List.map_eq_append_iff.mp split
    obtain ⟨middle, rest, rfl, rfl, rfl⟩ := List.map_eq_cons_iff.mp tail
    refine ⟨front, middle, rest, rfl, same, (consistent_viewed view front).mp consistent, ?_⟩
    rw [← consistent_viewed]
    simpa [viewed] using broken
  · rintro ⟨before, item, after, rfl, same, consistent, broken⟩
    refine ⟨viewed view before, (item.1, view item.2), viewed view after, by simp [viewed], same,
      (consistent_viewed view before).mpr consistent, ?_⟩
    rw [← consistent_viewed] at broken
    simpa [viewed] using broken

theorem BreaksAt.append {view : α → β} {items : List (String × α)} {key : String}
    (breaks : BreaksAt view items key) (more : List (String × α)) :
    BreaksAt view (items ++ more) key := by
  obtain ⟨before, item, after, rfl, rest⟩ := breaks
  exact ⟨before, item, after ++ more, by simp, rest⟩

theorem add_follows {agree : α → α → Bool} {view : α → β}
    (kernel : ∀ a b, agree a b = true ↔ view a = view b) {s : Store α}
    {items : List (String × α)} (follows : s.Follows view items) (item : String × α) :
    (s.add agree item).Follows view (items ++ [item]) := by
  obtain ⟨sorted, first, settled, blamed⟩ := follows
  have extended := consistent_append_iff view items item
  rw [Store.add]
  cases found : Dict.get? s.entries item.1 with
  | none =>
    -- The first item of its key is kept and breaks nothing.
    have absent : Dict.get? items item.1 = none := (first item.1).symm.trans found
    refine ⟨Dict.insert_sorted sorted item.1 item.2, ?_, ?_, ?_⟩
    · intro key
      rw [Dict.get?_insert, Dict.get?_append, first key]
      by_cases same : item.1 = key
      · subst same
        simp [absent, Dict.get?]
      · simp [same, Dict.get?]
    · simp [extended, absent, settled]
    · exact fun key head => (blamed key head).append [item]
  | some present =>
    -- A later item leaves the entries alone and can only add a conflict.
    have known : Dict.get? items item.1 = some present := (first item.1).symm.trans found
    have unchanged (key : String) :
        Dict.get? s.entries key = Dict.get? (items ++ [item]) key := by
      rw [Dict.get?_append, first key]
      by_cases same : item.1 = key
      · subst same
        simp [known]
      · simp [same, Dict.get?]
    by_cases quiet : (agree present item.2 || s.conflicts.contains item.1) = true
    · simp only [quiet, if_true]
      refine ⟨sorted, unchanged, ?_, fun key head => (blamed key head).append [item]⟩
      rw [extended, ← settled]
      constructor
      · intro none
        refine ⟨none, ?_⟩
        simp only [none, List.contains_nil, Bool.or_false] at quiet
        intro other same
        obtain rfl : present = other := Option.some.inj (known.symm.trans same)
        exact (kernel _ _).mp quiet
      · exact fun both => both.1
    · simp only [quiet, Bool.false_eq_true, if_false]
      simp only [Bool.or_eq_true, not_or] at quiet
      have differs : view present ≠ view item.2 := fun same => quiet.1 ((kernel _ _).mpr same)
      have inconsistent : ¬ Consistent view (items ++ [item]) := by
        rw [extended]
        exact fun both => differs (both.2 present known)
      refine ⟨sorted, unchanged, by simp [inconsistent], ?_⟩
      intro key head
      cases earlier : s.conflicts with
      | nil =>
        rw [earlier, List.nil_append, List.head?_cons, Option.some.injEq] at head
        exact ⟨items, item, [], rfl, head, settled.mp earlier, inconsistent⟩
      | cons name rest =>
        rw [earlier, List.cons_append, List.head?_cons] at head
        exact (blamed key (by rw [earlier, List.head?_cons, head])).append [item]

theorem addAll_follows {agree : α → α → Bool} {view : α → β}
    (kernel : ∀ a b, agree a b = true ↔ view a = view b) {s : Store α}
    {items : List (String × α)} (follows : s.Follows view items) (more : List (String × α)) :
    (s.addAll agree more).Follows view (items ++ more) := by
  induction more generalizing s items with
  | nil => simpa [Store.addAll] using follows
  | cons item rest ih =>
    have next := ih (add_follows kernel follows item)
    simpa [Store.addAll, List.append_assoc] using next

theorem Store.Follows.viewed_eq {view : α → β} {s t : Store α} {items others : List (String × α)}
    (left : s.Follows view items) (right : t.Follows view others)
    (alike : Alike view items others) (consistent : Consistent view items) :
    viewed view s.entries = viewed view t.entries := by
  apply Dict.Sorted.ext (left.sorted.map view) (right.sorted.map view)
  intro key
  rw [Dict.get?_map, Dict.get?_map, left.first, right.first]
  exact alike.get?_eq consistent key

end ApiScribe.FirstWins
