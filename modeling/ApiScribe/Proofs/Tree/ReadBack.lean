import ApiScribe.Document.Encode
import ApiScribe.Proofs.Dict
import ApiScribe.Tree.Record

set_option autoImplicit false

namespace ApiScribe

theorem Value.nested {holds : Value → Prop} (null : holds .null) (bool : ∀ b, holds (.bool b))
    (int : ∀ n, holds (.int n)) (float : ∀ x, holds (.float x)) (text : ∀ s, holds (.text s))
    (list : ∀ items, (∀ v ∈ items, holds v) → holds (.list items))
    (object : ∀ members, (∀ m ∈ members, holds m.2) → holds (.object members)) (v : Value) :
    holds v := by
  match v with
  | .null => exact null
  | .bool b => exact bool b
  | .int n => exact int n
  | .float x => exact float x
  | .text s => exact text s
  | .list items =>
    refine list items fun w member => ?_
    have smaller := List.sizeOf_lt_of_mem member
    exact Value.nested null bool int float text list object w
  | .object members =>
    refine object members fun m member => ?_
    have smaller := List.sizeOf_lt_of_mem member
    have part : sizeOf m.2 < sizeOf m := by
      obtain ⟨k, w⟩ := m
      simp only [Prod.mk.sizeOf_spec]
      omega
    exact Value.nested null bool int float text list object m.2
termination_by sizeOf v
decreasing_by
  · simp only [Value.list.sizeOf_spec]
    omega
  · simp only [Value.object.sizeOf_spec]
    omega

namespace Tree

@[simp] theorem ofItems_eq (items : List Value) : ofItems items = items.map ofValue := by
  induction items with
  | nil => rfl
  | cons v rest ih => simp [ofItems, ih]

def entriesOf (members : List (String × Value)) : List (Tree × Tree) :=
  members.map fun m => (.text m.1, ofValue m.2)

@[simp] theorem ofMembers_eq (members : List (String × Value)) :
    ofMembers members = entriesOf members := by
  induction members with
  | nil => rfl
  | cons m rest ih =>
    obtain ⟨k, v⟩ := m
    simp [ofMembers, ih, entriesOf]

theorem asList?_ofValue {v : Value} {items : List Tree} (found : (ofValue v).asList? = some items) :
    ∃ values, v = .list values ∧ items = values.map ofValue := by
  cases v with
  | list values => exact ⟨values, rfl, by simpa [ofValue, asList?] using found.symm⟩
  | int n =>
    rw [ofValue] at found
    split at found <;> cases found
  | _ => cases found

theorem asEntries?_ofValue {v : Value} {entries : List (Tree × Tree)}
    (found : (ofValue v).asEntries? = some entries) :
    ∃ members, v = .object members ∧ entries = entriesOf members := by
  cases v with
  | object members => exact ⟨members, rfl, by simpa [ofValue, asEntries?] using found.symm⟩
  | int n =>
    rw [ofValue] at found
    split at found <;> cases found
  | _ => cases found

variable {α β : Type}

/-- What was read from a value, written and read again, is what `change` makes of it. -/
def Rereads (read : Tree → Option α) (write : α → Value) (change : α → α) : Prop :=
  ∀ v x, read (ofValue v) = some x → read (ofValue (write x)) = some (change x)

abbrev Stable (read : Tree → Option α) (write : α → Value) : Prop :=
  Rereads read write id

theorem stable_text : Stable asText? .text := fun _ _ _ => rfl

theorem stable_bool : Stable asBool? .bool := fun _ _ _ => rfl

section Collections

variable {read : Tree → Option α} {write : α → Value} {change : α → α}

theorem of_mapM {f : β → Option α} {items : List β} {xs : List α}
    (found : items.mapM f = some xs) : ∀ x ∈ xs, ∃ item ∈ items, f item = some x := by
  induction items generalizing xs with
  | nil => simp_all
  | cons item rest ih =>
    simp only [List.mapM_cons, Option.bind_eq_bind, Option.bind_eq_some_iff, Option.pure_def,
      Option.some.injEq] at found
    obtain ⟨x, first, ys, others, rfl⟩ := found
    intro y member
    rcases List.mem_cons.mp member with rfl | later
    · exact ⟨item, List.mem_cons_self, first⟩
    · obtain ⟨other, present, reads⟩ := ih others y later
      exact ⟨other, List.mem_cons_of_mem _ present, reads⟩

theorem mapM_of {γ : Type} {f : β → Option α} {xs : List γ} (place : γ → β) (result : γ → α)
    (back : ∀ x ∈ xs, f (place x) = some (result x)) :
    (xs.map place).mapM f = some (xs.map result) := by
  induction xs with
  | nil => rfl
  | cons x rest ih =>
    have others := ih fun y member => back y (List.mem_cons_of_mem _ member)
    simp [List.mapM_cons, back x List.mem_cons_self, others]

theorem items_back {values : List Value} {xs : List α}
    (found : (values.map ofValue).mapM read = some xs)
    (back : ∀ v ∈ values, ∀ x, read (ofValue v) = some x →
      read (ofValue (write x)) = some (change x)) :
    (xs.map fun x => ofValue (write x)).mapM read = some (xs.map change) := by
  refine mapM_of _ _ fun x member => ?_
  obtain ⟨item, present, reads⟩ := of_mapM found x member
  obtain ⟨v, member, rfl⟩ := List.mem_map.mp present
  exact back v member x reads

def pairOf? (read : Tree → Option α) (e : Tree × Tree) : Option (String × α) := do
  return ((← e.1.asText?), (← read e.2))

@[simp] theorem pairOf?_text (k : String) (t : Tree) :
    pairOf? read (.text k, t) = (read t).map fun x => (k, x) := by
  cases found : read t <;> simp [pairOf?, asText?, found]

-- The entries of a dictionary are some of those that were read, so they are read back as well, and
-- they stand in order already.
theorem entries_back {members : List (String × Value)} {entries : List (String × α)}
    (found : (entriesOf members).mapM (pairOf? read) = some entries)
    (back : ∀ m ∈ members, ∀ x, read (ofValue m.2) = some x →
      read (ofValue (write x)) = some (change x)) :
    (entriesOf (Dict.mapValues write (Dict.ofList entries))).mapM (pairOf? read) =
      some (Dict.mapValues change (Dict.ofList entries)) := by
  have placed : entriesOf (Dict.mapValues write (Dict.ofList entries)) =
      (Dict.ofList entries).map fun e => (.text e.1, ofValue (write e.2)) := by
    simp [entriesOf, Dict.mapValues]
  rw [placed, Dict.mapValues]
  refine mapM_of _ _ fun e member => ?_
  obtain ⟨item, present, reads⟩ := of_mapM found e (Dict.mem_of_mem_ofList member)
  obtain ⟨m, given, rfl⟩ := List.mem_map.mp present
  rw [pairOf?_text, Option.map_eq_some_iff] at reads
  obtain ⟨x, reads, rfl⟩ := reads
  simp [back m given x reads]

theorem listOf?_written {xs : List α}
    (back : ∀ x ∈ xs, read (ofValue (write x)) = some (change x)) :
    listOf? read (ofValue (.list (xs.map write))) = some (xs.map change) := by
  have again : (xs.map fun x => ofValue (write x)).mapM read = some (xs.map change) :=
    mapM_of _ _ back
  simpa [listOf?, ofValue, asList?, Function.comp_def] using again

theorem listOf?_back {v : Value} {xs : List α}
    (back : ∀ items, v = .list items → ∀ w ∈ items, ∀ x, read (ofValue w) = some x →
      read (ofValue (write x)) = some x)
    (found : listOf? read (ofValue v) = some xs) :
    listOf? read (ofValue (.list (xs.map write))) = some xs := by
  simp only [listOf?, Option.bind_eq_bind, Option.bind_eq_some_iff] at found
  obtain ⟨items, opened, found⟩ := found
  obtain ⟨values, rfl, rfl⟩ := asList?_ofValue opened
  have again := items_back found (back values rfl)
  simpa [listOf?, ofValue, asList?, Function.comp_def] using again

theorem stable_list (stable : Stable read write) :
    Stable (listOf? read) fun xs => .list (xs.map write) :=
  fun _ _ found => listOf?_back (fun _ _ w _ => stable w) found

theorem dictOf?_eq (t : Tree) :
    dictOf? read t = (t.asEntries?.bind fun es => es.mapM (pairOf? read)).map Dict.ofList := by
  cases found : t.asEntries? with
  | none => simp [dictOf?, found]
  | some entries =>
    change (do
      let given ← t.asEntries?
      let entries ← given.mapM (pairOf? read)
      return Dict.ofList entries) = _
    rw [found]
    cases read : entries.mapM (pairOf? read) <;> simp [read]

theorem dictOf?_written {d : Dict α} (sorted : Dict.Sorted d)
    (back : ∀ e ∈ d, read (ofValue (write e.2)) = some (change e.2)) :
    dictOf? read (ofValue (dictValue write d)) = some (Dict.mapValues change d) := by
  have placed : entriesOf (Dict.mapValues write d) =
      d.map fun e => (.text e.1, ofValue (write e.2)) := by
    simp [entriesOf, Dict.mapValues]
  have again : (entriesOf (Dict.mapValues write d)).mapM (pairOf? read) =
      some (Dict.mapValues change d) := by
    rw [placed]
    exact mapM_of _ _ fun e member => by simp [back e member]
  have ordered : Dict.Sorted (Dict.mapValues change d) := sorted.map change
  simp [dictOf?_eq, dictValue, ofValue, asEntries?, again, ordered.ofList_eq]

theorem dictOf?_written_same {d : Dict α} (sorted : Dict.Sorted d)
    (back : ∀ e ∈ d, read (ofValue (write e.2)) = some e.2) :
    dictOf? read (ofValue (dictValue write d)) = some d := by
  have written : dictOf? read (ofValue (dictValue write d)) = some (Dict.mapValues id d) :=
    dictOf?_written sorted back
  simpa [Dict.mapValues] using written

theorem dictOf?_members {v : Value} {d : Dict α} (found : dictOf? read (ofValue v) = some d) :
    Dict.Sorted d ∧
      ∃ members, v = .object members ∧ ∀ e ∈ d, ∃ m ∈ members, read (ofValue m.2) = some e.2 := by
  simp only [dictOf?_eq, Option.map_eq_some_iff, Option.bind_eq_some_iff] at found
  obtain ⟨entries, ⟨es, opened, found⟩, rfl⟩ := found
  obtain ⟨members, rfl, rfl⟩ := asEntries?_ofValue opened
  refine ⟨Dict.ofList_sorted entries, members, rfl, fun e member => ?_⟩
  obtain ⟨item, present, reads⟩ := of_mapM found e (Dict.mem_of_mem_ofList member)
  obtain ⟨m, given, rfl⟩ := List.mem_map.mp present
  rw [pairOf?_text, Option.map_eq_some_iff] at reads
  obtain ⟨x, reads, rfl⟩ := reads
  exact ⟨m, given, reads⟩

theorem dictOf?_back {v : Value} {d : Dict α}
    (back : ∀ members, v = .object members → ∀ m ∈ members, ∀ x, read (ofValue m.2) = some x →
      read (ofValue (write x)) = some (change x))
    (found : dictOf? read (ofValue v) = some d) :
    dictOf? read (ofValue (dictValue write d)) = some (Dict.mapValues change d) := by
  obtain ⟨sorted, members, rfl, values⟩ := dictOf?_members found
  refine dictOf?_written sorted fun e member => ?_
  obtain ⟨m, given, reads⟩ := values e member
  exact back members rfl m given e.2 reads

theorem rereads_dict (rereads : Rereads read write change) :
    Rereads (dictOf? read) (dictValue write) (Dict.mapValues change) :=
  fun _ _ found => dictOf?_back (fun _ _ m _ => rereads m.2) found

theorem stable_dict (stable : Stable read write) :
    Stable (dictOf? read) (dictValue write) := by
  intro v d found
  simpa [Dict.mapValues] using rereads_dict stable v d found

theorem dictOf?_sorted {t : Tree} {d : Dict α} (found : dictOf? read t = some d) :
    Dict.Sorted d := by
  rw [dictOf?_eq, Option.map_eq_some_iff] at found
  obtain ⟨entries, _, rfl⟩ := found
  exact Dict.ofList_sorted entries

theorem dictOf?_values {t : Tree} {d : Dict α} (found : dictOf? read t = some d) :
    ∀ e ∈ d, ∃ w, read w = some e.2 := by
  simp only [dictOf?_eq, Option.map_eq_some_iff, Option.bind_eq_some_iff] at found
  obtain ⟨entries, ⟨es, _, found⟩, rfl⟩ := found
  intro e member
  obtain ⟨⟨k, w⟩, _, reads⟩ := of_mapM found e (Dict.mem_of_mem_ofList member)
  simp only [pairOf?, Option.bind_eq_bind, Option.bind_eq_some_iff, Option.pure_def,
    Option.some.injEq] at reads
  obtain ⟨key, _, x, reads, rfl⟩ := reads
  exact ⟨w, reads⟩

end Collections

section Values

theorem toValues?_eq (items : List Tree) : toValues? items = items.mapM toValue? := by
  induction items with
  | nil => rfl
  | cons t rest ih => simp [toValues?, ih, List.mapM_cons]

theorem toMembers?_eq (entries : List (Tree × Tree)) :
    toMembers? entries = entries.mapM (pairOf? toValue?) := by
  induction entries with
  | nil => rfl
  | cons e rest ih =>
    obtain ⟨k, t⟩ := e
    simp [toMembers?, ih, List.mapM_cons, pairOf?, Option.bind_assoc]

theorem toValue?_list (items : List Value) :
    toValue? (ofValue (.list items)) = ((items.map ofValue).mapM toValue?).map .list := by
  simp [ofValue, toValue?, isTagged, toValues?_eq]

theorem toValue?_object (members : List (String × Value)) :
    toValue? (ofValue (.object members)) =
      ((entriesOf members).mapM (pairOf? toValue?)).map fun ms => .object (Dict.ofList ms) := by
  simp [ofValue, toValue?, isTagged, toMembers?_eq]

theorem toValue?_int (n : Int) : toValue? (ofValue (.int n)) = some (.int n) := by
  by_cases below : n < 0
  · have same : -(n.natAbs : Int) = n := by omega
    simp only [ofValue, below, toValue?, if_true, same]
  · have same : (n.natAbs : Int) = n := by omega
    simp only [ofValue, below, toValue?, if_false, same]

theorem stable_value : Stable toValue? id := by
  intro v
  induction v using Value.nested with
  | null => simp [ofValue, toValue?]
  | bool b => simp [ofValue, toValue?]
  | int n => simp [toValue?_int]
  | float x => simp [ofValue, toValue?]
  | text s => simp [ofValue, toValue?]
  | list items ih =>
    intro x found
    rw [toValue?_list, Option.map_eq_some_iff] at found
    obtain ⟨xs, found, rfl⟩ := found
    have back := items_back found ih
    simpa [toValue?_list] using back
  | object members ih =>
    intro x found
    rw [toValue?_object, Option.map_eq_some_iff] at found
    obtain ⟨entries, found, rfl⟩ := found
    have back := entries_back found ih
    simp [Dict.mapValues] at back
    simp [toValue?_object, back, (Dict.ofList_sorted entries).ofList_eq]

theorem toValue?_ne_null {v x : Value} (given : v ≠ .null)
    (found : toValue? (ofValue v) = some x) : x ≠ .null := by
  cases v with
  | null => exact absurd rfl given
  | int n =>
    rw [toValue?_int] at found
    cases found
    simp
  | list items =>
    rw [toValue?_list, Option.map_eq_some_iff] at found
    obtain ⟨xs, _, rfl⟩ := found
    simp
  | object members =>
    rw [toValue?_object, Option.map_eq_some_iff] at found
    obtain ⟨entries, _, rfl⟩ := found
    simp
  | _ =>
    simp [ofValue, toValue?] at found
    simp [← found]

variable {read : Tree → Option α} {write : α → Value}

theorem optionOf?_of_ne_null {v : Value} (given : v ≠ .null) :
    optionOf? read (ofValue v) = (read (ofValue v)).map some := by
  cases v with
  | null => exact absurd rfl given
  | int n => by_cases below : n < 0 <;> simp [ofValue, below, optionOf?, present?]
  | _ => simp [ofValue, optionOf?, present?]

theorem of_optionOf? {v : Value} {x : α} (found : optionOf? read (ofValue v) = some (some x)) :
    v ≠ .null ∧ read (ofValue v) = some x := by
  have given : v ≠ .null := by
    rintro rfl
    cases found
  rw [optionOf?_of_ne_null given, Option.map_eq_some_iff] at found
  obtain ⟨y, reads, same⟩ := found
  cases same
  exact ⟨given, reads⟩

end Values

section Records

def written (slots : List (String × Option Value)) : List (String × Value) :=
  slots.flatMap fun s => memberOf s.1 id s.2

@[simp] theorem written_nil : written [] = [] := rfl

@[simp] theorem written_cons (s : String × Option Value) (rest : List (String × Option Value)) :
    written (s :: rest) = memberOf s.1 id s.2 ++ written rest := by
  simp [written]

theorem keys_written (slots : List (String × Option Value)) :
    (Dict.keys (written slots)).Sublist (Dict.keys slots) := by
  induction slots with
  | nil => simp
  | cons s rest ih =>
    obtain ⟨name, slot⟩ := s
    cases slot with
    | none => simpa [memberOf] using ih.cons name
    | some v => simpa [memberOf] using ih

theorem get?_written {slots : List (String × Option Value)} (distinct : (Dict.keys slots).Nodup)
    (name : String) : Dict.get? (written slots) name = (Dict.get? slots name).join := by
  induction slots with
  | nil => rfl
  | cons s rest ih =>
    obtain ⟨field, slot⟩ := s
    rw [Dict.keys_cons, List.nodup_cons] at distinct
    rw [written_cons, Dict.get?_append, ih distinct.2]
    by_cases here : field = name
    · subst here
      have absent := (Dict.get?_eq_none_iff rest field).mpr distinct.1
      cases slot <;> simp [memberOf, Dict.get?, absent]
    · cases slot <;> simp [memberOf, Dict.get?, here]

def valueFields (members : List (String × Value)) : Fields :=
  members.map fun m => (m.1, ofValue m.2)

theorem fieldKey?_text (names : List String) (k : String) :
    fieldKey? names (.text k) = some (if names.contains k then .field k else .other) := rfl

theorem collectFields?_values {names : List String} {members : List (String × Value)}
    {fs : Fields} (seen : List (String × Value))
    (found : collectFields? names (entriesOf members) (valueFields seen) = some fs) :
    ∃ given, fs = valueFields given := by
  induction members generalizing seen with
  | nil => exact ⟨seen, (Option.some.inj found).symm⟩
  | cons m rest ih =>
    simp only [entriesOf, List.map_cons, collectFields?, fieldKey?_text] at found
    by_cases known : names.contains m.1
    · rw [if_pos known] at found
      split at found
      next => cases found
      next other => cases other
      next field =>
        cases field
        split at found
        · cases found
        · exact ih (m :: seen) found
    · rw [if_neg known] at found
      exact ih seen found

theorem fields?_values {outline : Outline} {v : Value} {fs : Fields}
    (found : fields? outline (ofValue v) = some fs) : ∃ given, fs = valueFields given := by
  simp only [fields?, Option.bind_eq_bind, Option.bind_eq_some_iff] at found
  obtain ⟨entries, opened, found⟩ := found
  obtain ⟨members, rfl, rfl⟩ := asEntries?_ofValue opened
  exact collectFields?_values [] found

theorem keys_valueFields (members : List (String × Value)) :
    Dict.keys (valueFields members) = Dict.keys members := by
  simp [valueFields, Dict.keys, Function.comp_def]

theorem collectFields?_distinct {names : List String} {members : List (String × Value)}
    (distinct : (Dict.keys members).Nodup) (known : ∀ name ∈ Dict.keys members, name ∈ names)
    (seen : List (String × Value))
    (fresh : ∀ name ∈ Dict.keys members, name ∉ Dict.keys seen) :
    collectFields? names (entriesOf members) (valueFields seen) =
      some (valueFields (members.reverse ++ seen)) := by
  induction members generalizing seen with
  | nil => rfl
  | cons m rest ih =>
    rw [Dict.keys_cons, List.nodup_cons] at distinct
    simp only [Dict.keys_cons, List.forall_mem_cons] at known fresh
    have first : names.contains m.1 = true := List.contains_iff_mem.mpr known.1
    have unseen : Dict.contains (valueFields seen) m.1 = false := by
      rw [← Bool.not_eq_true, Dict.contains_iff, keys_valueFields]
      exact fresh.1
    have others := ih distinct.2 known.2 (m :: seen) fun name member => by
      rw [Dict.keys_cons, List.mem_cons]
      rintro (rfl | before)
      · exact distinct.1 member
      · exact fresh.2 name member before
    simp only [entriesOf, List.map_cons, collectFields?, fieldKey?_text, first, if_true, unseen,
      Bool.false_eq_true, if_false]
    simpa [valueFields, entriesOf] using others

theorem fields?_written {outline : Outline} {slots : List (String × Option Value)}
    (distinct : outline.names.Nodup) (named : Dict.keys slots = outline.names) :
    ∃ fs, fields? outline (ofValue (.object (written slots))) = some fs ∧
      ∀ name, Dict.get? fs name = (Dict.get? slots name).join.map ofValue := by
  rw [← named] at distinct
  have sub := keys_written slots
  have collected := collectFields?_distinct (sub.nodup distinct)
    (fun name member => named ▸ sub.subset member) [] (by simp)
  refine ⟨valueFields (written slots).reverse, ?_, fun name => ?_⟩
  · simpa [fields?, ofValue, asEntries?, valueFields] using collected
  · rw [valueFields, Dict.get?_map, Dict.get?_reverse (sub.nodup distinct),
      get?_written distinct]

variable {outline : Outline} {decode : Tree → Option α} {encode : α → Value}
  {build : Fields → Option α} (slots : α → List (String × Option Value))
  (decodes : ∀ t, decode t = (t.fields? outline).bind build)
  (encodes : ∀ x, encode x = .object (written (slots x))) (distinct : outline.names.Nodup)
  (named : ∀ x, Dict.keys (slots x) = outline.names)

include decodes encodes distinct named

theorem record_written {x y : α}
    (back : ∀ gs, (∀ name, Dict.get? gs name = (Dict.get? (slots x) name).join.map ofValue) →
      build gs = some y) :
    decode (ofValue (encode x)) = some y := by
  obtain ⟨gs, again, placed⟩ := fields?_written distinct (named x)
  rw [decodes, encodes, again]
  exact back gs placed

theorem rereads_record {change : α → α}
    (back : ∀ given gs x, build (valueFields given) = some x →
      (∀ name, Dict.get? gs name = (Dict.get? (slots x) name).join.map ofValue) →
        build gs = some (change x)) :
    Rereads decode encode change := by
  intro v x found
  rw [decodes, Option.bind_eq_some_iff] at found
  obtain ⟨fs, collected, built⟩ := found
  obtain ⟨given, rfl⟩ := fields?_values collected
  exact record_written slots decodes encodes distinct named (back given · x built)

end Records

namespace Fields

variable {read : Tree → Option α} {write : α → Value} {change : α → α} {gs : Fields}
  {name : String} {given : List (String × Value)}

def slot (skip : Bool) (v : Value) : Option Value := if skip then none else some v

def textSlot (text : String) : Option Value := slot text.isEmpty (.text text)

def listSlot (write : α → Value) (items : List α) : Option Value :=
  slot items.isEmpty (.list (items.map write))

def dictSlot (write : α → Value) (d : List (String × α)) : Option Value :=
  slot d.isEmpty (dictValue write d)

theorem of_getD? {fs : Fields} {default x : α} (found : getD? fs name default read = some x) :
    x = default ∨ ∃ t, read t = some x := by
  unfold getD? at found
  split at found
  · exact .inl (Option.some.inj found).symm
  · exact .inr ⟨_, found⟩

theorem need?_back (rereads : Rereads read write change) {x : α}
    (found : need? (valueFields given) name read = some x)
    (placed : Dict.get? gs name = some (ofValue (write x))) :
    need? gs name read = some (change x) := by
  rw [need?, valueFields, Dict.get?_map, Option.bind_eq_some_iff] at found
  obtain ⟨t, member, reads⟩ := found
  obtain ⟨v, _, rfl⟩ := Option.map_eq_some_iff.mp member
  simpa [need?, placed] using rereads v x reads

theorem getD?_written {default x : α} {skip : Bool} {v : Value}
    (reads : read (ofValue v) = some x) (skipped : skip = true → x = default)
    (placed : Dict.get? gs name = (slot skip v).map ofValue) :
    getD? gs name default read = some x := by
  cases skip with
  | true => simp [getD?, placed, slot, skipped rfl]
  | false => simp [getD?, placed, slot, reads]

-- A field that was not there has its default, so this must be read back as well.
theorem getD?_back (rereads : Rereads read write change) {default x : α} {skip : Bool}
    (base : read (ofValue (write default)) = some (change default))
    (found : getD? (valueFields given) name default read = some x)
    (skipped : skip = true → change x = default)
    (placed : Dict.get? gs name = (slot skip (write x)).map ofValue) :
    getD? gs name default read = some (change x) := by
  have reads : read (ofValue (write x)) = some (change x) := by
    rw [getD?, valueFields, Dict.get?_map] at found
    cases member : Dict.get? given name with
    | none =>
      rw [member] at found
      cases found
      exact base
    | some v =>
      rw [member] at found
      exact rereads v x found
  exact getD?_written reads skipped placed

theorem skipped_written {default : α} {skip : Bool} {v : Value}
    (placed : Dict.get? gs name = (slot skip v).map ofValue) (out : skip = true) :
    getD? gs name default read = some default := by
  subst out
  simp [getD?, placed, slot]

theorem set_written {default x : α} {v : Value} (reads : read (ofValue v) = some x)
    (placed : Dict.get? gs name = some (ofValue v)) : getD? gs name default read = some x := by
  simp [getD?, placed, reads]

theorem set_back (rereads : Rereads read write change) {default x : α}
    (base : read (ofValue (write default)) = some (change default))
    (found : getD? (valueFields given) name default read = some x)
    (placed : Dict.get? gs name = some (ofValue (write x))) :
    getD? gs name default read = some (change x) := by
  have written : Dict.get? gs name = (slot false (write x)).map ofValue := placed
  exact getD?_back rereads base found (by simp) written

theorem text_back {x : String} (found : getD? (valueFields given) name "" asText? = some x)
    (placed : Dict.get? gs name = (textSlot x).map ofValue) :
    getD? gs name "" asText? = some x :=
  getD?_back stable_text rfl found (by simp) placed

theorem list_back (stable : Stable read write) {xs : List α}
    (found : getD? (valueFields given) name [] (listOf? read) = some xs)
    (placed : Dict.get? gs name = (listSlot write xs).map ofValue) :
    getD? gs name [] (listOf? read) = some xs :=
  getD?_back (stable_list stable) rfl found (by simp) placed

theorem dict_back (stable : Stable read write) {d : Dict α}
    (found : getD? (valueFields given) name [] (dictOf? read) = some d)
    (placed : Dict.get? gs name = (dictSlot write d).map ofValue) :
    getD? gs name [] (dictOf? read) = some d :=
  getD?_back (stable_dict stable) rfl found (by simp) placed

theorem option?_back (stable : Stable read write)
    (kept : ∀ v x, v ≠ .null → read (ofValue v) = some x → write x ≠ .null) {x : Option α}
    (found : option? (valueFields given) name read = some x)
    (placed : Dict.get? gs name = (x.map write).map ofValue) : option? gs name read = some x := by
  cases x with
  | none => simp [option?, placed]
  | some a =>
    rw [option?, valueFields, Dict.get?_map] at found
    cases member : Dict.get? given name with
    | none =>
      rw [member] at found
      cases found
    | some v =>
      rw [member] at found
      obtain ⟨there, reads⟩ := of_optionOf? found
      simp [option?, placed, optionOf?_of_ne_null (kept v a there reads), stable v a reads]

end Fields

@[simp] theorem memberOf_map (name : String) (write : α → Value) (x : Option α) :
    memberOf name id (x.map write) = memberOf name write x := by
  cases x <;> rfl

@[simp] theorem memberOf_some (name : String) (v : Value) :
    memberOf name id (some v) = [(name, v)] := rfl

@[simp] theorem memberOf_text (name text : String) :
    memberOf name id (Fields.textSlot text) = textMember name text := by
  cases skip : text.isEmpty <;>
    simp [textMember, Fields.textSlot, Fields.slot, memberOf, skip]

@[simp] theorem memberOf_list (name : String) (write : α → Value) (items : List α) :
    memberOf name id (Fields.listSlot write items) = listMember name write items := by
  cases skip : items.isEmpty <;>
    simp [listMember, Fields.listSlot, Fields.slot, memberOf, skip]

@[simp] theorem memberOf_dict (name : String) (write : α → Value) (d : List (String × α)) :
    memberOf name id (Fields.dictSlot write d) = dictMember name write d := by
  cases skip : d.isEmpty <;>
    simp [dictMember, Fields.dictSlot, Fields.slot, memberOf, skip]

end Tree

end ApiScribe
