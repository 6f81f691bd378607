import ApiScribe.Proofs.Resolve.Legible
import ApiScribe.Proofs.Schema.Ordered

set_option autoImplicit false

namespace ApiScribe

open Number

namespace Value

inductive Matches : Value → Value → Prop
  | null : Matches .null .null
  | bool (b : Bool) : Matches (.bool b) (.bool b)
  | int (n : Int) : Matches (.int n) (.int n)
  | float {x y : Binary64} (equal : x.same y = true) : Matches (.float x) (.float y)
  | text (s : String) : Matches (.text s) (.text s)
  | list {xs ys : List Value} (items : List.Forall₂ Matches xs ys) : Matches (.list xs) (.list ys)
  | object {xs ys : List (String × Value)}
      (members : ∀ name, Option.Rel Matches (Dict.get? xs name) (Dict.get? ys name)) :
      Matches (.object xs) (.object ys)

@[simp] theorem matches_null : Matches .null .null := .null

@[simp] theorem matches_int_iff (m n : Int) : Matches (.int m) (.int n) ↔ m = n := by
  constructor
  · rintro ⟨⟩
    rfl
  · rintro rfl
    exact .int m

@[simp] theorem matches_float_iff (x y : Binary64) :
    Matches (.float x) (.float y) ↔ x.same y = true := by
  constructor
  · rintro ⟨⟩
    assumption
  · exact .float

@[simp] theorem matches_bool_iff (b c : Bool) : Matches (.bool b) (.bool c) ↔ b = c := by
  constructor
  · rintro ⟨⟩
    rfl
  · rintro rfl
    exact .bool b

@[simp] theorem matches_text_iff (s t : String) : Matches (.text s) (.text t) ↔ s = t := by
  constructor
  · rintro ⟨⟩
    rfl
  · rintro rfl
    exact .text s

@[simp] theorem matches_list_iff (xs ys : List Value) :
    Matches (.list xs) (.list ys) ↔ List.Forall₂ Matches xs ys := by
  constructor
  · rintro ⟨⟩
    assumption
  · exact .list

@[simp] theorem matches_object_iff (xs ys : List (String × Value)) :
    Matches (.object xs) (.object ys) ↔
      ∀ name, Option.Rel Matches (Dict.get? xs name) (Dict.get? ys name) := by
  constructor
  · rintro ⟨⟩
    assumption
  · exact .object

end Value

section Told

variable {α β : Type} {write : α → Value} {view : α → β}

-- What is written of two parts matches exactly if a view shows the same of them.
def Told (write : α → Value) (view : α → β) (x y : α) : Prop :=
  (write x).Matches (write y) ↔ view x = view y

theorem Told.option {o p : Option α}
    (told : ∀ x, o = some x → ∀ y, p = some y → Told write view x y) :
    Option.Rel Value.Matches (o.map write) (p.map write) ↔ o.map view = p.map view := by
  cases o with
  | none => cases p <;> simp
  | some x =>
    cases p with
    | none => simp
    | some y => simpa [Told] using told x rfl y rfl

theorem Told.list {xs ys : List α} (told : ∀ x ∈ xs, ∀ y ∈ ys, Told write view x y) :
    Told (fun xs => .list (xs.map write)) (List.map view) xs ys := by
  rw [Told, Value.matches_list_iff]
  induction xs generalizing ys with
  | nil => cases ys <;> simp
  | cons x rest ih =>
    cases ys with
    | nil => simp
    | cons y others =>
      have heads : (write x).Matches (write y) ↔ view x = view y := told x (by simp) y (by simp)
      have tails := ih fun x here y there =>
        told x (List.mem_cons_of_mem _ here) y (List.mem_cons_of_mem _ there)
      simp [heads, tails]

theorem Told.dict {d e : List (String × α)} (left : Dict.Sorted d) (right : Dict.Sorted e)
    (told : ∀ x ∈ d, ∀ y ∈ e, Told write view x.2 y.2) :
    Told (dictValue write) (Dict.mapValues view) d e := by
  have found (name : String) :
      Option.Rel Value.Matches (Dict.get? (Dict.mapValues write d) name)
          (Dict.get? (Dict.mapValues write e) name) ↔
        Dict.get? (Dict.mapValues view d) name = Dict.get? (Dict.mapValues view e) name := by
    simp only [Dict.mapValues, Dict.get?_map]
    exact Told.option fun x here y there =>
      told (name, x) (Dict.mem_of_get? here) (name, y) (Dict.mem_of_get? there)
  rw [Told, dictValue, dictValue, Value.matches_object_iff]
  simp only [found]
  constructor
  · exact (left.map view).ext (right.map view)
  · rintro same name
    rw [same]

end Told

namespace Value

theorem canonicalItems_eq (items : List Value) : canonicalItems items = items.map canonical := by
  induction items with
  | nil => rfl
  | cons v rest ih => simp [canonicalItems, ih]

theorem canonicalMembers_eq (members : List (String × Value)) :
    canonicalMembers members = Dict.mapValues canonical members := by
  induction members with
  | nil => rfl
  | cons m rest ih => simp [canonicalMembers, ih, Dict.mapValues]

theorem Ordered.told {v w : Value} (left : v.Ordered) (right : w.Ordered) :
    Told id canonical v w := by
  -- Values of two kinds neither match nor have one canonical form.
  induction left generalizing w with
  | list below ih =>
    cases right with
    | list others =>
      have items := Told.list fun x here y there => ih x here (others y there)
      simpa [Told, canonical, canonicalItems_eq] using items
    | _ => constructor <;> rintro ⟨⟩
  | object sorted below ih =>
    cases right with
    | object alsoSorted others =>
      have members := Told.dict sorted alsoSorted fun x here y there => ih x here (others y there)
      simpa [Told, canonical, canonicalMembers_eq, dictValue, Dict.mapValues] using members
    | _ => constructor <;> rintro ⟨⟩
  | null =>
    cases w with
    | null => simp [Told]
    | _ => constructor <;> rintro ⟨⟩
  | bool b =>
    cases w with
    | bool c => simp [Told, canonical]
    | _ => constructor <;> rintro ⟨⟩
  | int m =>
    cases w with
    | int n => simp [Told, canonical]
    | _ => constructor <;> rintro ⟨⟩
  | float x =>
    cases w with
    | float y => simp [Told, canonical, Binary64.same_iff]
    | _ => constructor <;> rintro ⟨⟩
  | text s =>
    cases w with
    | text t => simp [Told, canonical]
    | _ => constructor <;> rintro ⟨⟩

end Value

namespace SchemaNode

open Value

theorem rel_slots_iff {xs ys : List (String × Option Value)} (same : Dict.keys xs = Dict.keys ys)
    (distinct : (Dict.keys xs).Nodup) :
    (∀ name, Option.Rel Matches (Dict.get? xs name).join (Dict.get? ys name).join) ↔
      List.Forall₂ (fun x y => Option.Rel Matches x.2 y.2) xs ys := by
  induction xs generalizing ys with
  | nil =>
    cases ys with
    | nil => simp [Dict.get?]
    | cons y others => simp at same
  | cons x rest ih =>
    cases ys with
    | nil => simp at same
    | cons y others =>
      rw [Dict.keys_cons, Dict.keys_cons, List.cons.injEq] at same
      rw [Dict.keys_cons, List.nodup_cons] at distinct
      rw [List.forall₂_cons, ← ih same.2 distinct.2]
      constructor
      · intro related
        refine ⟨by simpa [Dict.get?, ← same.1] using related x.1, fun name => ?_⟩
        by_cases here : x.1 = name
        · subst here
          have absent := distinct.1
          have absentToo := same.2 ▸ distinct.1
          rw [← Dict.get?_eq_none_iff] at absent absentToo
          simp [absent, absentToo]
        · simpa [Dict.get?, here, ← same.1] using related name
      · rintro ⟨first, later⟩ name
        by_cases here : x.1 = name
        · simpa [Dict.get?, here, ← same.1] using first
        · simpa [Dict.get?, here, ← same.1] using later name

theorem matches_slots_iff (a b : SchemaNode) :
    Matches a.encode b.encode ↔
      List.Forall₂ (fun x y => Option.Rel Matches x.2 y.2) a.slots b.slots := by
  have distinct (node : SchemaNode) : (Dict.keys node.slots).Nodup :=
    keys_slots node ▸ fieldNames_nodup
  rw [encode_eq, encode_eq, matches_object_iff]
  simp only [Tree.get?_written (distinct _)]
  exact rel_slots_iff rfl (distinct a)

theorem rel_plain_iff {α : Type} {write : α → Value} (told : ∀ x y, Told write id x y)
    (o p : Option α) : Option.Rel Matches (o.map write) (p.map write) ↔ o = p := by
  have same := Told.option fun x (_ : o = some x) y (_ : p = some y) => told x y
  simpa using same

theorem told_text (s t : String) : Told .text id s t := by simp [Told]

theorem told_bool (b c : Bool) : Told .bool id b c := by simp [Told]

theorem told_texts (xs ys : List String) : Told Value.texts id xs ys := by
  have items : Told (fun xs => .list (xs.map .text)) (List.map id) xs ys :=
    Told.list fun x _ y _ => told_text x y
  rwa [show List.map (@id String) = id from funext List.map_id] at items

theorem told_enum {vs ws : List Value} (left : ∀ v ∈ vs, v.Ordered) (right : ∀ w ∈ ws, w.Ordered) :
    Told .list canonicalItems vs ws := by
  have items := Told.list fun v here w there => (left v here).told (right w there)
  simpa [Told, canonicalItems_eq] using items

theorem Throughout.told {a b : SchemaNode} (left : a.Throughout Ordered)
    (right : b.Throughout Ordered) : Told encode content a b := by
  induction left generalizing b with
  | @intro a here below ih =>
    have there : b.Ordered := right.top
    have child : ∀ x ∈ a.children, ∀ y ∈ b.children, Told encode content x y :=
      fun x inside y under => ih x inside (right.under y under)
    have one {o p : Option SchemaNode} (inside : ∀ x, o = some x → x ∈ a.children)
        (under : ∀ y, p = some y → y ∈ b.children) :
        Option.Rel Matches (o.map encode) (p.map encode) ↔ o.map content = p.map content :=
      Told.option fun x first y second => child x (inside x first) y (under y second)
    have members {o p : Option (List SchemaNode)}
        (inside : ∀ ms, o = some ms → ∀ m ∈ ms, m ∈ a.children)
        (under : ∀ ms, p = some ms → ∀ m ∈ ms, m ∈ b.children) :
        Option.Rel Matches (o.map fun ms => .list (ms.map encode))
            (p.map fun ms => .list (ms.map encode)) ↔
          o.map (List.map content) = p.map (List.map content) :=
      Told.option fun xs first ys second => Told.list fun x member y other =>
        child x (inside xs first x member) y (under ys second y other)
    have properties : Option.Rel Matches (a.properties.map (dictValue encode))
          (b.properties.map (dictValue encode)) ↔
        a.properties.map (Dict.mapValues content) = b.properties.map (Dict.mapValues content) :=
      Told.option fun d first e second =>
        Told.dict (here.properties d first) (there.properties e second) fun x member y other =>
          child x.2 (mem_children.mpr (.inl ⟨d, first, x, member, rfl⟩)) y.2
            (mem_children.mpr (.inl ⟨e, second, y, other, rfl⟩))
    have enumValues : Option.Rel Matches (a.enumValues.map .list) (b.enumValues.map .list) ↔
        a.enumValues.map canonicalItems = b.enumValues.map canonicalItems :=
      Told.option fun vs first ws second =>
        told_enum (here.enumValues vs first) (there.enumValues ws second)
    have ex : Option.Rel Matches a.example? b.example? ↔
        a.example?.map canonical = b.example?.map canonical := by
      have values := Told.option fun v first w second =>
        (here.example? v first).told (there.example? w second)
      simpa using values
    rw [Told, matches_slots_iff, content_eq, content_eq]
    simp only [slots, List.forall₂_cons, List.forall₂_nil_left_iff, SchemaNode.mk.injEq, and_true,
      rel_plain_iff told_text, rel_plain_iff told_bool, rel_plain_iff told_texts, properties,
      enumValues, ex, Option.map_id, id]
    rw [one, one, members, members, members] <;>
      · intros
        rw [mem_children]
        grind

/-- Nodes are the same exactly when equal trees are written of them: no field that is written is
left out, and nothing else counts, the names at no depth. Sameness is an equivalence. -/
theorem same_iff_written {a b : SchemaNode} (left : a.Throughout Ordered)
    (right : b.Throughout Ordered) :
    (a.same b = true ↔ Matches a.encode b.encode) ∧
      Equivalence (fun x y : SchemaNode => x.same y = true) ∧
      ∀ c d : SchemaNode, c.unnamed = a.unnamed → d.unnamed = b.unnamed → c.same d = a.same b := by
  refine ⟨?_, ⟨?_, ?_, ?_⟩, ?_⟩
  · rw [same_iff]
    exact (left.told right).symm
  · intro x
    rw [same_iff]
  · intro x y equal
    rw [same_iff] at equal ⊢
    exact equal.symm
  · intro x y z first second
    rw [same_iff] at first second ⊢
    exact first.trans second
  · intro c d renamed alsoRenamed
    rw [Bool.eq_iff_iff, same_iff, same_iff, ← content_unnamed c, ← content_unnamed d, renamed,
      alsoRenamed, content_unnamed, content_unnamed]

def petsTree : Tree :=
  .map none [(.text "items", .map none [(.text "$ref", .text "#/components/schemas/Pet")]),
    (.text "type", .text "array")]

theorem same_iff_written_pets :
    ∃ a b : SchemaNode, decode? true petsTree = some a ∧
      (Resolve.resolve [] none (.sequence (.named "Pet")) none).1 = .ok b ∧
      a.Throughout Ordered ∧ b.Throughout Ordered ∧ Matches a.encode b.encode := by
  obtain ⟨a, read⟩ : ∃ a, decode? true petsTree = some a := ⟨_, rfl⟩
  obtain ⟨b, resolved⟩ :
      ∃ b, (Resolve.resolve [] none (.sequence (.named "Pet")) none).1 = .ok b := ⟨_, rfl⟩
  have left := decode?_ordered read
  have right := (Resolve.resolve_throughout Resolve.legible_invariant _ _ resolved).ordered
  refine ⟨a, b, read, resolved, left, right, (same_iff_written left right).1.mp ?_⟩
  cases read
  cases resolved
  rfl

end SchemaNode

end ApiScribe
