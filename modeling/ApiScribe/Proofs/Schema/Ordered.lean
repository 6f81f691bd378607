import ApiScribe.Proofs.Schema.Unnamed

set_option autoImplicit false

namespace ApiScribe

open ApiScribe.Tree

namespace Value

inductive Ordered : Value → Prop
  | null : Ordered .null
  | bool (b : Bool) : Ordered (.bool b)
  | int (n : Int) : Ordered (.int n)
  | float (x : Number.Binary64) : Ordered (.float x)
  | text (s : String) : Ordered (.text s)
  | list {items : List Value} (below : ∀ v ∈ items, Ordered v) : Ordered (.list items)
  | object {members : List (String × Value)} (sorted : Dict.Sorted members)
      (below : ∀ m ∈ members, Ordered m.2) : Ordered (.object members)

end Value

namespace Tree

mutual

theorem toValue?_ordered {t : Tree} {v : Value} (found : toValue? t = some v) : v.Ordered := by
  cases t with
  | seq tag items =>
    simp only [toValue?] at found
    split at found
    · cases found
    · obtain ⟨vs, reads, rfl⟩ := Option.map_eq_some_iff.mp found
      exact .list (toValues?_ordered reads)
  | map tag entries =>
    simp only [toValue?] at found
    split at found
    · cases found
    · obtain ⟨ms, reads, rfl⟩ := Option.map_eq_some_iff.mp found
      exact .object (Dict.ofList_sorted ms) fun m member =>
        toMembers?_ordered reads m (Dict.mem_of_mem_ofList member)
  | scalar s =>
    simp only [toValue?] at found
    split at found <;> cases found <;> constructor
  | float x =>
    cases x <;> cases found <;> constructor
  | _ => cases found; constructor

theorem toValues?_ordered {items : List Tree} {vs : List Value}
    (found : toValues? items = some vs) : ∀ v ∈ vs, v.Ordered := by
  cases items with
  | nil =>
    cases found
    simp
  | cons t rest =>
    simp only [toValues?, Option.bind_eq_bind, Option.bind_eq_some_iff, Option.pure_def,
      Option.some.injEq] at found
    obtain ⟨v, first, others, later, rfl⟩ := found
    exact List.forall_mem_cons.mpr ⟨toValue?_ordered first, toValues?_ordered later⟩

theorem toMembers?_ordered {entries : List (Tree × Tree)} {ms : List (String × Value)}
    (found : toMembers? entries = some ms) : ∀ m ∈ ms, m.2.Ordered := by
  cases entries with
  | nil =>
    cases found
    simp
  | cons e rest =>
    obtain ⟨k, t⟩ := e
    simp only [toMembers?, Option.bind_eq_bind, Option.bind_eq_some_iff, Option.pure_def,
      Option.some.injEq] at found
    obtain ⟨key, -, v, first, others, later, rfl⟩ := found
    exact List.forall_mem_cons.mpr ⟨toValue?_ordered first, toMembers?_ordered later⟩

end

theorem optionOf?_eq_some_iff {α : Type} {read : Tree → Option α} {t : Tree} {x : α} :
    optionOf? read t = some (some x) ↔ t.present? = some true ∧ read t = some x := by
  cases there : t.present? with
  | none => simp [optionOf?, there]
  | some b => cases b <;> simp [optionOf?, there]

theorem listOf?_values {α : Type} {read : Tree → Option α} {t : Tree} {xs : List α}
    (found : listOf? read t = some xs) : ∀ x ∈ xs, ∃ w, read w = some x := by
  simp only [listOf?, Option.bind_eq_bind, Option.bind_eq_some_iff] at found
  obtain ⟨items, -, found⟩ := found
  intro x member
  obtain ⟨w, -, reads⟩ := of_mapM found x member
  exact ⟨w, reads⟩

end Tree

namespace SchemaNode

structure Ordered (node : SchemaNode) : Prop where
  properties : ∀ d, node.properties = some d → Dict.Sorted d
  enumValues : ∀ vs, node.enumValues = some vs → ∀ v ∈ vs, v.Ordered
  example? : ∀ v, node.example? = some v → v.Ordered

theorem Legible.ordered {node : SchemaNode} (legible : node.Legible) : node.Ordered where
  properties := legible.properties
  enumValues vs given v member := toValue?_ordered (legible.enumValues vs given v member)
  example? v given := toValue?_ordered (legible.example? v given).2

theorem Throughout.ordered {node : SchemaNode} (legible : node.Throughout Legible) :
    node.Throughout Ordered := by
  induction legible with
  | intro here below ih => exact ⟨here.ordered, ih⟩

structure Nodes.Ordered (nodes : Nodes) : Prop where
  node : ∀ x, nodes.node () = some x → x.Throughout SchemaNode.Ordered
  members : ∀ xs, nodes.members () = some xs → ∀ x ∈ xs, x.Throughout SchemaNode.Ordered
  properties : ∀ d, nodes.properties () = some d →
    Dict.Sorted d ∧ ∀ e ∈ d, e.2.Throughout SchemaNode.Ordered

-- A node whose children stood under another one or are ordered themselves.
theorem Throughout.put {node next : SchemaNode} (ordered : node.Throughout Ordered)
    (here : next.Ordered)
    (added : ∀ child ∈ next.children, child ∈ node.children ∨ child.Throughout Ordered) :
    next.Throughout Ordered :=
  ⟨here, fun child member => (added child member).elim (ordered.under child) id⟩

theorem setField?_ordered {name : String} {t : Tree} {nodes : Nodes} {node next : SchemaNode}
    (held : nodes.Ordered) (ordered : node.Throughout Ordered)
    (found : setField? name t nodes node = some next) : next.Throughout Ordered := by
  have one : ∀ x, t.optionOf? (fun _ => nodes.node ()) = some (some x) →
      x.Throughout Ordered :=
    fun x opened => held.node x (optionOf?_eq_some_iff.mp opened).2
  have members : ∀ xs, t.optionOf? (fun _ => nodes.members ()) = some (some xs) →
      ∀ x ∈ xs, x.Throughout Ordered :=
    fun xs opened => held.members xs (optionOf?_eq_some_iff.mp opened).2
  have here := ordered.top
  unfold setField? at found
  split at found <;>
    simp only [Option.bind_eq_bind, Option.bind_eq_some_iff, Option.pure_def, Option.some.injEq]
      at found
  case h_6 | h_10 | h_11 | h_12 | h_13 =>
    obtain ⟨a, opened, rfl⟩ := found
    refine ordered.put { here with } fun child member => ?_
    rw [mem_children] at member ⊢
    grind
  case h_7 =>
    obtain ⟨a, opened, rfl⟩ := found
    have named : ∀ d, a = some d → Dict.Sorted d ∧ ∀ e ∈ d, e.2.Throughout Ordered := by
      rintro d rfl
      exact held.properties d (optionOf?_eq_some_iff.mp opened).2
    refine ordered.put { here with properties := fun d given => (named d given).1 } ?_
    intro child member
    rw [mem_children] at member ⊢
    grind
  case h_9 =>
    obtain ⟨a, opened, rfl⟩ := found
    refine ordered.change rfl fun here => { here with enumValues := ?_ }
    rintro vs rfl v member
    obtain ⟨w, reads⟩ := listOf?_values (optionOf?_eq_some_iff.mp opened).2 v member
    exact toValue?_ordered reads
  case h_14 =>
    obtain ⟨a, opened, rfl⟩ := found
    refine ordered.change rfl fun here => { here with example? := ?_ }
    rintro v rfl
    exact toValue?_ordered (optionOf?_eq_some_iff.mp opened).2
  case h_15 =>
    cases found
    exact ordered
  -- Texts and flags hold no nodes and no objects.
  all_goals
    obtain ⟨a, -, rfl⟩ := found
    exact ordered.change rfl fun here => { here with }

theorem ordered_empty : ({} : SchemaNode).Throughout Ordered :=
  .leaf (by constructor <;> simp) rfl

variable {p : Bool}

mutual

theorem decode?_ordered {t : Tree} {node : SchemaNode} (found : decode? p t = some node) :
    node.Throughout Ordered := by
  cases t with
  | map tag entries =>
    simp only [decode?] at found
    exact decodeEntries?_ordered ordered_empty found
  | seq tag items =>
    simp only [decode?] at found
    split at found
    · exact decodeItems?_ordered ordered_empty found
    · cases found
  | scalar s =>
    simp only [decode?] at found
    split at found <;> cases found
    exact ordered_empty
  | _ => cases found

theorem decodeEntries?_ordered {entries : List (Tree × Tree)} {seen : List String}
    {node next : SchemaNode} (ordered : node.Throughout Ordered)
    (found : decodeEntries? p entries seen node = some next) : next.Throughout Ordered := by
  cases entries with
  | nil =>
    cases found
    exact ordered
  | cons e rest =>
    obtain ⟨key, t⟩ := e
    simp only [decodeEntries?] at found
    split at found
    next => cases found
    next => exact decodeEntries?_ordered ordered found
    next =>
      split at found
      · cases found
      · split at found
        · cases found
        next set =>
          have held : Nodes.Ordered ⟨fun _ => decode? p t, fun _ => decodeMembers? p t,
              fun _ => decodeProperties? p t⟩ :=
            ⟨fun x => decode?_ordered, fun xs => decodeMembers?_ordered,
              fun d => decodeProperties?_ordered⟩
          exact decodeEntries?_ordered (setField?_ordered held ordered set) found

theorem decodeItems?_ordered {items : List Tree} {names : List String} {node next : SchemaNode}
    (ordered : node.Throughout Ordered) (found : decodeItems? p items names node = some next) :
    next.Throughout Ordered := by
  cases items with
  | nil =>
    cases names <;> cases found
    exact ordered
  | cons t rest =>
    cases names with
    | nil => cases found
    | cons name names =>
      simp only [decodeItems?] at found
      split at found
      · cases found
      next set =>
        have held : Nodes.Ordered ⟨fun _ => decode? p t, fun _ => decodeMembers? p t,
            fun _ => decodeProperties? p t⟩ :=
          ⟨fun x => decode?_ordered, fun xs => decodeMembers?_ordered,
            fun d => decodeProperties?_ordered⟩
        exact decodeItems?_ordered (setField?_ordered held ordered set) found

theorem decodeMembers?_ordered {t : Tree} {members : List SchemaNode}
    (found : decodeMembers? p t = some members) : ∀ x ∈ members, x.Throughout Ordered := by
  cases t with
  | seq tag items =>
    simp only [decodeMembers?] at found
    exact decodeList?_ordered found
  | scalar s =>
    simp only [decodeMembers?] at found
    split at found <;> cases found
    simp
  | _ => cases found

theorem decodeProperties?_ordered {t : Tree} {d : List (String × SchemaNode)}
    (found : decodeProperties? p t = some d) :
    Dict.Sorted d ∧ ∀ e ∈ d, e.2.Throughout Ordered := by
  cases t with
  | map tag entries =>
    simp only [decodeProperties?] at found
    obtain ⟨named, reads, rfl⟩ := Option.map_eq_some_iff.mp found
    exact ⟨Dict.ofList_sorted named, fun e member =>
      decodeNamed?_ordered reads e (Dict.mem_of_mem_ofList member)⟩
  | scalar s =>
    simp only [decodeProperties?] at found
    split at found <;> cases found
    simp [Dict.Sorted]
  | _ => cases found

theorem decodeList?_ordered {items : List Tree} {members : List SchemaNode}
    (found : decodeList? p items = some members) : ∀ x ∈ members, x.Throughout Ordered := by
  cases items with
  | nil =>
    cases found
    simp
  | cons t rest =>
    simp only [decodeList?, Option.bind_eq_bind, Option.bind_eq_some_iff, Option.pure_def,
      Option.some.injEq] at found
    obtain ⟨x, first, others, later, rfl⟩ := found
    exact List.forall_mem_cons.mpr ⟨decode?_ordered first, decodeList?_ordered later⟩

theorem decodeNamed?_ordered {entries : List (Tree × Tree)} {d : List (String × SchemaNode)}
    (found : decodeNamed? p entries = some d) : ∀ e ∈ d, e.2.Throughout Ordered := by
  cases entries with
  | nil =>
    cases found
    simp
  | cons e rest =>
    obtain ⟨key, t⟩ := e
    simp only [decodeNamed?, Option.bind_eq_bind, Option.bind_eq_some_iff, Option.pure_def,
      Option.some.injEq] at found
    obtain ⟨name, -, x, first, others, later, rfl⟩ := found
    exact List.forall_mem_cons.mpr ⟨decode?_ordered first, decodeNamed?_ordered later⟩

end

end SchemaNode

end ApiScribe
