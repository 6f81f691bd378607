import ApiScribe.Proofs.Schema.Content
import ApiScribe.Proofs.Tree.ReadBack
import ApiScribe.Schema.Decode

set_option autoImplicit false

namespace ApiScribe

open ApiScribe.Tree

namespace SchemaNode

theorem encodeList_eq (members : List SchemaNode) : encodeList members = members.map encode := by
  induction members with
  | nil => rfl
  | cons node rest ih => simp [encodeList, ih]

theorem encodeNamed_eq (properties : List (String × SchemaNode)) :
    encodeNamed properties = Dict.mapValues encode properties := by
  induction properties with
  | nil => rfl
  | cons e rest ih =>
    obtain ⟨name, node⟩ := e
    simp [encodeNamed, ih, Dict.mapValues]

variable {p : Bool}

theorem decodeList?_eq (items : List Tree) : decodeList? p items = items.mapM (decode? p) := by
  induction items with
  | nil => rfl
  | cons t rest ih => simp [decodeList?, ih, List.mapM_cons]

theorem decodeNamed?_eq (entries : List (Tree × Tree)) :
    decodeNamed? p entries = entries.mapM (pairOf? (decode? p)) := by
  induction entries with
  | nil => rfl
  | cons e rest ih =>
    obtain ⟨k, t⟩ := e
    simp [decodeNamed?, ih, List.mapM_cons, pairOf?, Option.bind_assoc]

theorem decodeMembers?_eq (t : Tree) : decodeMembers? p t = listOf? (decode? p) t := by
  cases t with
  | seq tag items => simp [decodeMembers?, listOf?, asList?, decodeList?_eq]
  | scalar s =>
    by_cases blank : isEmptyScalar s <;> simp [decodeMembers?, listOf?, asList?, blank]
  | _ => simp [decodeMembers?, listOf?, asList?]

theorem decodeProperties?_eq (t : Tree) : decodeProperties? p t = dictOf? (decode? p) t := by
  rw [dictOf?_eq]
  cases t with
  | map tag entries => simp [decodeProperties?, asEntries?, decodeNamed?_eq]
  | scalar s =>
    by_cases blank : isEmptyScalar s <;> simp [decodeProperties?, asEntries?, blank, Dict.ofList]
  | _ => simp [decodeProperties?, asEntries?]

def slots (node : SchemaNode) : List (String × Option Value) :=
  [("type", node.type.map .text), ("format", node.format.map .text),
    ("nullable", node.nullable.map .bool), ("$ref", node.reference.map .text),
    ("description", node.description.map .text), ("items", node.items.map encode),
    ("properties", node.properties.map (dictValue encode)),
    ("required", node.required.map Value.texts), ("enum", node.enumValues.map .list),
    ("additionalProperties", node.additional.map encode),
    ("oneOf", node.oneOf.map fun ms => .list (ms.map encode)),
    ("anyOf", node.anyOf.map fun ms => .list (ms.map encode)),
    ("allOf", node.allOf.map fun ms => .list (ms.map encode)), ("example", node.example?.map id)]

theorem encodeNode_eq (name : String) (node : Option SchemaNode) :
    encodeNode name node = memberOf name encode node := by
  cases node <;> rfl

theorem encodeMembers_eq (name : String) (members : Option (List SchemaNode)) :
    encodeMembers name members = memberOf name (fun ms => .list (ms.map encode)) members := by
  cases members <;> simp [encodeMembers, memberOf, encodeList_eq]

theorem encodeProperties_eq (properties : Option (List (String × SchemaNode))) :
    encodeProperties properties = memberOf "properties" (dictValue encode) properties := by
  cases properties <;> simp [encodeProperties, memberOf, encodeNamed_eq, dictValue]

theorem encode_eq (node : SchemaNode) : node.encode = .object (written node.slots) := by
  obtain ⟨type, format, nullable, reference, description, items, properties, required, enumValues,
    additional, oneOf, anyOf, allOf, ex, names⟩ := node
  simp [encode, slots, memberOf_map, encodeNode_eq, encodeMembers_eq, encodeProperties_eq]

theorem keys_slots (node : SchemaNode) : Dict.keys node.slots = fieldNames := rfl

theorem fieldNames_nodup : fieldNames.Nodup := by decide

def nodesOf (p : Bool) (t : Tree) : Nodes :=
  ⟨fun _ => decode? p t, fun _ => listOf? (decode? p) t, fun _ => dictOf? (decode? p) t⟩

theorem nodesOf_eq (t : Tree) :
    (⟨fun _ => decode? p t, fun _ => decodeMembers? p t, fun _ => decodeProperties? p t⟩ : Nodes) =
      nodesOf p t := by
  simp only [nodesOf, decodeMembers?_eq, decodeProperties?_eq]

def setSlot? (p : Bool) (node : SchemaNode) (s : String × Option Value) : Option SchemaNode :=
  match s.2 with
  | none => some node
  | some v => setField? s.1 (ofValue v) (nodesOf p (ofValue v)) node

theorem decodeEntries?_written {slots : List (String × Option Value)}
    (distinct : (Dict.keys slots).Nodup) (known : ∀ name ∈ Dict.keys slots, name ∈ fieldNames)
    (seen : List String) (fresh : ∀ name ∈ Dict.keys slots, name ∉ seen) (node : SchemaNode) :
    decodeEntries? p (entriesOf (written slots)) seen node = slots.foldlM (setSlot? p) node := by
  induction slots generalizing seen node with
  | nil => rfl
  | cons s rest ih =>
    obtain ⟨name, slot⟩ := s
    rw [Dict.keys_cons, List.nodup_cons] at distinct
    simp only [Dict.keys_cons, List.forall_mem_cons] at known fresh
    cases slot with
    | none =>
      simpa [setSlot?, memberOf] using ih distinct.2 known.2 seen fresh.2 node
    | some v =>
      have first : fieldNames.contains name = true := List.contains_iff_mem.mpr known.1
      have unseen : seen.contains name = false := by simpa using fresh.1
      have others := ih distinct.2 known.2 (name :: seen) fun other member => by
        rw [List.mem_cons]
        rintro (rfl | before)
        · exact distinct.1 member
        · exact fresh.2 other member before
      simp only [written_cons, memberOf, id, entriesOf, List.cons_append, List.nil_append,
        List.map_cons, decodeEntries?, fieldKey?_text, first, if_true, unseen, Bool.false_eq_true,
        if_false, nodesOf_eq, List.foldlM_cons, setSlot?, Option.bind_eq_bind]
      cases setField? name (ofValue v) (nodesOf p (ofValue v)) node with
      | none => rfl
      | some node => exact others node

theorem decode?_encode_eq (node : SchemaNode) :
    decode? p (ofValue node.encode) = node.slots.foldlM (setSlot? p) {} := by
  rw [encode_eq]
  simp only [ofValue, ofMembers_eq, decode?]
  exact decodeEntries?_written (keys_slots node ▸ fieldNames_nodup)
    (fun name member => keys_slots node ▸ member) [] (by simp) {}

structure Kept (p : Bool) (node : SchemaNode) : Prop where
  items : ∀ x, node.items = some x → decode? p (ofValue x.encode) = some x
  properties : ∀ d, node.properties = some d →
    dictOf? (decode? p) (ofValue (dictValue encode d)) = some d
  enumValues : ∀ vs, node.enumValues = some vs → listOf? toValue? (ofValue (.list vs)) = some vs
  additional : ∀ x, node.additional = some x → decode? p (ofValue x.encode) = some x
  oneOf : ∀ ms, node.oneOf = some ms →
    listOf? (decode? p) (ofValue (.list (ms.map encode))) = some ms
  anyOf : ∀ ms, node.anyOf = some ms →
    listOf? (decode? p) (ofValue (.list (ms.map encode))) = some ms
  allOf : ∀ ms, node.allOf = some ms →
    listOf? (decode? p) (ofValue (.list (ms.map encode))) = some ms
  example? : ∀ v, node.example? = some v → v ≠ .null ∧ toValue? (ofValue v) = some v
  names : node.names = {}

-- One field of the pass that reads a written node: `put` is the node with the field to be set.
theorem foldlM_put {α : Type} {name : String} {read : Tree → Option α} {write : α → Value}
    {x : Option α} {rest : List (String × Option Value)} (put : Option α → SchemaNode)
    (sets : ∀ t, setField? name t (nodesOf p t) (put none) =
      (t.optionOf? read).bind fun a => some (put a))
    (back : ∀ a, x = some a → write a ≠ .null ∧ read (ofValue (write a)) = some a) :
    List.foldlM (setSlot? p) (put none) ((name, x.map write) :: rest) =
      rest.foldlM (setSlot? p) (put x) := by
  cases x with
  | none => rfl
  | some a =>
    obtain ⟨there, reads⟩ := back a rfl
    simp [setSlot?, sets, optionOf?_of_ne_null there, reads]

theorem listOf?_texts (texts : List String) :
    listOf? asText? (ofValue (Value.texts texts)) = some texts := by
  have read : (texts.map fun s => Tree.text s).mapM asText? = some (texts.map id) :=
    mapM_of _ _ fun _ _ => rfl
  simpa [listOf?, Value.texts, ofValue, asList?, Function.comp_def] using read

theorem encode_ne_null (node : SchemaNode) : node.encode ≠ .null := by
  simp [encode_eq]

theorem decode?_encode {node : SchemaNode} (kept : Kept p node) :
    decode? p (ofValue node.encode) = some node := by
  obtain ⟨type, format, nullable, reference, description, items, properties, required, enumValues,
    additional, oneOf, anyOf, allOf, ex, names⟩ := node
  have names : names = {} := kept.names
  subst names
  have text (a : String) : Value.text a ≠ .null ∧ asText? (ofValue (.text a)) = some a :=
    ⟨by simp, rfl⟩
  have bool (a : Bool) : Value.bool a ≠ .null ∧ asBool? (ofValue (.bool a)) = some a :=
    ⟨by simp, rfl⟩
  have texts (a : List String) :
      Value.texts a ≠ .null ∧ listOf? asText? (ofValue (Value.texts a)) = some a :=
    ⟨by simp [Value.texts], listOf?_texts a⟩
  rw [decode?_encode_eq, slots]
  rw [foldlM_put (fun x => { type := x }) (fun _ => rfl) fun a _ => text a,
    foldlM_put (fun x => { type, format := x }) (fun _ => rfl) fun a _ => text a,
    foldlM_put (fun x => { type, format, nullable := x }) (fun _ => rfl) fun a _ => bool a,
    foldlM_put (fun x => { type, format, nullable, reference := x }) (fun _ => rfl)
      fun a _ => text a,
    foldlM_put (fun x => { type, format, nullable, reference, description := x }) (fun _ => rfl)
      fun a _ => text a,
    foldlM_put (fun x => { type, format, nullable, reference, description, items := x })
      (fun _ => rfl) fun a same => ⟨encode_ne_null a, kept.items a same⟩,
    foldlM_put
      (fun x => { type, format, nullable, reference, description, items, properties := x })
      (fun _ => rfl) fun a same => ⟨by simp [dictValue], kept.properties a same⟩,
    foldlM_put
      (fun x => { type, format, nullable, reference, description, items, properties,
                  required := x })
      (fun _ => rfl) fun a _ => texts a,
    foldlM_put
      (fun x => { type, format, nullable, reference, description, items, properties, required,
                  enumValues := x })
      (fun _ => rfl) fun a same => ⟨by simp, kept.enumValues a same⟩,
    foldlM_put
      (fun x => { type, format, nullable, reference, description, items, properties, required,
                  enumValues, additional := x })
      (fun _ => rfl) fun a same => ⟨encode_ne_null a, kept.additional a same⟩,
    foldlM_put
      (fun x => { type, format, nullable, reference, description, items, properties, required,
                  enumValues, additional, oneOf := x })
      (fun _ => rfl) fun a same => ⟨by simp, kept.oneOf a same⟩,
    foldlM_put
      (fun x => { type, format, nullable, reference, description, items, properties, required,
                  enumValues, additional, oneOf, anyOf := x })
      (fun _ => rfl) fun a same => ⟨by simp, kept.anyOf a same⟩,
    foldlM_put
      (fun x => { type, format, nullable, reference, description, items, properties, required,
                  enumValues, additional, oneOf, anyOf, allOf := x })
      (fun _ => rfl) fun a same => ⟨by simp, kept.allOf a same⟩,
    foldlM_put
      (fun x => { type, format, nullable, reference, description, items, properties, required,
                  enumValues, additional, oneOf, anyOf, allOf, example? := x })
      (fun _ => rfl) fun a same => show id a ≠ .null ∧ _ from kept.example? a same]
  rfl

-- The nodes that the tree of a value holds are read again once they are written.
structure Back (p : Bool) (v : Value) : Prop where
  node : ∀ x, decode? p (ofValue v) = some x → decode? p (ofValue x.encode) = some x
  members : ∀ xs, listOf? (decode? p) (ofValue v) = some xs →
    listOf? (decode? p) (ofValue (.list (xs.map encode))) = some xs
  properties : ∀ d, dictOf? (decode? p) (ofValue v) = some d →
    dictOf? (decode? p) (ofValue (dictValue encode d)) = some d

theorem setField?_kept {v : Value} {name : String} {node next : SchemaNode} (back : Back p v)
    (kept : Kept p node)
    (found : setField? name (ofValue v) (nodesOf p (ofValue v)) node = some next) :
    Kept p next := by
  unfold setField? at found
  split at found <;>
    simp only [Option.bind_eq_bind, Option.bind_eq_some_iff, Option.pure_def, Option.some.injEq]
      at found
  -- Texts and flags hold no nodes.
  iterate 5
    next =>
      obtain ⟨a, _, rfl⟩ := found
      exact { kept with }
  next =>
    obtain ⟨a, opened, rfl⟩ := found
    refine { kept with items := ?_ }
    rintro x rfl
    exact back.node x (of_optionOf? opened).2
  next =>
    obtain ⟨a, opened, rfl⟩ := found
    refine { kept with properties := ?_ }
    rintro x rfl
    exact back.properties x (of_optionOf? opened).2
  next =>
    obtain ⟨a, _, rfl⟩ := found
    exact { kept with }
  next =>
    obtain ⟨a, opened, rfl⟩ := found
    refine { kept with enumValues := ?_ }
    rintro x rfl
    exact by simpa using stable_list stable_value v x (of_optionOf? opened).2
  next =>
    obtain ⟨a, opened, rfl⟩ := found
    refine { kept with additional := ?_ }
    rintro x rfl
    exact back.node x (of_optionOf? opened).2
  next =>
    obtain ⟨a, opened, rfl⟩ := found
    refine { kept with oneOf := ?_ }
    rintro x rfl
    exact back.members x (of_optionOf? opened).2
  next =>
    obtain ⟨a, opened, rfl⟩ := found
    refine { kept with anyOf := ?_ }
    rintro x rfl
    exact back.members x (of_optionOf? opened).2
  next =>
    obtain ⟨a, opened, rfl⟩ := found
    refine { kept with allOf := ?_ }
    rintro x rfl
    exact back.members x (of_optionOf? opened).2
  next =>
    obtain ⟨a, opened, rfl⟩ := found
    refine { kept with example? := ?_ }
    rintro x rfl
    obtain ⟨there, reads⟩ := of_optionOf? opened
    exact ⟨toValue?_ne_null there reads, stable_value v x reads⟩
  next =>
    subst found
    exact kept

theorem decodeEntries?_kept {members : List (String × Value)} {seen : List String}
    {node next : SchemaNode} (back : ∀ m ∈ members, Back p m.2) (kept : Kept p node)
    (found : decodeEntries? p (entriesOf members) seen node = some next) : Kept p next := by
  induction members generalizing seen node with
  | nil =>
    cases found
    exact kept
  | cons m rest ih =>
    rw [List.forall_mem_cons] at back
    simp only [entriesOf, List.map_cons, decodeEntries?, fieldKey?_text, nodesOf_eq] at found
    split at found
    next => cases found
    next => exact ih back.2 kept found
    next =>
      split at found
      · cases found
      · split at found
        · cases found
        · rename_i set
          exact ih back.2 (setField?_kept back.1 kept set) found

theorem decodeItems?_kept {items : List Value} {names : List String} {node next : SchemaNode}
    (back : ∀ v ∈ items, Back p v) (kept : Kept p node)
    (found : decodeItems? p (items.map ofValue) names node = some next) : Kept p next := by
  induction items generalizing names node with
  | nil =>
    cases names with
    | nil =>
      cases found
      exact kept
    | cons name names => cases found
  | cons v rest ih =>
    rw [List.forall_mem_cons] at back
    cases names with
    | nil => cases found
    | cons name names =>
      simp only [List.map_cons, decodeItems?, nodesOf_eq] at found
      split at found
      · cases found
      · rename_i set
        exact ih back.2 (setField?_kept back.1 kept set) found

theorem kept_empty : Kept p {} := by
  constructor <;> simp

theorem back_of_parts {v : Value}
    (object : ∀ members, v = .object members → ∀ m ∈ members, Back p m.2)
    (list : ∀ items, v = .list items → ∀ w ∈ items, Back p w) : Back p v where
  node x found := by
    apply decode?_encode
    cases v with
    | object members =>
      simp only [ofValue, ofMembers_eq, decode?] at found
      exact decodeEntries?_kept (object members rfl) kept_empty found
    | list items =>
      simp only [ofValue, ofItems_eq, decode?] at found
      split at found
      · exact decodeItems?_kept (list items rfl) kept_empty found
      · cases found
    | int n =>
      by_cases below : n < 0 <;> simp [ofValue, below, decode?] at found
    | _ => cases found
  members xs found :=
    listOf?_back (fun items same w member => (list items same w member).node) found
  properties d found := by
    simpa [Dict.mapValues] using
      dictOf?_back (fun members same m member => (object members same m member).node) found

theorem back_ofValue (v : Value) : Back p v := by
  induction v using Value.nested with
  | list items ih => exact back_of_parts (by simp) (by simpa using ih)
  | object members ih => exact back_of_parts (by simpa using ih) (by simp)
  | _ => exact back_of_parts (by simp) (by simp)

theorem stable_node : Stable (decode? p) encode :=
  fun v x found => (back_ofValue v).node x found

theorem decode?_allOf (v : Value) :
    decode? p (ofValue (.object [("allOf", v)])) =
      ((ofValue v).optionOf? (listOf? (decode? p))).map fun a => { allOf := a } := by
  have known : fieldKey? fieldNames (.text "allOf") = some (.field "allOf") := rfl
  have set : setField? "allOf" (ofValue v) (nodesOf p (ofValue v)) {} =
      ((ofValue v).optionOf? (listOf? (decode? p))).bind fun a => some { allOf := a } := rfl
  simp only [ofValue, ofMembers_eq, entriesOf, List.map_cons, List.map_nil, decode?,
    decodeEntries?, known, nodesOf_eq, List.contains_nil, Bool.false_eq_true, if_false, set]
  cases (ofValue v).optionOf? (listOf? (decode? p)) <;> rfl

end SchemaNode

namespace Tree

theorem settleItems?_eq (items : List Tree) : settleItems? items = items.mapM settle? := by
  induction items with
  | nil => rfl
  | cons t rest ih => simp [settleItems?, ih, List.mapM_cons]

theorem settleEntries?_eq (entries : List (Tree × Tree)) :
    settleEntries? entries =
      entries.mapM fun e => do return ((← settle? e.1), (← settle? e.2)) := by
  induction entries with
  | nil => rfl
  | cons e rest ih =>
    obtain ⟨k, t⟩ := e
    simp [settleEntries?, ih, List.mapM_cons, Option.bind_assoc]

theorem settle?_ofValue (v : Value) : settle? (ofValue v) = some (ofValue v) := by
  induction v using Value.nested with
  | int n => by_cases below : n < 0 <;> simp [ofValue, below, settle?]
  | list items ih =>
    have settled : (items.map ofValue).mapM settle? = some (items.map ofValue) := mapM_of _ _ ih
    simp [ofValue, settle?, isTagged, settleItems?_eq, settled]
  | object members ih =>
    have settled : settleEntries? (entriesOf members) = some (entriesOf members) := by
      rw [settleEntries?_eq]
      refine mapM_of _ _ fun m member => ?_
      simp [ih m member, settle?]
    simp [ofValue, settle?, isTagged, settled]
  | _ => rfl

end Tree

namespace Schema

theorem composition?_eq_some_iff (v : Value) (members : List SchemaNode) :
    composition? (ofValue v) = some members ↔
      ∃ w, (v = .object [("allOf", w)] ∨ v = .list [w]) ∧
        listOf? (SchemaNode.decode? true) (ofValue w) = some members := by
  constructor
  · intro found
    cases v with
    | object entries =>
      rcases entries with _ | ⟨⟨key, w⟩, _ | ⟨e, more⟩⟩
      · cases found
      · simp only [ofValue, ofMembers_eq, entriesOf, List.map_cons, List.map_nil, composition?,
          fieldKey?_text, SchemaNode.decodeMembers?_eq] at found
        by_cases known : key = "allOf"
        · subst known
          exact ⟨w, .inl rfl, found⟩
        · simp [known] at found
      · simp [ofValue, composition?, entriesOf] at found
    | list items =>
      rcases items with _ | ⟨w, _ | ⟨other, more⟩⟩
      · cases found
      · simp only [ofValue, ofItems_eq, List.map_cons, List.map_nil, composition?,
          SchemaNode.decodeMembers?_eq] at found
        exact ⟨w, .inr rfl, found⟩
      · simp [ofValue, composition?] at found
    | int n => by_cases below : n < 0 <;> simp [ofValue, below, composition?] at found
    | _ => cases found
  · rintro ⟨w, rfl | rfl, found⟩
    · simpa [ofValue, entriesOf, composition?, fieldKey?_text, SchemaNode.decodeMembers?_eq]
        using found
    · simpa [ofValue, composition?, SchemaNode.decodeMembers?_eq] using found

theorem decode?_of_composition {v : Value} {members : List SchemaNode}
    (found : composition? (ofValue v) = some members) :
    decode? (ofValue v) = some (.composed members {}) := by
  simp [decode?, settle?_ofValue, found]

theorem decode?_of_node {v : Value} (found : composition? (ofValue v) = none) :
    decode? (ofValue v) = (SchemaNode.decode? true (ofValue v)).map .plain := by
  cases read : SchemaNode.decode? true (ofValue v) <;> simp [decode?, settle?_ofValue, found, read]

def reread : Schema → Schema
  | .plain ⟨none, none, none, none, none, none, none, none, none, none, none, none, some members,
      none, names⟩ => .composed members names
  | schema => schema

def Bare (schema : Schema) : Prop :=
  ∃ members names, schema = .plain (composed members names).toNode

theorem reread_eq_iff (schema : Schema) : schema.reread = schema ↔ ¬ schema.Bare := by
  constructor
  · rintro same ⟨members, names, rfl⟩
    cases same
  · intro other
    unfold reread
    split
    next members names => exact absurd ⟨members, names, rfl⟩ other
    next => rfl

theorem reread_beq_iff (schema : Schema) :
    (schema == schema.reread) = true ↔ ¬ schema.Bare := by
  constructor
  · rintro same ⟨members, names, rfl⟩
    cases same
  · intro other
    rw [(reread_eq_iff schema).mpr other]
    exact (same_iff schema schema).mpr rfl

theorem reread_reread (schema : Schema) : schema.reread.reread = schema.reread := by
  rw [reread_eq_iff]
  rintro ⟨members, names, same⟩
  unfold reread at same
  split at same
  · cases same
  next other => exact other members names same

theorem encode_composed (members : List SchemaNode) (names : SchemaNames) :
    (composed members names).encode =
      .object [("allOf", .list (members.map SchemaNode.encode))] := by
  simp [encode, SchemaNode.encodeList_eq]

theorem encode_bare (members : List SchemaNode) (names : SchemaNames) :
    (composed members names).toNode.encode =
      .object [("allOf", .list (members.map SchemaNode.encode))] := by
  simp [toNode, SchemaNode.encode_eq, SchemaNode.slots, memberOf]

theorem node_of_composition {node : SchemaNode} {members : List SchemaNode}
    (back : SchemaNode.decode? true (ofValue node.encode) = some node)
    (found : composition? (ofValue node.encode) = some members) :
    node = (composed members {}).toNode := by
  obtain ⟨w, shape, reads⟩ := (composition?_eq_some_iff _ _).mp found
  rcases shape with shape | shape
  · have there : w ≠ .null := by
      rintro rfl
      cases reads
    rw [shape, SchemaNode.decode?_allOf, optionOf?_of_ne_null there, reads] at back
    exact (Option.some.inj back).symm
  · simp [SchemaNode.encode_eq] at shape

theorem composition_of_node {members : List SchemaNode} {names : SchemaNames}
    (back : SchemaNode.decode? true (ofValue (composed members names).toNode.encode) =
      some (composed members names).toNode) :
    composition? (ofValue (composed members names).toNode.encode) = some members := by
  rw [encode_bare] at back ⊢
  rw [SchemaNode.decode?_allOf, optionOf?_of_ne_null (by simp)] at back
  refine (composition?_eq_some_iff _ _).mpr ⟨_, .inl rfl, ?_⟩
  cases reads : listOf? (SchemaNode.decode? true) (ofValue (.list (members.map _))) with
  | none =>
    rw [reads] at back
    cases back
  | some ms =>
    rw [reads] at back
    cases back
    rfl

theorem rereads_schema : Rereads decode? encode reread := by
  intro v schema found
  cases opened : composition? (ofValue v) with
  | some members =>
    rw [decode?_of_composition opened] at found
    cases found
    obtain ⟨w, _, reads⟩ := (composition?_eq_some_iff v members).mp opened
    have back := (SchemaNode.back_ofValue w).members members reads
    apply decode?_of_composition
    rw [encode_composed]
    exact (composition?_eq_some_iff _ _).mpr ⟨_, .inl rfl, back⟩
  | none =>
    rw [decode?_of_node opened, Option.map_eq_some_iff] at found
    obtain ⟨node, reads, rfl⟩ := found
    have back := SchemaNode.stable_node v node reads
    change decode? (ofValue node.encode) = _
    cases again : composition? (ofValue node.encode) with
    | some members =>
      rw [decode?_of_composition again, node_of_composition back again]
      rfl
    | none =>
      have other : ¬ (plain node).Bare := by
        rintro ⟨members, names, same⟩
        cases same
        rw [composition_of_node back] at again
        cases again
      rw [decode?_of_node again, back, (reread_eq_iff _).mpr other]
      rfl

end Schema

end ApiScribe
