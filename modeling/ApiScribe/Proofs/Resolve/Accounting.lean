import ApiScribe.Proofs.Dict
import ApiScribe.Resolve

set_option autoImplicit false

namespace ApiScribe.Resolve

inductive Fate where
  | ignored
  | malformed (error : TagError)
  | unresolved (error : ResolveError)
  | uncoercible
  | kept (kept : Kept)

namespace Fate

def kept? : Fate → Option Kept
  | .kept k => some k
  | _ => none

-- Attributes are read before any shape is resolved, so what is wrong with them is reported first.
def tagProblem? : Fate → Option Problem
  | .malformed error => some (.badTags error)
  | _ => none

def shapeProblem? : Fate → Option Problem
  | .unresolved error => some (.unresolved error)
  | .uncoercible => some (.badTags .invalidStringCoercion)
  | _ => none

def problem? (fate : Fate) : Option Problem := fate.tagProblem?.or fate.shapeProblem?

theorem problem?_severity {fate : Fate} {problem : Problem} (found : fate.problem? = some problem) :
    problem.severity = .error := by
  cases fate <;> cases found <;> rfl

def ofResult (spec : FieldSpec) : Except ResolveError SchemaNode → Fate
  | .error error => .unresolved error
  | .ok node =>
    if spec.stringCoercion then
      if isCoercible node then .kept ⟨spec, refine spec { node with type := some "string" }⟩
      else .uncoercible
    else .kept ⟨spec, refine spec node⟩

end Fate

def fate (table : ExternalTypes) (field : Field) : Fate :=
  match FieldSpec.ofField field with
  | .error error => .malformed error
  | .ok spec =>
    if spec.ignored then .ignored
    else .ofResult spec (resolve table none field.shape none).1

def report (owner : String) (field : Field) (problem : Problem) : Diagnostic :=
  { problem, subject := subject owner field }

section Scope

theorem mappingOf_congr (key value : Shape)
    {keyed valued keyed' valued' : Outcome (Except ResolveError SchemaNode)}
    (keys : keyed.1 = keyed'.1) (values : valued.1 = valued'.1) :
    (mappingOf key value keyed valued).1 = (mappingOf key value keyed' valued').1 := by
  unfold mappingOf
  rw [← keys, ← values]
  cases keyed.1 with
  | error e => rfl
  | ok node =>
    dsimp only
    split
    · split <;> rfl
    · rfl

theorem finishField_eq (owner : String) (field : Field) (spec : FieldSpec)
    (resolved : Outcome (Except ResolveError SchemaNode)) :
    finishField owner field spec resolved =
      ((Fate.ofResult spec resolved.1).kept?.map Kept.node,
        resolved.2 ++
          ((Fate.ofResult spec resolved.1).shapeProblem?.map (report owner field)).toList) := by
  obtain ⟨result, found⟩ := resolved
  cases result with
  | error e => rfl
  | ok node =>
    by_cases coerced : spec.stringCoercion = true
    · by_cases coercible : isCoercible node = true <;>
        simp [finishField, Fate.ofResult, Fate.kept?, Fate.shapeProblem?, report, coerced, coercible]
    · simp [finishField, Fate.ofResult, Fate.kept?, Fate.shapeProblem?, coerced]

theorem ofResult_spec {spec : FieldSpec} {result : Except ResolveError SchemaNode} {k : Kept}
    (kept : (Fate.ofResult spec result).kept? = some k) : k.spec = spec := by
  cases result with
  | error e => cases kept
  | ok node =>
    rw [Fate.ofResult] at kept
    split_ifs at kept <;> cases kept <;> rfl

def keepField (table : ExternalTypes) (owner : String) (field : Field) : Outcome (Option Kept) :=
  match specOf? field with
  | none => (none, [])
  | some spec =>
    let outcome := resolveField table owner field spec
    (outcome.1.map (Kept.mk spec), outcome.2)

theorem keepFields_cons (table : ExternalTypes) (owner : String) (field : Field)
    (rest : List Field) :
    keepFields table owner (field :: rest) =
      ((keepField table owner field).1.toList ++ (keepFields table owner rest).1,
        (keepField table owner field).2 ++ (keepFields table owner rest).2) := by
  obtain ⟨name, shape, doc, attributes⟩ := field
  rw [keepFields, keepField]
  cases specOf? ⟨name, shape, doc, attributes⟩ with
  | none => rfl
  | some spec =>
    dsimp only [resolveField, Field.shape]
    generalize finishField owner ⟨name, shape, doc, attributes⟩ spec
      (resolve table (some (subject owner ⟨name, shape, doc, attributes⟩)) shape none) = outcome
    obtain ⟨node, found⟩ := outcome
    cases node <;> rfl

mutual

theorem resolve_scope (table : ExternalTypes) (scope other : Option String) (shape : Shape)
    (qualifier : Option String) :
    (resolve table scope shape qualifier).1 = (resolve table other shape qualifier).1 := by
  match shape with
  | .named name => rfl
  | .optional inner =>
    exact congrArg (Except.map _) (resolve_scope table scope other inner qualifier)
  | .sequence element =>
    rw [resolve, resolve]
    split
    · rfl
    · exact congrArg (Except.map sequenceOf) (resolve_scope table scope other element qualifier)
  | .mapping key value =>
    exact mappingOf_congr key value (resolve_scope table scope other key none)
      (resolve_scope table scope other value none)
  | .qualified path inner => exact resolve_scope table scope other inner (some path)
  | .record fields =>
    exact congrArg (fun kept => Except.ok (assemble kept).toNode)
      (keepFields_owner table (scope.getD "<inline>") (other.getD "<inline>") fields)
  | .enumeration variants => rfl
  | .dynamic => rfl
  | .unsupported what => rfl

theorem keepFields_owner (table : ExternalTypes) (owner other : String) (fields : List Field) :
    (keepFields table owner fields).1 = (keepFields table other fields).1 := by
  match fields with
  | [] => rfl
  | ⟨name, shape, doc, attributes⟩ :: rest =>
    have kept : (keepField table owner ⟨name, shape, doc, attributes⟩).1 =
        (keepField table other ⟨name, shape, doc, attributes⟩).1 := by
      rw [keepField, keepField]
      split
      · rfl
      next spec _ =>
        dsimp only [resolveField, Field.shape]
        rw [finishField_eq, finishField_eq, resolve_scope table _ (some (subject other _)) shape none]
    rw [keepFields_cons, keepFields_cons, kept, keepFields_owner table owner other rest]

end

end Scope

section Inline

def isMapKey (table : ExternalTypes) (key : Shape) : Bool :=
  match (resolve table none key none).1 with
  | .ok node => isKey node
  | .error _ => false

-- The records that resolution comes to inside a shape. The values of a mapping count only if its
-- keys are allowed.
def inlineRecords (table : ExternalTypes) : Shape → List (List Field)
  | .optional inner => inlineRecords table inner
  | .sequence element => inlineRecords table element
  | .mapping key value =>
    inlineRecords table key ++ if isMapKey table key then inlineRecords table value else []
  | .qualified _ inner => inlineRecords table inner
  | .record fields => [fields]
  | _ => []

theorem inlineRecords_byte (table : ExternalTypes) (shape : Shape) (byte : isByte shape = true) :
    inlineRecords table shape = [] := by
  match shape with
  | .optional inner => exact inlineRecords_byte table inner byte
  | .qualified _ inner => exact inlineRecords_byte table inner byte
  | .named _ => rfl
  | .sequence _ | .mapping _ _ | .record _ | .enumeration _ | .dynamic | .unsupported _ => cases byte

theorem sizeOf_inlineRecords {table : ExternalTypes} {inner : List Field} (shape : Shape)
    (member : inner ∈ inlineRecords table shape) : sizeOf inner < sizeOf shape := by
  match shape with
  | .optional shape =>
    have smaller := sizeOf_inlineRecords shape member
    simp only [Shape.optional.sizeOf_spec]
    omega
  | .sequence shape =>
    have smaller := sizeOf_inlineRecords shape member
    simp only [Shape.sequence.sizeOf_spec]
    omega
  | .qualified path shape =>
    have smaller := sizeOf_inlineRecords shape member
    simp only [Shape.qualified.sizeOf_spec]
    omega
  | .mapping key value =>
    simp only [Shape.mapping.sizeOf_spec]
    rcases List.mem_append.mp member with inKey | inValue
    · have smaller := sizeOf_inlineRecords key inKey
      omega
    · split at inValue
      · have smaller := sizeOf_inlineRecords value inValue
        omega
      · cases inValue
  | .record fields =>
    obtain rfl : inner = fields := List.mem_singleton.mp member
    simp
  | .named _ | .enumeration _ | .dynamic | .unsupported _ => cases member

theorem mappingOf_found (key value : Shape)
    (keyed valued : Outcome (Except ResolveError SchemaNode))
    (silent : value = .dynamic → valued.2 = []) :
    (mappingOf key value keyed valued).2 = keyed.2 ++
      (match keyed.1 with
        | .ok node => if isKey node then valued.2 else []
        | .error _ => []) := by
  unfold mappingOf
  cases keyed.1 with
  | error e => simp
  | ok node =>
    dsimp only
    split_ifs
    · split
      · simp [silent rfl]
      · rfl
    · simp

theorem resolve_found (table : ExternalTypes) (scope : Option String) (shape : Shape)
    (qualifier : Option String) :
    (resolve table scope shape qualifier).2 =
      (inlineRecords table shape).flatMap fun inner =>
        (resolveRecord table (scope.getD "<inline>") inner).2 := by
  match shape with
  | .optional inner => exact resolve_found table scope inner qualifier
  | .qualified path inner => exact resolve_found table scope inner (some path)
  | .sequence element =>
    rw [resolve]
    split
    next byte =>
      rw [inlineRecords, inlineRecords_byte table element byte]
      rfl
    next => exact resolve_found table scope element qualifier
  | .mapping key value =>
    have keyed := resolve_found table scope key none
    have valued := resolve_found table scope value none
    rw [resolve, mappingOf_found _ _ _ _ (by rintro rfl; rfl), keyed, valued,
      resolve_scope table scope none key none, inlineRecords, isMapKey, List.flatMap_append]
    cases (resolve table none key none).1 with
    | error e => rfl
    | ok node =>
      dsimp only
      split <;> rfl
  | .record fields => simp [inlineRecords, resolve, resolveRecord]
  | .named _ | .enumeration _ | .dynamic | .unsupported _ => rfl

def openedRecords (table : ExternalTypes) (field : Field) : List (List Field) :=
  if (specOf? field).isSome then inlineRecords table field.shape else []

theorem fate_of_spec (table : ExternalTypes) {field : Field} {spec : FieldSpec}
    (specified : specOf? field = some spec) :
    fate table field = .ofResult spec (resolve table none field.shape none).1 := by
  rw [specOf?] at specified
  rw [fate]
  cases read : FieldSpec.ofField field with
  | error e => simp [read] at specified
  | ok found =>
    simp only [read] at specified ⊢
    split_ifs at specified ⊢
    cases specified
    rfl

theorem fate_of_none (table : ExternalTypes) {field : Field} (left : specOf? field = none) :
    (fate table field).kept? = none ∧ (fate table field).shapeProblem? = none := by
  rw [specOf?] at left
  rw [fate]
  cases read : FieldSpec.ofField field with
  | error e => exact ⟨rfl, rfl⟩
  | ok found =>
    simp only [read] at left ⊢
    split_ifs at left ⊢
    exact ⟨rfl, rfl⟩

theorem keepField_eq (table : ExternalTypes) (owner : String) (field : Field) :
    keepField table owner field = ((fate table field).kept?,
      ((openedRecords table field).flatMap fun inner =>
        (resolveRecord table (subject owner field) inner).2) ++
      ((fate table field).shapeProblem?.map (report owner field)).toList) := by
  rw [keepField, openedRecords]
  cases specified : specOf? field with
  | none =>
    obtain ⟨kept, problem⟩ := fate_of_none table specified
    simp [kept, problem]
  | some spec =>
    have same := resolve_scope table (some (subject owner field)) none field.shape none
    have kept : ((fate table field).kept?.map Kept.node).map (Kept.mk spec) =
        (fate table field).kept? := by
      rw [fate_of_spec table specified]
      cases found : (Fate.ofResult spec (resolve table none field.shape none).1).kept? with
      | none => rfl
      | some k =>
        obtain rfl := ofResult_spec found
        rfl
    rw [fate_of_spec table specified] at kept ⊢
    simp only [resolveField, finishField_eq, resolve_found, same, kept, Option.isSome_some, if_true,
      Option.getD_some]

theorem keepFields_eq (table : ExternalTypes) (owner : String) (fields : List Field) :
    keepFields table owner fields =
      (fields.filterMap fun field => (fate table field).kept?,
        fields.flatMap fun field =>
          ((openedRecords table field).flatMap fun inner =>
            (resolveRecord table (subject owner field) inner).2) ++
          ((fate table field).shapeProblem?.map (report owner field)).toList) := by
  induction fields with
  | nil => rfl
  | cons field rest ih =>
    rw [keepFields_cons, ih, keepField_eq, List.filterMap_cons, List.flatMap_cons]
    cases (fate table field).kept? <;> rfl

theorem tagDiagnostics_eq (table : ExternalTypes) (owner : String) (fields : List Field) :
    tagDiagnostics owner fields = fields.filterMap fun field =>
      (fate table field).tagProblem?.map (report owner field) := by
  apply List.filterMap_congr
  intro field _
  rw [fate]
  cases FieldSpec.ofField field with
  | error e => rfl
  | ok spec =>
    dsimp only
    split
    · rfl
    · cases (resolve table none field.shape none).1 with
      | error e => rfl
      | ok node =>
        rw [Fate.ofResult]
        split_ifs <;> rfl

end Inline

section Located

-- A field in a record or, at the end of a path of fields, in the records inside it.
inductive Located (table : ExternalTypes) : List Field → List Field → Field → Prop
  | here {fields : List Field} {field : Field} (member : field ∈ fields) :
      Located table fields [] field
  | inside {fields inner path : List Field} {outer field : Field} (member : outer ∈ fields)
      (opened : inner ∈ openedRecords table outer) (below : Located table inner path field) :
      Located table fields (outer :: path) field

theorem resolveRecord_found (table : ExternalTypes) (owner : String) (fields : List Field) :
    (resolveRecord table owner fields).2 =
      (fields.filterMap fun field => (fate table field).tagProblem?.map (report owner field)) ++
      fields.flatMap fun field =>
        ((openedRecords table field).flatMap fun inner =>
          (resolveRecord table (subject owner field) inner).2) ++
        ((fate table field).shapeProblem?.map (report owner field)).toList := by
  rw [resolveRecord, keepFields_eq, tagDiagnostics_eq table]

theorem mem_found_iff (table : ExternalTypes) (owner : String) (fields : List Field)
    (diagnostic : Diagnostic) :
    diagnostic ∈ (resolveRecord table owner fields).2 ↔ ∃ field ∈ fields,
      (∃ problem, (fate table field).problem? = some problem ∧
        diagnostic = report owner field problem) ∨
      ∃ inner ∈ openedRecords table field,
        diagnostic ∈ (resolveRecord table (subject owner field) inner).2 := by
  rw [resolveRecord_found]
  simp only [List.mem_append, List.mem_filterMap, List.mem_flatMap, Option.map_eq_some_iff,
    Option.mem_toList]
  constructor
  · rintro (⟨field, member, problem, found, rfl⟩ | ⟨field, member, inside | own⟩)
    · exact ⟨field, member, .inl ⟨problem, by simp [Fate.problem?, found], rfl⟩⟩
    · exact ⟨field, member, .inr inside⟩
    · obtain ⟨problem, found, rfl⟩ := own
      refine ⟨field, member, .inl ⟨problem, ?_, rfl⟩⟩
      cases fate : fate table field <;> rw [fate] at found <;> cases found <;> rfl
  · rintro ⟨field, member, ⟨problem, found, rfl⟩ | inside⟩
    · rw [Fate.problem?, Option.or_eq_some_iff] at found
      rcases found with tag | ⟨-, shape⟩
      · exact .inl ⟨field, member, problem, tag, rfl⟩
      · exact .inr ⟨field, member, .inr ⟨problem, shape, rfl⟩⟩
    · exact .inr ⟨field, member, .inl inside⟩

theorem sizeOf_openedRecords {table : ExternalTypes} {fields inner : List Field} {field : Field}
    (member : field ∈ fields) (opened : inner ∈ openedRecords table field) :
    sizeOf inner < sizeOf fields := by
  have listed := List.sizeOf_lt_of_mem member
  rw [openedRecords] at opened
  split at opened
  · have smaller := sizeOf_inlineRecords _ opened
    obtain ⟨name, shape, doc, attributes⟩ := field
    simp only [Field.shape, Field.mk.sizeOf_spec] at smaller listed
    omega
  · cases opened

theorem mem_found_iff_located (table : ExternalTypes) (owner : String) (fields : List Field)
    (diagnostic : Diagnostic) :
    diagnostic ∈ (resolveRecord table owner fields).2 ↔ ∃ path field problem,
      Located table fields path field ∧ (fate table field).problem? = some problem ∧
        diagnostic = report (path.foldl subject owner) field problem := by
  constructor
  · -- By recursion on the size, since the records inside a field are smaller than the whole.
    intro found
    induction size : sizeOf fields using Nat.strongRecOn generalizing owner fields with
    | ind bound ih =>
      obtain ⟨field, member, ⟨problem, own, rfl⟩ | ⟨inner, opened, inside⟩⟩ :=
        (mem_found_iff table owner fields diagnostic).mp found
      · exact ⟨[], field, problem, .here member, own, rfl⟩
      · have smaller := sizeOf_openedRecords member opened
        obtain ⟨path, last, problem, located, own, same⟩ := ih (sizeOf inner) (by omega) _ _ inside rfl
        exact ⟨field :: path, last, problem, .inside member opened located, own, same⟩
  · rintro ⟨path, field, problem, located, own, rfl⟩
    induction located generalizing owner with
    | here member => exact (mem_found_iff table owner _ _).mpr ⟨_, member, .inl ⟨problem, own, rfl⟩⟩
    | inside member opened below ih =>
      exact (mem_found_iff table owner _ _).mpr ⟨_, member, .inr ⟨_, opened, ih _ own⟩⟩

end Located

section Object

def named (kept : List Kept) : List (String × SchemaNode) :=
  kept.filterMap fun k => k.spec.name.map fun name => (name, k.node)

def requiredNames (kept : List Kept) : List String :=
  kept.filterMap fun k => if k.spec.required then k.spec.name else none

def objectFrom (properties : List (String × SchemaNode)) (required : List String) : SchemaNode :=
  { SchemaNode.object with
    properties := if properties.isEmpty then none else some (Dict.ofList properties)
    required := if required.isEmpty then none else some required }

theorem foldl_addProperty (kept : List Kept) (node : SchemaNode) :
    kept.foldl addProperty node =
      (named kept).foldl (fun node property => node.withProperty property.1 property.2) node := by
  induction kept generalizing node with
  | nil => rfl
  | cons k rest ih =>
    rw [List.foldl_cons, ih]
    cases name : k.spec.name <;> simp [addProperty, named, name]

theorem foldl_withProperty (properties : List (String × SchemaNode)) (node : SchemaNode)
    (present : Dict SchemaNode) :
    properties.foldl (fun (node : SchemaNode) property => node.withProperty property.1 property.2)
        { node with properties := some present } =
      { node with properties := some (properties.foldl (fun d e => Dict.insert e.1 e.2 d) present) } := by
  induction properties generalizing present with
  | nil => rfl
  | cons property rest ih => exact ih (Dict.insert property.1 property.2 present)

theorem objectFrom_eq (properties : List (String × SchemaNode)) (required : List String) :
    { properties.foldl (fun (node : SchemaNode) property => node.withProperty property.1 property.2)
        SchemaNode.object with required := if required.isEmpty then none else some required } =
      objectFrom properties required := by
  cases properties with
  | nil => rfl
  | cons property rest =>
    have first : SchemaNode.object.withProperty property.1 property.2 =
        { SchemaNode.object with properties := some (Dict.insert property.1 property.2 []) } := rfl
    rw [List.foldl_cons, first, foldl_withProperty]
    rfl

theorem objectOf_eq (kept : List Kept) :
    objectOf kept = objectFrom (named kept) (requiredNames kept) := by
  rw [objectOf, foldl_addProperty, ← objectFrom_eq]
  rfl

theorem get?_objectFrom (properties : List (String × SchemaNode)) (required : List String)
    (name : String) :
    Dict.get? ((objectFrom properties required).properties.getD []) name =
      Dict.get? properties.reverse name := by
  rw [← Dict.get?_ofList, objectFrom]
  cases properties <;> rfl

end Object

/-- Every field of a record is accounted for once. What is kept makes up the schema: the named fields
are the properties, the last one of a name, and the required ones among them are listed in order;
embedded fields come before the object in a composition. All else that is not ignored is reported
under the path of fields that leads to it, and a field that is kept or ignored is not reported. -/
theorem resolveRecord_accounts (table : ExternalTypes) (owner : String) (fields : List Field) :
    let kept := fields.filterMap fun field => (fate table field).kept?
    let object := objectFrom (named kept) (requiredNames kept)
    let found := (resolveRecord table owner fields).2
    ((resolveRecord table owner fields).1 =
      if (embedded kept).isEmpty then .plain object
      else .composed (embedded kept ++ [object]) {}) ∧
    (∀ name, Dict.get? (object.properties.getD []) name = Dict.get? (named kept).reverse name) ∧
    (found =
      (fields.filterMap fun field => (fate table field).tagProblem?.map (report owner field)) ++
      fields.flatMap fun field =>
        ((openedRecords table field).flatMap fun inner =>
          (resolveRecord table (subject owner field) inner).2) ++
        ((fate table field).shapeProblem?.map (report owner field)).toList) ∧
    (∀ diagnostic, diagnostic ∈ found ↔ ∃ path field problem,
      Located table fields path field ∧ (fate table field).problem? = some problem ∧
        diagnostic = report (path.foldl subject owner) field problem) ∧
    ∀ diagnostic ∈ found, diagnostic.isError = true := by
  intro kept object found
  refine ⟨?_, get?_objectFrom _ _, resolveRecord_found table owner fields,
    mem_found_iff_located table owner fields, ?_⟩
  · change assemble (keepFields table owner fields).1 = _
    rw [keepFields_eq, assemble, objectOf_eq]
  · intro diagnostic member
    obtain ⟨path, field, problem, -, own, rfl⟩ :=
      (mem_found_iff_located table owner fields diagnostic).mp member
    simp [Diagnostic.isError, report, Fate.problem?_severity own]

example : (resolveRecord [] "Pet" [⟨some "toys", .optional (.sequence (.record [
      ⟨some "squeak", .unsupported "fn()", "", []⟩, ⟨some "name", .named "String", "", []⟩])), "", []⟩,
      ⟨some "age", .named "Years", "", [⟨"openapi", "string"⟩]⟩]).2 =
    [{ problem := .unresolved (.unsupported "fn()"), subject := "Pet.toys.squeak" },
      { problem := .badTags .invalidStringCoercion, subject := "Pet.age" }] := by
  decide +kernel

end ApiScribe.Resolve
