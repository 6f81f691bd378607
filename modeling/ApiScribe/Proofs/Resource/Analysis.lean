import ApiScribe.Proofs.Resolve.Accounting
import ApiScribe.Resource

set_option autoImplicit false

namespace ApiScribe

namespace Resolve

def insideFound (table : ExternalTypes) (owner : String) (field : Field) : List Diagnostic :=
  (inlineRecords table field.shape).flatMap fun inner =>
    (resolveRecord table (subject owner field) inner).2

theorem resolveField_eq (table : ExternalTypes) (owner : String) (field : Field)
    (spec : FieldSpec) :
    resolveField table owner field spec =
      ((Fate.ofResult spec (resolve table none field.shape none).1).kept?.map Kept.node,
        insideFound table owner field ++
          ((Fate.ofResult spec (resolve table none field.shape none).1).shapeProblem?.map
            (report owner field)).toList) := by
  have same := resolve_scope table (some (subject owner field)) none field.shape none
  rw [resolveField, finishField_eq, same, resolve_found, Option.getD_some]
  rfl

theorem ofResult_cases (spec : FieldSpec) (result : Except ResolveError SchemaNode) :
    (∃ k, (Fate.ofResult spec result).kept? = some k ∧
      (Fate.ofResult spec result).shapeProblem? = none) ∨
    (Fate.ofResult spec result).kept? = none ∧
      ∃ problem, (Fate.ofResult spec result).shapeProblem? = some problem ∧
        problem.severity = .error := by
  cases result with
  | error e => exact .inr ⟨rfl, .unresolved e, rfl, rfl⟩
  | ok node =>
    rw [Fate.ofResult]
    split_ifs
    · exact .inl ⟨_, rfl, rfl⟩
    · exact .inr ⟨rfl, .badTags .invalidStringCoercion, rfl, rfl⟩
    · exact .inl ⟨_, rfl, rfl⟩

theorem resolveField_found (table : ExternalTypes) (owner : String) (field : Field)
    (spec : FieldSpec) {node : SchemaNode}
    (resolved : (resolveField table owner field spec).1 = some node) :
    (resolveField table owner field spec).2 = insideFound table owner field := by
  rw [resolveField_eq] at resolved ⊢
  obtain ⟨k, -, silent⟩ | ⟨left, -⟩ :=
    ofResult_cases spec (resolve table none field.shape none).1
  · simp [silent]
  · simp [left] at resolved

theorem resolveField_failed (table : ExternalTypes) (owner : String) (field : Field)
    (spec : FieldSpec) (failed : (resolveField table owner field spec).1 = none) :
    ∃ problem, problem.severity = .error ∧ (resolveField table owner field spec).2 =
      insideFound table owner field ++ [report owner field problem] := by
  rw [resolveField_eq] at failed ⊢
  obtain ⟨k, kept, -⟩ | ⟨-, problem, own, severity⟩ :=
    ofResult_cases spec (resolve table none field.shape none).1
  · simp [kept] at failed
  · exact ⟨problem, severity, by simp [own]⟩

theorem specOf?_iff {field : Field} {spec : FieldSpec} : specOf? field = some spec ↔
    FieldSpec.ofField field = .ok spec ∧ spec.ignored = false := by
  cases read : FieldSpec.ofField field with
  | error e => simp [specOf?, read]
  | ok found =>
    simp only [specOf?, read, Except.ok.injEq, Option.ite_none_left_eq_some, Option.some.injEq,
      Bool.not_eq_true]
    constructor
    · rintro ⟨counts, same⟩
      exact ⟨same, same ▸ counts⟩
    · rintro ⟨same, counts⟩
      exact ⟨same ▸ counts, same⟩

theorem mem_annotated_iff {fields : List Field} {field : Field} {spec : FieldSpec} :
    (field, spec) ∈ annotated fields ↔ field ∈ fields ∧ specOf? field = some spec := by
  simp only [annotated, List.mem_filterMap, Option.map_eq_some_iff, Prod.mk.injEq]
  constructor
  · intro ⟨other, member, found, specified, same, equal⟩
    subst same equal
    exact ⟨member, specified⟩
  · intro ⟨member, specified⟩
    exact ⟨field, member, spec, specified, rfl, rfl⟩

end Resolve

namespace Resource

open Resolve

section Parts

variable (table : ExternalTypes) (owner : String)

def isPrimary (f : Field × FieldSpec) : Bool :=
  match f.2.role with
  | .primary _ => true
  | _ => false

def isResolved (f : Field × FieldSpec) : Bool :=
  match f.2.name, f.2.role with
  | some _, .attr _ => true
  | some _, .relation _ => true
  | _, _ => false

def found (f : Field × FieldSpec) : List Diagnostic :=
  if isResolved f then (resolveField table owner f.1 f.2).2 else []

def attribute? (f : Field × FieldSpec) : Option (String × SchemaNode) :=
  match f.2.name, f.2.role with
  | some name, .attr omitEmpty =>
    (resolveField table owner f.1 f.2).1.map fun node =>
      (name, if omitEmpty then { node with nullable := some true } else node)
  | _, _ => none

def requiredName? (f : Field × FieldSpec) : Option String :=
  if f.2.required then (attribute? table owner f).map Prod.fst else none

-- A named relation with what its field resolves to.
def related? (f : Field × FieldSpec) : Option (String × Bool × SchemaNode) :=
  match f.2.name, f.2.role with
  | some name, .relation collection =>
    (resolveField table owner f.1 f.2).1.map fun node => (name, collection, node)
  | _, _ => none

def relation? (f : Field × FieldSpec) : Option Relation :=
  (related? table owner f).bind fun (name, collection, node) =>
    (target? node).map fun target => ⟨name, target, collection⟩

def dangling? (f : Field × FieldSpec) : Option String :=
  (related? table owner f).bind fun (name, _, node) =>
    if (target? node).isNone then some name else none

def Draft.add (draft : Draft) (f : Field × FieldSpec) : Draft where
  attributes := (attribute? table owner f).elim draft.attributes fun property =>
    draft.attributes.withProperty property.1 property.2
  required := draft.required ++ (requiredName? table owner f).toList
  relations := draft.relations ++ (relation? table owner f).toList

theorem readFields_cons (draft : Draft) (f : Field × FieldSpec)
    (rest : List (Field × FieldSpec)) :
    readFields table owner draft (f :: rest) =
      match dangling? table owner f with
      | some name => (.error (.relationWithoutTarget name), found table owner f)
      | none =>
        let after := readFields table owner (draft.add table owner f) rest
        (after.1, found table owner f ++ after.2) := by
  obtain ⟨field, spec⟩ := f
  rcases resolved : resolveField table owner field spec with ⟨result, here⟩
  obtain ⟨name, ignored, required, values, coercion, nullable, description, role, ex⟩ := spec
  simp only [readFields, dangling?, found, isResolved, Draft.add, requiredName?, relation?,
    attribute?, related?, resolved]
  cases name with
  | none => simp
  | some name =>
    cases role with
    | none | primary => simp
    | attr omitEmpty => cases result <;> cases required <;> simp
    | relation collection =>
      cases result with
      | none => simp
      | some node => cases target : target? node <;> simp [target]

theorem readFields_complete (draft : Draft) (fields : List (Field × FieldSpec))
    (led : ∀ f ∈ fields, dangling? table owner f = none) :
    readFields table owner draft fields =
      (.ok (fields.foldl (Draft.add table owner) draft), fields.flatMap (found table owner)) := by
  induction fields generalizing draft with
  | nil => rfl
  | cons f rest ih =>
    rw [List.forall_mem_cons] at led
    rw [readFields_cons, led.1, ih _ led.2]
    rfl

theorem readFields_dangling (draft : Draft) {front back : List (Field × FieldSpec)}
    {f : Field × FieldSpec} {name : String} (led : ∀ f ∈ front, dangling? table owner f = none)
    (lost : dangling? table owner f = some name) :
    readFields table owner draft (front ++ f :: back) =
      (.error (.relationWithoutTarget name), (front ++ [f]).flatMap (found table owner)) := by
  induction front generalizing draft with
  | nil =>
    rw [List.nil_append, readFields_cons, lost]
    simp
  | cons first rest ih =>
    rw [List.forall_mem_cons] at led
    rw [List.cons_append, readFields_cons, led.1, ih _ led.2]
    simp

-- Either every relation leads somewhere, or there is a first one that does not.
theorem dangling_cases (fields : List (Field × FieldSpec)) :
    (∀ f ∈ fields, dangling? table owner f = none) ∨
      ∃ front f back name, fields = front ++ f :: back ∧
        (∀ f ∈ front, dangling? table owner f = none) ∧ dangling? table owner f = some name := by
  induction fields with
  | nil => exact .inl (by simp)
  | cons f rest ih =>
    cases here : dangling? table owner f with
    | some name => exact .inr ⟨[], f, rest, name, rfl, by simp, here⟩
    | none =>
      obtain all | ⟨front, lost, back, name, rfl, led, found⟩ := ih
      · exact .inl (List.forall_mem_cons.mpr ⟨here, all⟩)
      · exact .inr ⟨f :: front, lost, back, name, rfl, List.forall_mem_cons.mpr ⟨here, led⟩, found⟩

theorem foldl_add (draft : Draft) (fields : List (Field × FieldSpec)) :
    fields.foldl (Draft.add table owner) draft =
      { attributes := (fields.filterMap (attribute? table owner)).foldl
          (fun node property => node.withProperty property.1 property.2) draft.attributes
        required := draft.required ++ fields.filterMap (requiredName? table owner)
        relations := draft.relations ++ fields.filterMap (relation? table owner) } := by
  induction fields generalizing draft with
  | nil => simp
  | cons f rest ih =>
    rw [List.foldl_cons, ih]
    cases property : attribute? table owner f <;> cases required : requiredName? table owner f <;>
      cases relation : relation? table owner f <;> simp [Draft.add, property, required, relation]

end Parts

section Primary

theorem isPrimary_iff (f : Field × FieldSpec) :
    isPrimary f = true ↔ ∃ resourceType, f.2.role = .primary resourceType := by
  cases role : f.2.role <;> simp [isPrimary, role]

theorem primaries_filter (fields : List (Field × FieldSpec)) :
    primaries (fields.filter isPrimary) = primaries fields := by
  induction fields with
  | nil => rfl
  | cons f rest ih =>
    rw [primaries] at ih ⊢
    cases role : f.2.role <;> simp_all [isPrimary, primaries]

theorem primaryType_iff (fields : List (Field × FieldSpec)) (resourceType : String) :
    primaryType fields = .ok resourceType ↔
      ∃ f, fields.filter isPrimary = [f] ∧ f.1.name = some "id" ∧
        f.2.role = .primary resourceType := by
  rw [primaryType, ← primaries_filter]
  have primary : ∀ f ∈ fields.filter isPrimary, ∃ kind, f.2.role = .primary kind :=
    fun f member => (isPrimary_iff f).mp (List.mem_filter.mp member).2
  match only : fields.filter isPrimary with
  | [] => simp [primaries]
  | [f] =>
    obtain ⟨kind, role⟩ := primary f (by simp [only])
    by_cases named : f.1.name = some "id" <;> simp [primaries, role, named]
  | f :: g :: rest =>
    obtain ⟨first, firstRole⟩ := primary f (by simp [only])
    obtain ⟨second, secondRole⟩ := primary g (by simp [only])
    simp [primaries, firstRole, secondRole]

end Primary

section Outcome

variable (table : ExternalTypes) (name : String) (fields : List (Field × FieldSpec))

inductive Unfit : Prop
  | untagged (f : Field × FieldSpec) (member : f ∈ fields) (without : f.2.role = .none)
  | primaries (count : fields.countP isPrimary ≠ 1)
  | identifier (f : Field × FieldSpec) (member : f ∈ fields) (primary : isPrimary f = true)
      (other : f.1.name ≠ some "id")
  | dangling (f : Field × FieldSpec) (member : f ∈ fields) (relation : String) (collection : Bool)
      (node : SchemaNode) (named : f.2.name = some relation)
      (role : f.2.role = .relation collection)
      (resolved : (resolveField table name f.1 f.2).1 = some node)
      (lost : (node.items.getD node).referencedName = none)

structure Fit (resourceType : String) : Prop where
  tagged : ∀ f ∈ fields, f.2.role ≠ .none
  primary : primaryType fields = .ok resourceType
  led : ∀ f ∈ fields, dangling? table name f = none

variable {table name fields}

theorem dangling_of_some {f : Field × FieldSpec} {relation : String} (member : f ∈ fields)
    (lost : dangling? table name f = some relation) : Unfit table name fields := by
  unfold dangling? related? at lost
  split at lost
  next own collection named role =>
    cases resolved : (resolveField table name f.1 f.2).1 with
    | none => simp [resolved] at lost
    | some node =>
      have both : (node.items.getD node).referencedName = none ∧ own = relation := by
        simpa [resolved, target?] using lost
      exact .dangling f member own collection node named role resolved both.1
  next => cases lost

theorem Fit.not_unfit {resourceType : String} (fit : Fit table name fields resourceType) :
    ¬ Unfit table name fields := by
  obtain ⟨sole, only, named, role⟩ := (primaryType_iff fields resourceType).mp fit.primary
  intro unfit
  cases unfit with
  | untagged f member without => exact fit.tagged f member without
  | primaries count => exact count (by rw [List.countP_eq_length_filter, only]; rfl)
  | identifier f member primary other =>
    have listed : f ∈ fields.filter isPrimary := List.mem_filter.mpr ⟨member, primary⟩
    rw [only, List.mem_singleton] at listed
    exact other (listed ▸ named)
  | dangling f member relation collection node named role resolved lost =>
    have led := fit.led f member
    simp [dangling?, related?, named, role, resolved, target?, lost] at led

theorem fit_of_not_unfit (fit : ¬ Unfit table name fields) :
    ∃ resourceType, Fit table name fields resourceType := by
  have count : fields.countP isPrimary = 1 := by
    by_contra other
    exact fit (.primaries other)
  rw [List.countP_eq_length_filter, List.length_eq_one_iff] at count
  obtain ⟨sole, only⟩ := count
  have listed : sole ∈ fields ∧ isPrimary sole = true :=
    List.mem_filter.mp (by rw [only]; exact List.mem_singleton_self sole)
  have named : sole.1.name = some "id" := by
    by_contra other
    exact fit (.identifier sole listed.1 listed.2 other)
  obtain ⟨resourceType, role⟩ := (isPrimary_iff sole).mp listed.2
  refine ⟨resourceType, ?_, (primaryType_iff fields resourceType).mpr ⟨sole, only, named, role⟩, ?_⟩
  · intro f member without
    exact fit (.untagged f member without)
  · intro f member
    by_contra lost
    obtain ⟨relation, lost⟩ := Option.ne_none_iff_exists'.mp lost
    exact fit (dangling_of_some member lost)

def resourceOf (table : ExternalTypes) (name : String) (customName : Option String)
    (resourceType : String) (fields : List (Field × FieldSpec)) : Resource where
  name := name
  customName := customName
  resourceType := resourceType
  attributes := objectFrom (fields.filterMap (attribute? table name))
    (fields.filterMap (requiredName? table name))
  relations := fields.filterMap (relation? table name)

theorem Fit.sole {resourceType : String} (fit : Fit table name fields resourceType) :
    ∃ f ∈ fields, f.2.role = .primary resourceType := by
  obtain ⟨sole, only, -, role⟩ := (primaryType_iff fields resourceType).mp fit.primary
  exact ⟨sole, List.mem_of_mem_filter (only ▸ List.mem_singleton_self sole), role⟩

theorem analyze_fit {resourceType : String} (customName : Option String)
    (fit : Fit table name fields resourceType) :
    analyze table name customName fields =
      (.ok (some (resourceOf table name customName resourceType fields)),
        fields.flatMap (found table name)) := by
  obtain ⟨sole, listed, role⟩ := fit.sole
  have some : fields.all (·.2.role = .none) = false := by
    rw [List.all_eq_false]
    exact ⟨sole, listed, by simp [role]⟩
  have tagged : withoutRole fields = [] := by
    rw [withoutRole, List.map_eq_nil_iff, List.filter_eq_nil_iff]
    intro f member
    simp [fit.tagged f member]
  simp only [analyze, some, tagged, fit.primary, readFields_complete table name {} fields fit.led,
    foldl_add, List.nil_append, List.isEmpty_nil, Bool.not_true, Bool.false_eq_true, if_false]
  rw [objectFrom_eq]
  rfl

-- Fields that are unfit are given up, at the latest at the first relation that leads nowhere.
theorem analyze_unfit (customName : Option String) (some : ∃ f ∈ fields, f.2.role ≠ .none)
    (unfit : Unfit table name fields) :
    ∃ fault front back, fields = front ++ back ∧
      analyze table name customName fields =
        (.error (.resource name fault), front.flatMap (found table name)) := by
  have roles : fields.all (·.2.role = .none) = false := by
    obtain ⟨f, member, role⟩ := some
    rw [List.all_eq_false]
    exact ⟨f, member, by simp [role]⟩
  by_cases tagged : (withoutRole fields).isEmpty
  · cases primary : primaryType fields with
    | error fault => exact ⟨fault, [], fields, rfl, by simp [analyze, roles, tagged, primary]⟩
    | ok resourceType =>
      have all : ∀ f ∈ fields, f.2.role ≠ .none := by
        intro f member without
        rw [List.isEmpty_iff, withoutRole, List.map_eq_nil_iff, List.filter_eq_nil_iff] at tagged
        exact tagged f member (by simp [without])
      obtain led | ⟨front, f, back, relation, rfl, led, lost⟩ := dangling_cases table name fields
      · exact absurd unfit (Fit.not_unfit ⟨all, primary, led⟩)
      · refine ⟨.relationWithoutTarget relation, front ++ [f], back, by simp, ?_⟩
        simp [analyze, roles, tagged, primary, readFields_dangling table name {} led lost]
  · exact ⟨.missingFields (withoutRole fields), [], fields, rfl, by simp [analyze, roles, tagged]⟩

theorem analyze_roleless (customName : Option String) (none : ∀ f ∈ fields, f.2.role = .none) :
    analyze table name customName fields = (.ok .none, []) := by
  have roles : fields.all (·.2.role = .none) = true := by
    rw [List.all_eq_true]
    intro f member
    simp [none f member]
  simp [analyze, roles]

theorem analyze_cases (table : ExternalTypes) (name : String) (customName : Option String)
    (fields : List (Field × FieldSpec)) :
    (∀ f ∈ fields, f.2.role = .none) ∧
      analyze table name customName fields = (.ok none, []) ∨
    Unfit table name fields ∧ (∃ f ∈ fields, f.2.role ≠ .none) ∧
      (∃ fault front back, fields = front ++ back ∧ analyze table name customName fields =
        (.error (.resource name fault), front.flatMap (found table name))) ∨
    ∃ resourceType, Fit table name fields resourceType ∧
      analyze table name customName fields =
        (.ok (some (resourceOf table name customName resourceType fields)),
          fields.flatMap (found table name)) := by
  by_cases roleless : ∀ f ∈ fields, f.2.role = .none
  · exact .inl ⟨roleless, analyze_roleless customName roleless⟩
  · have some : ∃ f ∈ fields, f.2.role ≠ .none := by simpa using roleless
    by_cases unfit : Unfit table name fields
    · exact .inr (.inl ⟨unfit, some, analyze_unfit customName some unfit⟩)
    · obtain ⟨resourceType, fit⟩ := fit_of_not_unfit unfit
      exact .inr (.inr ⟨resourceType, fit, analyze_fit customName fit⟩)

theorem analyze_found {customName : Option String} {resource : Resource}
    (succeeded : (analyze table name customName fields).1 = .ok (some resource)) :
    ∃ resourceType, Fit table name fields resourceType ∧
      resource = resourceOf table name customName resourceType fields ∧
      (analyze table name customName fields).2 = fields.flatMap (found table name) := by
  obtain ⟨-, result⟩ | ⟨-, -, fault, front, back, -, result⟩ | ⟨resourceType, fit, result⟩ :=
    analyze_cases table name customName fields
  · simp [result] at succeeded
  · simp [result] at succeeded
  · rw [result] at succeeded
    cases succeeded
    exact ⟨resourceType, fit, rfl, congrArg Prod.snd result⟩

theorem found_eq {f : Field × FieldSpec} (read : isResolved f = true) :
    match (resolveField table name f.1 f.2).1 with
    | some _ => found table name f = insideFound table name f.1
    | none => attribute? table name f = none ∧ relation? table name f = none ∧
        ∃ problem, problem.severity = .error ∧
          found table name f = insideFound table name f.1 ++ [report name f.1 problem] := by
  rw [found, if_pos read]
  cases resolved : (resolveField table name f.1 f.2).1 with
  | some node => exact resolveField_found table name f.1 f.2 resolved
  | none =>
    refine ⟨?_, ?_, resolveField_failed table name f.1 f.2 resolved⟩
    · rw [attribute?]
      split
      · rw [resolved, Option.map_none]
      · rfl
    · rw [relation?, related?]
      split
      · rw [resolved, Option.map_none, Option.bind_none]
      · rfl

end Outcome

/-- Fields without any role are no resource. Otherwise they are given up exactly if a field has no
role, if there is not one primary field and that the field `id`, or if a named relation resolves to
something that refers to nothing. What is left is a resource of the named attributes and relations
that resolve: the last attribute of a name is its property, and the required ones are listed in
order. A field that does not resolve is left out with one report of its own beside those for the
records inside it. -/
theorem analyze_outcome (table : ExternalTypes) (name : String) (customName : Option String)
    (fields : List (Field × FieldSpec)) :
    let outcome := analyze table name customName fields
    let properties := fields.filterMap (attribute? table name)
    (outcome.1 = .ok none ↔ ∀ f ∈ fields, f.2.role = .none) ∧
    ((∃ f ∈ fields, f.2.role ≠ .none) →
      ((∃ fault, outcome.1 = .error (.resource name fault)) ↔ Unfit table name fields) ∧
      (¬ Unfit table name fields → ∃ f ∈ fields, ∃ resourceType,
        f.2.role = .primary resourceType ∧
        outcome.1 = .ok (some
          { name, customName, resourceType
            attributes := objectFrom properties (fields.filterMap (requiredName? table name))
            relations := fields.filterMap (relation? table name) }) ∧
        outcome.2 = fields.flatMap (found table name))) ∧
    (∀ required key, Dict.get? ((objectFrom properties required).properties.getD []) key =
      Dict.get? properties.reverse key) ∧
    (∃ front back, fields = front ++ back ∧ outcome.2 = front.flatMap (found table name)) ∧
    ∀ f, isResolved f = true →
      match (resolveField table name f.1 f.2).1 with
      | some _ => found table name f = insideFound table name f.1
      | none => attribute? table name f = none ∧ relation? table name f = none ∧
          ∃ problem, problem.severity = .error ∧
            found table name f = insideFound table name f.1 ++ [report name f.1 problem] := by
  intro outcome properties
  obtain ⟨roleless, result⟩ | ⟨unfit, ⟨f, member, role⟩, fault, front, back, split, result⟩ |
    ⟨resourceType, fit, result⟩ := analyze_cases table name customName fields
  · refine ⟨iff_of_true (congrArg Prod.fst result) roleless, ?_, get?_objectFrom properties,
      ⟨[], fields, rfl, congrArg Prod.snd result⟩, fun f read => found_eq read⟩
    intro some
    obtain ⟨f, member, role⟩ := some
    exact absurd (roleless f member) role
  · have failed : outcome.1 = .error (.resource name fault) := congrArg Prod.fst result
    refine ⟨?_, ?_, get?_objectFrom properties, ⟨front, back, split, congrArg Prod.snd result⟩,
      fun f read => found_eq read⟩
    · simp only [failed, reduceCtorEq, false_iff]
      exact fun roleless => role (roleless f member)
    · intro _
      exact ⟨iff_of_true ⟨fault, failed⟩ unfit, fun fit => absurd unfit fit⟩
  · have succeeded :
        outcome.1 = .ok (some (resourceOf table name customName resourceType fields)) :=
      congrArg Prod.fst result
    obtain ⟨f, member, role⟩ := fit.sole
    refine ⟨?_, ?_, get?_objectFrom properties, ⟨fields, [], by simp, congrArg Prod.snd result⟩,
      fun f read => found_eq read⟩
    · simp only [succeeded, Except.ok.injEq, reduceCtorEq, false_iff]
      intro roleless
      simp [roleless f member] at role
    · intro _
      refine ⟨iff_of_false (by simp [succeeded]) fit.not_unfit, fun _ => ?_⟩
      exact ⟨f, member, resourceType, role, succeeded, congrArg Prod.snd result⟩

def postFields : List (Field × FieldSpec) :=
  [(⟨some "id", .named "String", "", []⟩, { name := some "id", role := .primary "posts" }),
    (⟨some "heading", .named "i32", "", []⟩,
      { name := some "title", required := true, role := .attr false }),
    (⟨some "render", .unsupported "fn()", "", []⟩, { name := some "render", role := .attr false }),
    (⟨some "author", .optional (.named "User"), "", []⟩,
      { name := some "author", role := .relation false }),
    (⟨some "title", .named "String", "", []⟩, { name := some "title", role := .attr true })]

theorem analyze_outcome_posts :
    (∃ f ∈ postFields, f.2.role ≠ .none) ∧ ¬ Unfit [] "Post" postFields ∧
    (analyze [] "Post" none postFields).1 = .ok (some
      { name := "Post", customName := none, resourceType := "posts"
        attributes := { SchemaNode.object with
          properties := some
            [("title", { SchemaNode.primitive "string" none with nullable := some true })]
          required := some ["title"] }
        relations := [⟨"author", "User", false⟩] }) ∧
    (analyze [] "Post" none postFields).2 =
      [{ problem := .unresolved (.unsupported "fn()"), subject := "Post.render" }] := by
  have some : ∃ f ∈ postFields, f.2.role ≠ .none := ⟨_, List.mem_cons_self, by simp⟩
  have fit : Fit [] "Post" postFields "posts" :=
    ⟨by simp [postFields], rfl, by simp only [postFields, List.forall_mem_cons]; decide +kernel⟩
  obtain ⟨f, member, resourceType, role, result, found⟩ :=
    ((analyze_outcome [] "Post" none postFields).2.1 some).2 fit.not_unfit
  have kind : resourceType = "posts" := by
    simp only [postFields, List.mem_cons, List.not_mem_nil, or_false] at member
    obtain rfl | rfl | rfl | rfl | rfl := member <;> cases role
    rfl
  subst kind
  exact ⟨some, fit.not_unfit, result, found⟩

end Resource

end ApiScribe
