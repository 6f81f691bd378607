import ApiScribe.Proofs.FieldSpec.Marks
import ApiScribe.Proofs.Resource.Analysis

set_option autoImplicit false

namespace ApiScribe.Resource

open FieldSpec Resolve

section Annotated

theorem annotated_append (front back : List Field) :
    annotated (front ++ back) = annotated front ++ annotated back :=
  List.filterMap_append

theorem annotated_cons {field : Field} {spec : FieldSpec} (specified : specOf? field = some spec)
    (rest : List Field) : annotated (field :: rest) = (field, spec) :: annotated rest := by
  simp [annotated, specified]

theorem mem_tagDiagnostics (owner : String) {fields : List Field} {field : Field} {error : TagError}
    (member : field ∈ fields) (read : ofField field = .error error) :
    report owner field (.badTags error) ∈ tagDiagnostics owner fields := by
  rw [tagDiagnostics, List.mem_filterMap]
  exact ⟨field, member, by simp [read, report]⟩

end Annotated

section Members

variable {table : ExternalTypes} {name : String}

def member? (f : Field × FieldSpec) : Option String :=
  if isPrimary f then none else f.2.name

def memberNames (fields : List Field) : List String :=
  (annotated fields).filterMap member?

theorem attribute?_name {f : Field × FieldSpec} {property : String × SchemaNode}
    (found : attribute? table name f = some property) : member? f = some property.1 := by
  unfold attribute? at found
  split at found
  next member omitEmpty named role =>
    obtain ⟨node, -, rfl⟩ := Option.map_eq_some_iff.mp found
    simp [member?, isPrimary, role, named]
  next => cases found

theorem keys_attributes_nodup {fields : List (Field × FieldSpec)}
    (distinct : (fields.filterMap member?).Nodup) :
    (Dict.keys (fields.filterMap (attribute? table name))).Nodup := by
  have sublist : (Dict.keys (fields.filterMap (attribute? table name))).Sublist
      (fields.filterMap member?) := by
    clear distinct
    induction fields with
    | nil => simp
    | cons f rest ih =>
      cases property : attribute? table name f with
      | none =>
        rw [List.filterMap_cons_none property]
        exact ih.trans (List.Sublist.filterMap _ (List.sublist_cons_self f rest))
      | some entry =>
        rw [List.filterMap_cons_some property, List.filterMap_cons_some (attribute?_name property)]
        exact ih.cons_cons entry.1
  exact distinct.sublist sublist

theorem get?_attributes {fields : List (Field × FieldSpec)}
    (distinct : (fields.filterMap member?).Nodup)
    {f : Field × FieldSpec} (listed : f ∈ fields) {member : String} {node : SchemaNode}
    (property : attribute? table name f = some (member, node)) (required : List String) :
    Dict.get? ((objectFrom (fields.filterMap (attribute? table name)) required).properties.getD [])
      member = some node := by
  have keys : (Dict.keys (fields.filterMap (attribute? table name))).Nodup :=
    keys_attributes_nodup distinct
  rw [get?_objectFrom, Dict.get?_reverse keys]
  exact Dict.get?_of_mem keys (List.mem_filterMap.mpr ⟨f, listed, property⟩)

theorem member_of_resolved {f : Field × FieldSpec} {member : String} {node : SchemaNode}
    (named : f.2.name = some member) (tagged : f.2.role ≠ .none) (other : isPrimary f = false)
    (resolved : (resolveField table name f.1 f.2).1 = some node)
    (led : dangling? table name f = none) :
    (∃ shown, attribute? table name f = some (member, shown)) ∨
      ∃ relation, relation? table name f = some relation ∧ relation.name = member := by
  cases role : f.2.role with
  | none => exact absurd role tagged
  | primary resourceType => simp [isPrimary, role] at other
  | attr omitEmpty =>
    exact .inl ⟨if omitEmpty then { node with nullable := some true } else node,
      by simp [attribute?, named, role, resolved]⟩
  | relation collection =>
    cases target : target? node with
    | none => simp [dangling?, related?, named, role, resolved, target] at led
    | some target' =>
      exact .inr ⟨⟨member, target', collection⟩,
        by simp [relation?, related?, named, role, resolved, target], rfl⟩

-- A field without a name gives nothing to the resource and is not reported for anything.
theorem unnamed_parts {f : Field × FieldSpec} (unnamed : f.2.name = none) :
    attribute? table name f = none ∧ requiredName? table name f = none ∧
      relation? table name f = none ∧ found table name f = [] := by
  have property : attribute? table name f = none := by simp [attribute?, unnamed]
  refine ⟨property, ?_, ?_, ?_⟩
  · simp [requiredName?, property]
  · simp [relation?, related?, unnamed]
  · simp [found, isResolved, unnamed]

theorem Fit.without {front back : List (Field × FieldSpec)} {f : Field × FieldSpec}
    {resourceType : String} (other : isPrimary f = false)
    (fit : Fit table name (front ++ f :: back) resourceType) :
    Fit table name (front ++ back) resourceType := by
  have sub (g : Field × FieldSpec) (member : g ∈ front ++ back) : g ∈ front ++ f :: back := by
    simp only [List.mem_append, List.mem_cons] at member ⊢
    tauto
  refine ⟨fun g member => fit.tagged g (sub g member), ?_, fun g member => fit.led g (sub g member)⟩
  have primary := fit.primary
  rw [primaryType_iff] at primary ⊢
  simpa [List.filter_append, List.filter_cons, other] using primary

theorem analyze_without {front back : List (Field × FieldSpec)} {f : Field × FieldSpec}
    {resourceType : String} (customName : Option String) (unnamed : f.2.name = none)
    (other : isPrimary f = false)
    (fit : Fit table name (front ++ f :: back) resourceType) :
    analyze table name customName (front ++ back) =
      analyze table name customName (front ++ f :: back) := by
  obtain ⟨property, required, relation, silent⟩ :
      attribute? table name f = none ∧ requiredName? table name f = none ∧
        relation? table name f = none ∧ found table name f = [] := unnamed_parts unnamed
  rw [analyze_fit customName (fit.without other), analyze_fit customName fit]
  simp [resourceOf, property, required, relation, silent]

def Reported (owner : String) (field : Field) (reports : List Diagnostic) : Prop :=
  ∃ problem, problem.severity = .error ∧ report owner field problem ∈ reports

def Shown (table : ExternalTypes) (resource : Resource) (f : Field × FieldSpec)
    (member : String) : Prop :=
  (∃ node, attribute? table resource.name f = some (member, node) ∧
    Dict.get? (resource.attributes.properties.getD []) member = some node) ∨
  ∃ relation ∈ resource.relations, relation? table resource.name f = some relation ∧
    relation.name = member

theorem named_accounted {fields : List (Field × FieldSpec)} {resourceType : String}
    (customName : Option String) (fit : Fit table name fields resourceType)
    (distinct : (fields.filterMap member?).Nodup) {f : Field × FieldSpec} (listed : f ∈ fields)
    (other : isPrimary f = false) {member : String} (named : f.2.name = some member) :
    Reported name f.1 (fields.flatMap (found table name)) ∨
      Shown table (resourceOf table name customName resourceType fields) f member := by
  cases resolved : (resolveField table name f.1 f.2).1 with
  | none =>
    obtain ⟨problem, severity, own⟩ := resolveField_failed table name f.1 f.2 resolved
    have read : isResolved f = true := by
      have tagged := fit.tagged f listed
      cases role : f.2.role <;> simp_all [isResolved, isPrimary]
    refine .inl ⟨problem, severity, List.mem_flatMap.mpr ⟨f, listed, ?_⟩⟩
    rw [found, if_pos read, own]
    exact List.mem_append_right _ (List.mem_singleton_self _)
  | some node =>
    right
    obtain ⟨shown, property⟩ | ⟨relation, found, same⟩ :=
      member_of_resolved named (fit.tagged f listed) other resolved (fit.led f listed)
    · exact .inl ⟨shown, property, get?_attributes distinct listed property _⟩
    · exact .inr ⟨relation, List.mem_filterMap.mpr ⟨f, listed, found⟩, found, same⟩

end Members

/-- A field of a record that is read as a resource, neither ignored nor the primary one. If its tags
cannot be read that is reported. If it is not embedded it is reported or is a member of the
resource, under the last name that it is given, which is the name of the attribute or the relation
unless a rename stands after it. If it is embedded it is lost: without it the resource and the
reports are the same. -/
theorem members_accounted (table : ExternalTypes) (name : String) (customName : Option String)
    (fields : List Field) (resource : Resource)
    (succeeded : (analyze table name customName (annotated fields)).1 = .ok (some resource))
    (distinct : (memberNames fields).Nodup)
    (front back : List Field) (field : Field) (split : fields = front ++ field :: back)
    (counts : ∀ spec, ofField field = .ok spec →
      spec.ignored = false ∧ isPrimary (field, spec) = false) :
    let reports :=
      tagDiagnostics name fields ++ (analyze table name customName (annotated fields)).2
    (∀ error, ofField field = .error error → Reported name field reports) ∧
    ∀ spec, ofField field = .ok spec →
      (¬ Embedded field → ∃ last member, naming? field = some last ∧ last.2.value = some member ∧
        (last.kind ≠ .rename → memberName? field = some member) ∧
        (Reported name field reports ∨ Shown table resource (field, spec) member)) ∧
      (Embedded field →
        analyze table name customName (annotated (front ++ back)) =
          analyze table name customName (annotated fields) ∧
        tagDiagnostics name (front ++ back) = tagDiagnostics name fields) := by
  intro reports
  have member : field ∈ fields := by simp [split]
  obtain ⟨resourceType, fit, rfl, found⟩ := analyze_found succeeded
  refine ⟨?_, ?_⟩
  · intro error read
    exact ⟨.badTags error, rfl, List.mem_append_left _ (mem_tagDiagnostics name member read)⟩
  · intro spec read
    obtain ⟨used, other⟩ := counts spec read
    have specified : specOf? field = some spec := specOf?_iff.mpr ⟨read, used⟩
    have listed : (field, spec) ∈ annotated fields := mem_annotated_iff.mpr ⟨member, specified⟩
    have notPrimary : ∀ resourceType, spec.role ≠ .primary resourceType := by
      intro resourceType primary
      simp [isPrimary, primary] at other
    obtain ⟨embedded, single⟩ := ofField_member read used (fit.tagged _ listed) notPrimary
    constructor
    · intro alone
      obtain ⟨last, goesBy, naming, value, named, own⟩ := single alone
      refine ⟨last, goesBy, naming, value, own, ?_⟩
      obtain ⟨problem, severity, reported⟩ | shown :=
        named_accounted customName fit distinct listed other named
      · exact .inl ⟨problem, severity, List.mem_append_right _ (found ▸ reported)⟩
      · exact .inr shown
    · intro inside
      have parts : annotated fields = annotated front ++ (field, spec) :: annotated back := by
        rw [split, annotated_append, annotated_cons specified]
      rw [parts] at fit ⊢
      rw [annotated_append]
      refine ⟨analyze_without customName (embedded inside) other fit, ?_⟩
      simp only [split, tagDiagnostics, List.filterMap_append]
      rw [List.filterMap_cons_none (by simp [read])]

def titleField : Field :=
  ⟨some "title", .named "String", "",
    [⟨"jsonapi", "attr = \"heading\""⟩, ⟨"serde", "rename = \"title\""⟩]⟩

def authorField : Field :=
  ⟨some "author", .named "User", "",
    [⟨"jsonapi", "relation = \"author\""⟩, ⟨"serde", "flatten"⟩]⟩

def pageFields : List Field :=
  [⟨some "id", .named "String", "", [⟨"jsonapi", "primary = \"pages\""⟩]⟩,
    ⟨some "draft", .named "bool", "", [⟨"jsonapi", "attr"⟩]⟩, titleField, authorField]

def page : Resource where
  name := "Page"
  customName := none
  resourceType := "pages"
  attributes :=
    { SchemaNode.object with properties := some [("title", SchemaNode.primitive "string" none)] }
  relations := []

theorem pageFields_reports :
    tagDiagnostics "Page" pageFields ++ (analyze [] "Page" none (annotated pageFields)).2 =
      [{ problem := .badTags (.missingValue "attr"), subject := "Page.draft" }] := rfl

theorem page_not_reported {field : Field} (other : subject "Page" field ≠ "Page.draft") :
    ¬ Reported "Page" field (tagDiagnostics "Page" pageFields ++
      (analyze [] "Page" none (annotated pageFields)).2) := by
  intro reported
  obtain ⟨problem, -, listed⟩ := reported
  rw [pageFields_reports, List.mem_singleton] at listed
  exact other (congrArg Diagnostic.subject listed)

theorem members_accounted_page :
    (memberNames pageFields).Nodup ∧
    (analyze [] "Page" none (annotated pageFields)).1 = .ok (some page) ∧
    memberName? titleField = some "heading" ∧
    Shown [] page (titleField, { name := some "title", role := .attr false }) "title" ∧
    analyze [] "Page" none (annotated (pageFields.take 3)) =
      analyze [] "Page" none (annotated pageFields) := by
  have succeeded : (analyze [] "Page" none (annotated pageFields)).1 = .ok (some page) := rfl
  have distinct : (memberNames pageFields).Nodup := by decide +kernel
  refine ⟨distinct, succeeded, rfl, ?_, ?_⟩
  · have read : ofField titleField = .ok { name := some "title", role := .attr false } := rfl
    have accounted := members_accounted [] "Page" none pageFields page succeeded distinct
      (pageFields.take 2) [authorField] titleField rfl
      (fun spec same => by rw [read] at same; cases same; exact ⟨rfl, rfl⟩)
    have alone : ¬ Embedded titleField := by
      unfold Embedded
      decide +kernel
    obtain ⟨last, member, naming, value, -, reported | shown⟩ := (accounted.2 _ read).1 alone
    · exact absurd reported (page_not_reported (by decide +kernel))
    · cases naming
      cases value
      exact shown
  · have read : ofField authorField = .ok { role := .relation false } := rfl
    have accounted := members_accounted [] "Page" none pageFields page succeeded distinct
      (pageFields.take 3) [] authorField rfl
      (fun spec same => by rw [read] at same; cases same; exact ⟨rfl, rfl⟩)
    have inside : Embedded authorField := by
      unfold Embedded
      decide +kernel
    exact ((accounted.2 _ read).2 inside).1

theorem flattened_author_lost :
    authorField ∈ pageFields ∧ memberName? authorField = some "author" ∧
    (∃ spec, ofField authorField = .ok spec ∧ spec.ignored = false ∧
      spec.role = .relation false) ∧
    (memberNames pageFields).Nodup ∧
    (analyze [] "Page" none (annotated pageFields)).1 = .ok (some page) ∧
    Dict.get? (page.attributes.properties.getD []) "author" = none ∧
    (∀ relation ∈ page.relations, relation.name ≠ "author") ∧
    ¬ Reported "Page" authorField (tagDiagnostics "Page" pageFields ++
      (analyze [] "Page" none (annotated pageFields)).2) :=
  ⟨by simp [pageFields], rfl, ⟨{ role := .relation false }, rfl, rfl, rfl⟩, by decide +kernel, rfl,
    rfl, by simp [page], page_not_reported (by decide +kernel)⟩

end ApiScribe.Resource
