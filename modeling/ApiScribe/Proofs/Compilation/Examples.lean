import ApiScribe.Proofs.Compilation.Declarations
import ApiScribe.Proofs.Resolve.Accounting
import ApiScribe.Proofs.Text.Search

set_option autoImplicit false

namespace ApiScribe

open Resolve Text

section Search

-- An example stands in a text behind `front`, and `line` is all that follows it on its line.
def ExampleAt (text front line : List Char) : Prop :=
  line ≠ [] ∧ '\n' ∉ line ∧ ∃ back,
    text = front ++ ("@openapi:example ".toList ++ (line ++ back)) ∧ ∀ c ∈ back.head?, c = '\n'

theorem restOfLine?_eq_some_iff (cs line : List Char) :
    restOfLine? cs = some line ↔
      line ≠ [] ∧ '\n' ∉ line ∧ ∃ back, cs = line ++ back ∧ ∀ c ∈ back.head?, c = '\n' := by
  unfold restOfLine?
  constructor
  · intro found
    obtain ⟨whole, unbroken, stops⟩ := (span_ne_iff '\n' cs _ _).mp ⟨rfl, rfl⟩
    by_cases empty : cs.takeWhile (· != '\n') = []
    · simp [empty] at found
    · obtain rfl : cs.takeWhile (· != '\n') = line := by simpa [empty] using found
      exact ⟨empty, unbroken, _, whole, stops⟩
  · rintro ⟨visible, unbroken, back, whole, stops⟩
    obtain ⟨front, -⟩ := (span_ne_iff '\n' cs line back).mpr ⟨whole, unbroken, stops⟩
    simp [front, visible]

theorem exampleAt_iff (text front line : List Char) :
    ExampleAt text front line ↔
      MatchAt "@openapi:example ".toList restOfLine? text front line := by
  simp only [MatchAt, restOfLine?_eq_some_iff]
  constructor
  · rintro ⟨visible, unbroken, back, whole, stops⟩
    exact ⟨_, whole, visible, unbroken, back, rfl, stops⟩
  · rintro ⟨_, whole, visible, unbroken, back, rfl, stops⟩
    exact ⟨visible, unbroken, back, whole, stops⟩

theorem findExample_first {doc : String}
    (documented : ∃ front line, ExampleAt doc.toList front line) :
    ∃ front line, ExampleAt doc.toList front line ∧
      (∀ earlier other, ExampleAt doc.toList earlier other → front.length ≤ earlier.length) ∧
      findExample doc = some (String.ofList (trim line)) := by
  simp only [exampleAt_iff] at documented ⊢
  cases search : firstMatch? "@openapi:example ".toList restOfLine? doc.toList with
  | none =>
    obtain ⟨front, line, here⟩ := documented
    exact absurd here ((firstMatch?_eq_none_iff (by decide)).mp search front line)
  | some line =>
    obtain ⟨front, here, first⟩ := firstMatch?_first search
    refine ⟨front, line, here, first, ?_⟩
    rw [findExample, search, Option.map_some]

end Search

namespace Resolve

variable (table : ExternalTypes)

def Embeds (fields : List Field) : Prop :=
  ∃ field ∈ fields, ∃ kept, (fate table field).kept? = some kept ∧ kept.spec.name = none

theorem embedded_eq_nil_iff (owner : String) (fields : List Field) :
    embedded (keepFields table owner fields).1 = [] ↔ ¬ Embeds table fields := by
  rw [keepFields_eq, embedded, List.map_eq_nil_iff, List.filter_eq_nil_iff]
  simp only [List.mem_filterMap, Option.isNone_iff_eq_none, Embeds]
  grind

theorem resolveRecord_of_embeds (owner : String) {fields : List Field}
    (embeds : Embeds table fields) :
    ∃ members, (resolveRecord table owner fields).1 = .composed members {} := by
  have present := mt (embedded_eq_nil_iff table owner fields).mp (not_not_intro embeds)
  simp [resolveRecord, assemble, present]

theorem resolveRecord_of_not_embeds (owner : String) {fields : List Field}
    (named : ¬ Embeds table fields) :
    ∃ node, (resolveRecord table owner fields).1 = .plain node := by
  have absent := (embedded_eq_nil_iff table owner fields).mpr named
  simp [resolveRecord, assemble, absent]

theorem length_subject (owner : String) (field : Field) :
    owner.length < (subject owner field).length := by
  have point : ".".length = 1 := rfl
  rw [subject, String.length_append, String.length_append, point]
  omega

theorem length_foldl_subject (owner : String) (path : List Field) :
    owner.length ≤ (path.foldl subject owner).length := by
  induction path generalizing owner with
  | nil => exact Nat.le_refl _
  | cons field rest ih => exact (Nat.le_of_lt (length_subject owner field)).trans (ih _)

theorem resolveRecord_subject {owner : String} {fields : List Field} {d : Diagnostic}
    (member : d ∈ (resolveRecord table owner fields).2) : d.subject ≠ owner := by
  obtain ⟨path, field, problem, -, -, rfl⟩ := (mem_found_iff_located table owner fields d).mp member
  have longer := (length_foldl_subject owner path).trans_lt (length_subject _ field)
  intro same
  exact longer.ne (congrArg String.length same).symm

end Resolve

theorem Schema.example_withNames (schema : Schema) (names : SchemaNames) :
    (schema.withNames names).toNode.example? = schema.toNode.example? := by
  cases schema <;> rfl

namespace Declaration

variable {declaration : Declaration} {table : ExternalTypes}

def Composes (declaration : Declaration) (table : ExternalTypes) : Prop :=
  ∃ fields, declaration.shape = .record fields ∧ Embeds table fields

section Product

variable {customName : Option String} {schema : Schema} {found : List Diagnostic}

theorem product_schema
    (produced : declaration.product table customName = (.ok (.schema schema), found)) :
    (∃ fields, declaration.shape = .record fields ∧
      resolveRecord table declaration.name fields = (schema, found)) ∨
    (∀ fields, declaration.shape ≠ .record fields) ∧ ∃ node, schema = .plain node := by
  rw [product] at produced
  split at produced
  next fields shape =>
    rcases analyzed : Resource.analyze table declaration.name customName (annotated fields) with
      ⟨result, reports⟩
    rw [analyzed] at produced
    cases result with
    | error failure => cases produced
    | ok found =>
      cases found with
      | some resource => cases produced
      | none =>
        cases produced
        exact .inl ⟨fields, shape, rfl⟩
  next notRecord =>
    rcases resolved : resolve table (some declaration.name) declaration.shape none with
      ⟨result, reports⟩
    rw [resolved] at produced
    cases result with
    | error error => cases produced
    | ok node =>
      cases produced
      exact .inr ⟨notRecord, node, rfl⟩

theorem product_of_composes (composes : declaration.Composes table)
    (produced : declaration.product table customName = (.ok (.schema schema), found)) :
    (∃ members, schema = .composed members {}) ∧ ∀ d ∈ found, d.subject ≠ declaration.name := by
  obtain ⟨fields, shape, embeds⟩ := composes
  obtain ⟨others, same, record⟩ | ⟨notRecord, -⟩ := product_schema produced
  · obtain rfl : fields = others := Shape.record.inj (shape.symm.trans same)
    constructor
    · simpa only [record] using resolveRecord_of_embeds table declaration.name embeds
    · intro d member
      have listed : d ∈ (resolveRecord table declaration.name fields).2 := by rwa [record]
      exact resolveRecord_subject table listed
  · exact absurd shape (notRecord fields)

theorem product_of_not_composes (plain : ¬ declaration.Composes table)
    (produced : declaration.product table customName = (.ok (.schema schema), found)) :
    ∃ node, schema = .plain node := by
  obtain ⟨fields, shape, record⟩ | ⟨-, node⟩ := product_schema produced
  · have named : ¬ Embeds table fields := fun embeds => plain ⟨fields, shape, embeds⟩
    simpa only [record] using resolveRecord_of_not_embeds table declaration.name named
  · exact node

end Product

section WithExample

variable {raw : String} {value : Value}

theorem withExample_plain (stated : findExample declaration.doc = some raw)
    (converted : convertExample raw declaration.shape = .ok value) (node : SchemaNode) :
    declaration.withExample (.plain node) = (.plain { node with example? := some value }, []) := by
  simp only [withExample, stated, converted]

theorem withExample_composed (stated : findExample declaration.doc = some raw)
    (converted : convertExample raw declaration.shape = .ok value) (members : List SchemaNode)
    (names : SchemaNames) :
    declaration.withExample (.composed members names) = (.composed members names, []) := by
  simp only [withExample, stated, converted]

theorem withExample_error (stated : findExample declaration.doc = some raw) {error : TagError}
    (refused : convertExample raw declaration.shape = .error error) (schema : Schema) :
    declaration.withExample schema =
      (schema, [{ problem := .badTags error, subject := declaration.name }]) := by
  simp only [withExample, stated, refused]

end WithExample

theorem Composes.convertExample (composes : declaration.Composes table) (raw : String) :
    ApiScribe.convertExample raw declaration.shape = .ok (.text raw) := by
  obtain ⟨fields, shape, -⟩ := composes
  rw [shape]
  rfl

end Declaration

theorem Gathered.declare_registered {table : ExternalTypes} {declaration : Declaration}
    {schema : Schema} (new : declaration.name ≠ Schema.anyValueName)
    (registered : (declare {} table declaration).gathered.registry.get? declaration.name =
      some schema) :
    ∃ customName produced found,
      declaration.product table customName = (.ok (.schema produced), found) ∧
      schema.toNode.example? = (declaration.withExample produced).1.toNode.example? ∧
      (declare {} table declaration).found = found ++ (declaration.withExample produced).2 := by
  have unknown : Registry.empty.get? declaration.name = none := by
    simp [Registry.empty, Registry.get?, Dict.get?, new.symm]
  have absent (gathered : Gathered) (same : gathered.registry = Registry.empty) :
      gathered.registry.get? declaration.name ≠ some schema := by
    rw [same, unknown]
    exact (Option.some_ne_none schema).symm
  rw [declare] at registered ⊢
  cases marked : SchemaMarker.find? declaration.doc with
  | none =>
    rw [marked] at registered
    exact absurd registered (absent _ rfl)
  | some marker =>
    rw [marked] at registered
    dsimp only at registered ⊢
    rcases produced : declaration.product table marker.customName with ⟨product, found⟩
    rw [produced] at registered
    cases product with
    | error failure => exact absurd registered (absent _ rfl)
    | ok product =>
      cases product with
      | nothing => exact absurd registered (absent _ rfl)
      | resource resource => exact absurd registered (absent _ rfl)
      | schema given =>
        refine ⟨marker.customName, given, found, produced, ?_, rfl⟩
        dsimp only at registered
        rw [Registry.get?_register, unknown, Option.none_or, if_pos rfl] at registered
        rw [← Option.some.inj registered, Schema.withDeclaredName, Schema.example_withNames]
        cases marker.customName with
        | none => rfl
        | some custom => exact Schema.example_withNames _ _

namespace Compilation

/-- The example of a declaration that gives a schema of its own is the first one in its documentation.
Unless the schema is a composition, either the example is one for the type of the declaration and
stands in the schema, or the declaration is reported for it. A composition never has the example, and
nothing is said of it. -/
theorem example_outcome (settings : Settings) (declaration : Declaration) {schema : Schema}
    (new : declaration.name ≠ Schema.anyValueName)
    (registered : (declare {} settings declaration).1.gathered.registry.get? declaration.name =
      some schema)
    (documented : ∃ front line, ExampleAt declaration.doc.toList front line) :
    ∃ front line, ExampleAt declaration.doc.toList front line ∧
      (∀ earlier other, ExampleAt declaration.doc.toList earlier other →
        front.length ≤ earlier.length) ∧
      let converted := convertExample (String.ofList (trim line)) declaration.shape
      let found := (declare {} settings declaration).1.diagnostics
      (¬ declaration.Composes settings.table →
        (∃ value, converted = .ok value ∧ schema.toNode.example? = some value) ∨
        ∃ error, converted = .error error ∧ ∃ d ∈ found, d.problem = .badTags error ∧
          d.subject = declaration.name ∧ d.isError = true) ∧
      (declaration.Composes settings.table →
        (∃ value, converted = .ok value) ∧ schema.toNode.example? = none ∧
          ∀ d ∈ found, d.subject ≠ declaration.name) := by
  obtain ⟨front, line, here, first, stated⟩ := findExample_first documented
  refine ⟨front, line, here, first, ?_⟩
  intro converted found
  obtain ⟨customName, produced, reports, gives, carried, recorded⟩ :=
    Gathered.declare_registered new registered
  have all : found = reports ++ (declaration.withExample produced).2 := recorded
  rw [carried, all]
  constructor
  · intro plain
    obtain ⟨node, rfl⟩ := Declaration.product_of_not_composes plain gives
    cases outcome : converted with
    | ok value =>
      rw [Declaration.withExample_plain stated outcome]
      exact .inl ⟨value, rfl, rfl⟩
    | error error =>
      rw [Declaration.withExample_error stated outcome]
      exact .inr ⟨error, rfl, _, List.mem_append_right _ (List.mem_singleton_self _), rfl, rfl, rfl⟩
  · intro composes
    obtain ⟨⟨members, rfl⟩, silent⟩ := Declaration.product_of_composes composes gives
    have outcome := composes.convertExample (String.ofList (trim line))
    rw [Declaration.withExample_composed stated outcome, List.append_nil]
    exact ⟨⟨_, outcome⟩, rfl, silent⟩

def socket : Declaration where
  name := "Port"
  shape := .optional (.named "u16")
  doc := "@openapi:schema:Socket\n@openapi:example  8080\n@openapi:example any"

theorem example_outcome_socket :
    ¬ socket.Composes [] ∧ (declare {} {} socket).1.diagnostics = [] ∧
    ∃ front line, ExampleAt socket.doc.toList front line ∧
      convertExample (String.ofList (trim line)) socket.shape = .ok (.int 8080) := by
  have plain : ¬ socket.Composes [] := by
    rintro ⟨fields, shape, -⟩
    cases shape
  have silent : (declare {} {} socket).1.diagnostics = [] := by decide +kernel
  have documented : ∃ front line, ExampleAt socket.doc.toList front line := by
    refine ⟨"@openapi:schema:Socket\n".toList, " 8080".toList, by decide, by decide,
      "\n@openapi:example any".toList, by decide +kernel, ?_⟩
    intro c next
    exact (Option.some.inj next).symm
  obtain ⟨front, line, here, -, outcome, -⟩ := example_outcome {} socket (by decide) rfl documented
  refine ⟨plain, silent, front, line, here, ?_⟩
  obtain ⟨value, converted, carried⟩ | ⟨_, -, d, listed, -⟩ := outcome plain
  · cases carried
    exact converted
  · rw [silent] at listed
    cases listed

def dog : Declaration where
  name := "Dog"
  shape := .record [⟨some "base", .named "Animal", "", [⟨"serde", "flatten"⟩]⟩,
    ⟨some "name", .named "String", "", []⟩]
  doc := "@openapi:schema\n@openapi:example Rex"

theorem composed_example_lost :
    ExampleAt dog.doc.toList "@openapi:schema\n".toList "Rex".toList ∧
    convertExample "Rex" dog.shape = .ok (.text "Rex") ∧
    ((declare {} {} dog).1.gathered.registry.get? "Dog").map (·.toNode.example?.isSome) = some false ∧
    (declare {} {} dog).1.diagnostics = [] := by
  refine ⟨⟨by decide, by decide, [], by decide +kernel, by simp⟩, rfl, ?_, ?_⟩
  · decide +kernel
  · decide +kernel

end Compilation

end ApiScribe
