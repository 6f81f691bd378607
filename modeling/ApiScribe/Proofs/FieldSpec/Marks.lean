import ApiScribe.Proofs.FieldSpec

set_option autoImplicit false

namespace ApiScribe.FieldSpec

namespace Run

variable {shape : Shape} {draft after : Draft} {marks : List Mark}

theorem embedded (run : Run shape draft marks after) :
    after.embedded = (draft.embedded || marks.any (·.kind.flattens)) := by
  induction run with
  | done => simp
  | next made applied _ ih =>
    obtain ⟨role, -, rfl⟩ := Change.apply_eq_some_iff.mp applied
    simp [ih, Change.write, (change?_of made).embedded, Bool.or_assoc, Bool.or_left_comm]

theorem name (run : Run shape draft marks after) :
    after.spec.name =
      (marks.reverse.find? (·.kind.givesName)).elim draft.spec.name (·.2.value) := by
  induction run with
  | done => rfl
  | @next draft between after m rest change made applied later ih =>
    rw [ih, List.reverse_cons, List.find?_append]
    cases last : List.find? _ _ with
    | some m => rfl
    | none =>
      obtain ⟨role, -, rfl⟩ := Change.apply_eq_some_iff.mp applied
      have own := (change?_of made).name
      cases names : m.kind.givesName with
      | false =>
        simp only [names, Bool.false_eq_true, if_false] at own
        simp [names, Change.write, own]
      | true =>
        rw [if_pos names] at own
        obtain ⟨name, given, set⟩ := own
        simp [names, Change.write, given, set]

theorem value (run : Run shape draft marks after) :
    ∀ m ∈ marks, m.kind.givesName = true → ∃ name, m.2.value = some name := by
  induction run with
  | done => simp
  | next made _ _ ih =>
    rw [List.forall_mem_cons]
    refine ⟨fun names => ?_, ih⟩
    have own := (change?_of made).name
    rw [if_pos names] at own
    obtain ⟨name, given, -⟩ := own
    exact ⟨name, given⟩

theorem role_of_set (run : Run shape draft marks after) (set : draft.spec.role ≠ .none) :
    after.spec.role = draft.spec.role ∧ marks.filter (·.kind.givesRole) = [] := by
  suffices without : ∀ m ∈ marks, m.kind.givesRole = false by
    exact ⟨run.role_kept without, List.filter_eq_nil_iff.mpr (by simpa using without)⟩
  induction run with
  | done => simp
  | @next draft between after m rest change made applied _ ih =>
    obtain ⟨role, given, rfl⟩ := Change.apply_eq_some_iff.mp applied
    have free : change.role = .none := by
      by_contra taken
      simp [Change.roles, taken, set] at given
    rw [free, Change.roles, if_pos rfl] at given
    obtain rfl := Option.some.inj given
    refine List.forall_mem_cons.mpr ⟨?_, ih set⟩
    by_contra gives
    have own := (change?_of made).role
    rw [if_pos (by simpa using gives)] at own
    exact own.ne_none free

theorem role (run : Run shape draft marks after) (free : draft.spec.role = .none) :
    after.spec.role = .none ∧ marks.filter (·.kind.givesRole) = [] ∨
      ∃ m, marks.filter (·.kind.givesRole) = [m] ∧ Gives shape m after.spec.role := by
  induction run with
  | done => exact .inl ⟨free, rfl⟩
  | @next draft between after m rest change made applied later ih =>
    obtain ⟨role, given, rfl⟩ := Change.apply_eq_some_iff.mp applied
    have own := (change?_of made).role
    cases gives : m.kind.givesRole with
    | false =>
      simp only [gives, Bool.false_eq_true, if_false] at own
      rw [own, Change.roles, if_pos rfl, free] at given
      rw [List.filter_cons_of_neg (by simp [gives])]
      exact ih (Option.some.inj given).symm
    | true =>
      -- After a token that gives a role no other one can be read.
      rw [if_pos gives] at own
      rw [Change.roles, if_neg own.ne_none, if_pos free] at given
      obtain rfl := Option.some.inj given
      obtain ⟨same, none⟩ := later.role_of_set own.ne_none
      rw [List.filter_cons_of_pos (by simp [gives]), none, same]
      exact .inr ⟨m, rfl, own⟩

theorem sole (run : Run shape draft marks after) (free : draft.spec.role = .none)
    (tagged : after.spec.role ≠ .none)
    (member : ∀ resourceType, after.spec.role ≠ .primary resourceType) :
    ∃ own, marks.filter (·.kind.givesRole) = [own] ∧ own.kind.isMember = true := by
  obtain ⟨none, -⟩ | ⟨own, only, gives⟩ := run.role free
  · exact absurd none tagged
  · refine ⟨own, only, ?_⟩
    unfold Gives at gives
    split at gives
    next =>
      obtain ⟨resourceType, primary⟩ := gives
      exact absurd primary (member resourceType)
    next kind => simp [kind, Kind.isMember]
    next kind => simp [kind, Kind.isMember]
    next => exact gives.elim

theorem naming (run : Run shape draft marks after) (free : draft.spec.role = .none)
    (tagged : after.spec.role ≠ .none)
    (member : ∀ resourceType, after.spec.role ≠ .primary resourceType) :
    ∃ last name, marks.reverse.find? (·.kind.givesName) = some last ∧ last.2.value = some name ∧
      after.spec.name = some name ∧
      (last.kind ≠ .rename → marks.find? (·.kind.isMember) = some last) := by
  obtain ⟨own, only, isMember⟩ := run.sole free tagged member
  have listed (m : Mark) : m ∈ marks ∧ m.kind.givesRole = true ↔ m = own := by
    rw [← List.mem_filter (p := fun m : Mark => m.kind.givesRole), only, List.mem_singleton]
  have present : own ∈ marks := ((listed own).mpr rfl).1
  obtain ⟨last, found⟩ : ∃ last, marks.reverse.find? (·.kind.givesName) = some last := by
    rw [← Option.isSome_iff_exists, List.find?_isSome]
    exact ⟨own, by simpa using present, Kind.givesName_of_member isMember⟩
  have inside : last ∈ marks := by simpa using List.mem_of_find?_eq_some found
  have names : last.kind.givesName = true := by simpa using List.find?_some found
  obtain ⟨name, value⟩ := run.value last inside names
  refine ⟨last, name, found, value, by simp [run.name, found, value], ?_⟩
  intro other
  have same : last = own :=
    (listed last).mp ⟨inside, Kind.givesRole_of_member (Kind.isMember_of_name names other)⟩
  obtain ⟨first, firstFound⟩ : ∃ first, marks.find? (·.kind.isMember) = some first := by
    rw [← Option.isSome_iff_exists, List.find?_isSome]
    exact ⟨own, present, isMember⟩
  have firstSame : first = own := (listed first).mp
    ⟨List.mem_of_find?_eq_some firstFound,
      Kind.givesRole_of_member (by simpa using List.find?_some firstFound)⟩
  rw [firstFound, firstSame, same]

end Run

section Fields

variable {field : Field} {spec : FieldSpec}

theorem ofField_reads (read : ofField field = .ok spec) (counts : spec.ignored = false) :
    ∃ after, Run field.shape ⟨{ name := field.name }, field.name.isNone, false⟩
        (marks field.attributes) after ∧
      spec.name = (if after.embedded then none else after.spec.name) ∧
      (spec.role = after.spec.role ∨
        ∃ before now, after.spec.role = .attr before ∧ spec.role = .attr now) := by
  obtain ⟨front, after, -, run, rfl | ⟨rfl, settled⟩⟩ := ofField_run read
  · cases counts
  · have same : spec.name = after.settle.name ∧ spec.role = after.settle.role := by
      obtain rfl | ⟨raw, value, -, rfl⟩ := settled <;> exact ⟨rfl, rfl⟩
    refine ⟨after, run, same.1, ?_⟩
    rw [same.2]
    cases role : after.spec.role with
    | attr before => exact .inr ⟨before, after.omitEmpty, rfl, by simp [Draft.settle, role]⟩
    | _ => exact .inl (by simp [Draft.settle, role])

theorem ofField_relation {collection : Bool} (read : ofField field = .ok spec)
    (counts : spec.ignored = false) (role : spec.role = .relation collection) :
    collection = field.shape.isSequence := by
  obtain ⟨after, run, -, same | ⟨before, now, -, other⟩⟩ := ofField_reads read counts
  · rw [role] at same
    obtain ⟨free, -⟩ | ⟨m, -, gives⟩ := run.role rfl
    · rw [free] at same
      cases same
    · rw [← same, Gives] at gives
      split at gives
      · obtain ⟨resourceType, other⟩ := gives
        cases other
      · cases gives
      · exact Role.relation.inj gives
      · exact gives.elim
  · rw [role] at other
    cases other

-- A field without a name of its own, or one that is flattened.
def Embedded (field : Field) : Prop :=
  field.name = none ∨ ∃ m ∈ marks field.attributes, m.kind = .flatten

def memberName? (field : Field) : Option String :=
  ((marks field.attributes).find? (·.kind.isMember)).bind (·.2.value)

-- The token that has the last word on the name of a field.
def naming? (field : Field) : Option Mark :=
  (marks field.attributes).reverse.find? (·.kind.givesName)

theorem ofField_member (read : ofField field = .ok spec) (counts : spec.ignored = false)
    (tagged : spec.role ≠ .none) (member : ∀ resourceType, spec.role ≠ .primary resourceType) :
    (Embedded field → spec.name = none) ∧
    (¬ Embedded field → ∃ last name, naming? field = some last ∧ last.2.value = some name ∧
      spec.name = some name ∧ (last.kind ≠ .rename → memberName? field = some name)) := by
  obtain ⟨after, run, named, roles⟩ := ofField_reads read counts
  have flag : after.embedded = true ↔ Embedded field := by
    simp [run.embedded, Embedded, Kind.flattens_iff]
  have afterRole : after.spec.role ≠ .none ∧
      ∀ resourceType, after.spec.role ≠ .primary resourceType := by
    obtain same | ⟨before, now, role, -⟩ := roles
    · rw [← same]
      exact ⟨tagged, member⟩
    · simp [role]
  constructor
  · intro embedded
    rw [named, if_pos (flag.mpr embedded)]
  · intro single
    obtain ⟨last, name, found, value, afterName, own⟩ := run.naming rfl afterRole.1 afterRole.2
    refine ⟨last, name, found, value, ?_, ?_⟩
    · rw [named, if_neg (fun embedded => single (flag.mp embedded)), afterName]
    · intro other
      rw [memberName?, own other, Option.bind_some, value]

end Fields

end ApiScribe.FieldSpec
