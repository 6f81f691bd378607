import ApiScribe.Proofs.FieldSpec.Run
import ApiScribe.Proofs.Tree.ReadBack

set_option autoImplicit false

namespace ApiScribe

open ApiScribe.Tree

theorem convertExample_back {raw : String} {shape : Shape} {value : Value}
    (converted : convertExample raw shape = .ok value) :
    value ≠ .null ∧ toValue? (ofValue value) = some value := by
  unfold convertExample at converted
  dsimp only at converted
  split at converted
  next =>
    split_ifs at converted
    · split at converted
      next n _ =>
        cases converted
        exact ⟨by simp, toValue?_int n⟩
      next => cases converted
    · split at converted
      next n _ =>
        cases converted
        exact ⟨by simp, toValue?_int n⟩
      next => cases converted
    · split at converted
      next x _ =>
        cases converted
        exact ⟨by simp, rfl⟩
      next => cases converted
      next => cases converted
    · cases converted
      exact ⟨by simp, rfl⟩
  next =>
    cases converted
    exact ⟨by simp, rfl⟩

namespace FieldSpec

theorem ofField_cases {field : Field} {spec : FieldSpec} (read : ofField field = .ok spec) :
    ∃ progress, readAttributes field.shape ⟨{ name := field.name }, field.name.isNone, false⟩
        field.attributes = .ok progress ∧
      ((∃ skipped, progress = .skipped skipped ∧ spec = skipped) ∨
        ∃ draft, progress = .reading draft ∧ (spec = draft.settle ∨
          ∃ raw value, convertExample raw field.shape = .ok value ∧
            spec = { draft.settle with example? := some value })) := by
  simp only [ofField, bind, Except.bind] at read
  split at read
  next => cases read
  next progress reached =>
    refine ⟨progress, reached, ?_⟩
    split at read
    next skipped =>
      cases read
      exact .inl ⟨_, rfl, rfl⟩
    next draft =>
      refine .inr ⟨draft, rfl, ?_⟩
      split at read
      next =>
        cases read
        exact .inl rfl
      next raw _ =>
        split at read
        next => cases read
        next value converted =>
          cases read
          exact .inr ⟨raw, value, converted, rfl⟩

theorem ofField_run {field : Field} {spec : FieldSpec} (read : ofField field = .ok spec) :
    ∃ front after, front <+: marks field.attributes ∧
      Run field.shape ⟨{ name := field.name }, field.name.isNone, false⟩ front after ∧
      (spec = { after.spec with ignored := true } ∨
        front = marks field.attributes ∧ (spec = after.settle ∨
          ∃ raw value, convertExample raw field.shape = .ok value ∧
            spec = { after.settle with example? := some value })) := by
  obtain ⟨progress, reached, outcome⟩ := ofField_cases read
  have ran : run? field.shape ⟨{ name := field.name }, field.name.isNone, false⟩
      (items field.attributes) = some progress := by
    rw [← readAttributes_run, reached]
    rfl
  obtain ⟨front, after, leads, run, ends⟩ := run?_cases ran
  rw [reduceOption_items] at leads ends
  refine ⟨front, after, leads, run, ?_⟩
  rcases ends with ⟨rfl, all⟩ | rfl
  · rcases outcome with ⟨skipped, other, -⟩ | ⟨draft, same, settled⟩
    · cases other
    · cases same
      exact .inr ⟨all, settled⟩
  · rcases outcome with ⟨skipped, same, rfl⟩ | ⟨draft, other, -⟩
    · cases same
      exact .inl rfl
    · cases other

theorem ofField_role {field : Field} {spec : FieldSpec}
    (untagged : ∀ attr ∈ field.attributes, attr.name ≠ "jsonapi")
    (read : ofField field = .ok spec) : spec.role = .none := by
  obtain ⟨front, after, leads, run, outcome⟩ := ofField_run read
  have without : after.spec.role = .none := by
    refine run.role_kept fun m member => ?_
    obtain ⟨attr, listed, same⟩ := mem_marks (leads.subset member)
    exact Mark.givesRole_of_ne (same ▸ untagged attr listed)
  rcases outcome with rfl | ⟨-, rfl | ⟨raw, value, -, rfl⟩⟩
  · exact without
  · simp [Draft.settle, without]
  · simp [Draft.settle, without]

theorem ofField_example {field : Field} {spec : FieldSpec} {value : Value}
    (read : ofField field = .ok spec) (given : spec.example? = some value) :
    value ≠ .null ∧ toValue? (ofValue value) = some value := by
  obtain ⟨front, after, -, run, outcome⟩ := ofField_run read
  have without : after.spec.example? = none := run.example_kept
  rcases outcome with rfl | ⟨-, rfl | ⟨raw, other, converted, rfl⟩⟩
  · rw [show FieldSpec.example? _ = none from without] at given
    cases given
  · rw [show after.settle.example? = none from without] at given
    cases given
  · cases given
    exact convertExample_back converted

end FieldSpec

end ApiScribe
