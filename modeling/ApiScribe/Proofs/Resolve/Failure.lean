import ApiScribe.Proofs.Resolve.Accounting

set_option autoImplicit false

namespace ApiScribe.Resolve

-- The shapes on the way down, in the order in which they can fail: a mapping comes after all of its
-- key and before its values.
def passed : Shape → List Shape
  | .optional inner => .optional inner :: passed inner
  | .qualified path inner => .qualified path inner :: passed inner
  | .sequence element => .sequence element :: passed element
  | .mapping key value => passed key ++ .mapping key value :: passed value
  | shape => [shape]

def keyFault? (key : Shape) : Except ResolveError SchemaNode → Option ResolveError
  | .ok node => if isKey node then none else some (.unsupportedMapKey (shownKey key node))
  | .error _ => none

def fault? (table : ExternalTypes) : Shape → Option ResolveError
  | .unsupported what => some (.unsupported what)
  | .mapping key _ => keyFault? key (resolve table none key none).1
  | _ => none

inductive Faulty (table : ExternalTypes) : Shape → Prop
  | unsupported (what : String) : Faulty table (.unsupported what)
  | mapping {key : Shape} (value : Shape) {node : SchemaNode}
      (resolved : (resolve table none key none).1 = .ok node)
      (text : node.type ≠ some "string") (integer : node.type ≠ some "integer") :
      Faulty table (.mapping key value)

def hollow : Shape → Shape
  | .optional inner => .optional (hollow inner)
  | .qualified path inner => .qualified path (hollow inner)
  | .sequence element => .sequence (hollow element)
  | .mapping key value => .mapping (hollow key) (hollow value)
  | .record _ => .record []
  | shape => shape

def failure? {α : Type} : Except ResolveError α → Option ResolveError
  | .error e => some e
  | .ok _ => none

section Failure

theorem failure?_map {α β : Type} (result : Except ResolveError α) (f : α → β) :
    failure? (result.map f) = failure? result := by
  cases result <;> rfl

theorem failure?_eq_some_iff {α : Type} (result : Except ResolveError α) (error : ResolveError) :
    failure? result = some error ↔ result = .error error := by
  cases result <;> simp [failure?]

theorem passed_byte (table : ExternalTypes) (shape : Shape) (byte : isByte shape = true) :
    (passed shape).findSome? (fault? table) = none := by
  match shape with
  | .optional inner => exact passed_byte table inner byte
  | .qualified _ inner => exact passed_byte table inner byte
  | .named _ => rfl
  | .sequence _ | .mapping _ _ | .record _ | .enumeration _ | .dynamic | .unsupported _ => cases byte

theorem mappingOf_failure (key value : Shape)
    (keyed valued : Outcome (Except ResolveError SchemaNode))
    (any : value = .dynamic → failure? valued.1 = none) :
    failure? (mappingOf key value keyed valued).1 =
      (failure? keyed.1).or ((keyFault? key keyed.1).or (failure? valued.1)) := by
  unfold mappingOf
  cases keyed.1 with
  | error e => rfl
  | ok node =>
    dsimp only [keyFault?]
    split_ifs
    · split
      · rw [any rfl]
        rfl
      · exact failure?_map _ _
    · rfl

theorem resolve_failure (table : ExternalTypes) (scope : Option String) (shape : Shape)
    (qualifier : Option String) :
    failure? (resolve table scope shape qualifier).1 =
      (passed shape).findSome? (fault? table) := by
  match shape with
  | .optional inner =>
    exact (failure?_map _ _).trans (resolve_failure table scope inner qualifier)
  | .qualified path inner => exact resolve_failure table scope inner (some path)
  | .sequence element =>
    rw [resolve]
    split
    next byte => exact (passed_byte table element byte).symm
    next => exact (failure?_map _ _).trans (resolve_failure table scope element qualifier)
  | .mapping key value =>
    have keyed := resolve_failure table scope key none
    have valued := resolve_failure table scope value none
    rw [resolve, mappingOf_failure _ _ _ _ (by rintro rfl; rfl), keyed, valued,
      resolve_scope table scope none key none, passed, List.findSome?_append, List.findSome?_cons,
      fault?]
    cases keyFault? key (resolve table none key none).1 <;> rfl
  | .named _ | .record _ | .enumeration _ | .dynamic | .unsupported _ => rfl

theorem isKey_iff (node : SchemaNode) :
    isKey node = true ↔ node.type = some "string" ∨ node.type = some "integer" := by
  simp [isKey, SchemaNode.isType]

theorem fault?_isSome_iff (table : ExternalTypes) (shape : Shape) :
    (∃ error, fault? table shape = some error) ↔ Faulty table shape := by
  constructor
  · rintro ⟨error, found⟩
    unfold fault? at found
    split at found
    next what => exact .unsupported what
    next key value =>
      unfold keyFault? at found
      split at found
      next node resolved =>
        split_ifs at found with allowed
        rw [isKey_iff, not_or] at allowed
        exact .mapping value resolved allowed.1 allowed.2
      next => cases found
    next => cases found
  · rintro (what | ⟨value, resolved, text, integer⟩)
    · exact ⟨_, rfl⟩
    · rw [fault?, resolved, keyFault?, if_neg (by simp [isKey_iff, text, integer])]
      exact ⟨_, rfl⟩

theorem fails_iff (table : ExternalTypes) (scope : Option String) (shape : Shape)
    (qualifier : Option String) :
    (∃ error, (resolve table scope shape qualifier).1 = .error error) ↔
      ∃ inner ∈ passed shape, Faulty table inner := by
  simp only [← failure?_eq_some_iff, resolve_failure]
  rw [← Option.isSome_iff_exists, List.findSome?_isSome_iff]
  simp only [Option.isSome_iff_exists, fault?_isSome_iff]

end Failure

section Hollow

-- What the shapes around a shape see of its schema, besides passing it on.
def verdict? : Except ResolveError SchemaNode → Option (Bool × Bool)
  | .ok node => some (isKey node, isBinary node)
  | .error _ => none

theorem verdict?_eq_none_iff (result : Except ResolveError SchemaNode) :
    verdict? result = none ↔ ∃ error, result = .error error := by
  cases result <;> simp [verdict?]

theorem verdict?_optional (result : Except ResolveError SchemaNode) :
    verdict? (result.map fun node => { node with nullable := some true }) = verdict? result := by
  cases result <;> rfl

theorem verdict?_sequence (result : Except ResolveError SchemaNode) :
    verdict? (result.map sequenceOf) = (verdict? result).map fun seen => (seen.2, seen.2) := by
  cases result with
  | error e => rfl
  | ok node =>
    rw [show verdict? (.ok node) = some (isKey node, isBinary node) from rfl, Option.map_some]
    cases bytes : isBinary node with
    | true => simp only [Except.map, sequenceOf, bytes, if_true]; rfl
    | false => simp only [Except.map, sequenceOf, bytes, Bool.false_eq_true, if_false]; rfl

theorem verdict?_mapping (key value : Shape)
    (keyed valued : Outcome (Except ResolveError SchemaNode))
    (any : value = .dynamic → ∃ node, valued.1 = .ok node) :
    verdict? (mappingOf key value keyed valued).1 = (verdict? keyed.1).bind fun seen =>
      if seen.1 then (verdict? valued.1).map fun _ => (false, false) else none := by
  unfold mappingOf
  cases keyed.1 with
  | error e => rfl
  | ok node =>
    rw [show verdict? (.ok node) = some (isKey node, isBinary node) from rfl, Option.bind_some]
    dsimp only
    split_ifs
    · split
      · obtain ⟨values, same⟩ := any rfl
        rw [same]
        rfl
      · cases valued.1 <;> rfl
    · rfl

theorem isByte_hollow (shape : Shape) : isByte (hollow shape) = isByte shape := by
  match shape with
  | .optional inner => exact isByte_hollow inner
  | .qualified _ inner => exact isByte_hollow inner
  | .named _ | .sequence _ | .mapping _ _ | .record _ | .enumeration _ | .dynamic
  | .unsupported _ => rfl

theorem assemble_verdict (kept : List Kept) :
    verdict? (.ok (assemble kept).toNode) = some (false, false) := by
  rw [assemble]
  split
  · rw [objectOf_eq]
    rfl
  · rfl

theorem resolve_hollow (table : ExternalTypes) (scope : Option String) (shape : Shape)
    (qualifier : Option String) :
    verdict? (resolve table scope (hollow shape) qualifier).1 =
      verdict? (resolve table scope shape qualifier).1 := by
  match shape with
  | .optional inner =>
    have inside := resolve_hollow table scope inner qualifier
    exact (verdict?_optional _).trans (inside.trans (verdict?_optional _).symm)
  | .qualified path inner => exact resolve_hollow table scope inner (some path)
  | .sequence element =>
    rw [hollow, resolve, resolve, isByte_hollow]
    split
    next => rfl
    next =>
      dsimp only
      rw [verdict?_sequence, verdict?_sequence, resolve_hollow table scope element qualifier]
  | .mapping key value =>
    rw [hollow, resolve, resolve, verdict?_mapping, verdict?_mapping,
      resolve_hollow table scope key none, resolve_hollow table scope value none]
    · rintro rfl
      exact ⟨_, rfl⟩
    · intro same
      rw [same]
      exact ⟨_, rfl⟩
  | .record fields => exact (assemble_verdict _).trans (assemble_verdict _).symm
  | .named _ | .enumeration _ | .dynamic | .unsupported _ => rfl

end Hollow

/-- Resolution fails exactly if a faulty shape stands on the way down, with the error of the first
one; a mapping is judged after all that is inside its key and before its values. What fields the
records in a shape have, and whether they resolve, makes no difference to whether it fails. -/
theorem resolve_fails_first (table : ExternalTypes) (scope : Option String) (shape : Shape)
    (qualifier : Option String) :
    ((∃ error, (resolve table scope shape qualifier).1 = .error error) ↔
      ∃ inner ∈ passed shape, Faulty table inner) ∧
    (∀ error, (resolve table scope shape qualifier).1 = .error error ↔
      (passed shape).findSome? (fault? table) = some error) ∧
    ((∃ error, (resolve table scope shape qualifier).1 = .error error) ↔
      ∃ error, (resolve table scope (hollow shape) qualifier).1 = .error error) := by
  refine ⟨fails_iff table scope shape qualifier, ?_, ?_⟩
  · intro error
    rw [← failure?_eq_some_iff, resolve_failure]
  · rw [← verdict?_eq_none_iff, ← verdict?_eq_none_iff, resolve_hollow]

example : failure? (resolve [] none (.optional (.mapping
      (.sequence (.mapping (.named "f64") (.unsupported "fn()"))) (.unsupported "dyn Any"))) none).1 =
    some (.unsupportedMapKey "number") := by
  decide +kernel

end ApiScribe.Resolve
