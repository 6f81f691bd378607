import ApiScribe.Proofs.Registry.History
import ApiScribe.Proofs.Schema.References
import ApiScribe.Proofs.Schema.Unnamed

set_option autoImplicit false

namespace ApiScribe

namespace SchemaNode

-- The node at the end of a path. Unlike a place, a path goes on below references.
def follow? (node : SchemaNode) : List Step → Option SchemaNode
  | [] => some node
  | step :: rest => (node.child? step).bind (follow? · rest)

theorem follow?_of_at? {node other : SchemaNode} {place : List Step}
    (here : node.at? place = some other) : node.follow? place = some other := by
  induction place generalizing node with
  | nil => exact here
  | cons step rest ih =>
    rw [at?] at here
    split at here
    next => cases here
    next =>
      obtain ⟨child, found, deeper⟩ := Option.bind_eq_some_iff.mp here
      rw [follow?, found, Option.bind_some]
      exact ih deeper

theorem follow?_mapReferences (f : String → String) (node : SchemaNode) (path : List Step) :
    (node.mapReferences f).follow? path =
      if (node.at? path).isSome then (node.follow? path).map (mapReferences f)
      else node.follow? path := by
  induction path generalizing node with
  | nil => simp [follow?, at?]
  | cons step rest ih =>
    cases leaf : node.reference with
    | some reference =>
      have same : (node.mapReferences f).child? step = node.child? step := by
        rw [mapReferences_of_reference f leaf]
        cases step <;> rfl
      simp [follow?, at?, isReference, leaf, same]
    | none =>
      simp only [follow?, at?, isReference, leaf, child?_mapReferences f leaf]
      cases node.child? step <;> simp [ih]

end SchemaNode

namespace Registry

def LeadsToRenamed (r : Registry) (reference : String) : Prop :=
  ∃ name custom, reference = refPath name ∧ r.renamed? name = some custom

-- The reference leads elsewhere, but ends in the name of a component with a custom name.
def Diverts (r : Registry) (reference custom : String) : Prop :=
  ∃ name, EndsIn reference name ∧ reference ≠ refPath name ∧ r.renamed? name = some custom

section Rename

variable {r : Registry} {reference custom : String}

theorem Diverts.rename (diverts : r.Diverts reference custom) :
    r.rename reference = refPath custom := by
  obtain ⟨name, ends, -, renamed⟩ := diverts
  simp [Registry.rename, (refName?_eq_some_iff reference name).mpr ends, renamed]

theorem rename_eq_self_iff (elsewhere : ¬ r.LeadsToRenamed reference) :
    r.rename reference = reference ↔ ¬ ∃ custom, r.Diverts reference custom := by
  constructor
  · rintro same ⟨custom, diverts⟩
    have turned : refPath custom = reference := diverts.rename.symm.trans same
    obtain ⟨name, ends, other, -⟩ := diverts
    -- The reference to the new name ends in nothing else, so nothing would have been turned.
    have last : refName? (refPath custom) = some name := by
      rw [turned]
      exact (refName?_eq_some_iff reference name).mpr ends
    obtain rfl := refName?_refPath last
    exact other turned.symm
  · intro spared
    cases target : (refName? reference).bind r.renamed? with
    | none => simp [Registry.rename, target]
    | some custom =>
      obtain ⟨name, named, renamed⟩ := Option.bind_eq_some_iff.mp target
      have other : reference ≠ refPath name := fun same => elsewhere ⟨name, custom, same, renamed⟩
      have ends := (refName?_eq_some_iff reference name).mp named
      exact absurd ⟨custom, name, ends, other, renamed⟩ spared

end Rename

theorem not_diverts_refPath (r : Registry) (target custom : String) :
    ¬ r.Diverts (refPath target) custom := by
  rintro ⟨name, ends, other, -⟩
  obtain rfl := refName?_refPath ((refName?_eq_some_iff _ _).mpr ends)
  exact other rfl

theorem get?_finalize {calls : List (String × Schema)} {published : Dict Schema}
    (succeeded : (empty.registerAll calls).finalize = .ok published) {name : String}
    {schema : Schema} (registered : (empty.registerAll calls).get? name = some schema) :
    Dict.get? published ((empty.registerAll calls).displayName name) =
      some (schema.mapReferences (empty.registerAll calls).rename) := by
  rw [get?_registerAll] at registered
  obtain ⟨first, found, rfl⟩ := Option.map_eq_some_iff.mp registered
  rw [displayName_registerAll, rename_registerAll]
  exact get?_published succeeded found

/-- What becomes of a node in a registered schema, however deep, if its reference does not lead to a
renamed component. The reference is published unchanged if and only if it does not end in the name
of a renamed component behind three other segments, or stands below another reference. Else it is
published as a reference to that component. A reference to a component without a custom name is
always unchanged. -/
theorem references_published {calls : List (String × Schema)} {published : Dict Schema}
    (succeeded : (empty.registerAll calls).finalize = .ok published) {name : String}
    {schema : Schema} (registered : (empty.registerAll calls).get? name = some schema) :
    let r := empty.registerAll calls
    ∃ value, Dict.get? published (r.displayName name) = some value ∧
      ∀ path node, schema.toNode.follow? path = some node →
        (∀ reference, node.reference = some reference → ¬ r.LeadsToRenamed reference) →
        ∃ other, value.toNode.follow? path = some other ∧
          (other.reference = node.reference ↔
            ¬ ∃ reference custom, schema.toNode.at? path = some node ∧
              node.reference = some reference ∧ r.Diverts reference custom) ∧
          (∀ reference custom, schema.toNode.at? path = some node →
            node.reference = some reference → r.Diverts reference custom →
            other.reference = some (refPath custom)) ∧
          ∀ target, node.reference = some (refPath target) → other.reference = node.reference := by
  intro r
  refine ⟨_, get?_finalize succeeded registered, ?_⟩
  intro path node found elsewhere
  rw [Schema.toNode_mapReferences, SchemaNode.follow?_mapReferences, found]
  cases place : schema.toNode.at? path with
  | none => exact ⟨node, by simp⟩
  | some here =>
    obtain rfl : here = node := Option.some.inj ((SchemaNode.follow?_of_at? place).symm.trans found)
    refine ⟨here.mapReferences r.rename, rfl, ?_⟩
    rw [SchemaNode.reference_mapReferences]
    cases leaf : here.reference with
    | none => simp
    | some reference =>
      have unchanged := rename_eq_self_iff (elsewhere reference leaf)
      refine ⟨by simpa using unchanged, ?_, ?_⟩
      · intro _ custom _ same diverts
        obtain rfl := Option.some.inj same
        exact congrArg some diverts.rename
      · intro target same
        obtain rfl := Option.some.inj same
        have spared : ¬ ∃ custom, r.Diverts (refPath target) custom := by
          rintro ⟨custom, diverts⟩
          exact r.not_diverts_refPath target custom diverts
        exact congrArg some (unchanged.mpr spared)

def ownerNode : SchemaNode :=
  (SchemaNode.object.withProperty "pet" (.ref "Pet")).withProperty "terms"
    { reference := some "terms.yaml#/Pet" }

def ownerCalls : List (String × Schema) :=
  [("Pet", (Schema.plain .object).withCustomName "Animal"), ("Owner", .plain ownerNode),
    ("Answer", .plain { reference := some "#/components/responses/Pet" })]

theorem references_published_owner :
    ∃ published value other, (empty.registerAll ownerCalls).finalize = .ok published ∧
      (empty.registerAll ownerCalls).get? "Owner" =
        some ((Schema.plain ownerNode).withDeclaredName "Owner") ∧
      Dict.get? published "Owner" = some value ∧
      value.toNode.follow? [.property 1] = some other ∧
      other.reference = some "terms.yaml#/Pet" := by
  obtain ⟨published, succeeded⟩ :
      ∃ published, (empty.registerAll ownerCalls).finalize = .ok published := ⟨_, rfl⟩
  have registered : (empty.registerAll ownerCalls).get? "Owner" =
      some ((Schema.plain ownerNode).withDeclaredName "Owner") := rfl
  obtain ⟨value, found, nodes⟩ := references_published succeeded registered
  have elsewhere : ∀ reference, some "terms.yaml#/Pet" = some reference →
      ¬ (empty.registerAll ownerCalls).LeadsToRenamed reference := by
    rintro reference same ⟨name, custom, rfl, -⟩
    simpa [refPath, refStart] using congrArg (Option.map String.toList) same
  obtain ⟨other, there, kept, -⟩ :=
    nodes [.property 1] { reference := some "terms.yaml#/Pet" } rfl elsewhere
  refine ⟨published, value, other, succeeded, registered, found, there, kept.mpr ?_⟩
  -- Two segments are too few for any name to stand in the last of four.
  rintro ⟨reference, custom, -, same, name, ends, -⟩
  obtain rfl := Option.some.inj same
  cases (refName?_eq_some_iff _ _).mpr ends

theorem response_diverted :
    ∃ published value, (empty.registerAll ownerCalls).finalize = .ok published ∧
      ¬ (empty.registerAll ownerCalls).LeadsToRenamed "#/components/responses/Pet" ∧
      (∃ schema, (empty.registerAll ownerCalls).get? "Answer" = some schema ∧
        schema.toNode.reference = some "#/components/responses/Pet") ∧
      Dict.get? published "Answer" = some value ∧
      value.toNode.reference = some "#/components/schemas/Animal" := by
  refine ⟨_, _, rfl, ?_, ⟨_, rfl, rfl⟩, rfl, rfl⟩
  rintro ⟨name, custom, same, -⟩
  simpa [refPath, refStart] using congrArg String.toList same

end Registry

end ApiScribe
