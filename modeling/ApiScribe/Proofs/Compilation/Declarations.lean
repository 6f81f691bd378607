import ApiScribe.Compilation
import ApiScribe.Proofs.Resource.Graph

set_option autoImplicit false

namespace ApiScribe

namespace Declaration

inductive Produced (declaration : Declaration) : Except Failure Product → Prop
  | nothing : Produced declaration (.ok .nothing)
  | schema (schema : Schema) : Produced declaration (.ok (.schema schema))
  | resource (resource : Resource) (unnamed : resource.Unnamed) :
      Produced declaration (.ok (.resource resource))
  | failed (fault : ResourceFault) : Produced declaration (.error (.resource declaration.name fault))

theorem product_produced (declaration : Declaration) (table : ExternalTypes)
    (customName : Option String) :
    declaration.Produced (declaration.product table customName).1 := by
  rw [product]
  split
  next fields shape =>
    have result := Resource.analyze_analyzed table declaration.name customName
      (Resolve.annotated fields)
    rcases analyzed : Resource.analyze table declaration.name customName (Resolve.annotated fields)
      with ⟨outcome, found⟩
    rw [analyzed] at result
    cases result with
    | passed => exact .schema _
    | failed fault => exact .failed fault
    | found resource unnamed => exact .resource resource unnamed
  next shape notRecord =>
    rcases Resolve.resolve table (some declaration.name) declaration.shape none with
      ⟨result, found⟩
    cases result with
    | ok node => exact .schema _
    | error error => exact .nothing

end Declaration

def Declaration.given (declaration : Declaration) (table : ExternalTypes) : Product :=
  match SchemaMarker.find? declaration.doc with
  | none => .nothing
  | some marker =>
    match (declaration.product table marker.customName).1 with
    | .error _ => .nothing
    | .ok (.schema schema) =>
      let schema := (declaration.withExample schema).1
      .schema (match marker.customName with
        | some custom => schema.withCustomName custom
        | none => schema)
    | .ok product => product

def Gathered.take (gathered : Gathered) (name : String) : Product → Gathered
  | .resource resource => { gathered with resources := gathered.resources.insert resource }
  | .schema schema => { gathered with registry := gathered.registry.register name schema }
  | .nothing => gathered

theorem Gathered.declare_gathered (gathered : Gathered) (table : ExternalTypes)
    (declaration : Declaration) :
    (gathered.declare table declaration).gathered =
      gathered.take declaration.name (declaration.given table) := by
  rw [declare, Declaration.given]
  cases SchemaMarker.find? declaration.doc with
  | none => rfl
  | some marker =>
    dsimp only
    rcases declaration.product table marker.customName with ⟨product, found⟩
    match product with
    | .error failure => rfl
    | .ok .nothing => rfl
    | .ok (.resource resource) => rfl
    | .ok (.schema schema) => rfl

namespace Declaration

variable (table : ExternalTypes)

def schema? (declaration : Declaration) : Option (String × Schema) :=
  match declaration.given table with
  | .schema schema => some (declaration.name, schema)
  | _ => none

def resource? (declaration : Declaration) : Option Resource :=
  match declaration.given table with
  | .resource resource => some resource
  | _ => none

theorem resource?_unnamed {table : ExternalTypes} {declaration : Declaration} {resource : Resource}
    (found : declaration.resource? table = some resource) : resource.Unnamed := by
  have gives : declaration.given table = .resource resource := by
    rw [resource?] at found
    split at found
    next other given => rw [given, Option.some.inj found]
    next => cases found
  rw [given] at gives
  split at gives
  next => cases gives
  next marker marked =>
    split at gives
    next => cases gives
    next => cases gives
    next product notSchema produced =>
      have result := product_produced declaration table marker.customName
      rw [produced, gives] at result
      cases result with
      | resource resource unnamed => exact unnamed

end Declaration

theorem Gathered.declare_failure {gathered : Gathered} {table : ExternalTypes}
    {declaration : Declaration} {failure : Failure}
    (failed : (gathered.declare table declaration).failure = some failure) :
    ∃ fault, failure = .resource declaration.name fault := by
  rw [declare] at failed
  split at failed
  next => cases failed
  next marker marked =>
    have result := declaration.product_produced table marker.customName
    rcases given : declaration.product table marker.customName with ⟨product, found⟩
    simp only [given] at failed result
    cases result with
    | nothing => cases failed
    | schema schema => cases failed
    | resource resource unnamed => cases failed
    | failed fault => exact ⟨fault, (Option.some.inj failed).symm⟩

end ApiScribe
