import ApiScribe.Diagnostic
import ApiScribe.Schema

set_option autoImplicit false

namespace ApiScribe

structure Registry where
  entries : Dict Schema
  /-- Names under which different schemas were registered, in the order of their second one. -/
  conflicts : List String

namespace Registry

def empty : Registry := ⟨[(Schema.anyValueName, Schema.anyValue)], []⟩

def agrees (a b : Schema) : Bool :=
  a.same b && a.customName == b.customName

def register (r : Registry) (name : String) (schema : Schema) : Registry :=
  let schema := schema.withDeclaredName name
  match Dict.get? r.entries name with
  | none => { r with entries := Dict.insert name schema r.entries }
  | some present =>
    if agrees present schema || r.conflicts.contains name then r
    else { r with conflicts := r.conflicts ++ [name] }

def registerAll (r : Registry) (schemas : List (String × Schema)) : Registry :=
  schemas.foldl (fun r s => r.register s.1 s.2) r

def get? (r : Registry) (name : String) : Option Schema := Dict.get? r.entries name

def contains (r : Registry) (name : String) : Bool := Dict.contains r.entries name

def size (r : Registry) : Nat := r.entries.length

def displayName (r : Registry) (name : String) : String :=
  ((r.get? name).bind Schema.customName).getD name

def renamed? (r : Registry) (name : String) : Option String :=
  (r.get? name).bind Schema.customName

/-- A reference after the renaming: it changes only if it refers to a renamed schema. -/
def rename (r : Registry) (reference : String) : String :=
  match (refName? reference).bind r.renamed? with
  | some custom => refPath custom
  | none => reference

def published (r : Registry) (name : String) (schema : Schema) : Schema :=
  if name = Schema.anyValueName then schema else schema.mapReferences r.rename

def publishAll (r : Registry) (done : Dict Schema) :
    List (String × Schema) → Except Failure (Dict Schema)
  | [] => .ok done
  | (name, schema) :: rest =>
    let display := schema.customName.getD name
    if Dict.contains done display then .error (.duplicateSchema display)
    else publishAll r (Dict.insert display (r.published name schema) done) rest

def finalize (r : Registry) : Except Failure (Dict Schema) :=
  match r.conflicts with
  | name :: _ => .error (.duplicateSchema name)
  | [] => publishAll r [] r.entries

end Registry

end ApiScribe
