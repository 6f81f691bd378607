import ApiScribe.Diagnostic
import ApiScribe.Schema

set_option autoImplicit false

namespace ApiScribe

structure Info where
  version : String := ""
  title : String := ""
  description : String := ""
  logo : List (String × String) := []
  contact : List (String × String) := []
  license : List (String × String) := []
  deriving DecidableEq, Repr

structure ServerVariable where
  default : String := ""
  enumValues : List String := []
  description : String := ""
  deriving DecidableEq, Repr

structure Server where
  url : String
  description : String := ""
  placeholders : List (String × ServerVariable) := []
  deriving DecidableEq, Repr

structure OperationTag where
  name : String
  description : String := ""
  deriving DecidableEq, Repr

structure OAuthFlow where
  authorizationUrl : String := ""
  tokenUrl : String := ""
  scopes : List (String × String) := []
  deriving DecidableEq, Repr

structure SecurityScheme where
  type : String
  flows : List (String × OAuthFlow) := []
  scheme : String := ""
  bearerFormat : String := ""
  name : String := ""
  location : String := ""
  deriving DecidableEq, Repr

abbrev SecurityRequirement := Dict (List String)

structure Header where
  description : String := ""
  schema : Option SchemaNode := none
  deriving BEq

structure MediaType where
  schema : Option SchemaNode := none
  example? : Option Value := none
  deriving BEq

structure Response where
  description : String := ""
  content : List (String × MediaType) := []
  headers : List (String × Header) := []
  deriving BEq

structure RequestBody where
  description : String := ""
  required : Bool := false
  content : List (String × MediaType) := []
  deriving BEq

structure Parameter where
  name : String
  location : String
  required : Bool := false
  description : String := ""
  schema : Option SchemaNode := none
  example? : Option Value := none
  deriving BEq

structure ExternalDocs where
  description : String := ""
  url : String := ""
  deriving DecidableEq, Repr

structure Operation where
  summary : String := ""
  description : String := ""
  operationId : String := ""
  responses : List (String × Response) := []
  tags : List String := []
  parameters : List Parameter := []
  requestBody : Option RequestBody := none
  security : List (List (String × List String)) := []
  headers : List (String × Header) := []
  deprecated : Bool := false
  servers : List Server := []
  externalDocs : Option ExternalDocs := none
  deriving BEq

abbrev PathItem := Dict Operation

structure Components where
  schemas : List (String × Schema) := []
  securitySchemes : List (String × SecurityScheme) := []
  deriving BEq

structure Document where
  openapi : String := "3.0.0"
  info : Info := {}
  servers : List Server := []
  paths : List (String × List (String × Operation)) := []
  tags : List OperationTag := []
  components : Components := {}
  security : List (List (String × List String)) := []
  tagGroups : List Value := []
  deriving BEq

namespace Document

abbrev PathEntry := String × String × Operation

def pathEntries (paths : List (String × List (String × Operation))) : List PathEntry :=
  paths.flatMap fun p => p.2.map fun o => (p.1, o.1, o.2)

def operation? (doc : Document) (url verb : String) : Option Operation :=
  (Dict.get? doc.paths url).bind fun item => Dict.get? item verb

def addOperation (doc : Document) (url verb : String) (operation : Operation) : Document :=
  let item := (Dict.get? doc.paths url).getD []
  { doc with paths := Dict.insert url (Dict.insert verb operation item) doc.paths }

def schema? (doc : Document) (name : String) : Option Schema :=
  Dict.get? doc.components.schemas name

def withSchemas (doc : Document) (schemas : Dict Schema) : Document :=
  { doc with components := { doc.components with schemas } }

def addSchema (doc : Document) (name : String) (schema : Schema) : Document :=
  doc.withSchemas (Dict.insert name schema doc.components.schemas)

abbrev Merged := Document × Option Failure

def mergeOperations (source : String) (main : Document) : List PathEntry → Merged
  | [] => (main, none)
  | (url, verb, operation) :: rest =>
    match main.operation? url verb with
    | none => mergeOperations source (main.addOperation url verb operation) rest
    | some present =>
      if present == operation then mergeOperations source main rest
      else (main, some (.pathConflict url verb source))

def mergeSchemas (source : String) (main : Document) : List (String × Schema) → Merged
  | [] => (main, none)
  | (name, schema) :: rest =>
    match main.schema? name with
    | none => mergeSchemas source (main.addSchema name schema) rest
    | some present =>
      if present == schema then mergeSchemas source main rest
      else (main, some (.schemaConflict name source))

/-- Merges `aux` into `main`, the operations first; `source` names `aux` in conflicts. -/
def merge (main aux : Document) (source : String) : Merged :=
  match mergeOperations source main (pathEntries aux.paths) with
  | (main, none) => mergeSchemas source main aux.components.schemas
  | conflict => conflict

end Document

end ApiScribe
