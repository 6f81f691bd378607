import ApiScribe.Document
import ApiScribe.Schema.Encode

set_option autoImplicit false

namespace ApiScribe

def textMember (name text : String) : List (String × Value) :=
  if text.isEmpty then [] else [(name, .text text)]

def listMember {α : Type} (name : String) (write : α → Value) (items : List α) :
    List (String × Value) :=
  if items.isEmpty then [] else [(name, .list (items.map write))]

def dictValue {α : Type} (write : α → Value) (d : List (String × α)) : Value :=
  .object (Dict.mapValues write d)

def dictMember {α : Type} (name : String) (write : α → Value) (d : List (String × α)) :
    List (String × Value) :=
  if d.isEmpty then [] else [(name, dictValue write d)]

def Info.encode (x : Info) : Value :=
  .object <|
    [("version", .text x.version), ("title", .text x.title)] ++
      textMember "description" x.description ++ dictMember "x-logo" .text x.logo ++
      dictMember "contact" .text x.contact ++ dictMember "license" .text x.license

def ServerVariable.encode (x : ServerVariable) : Value :=
  .object <|
    [("default", .text x.default)] ++ listMember "enum" .text x.enumValues ++
      textMember "description" x.description

def Server.encode (x : Server) : Value :=
  .object <|
    [("url", .text x.url)] ++ textMember "description" x.description ++
      dictMember "variables" ServerVariable.encode x.placeholders

def OperationTag.encode (x : OperationTag) : Value :=
  .object <| [("name", .text x.name)] ++ textMember "description" x.description

def OAuthFlow.encode (x : OAuthFlow) : Value :=
  .object <|
    textMember "authorizationUrl" x.authorizationUrl ++ textMember "tokenUrl" x.tokenUrl ++
      [("scopes", dictValue .text x.scopes)]

def SecurityScheme.encode (x : SecurityScheme) : Value :=
  .object <|
    [("type", .text x.type)] ++ dictMember "flows" OAuthFlow.encode x.flows ++
      textMember "scheme" x.scheme ++ textMember "bearerFormat" x.bearerFormat ++
      textMember "name" x.name ++ textMember "in" x.location

def securityValue (requirement : List (String × List String)) : Value :=
  dictValue Value.texts requirement

def Header.encode (x : Header) : Value :=
  .object <| textMember "description" x.description ++ memberOf "schema" SchemaNode.encode x.schema

def MediaType.encode (x : MediaType) : Value :=
  .object <| memberOf "schema" SchemaNode.encode x.schema ++ memberOf "example" id x.example?

def Response.encode (x : Response) : Value :=
  .object <|
    [("description", .text x.description)] ++ dictMember "content" MediaType.encode x.content ++
      dictMember "headers" Header.encode x.headers

def RequestBody.encode (x : RequestBody) : Value :=
  .object <|
    textMember "description" x.description ++
      [("required", .bool x.required), ("content", dictValue MediaType.encode x.content)]

def Parameter.encode (x : Parameter) : Value :=
  .object <|
    [("name", .text x.name), ("in", .text x.location), ("required", .bool x.required)] ++
      textMember "description" x.description ++ memberOf "schema" SchemaNode.encode x.schema ++
      memberOf "example" id x.example?

def ExternalDocs.encode (x : ExternalDocs) : Value :=
  .object <| textMember "description" x.description ++ [("url", .text x.url)]

def Operation.encode (x : Operation) : Value :=
  .object <|
    textMember "summary" x.summary ++ textMember "description" x.description ++
      textMember "operationId" x.operationId ++
      [("responses", dictValue Response.encode x.responses)] ++ listMember "tags" .text x.tags ++
      listMember "parameters" Parameter.encode x.parameters ++
      memberOf "requestBody" RequestBody.encode x.requestBody ++
      listMember "security" securityValue x.security ++
      dictMember "headers" Header.encode x.headers ++
      (if x.deprecated then [("deprecated", .bool true)] else []) ++
      listMember "servers" Server.encode x.servers ++
      memberOf "externalDocs" ExternalDocs.encode x.externalDocs

def Components.encode (x : Components) : Value :=
  .object <|
    [("schemas", dictValue Schema.encode x.schemas)] ++
      dictMember "securitySchemes" SecurityScheme.encode x.securitySchemes

def Document.encode (x : Document) : Value :=
  .object <|
    [("openapi", .text x.openapi), ("info", x.info.encode)] ++
      listMember "servers" Server.encode x.servers ++
      [("paths", dictValue (dictValue Operation.encode) x.paths)] ++
      listMember "tags" OperationTag.encode x.tags ++ [("components", x.components.encode)] ++
      listMember "security" securityValue x.security ++ listMember "x-tagGroups" id x.tagGroups

end ApiScribe
