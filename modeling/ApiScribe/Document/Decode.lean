import ApiScribe.Document
import ApiScribe.Schema.Decode

set_option autoImplicit false

namespace ApiScribe

open ApiScribe.Tree

def texts? : Tree → Option (List String) := listOf? asText?

def textDict? : Tree → Option (Dict String) := dictOf? asText?

def Info.outline : Outline :=
  .record [("version", .leaf), ("title", .leaf), ("description", .leaf), ("x-logo", .dict .leaf),
    ("contact", .dict .leaf), ("license", .dict .leaf)]

def Info.decode? (t : Tree) : Option Info := do
  let fs ← t.fields? outline
  return {
    version := ← fs.getD? "version" "" asText?
    title := ← fs.getD? "title" "" asText?
    description := ← fs.getD? "description" "" asText?
    logo := ← fs.getD? "x-logo" [] textDict?
    contact := ← fs.getD? "contact" [] textDict?
    license := ← fs.getD? "license" [] textDict? }

def ServerVariable.outline : Outline :=
  .record [("default", .leaf), ("enum", .list .leaf), ("description", .leaf)]

def ServerVariable.decode? (t : Tree) : Option ServerVariable := do
  let fs ← t.fields? outline
  return {
    default := ← fs.getD? "default" "" asText?
    enumValues := ← fs.getD? "enum" [] texts?
    description := ← fs.getD? "description" "" asText? }

def Server.outline : Outline :=
  .record [("url", .leaf), ("description", .leaf), ("variables", .dict ServerVariable.outline)]

def Server.decode? (t : Tree) : Option Server := do
  let fs ← t.fields? outline
  return {
    url := ← fs.need? "url" asText?
    description := ← fs.getD? "description" "" asText?
    placeholders := ← fs.getD? "variables" [] (dictOf? ServerVariable.decode?) }

def OperationTag.outline : Outline :=
  .record [("name", .leaf), ("description", .leaf)]

def OperationTag.decode? (t : Tree) : Option OperationTag := do
  let fs ← t.fields? outline
  return {
    name := ← fs.need? "name" asText?
    description := ← fs.getD? "description" "" asText? }

def OAuthFlow.outline : Outline :=
  .record [("authorizationUrl", .leaf), ("tokenUrl", .leaf), ("scopes", .dict .leaf)]

def OAuthFlow.decode? (t : Tree) : Option OAuthFlow := do
  let fs ← t.fields? outline
  return {
    authorizationUrl := ← fs.getD? "authorizationUrl" "" asText?
    tokenUrl := ← fs.getD? "tokenUrl" "" asText?
    scopes := ← fs.getD? "scopes" [] textDict? }

def SecurityScheme.outline : Outline :=
  .record [("type", .leaf), ("flows", .dict OAuthFlow.outline), ("scheme", .leaf),
    ("bearerFormat", .leaf), ("name", .leaf), ("in", .leaf)]

def SecurityScheme.decode? (t : Tree) : Option SecurityScheme := do
  let fs ← t.fields? outline
  return {
    type := ← fs.need? "type" asText?
    flows := ← fs.getD? "flows" [] (dictOf? OAuthFlow.decode?)
    scheme := ← fs.getD? "scheme" "" asText?
    bearerFormat := ← fs.getD? "bearerFormat" "" asText?
    name := ← fs.getD? "name" "" asText?
    location := ← fs.getD? "in" "" asText? }

def securityOutline : Outline := .list (.dict (.list .leaf))

def securityRequirements? : Tree → Option (List SecurityRequirement) :=
  listOf? (dictOf? texts?)

def node? : Tree → Option SchemaNode := SchemaNode.decode? false

def Header.outline : Outline :=
  .record [("description", .leaf), ("schema", .schema)]

def Header.decode? (t : Tree) : Option Header := do
  let fs ← t.fields? outline
  return {
    description := ← fs.getD? "description" "" asText?
    schema := ← fs.option? "schema" node? }

def MediaType.outline : Outline :=
  .record [("schema", .schema), ("example", .whole)]

def MediaType.decode? (t : Tree) : Option MediaType := do
  let fs ← t.fields? outline
  return {
    schema := ← fs.option? "schema" node?
    example? := ← fs.option? "example" toValue? }

def Response.outline : Outline :=
  .record [("description", .leaf), ("content", .dict MediaType.outline),
    ("headers", .dict Header.outline)]

def Response.decode? (t : Tree) : Option Response := do
  let fs ← t.fields? outline
  return {
    description := ← fs.getD? "description" "" asText?
    content := ← fs.getD? "content" [] (dictOf? MediaType.decode?)
    headers := ← fs.getD? "headers" [] (dictOf? Header.decode?) }

def RequestBody.outline : Outline :=
  .record [("description", .leaf), ("required", .leaf), ("content", .dict MediaType.outline)]

def RequestBody.decode? (t : Tree) : Option RequestBody := do
  let fs ← t.fields? outline
  return {
    description := ← fs.getD? "description" "" asText?
    required := ← fs.getD? "required" false asBool?
    content := ← fs.getD? "content" [] (dictOf? MediaType.decode?) }

def Parameter.outline : Outline :=
  .record [("name", .leaf), ("in", .leaf), ("required", .leaf), ("description", .leaf),
    ("schema", .schema), ("example", .whole)]

def Parameter.decode? (t : Tree) : Option Parameter := do
  let fs ← t.fields? outline
  return {
    name := ← fs.need? "name" asText?
    location := ← fs.need? "in" asText?
    required := ← fs.getD? "required" false asBool?
    description := ← fs.getD? "description" "" asText?
    schema := ← fs.option? "schema" node?
    example? := ← fs.option? "example" toValue? }

def ExternalDocs.outline : Outline :=
  .record [("description", .leaf), ("url", .leaf)]

def ExternalDocs.decode? (t : Tree) : Option ExternalDocs := do
  let fs ← t.fields? outline
  return {
    description := ← fs.getD? "description" "" asText?
    url := ← fs.getD? "url" "" asText? }

def Operation.outline : Outline :=
  .record [("summary", .leaf), ("description", .leaf), ("operationId", .leaf),
    ("responses", .dict Response.outline), ("tags", .list .leaf),
    ("parameters", .list Parameter.outline), ("requestBody", RequestBody.outline),
    ("security", securityOutline), ("headers", .dict Header.outline), ("deprecated", .leaf),
    ("servers", .list Server.outline), ("externalDocs", ExternalDocs.outline)]

def Operation.decode? (t : Tree) : Option Operation := do
  let fs ← t.fields? outline
  return {
    summary := ← fs.getD? "summary" "" asText?
    description := ← fs.getD? "description" "" asText?
    operationId := ← fs.getD? "operationId" "" asText?
    responses := ← fs.getD? "responses" [] (dictOf? Response.decode?)
    tags := ← fs.getD? "tags" [] texts?
    parameters := ← fs.getD? "parameters" [] (listOf? Parameter.decode?)
    requestBody := ← fs.option? "requestBody" RequestBody.decode?
    security := ← fs.getD? "security" [] securityRequirements?
    headers := ← fs.getD? "headers" [] (dictOf? Header.decode?)
    deprecated := ← fs.getD? "deprecated" false asBool?
    servers := ← fs.getD? "servers" [] (listOf? Server.decode?)
    externalDocs := ← fs.option? "externalDocs" ExternalDocs.decode? }

def pathsOutline : Outline := .dict (.dict Operation.outline)

def paths? : Tree → Option (Dict PathItem) := dictOf? (dictOf? Operation.decode?)

/-- A component schema is settled before it is known what it is, so all of it is read. -/
def Components.outline : Outline :=
  .record [("schemas", .dict .whole), ("securitySchemes", .dict SecurityScheme.outline)]

def Components.decode? (t : Tree) : Option Components := do
  let fs ← t.fields? outline
  return {
    schemas := ← fs.getD? "schemas" [] (dictOf? Schema.decode?)
    securitySchemes := ← fs.getD? "securitySchemes" [] (dictOf? SecurityScheme.decode?) }

def Document.outline : Outline :=
  .record [("openapi", .leaf), ("info", Info.outline), ("servers", .list Server.outline),
    ("paths", pathsOutline), ("tags", .list OperationTag.outline),
    ("components", Components.outline), ("security", securityOutline),
    ("x-tagGroups", .list .whole)]

def Document.decode? (t : Tree) : Option Document := do
  let fs ← t.fields? outline
  return {
    openapi := ← fs.need? "openapi" asText?
    info := ← fs.getD? "info" {} Info.decode?
    servers := ← fs.getD? "servers" [] (listOf? Server.decode?)
    paths := ← fs.getD? "paths" [] paths?
    tags := ← fs.getD? "tags" [] (listOf? OperationTag.decode?)
    components := ← fs.getD? "components" {} Components.decode?
    security := ← fs.getD? "security" [] securityRequirements?
    tagGroups := ← fs.getD? "x-tagGroups" [] (listOf? toValue?) }

end ApiScribe
