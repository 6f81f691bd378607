import ApiScribe.Document
import ApiScribe.Proofs.Dict
import ApiScribe.Proofs.Schema.Content

set_option autoImplicit false

namespace ApiScribe

def SeenBy {α β : Type} [BEq α] (view : α → β) : Prop :=
  ∀ a b : α, (a == b) = true ↔ view a = view b

namespace SeenBy

variable {α β : Type} [BEq α] {view : α → β}

theorem refl (seen : SeenBy view) (a : α) : (a == a) = true := (seen a a).mpr rfl

theorem option (seen : SeenBy view) : SeenBy (Option.map view) := by
  intro a b
  cases a <;> cases b <;> simp [seen _ _]

theorem list (seen : SeenBy view) : SeenBy (List.map view) := by
  intro a
  induction a with
  | nil => intro b; cases b <;> simp
  | cons x xs ih =>
    intro b
    cases b with
    | nil => simp
    | cons y ys => simp [seen x y, ih ys]

theorem dict (seen : SeenBy view) : SeenBy (Dict.mapValues view) := by
  have entry : SeenBy fun e : String × α => (e.1, view e.2) := by
    rintro ⟨k, x⟩ ⟨l, y⟩
    rw [show ((k, x) == (l, y)) = (k == l && x == y) from rfl]
    simp [seen x y]
  exact entry.list

end SeenBy

theorem Value.seenBy_canonical : SeenBy Value.canonical := Value.same_iff

theorem SchemaNode.seenBy_content : SeenBy SchemaNode.content := SchemaNode.same_iff

theorem Schema.seenBy_content : SeenBy Schema.content := Schema.same_iff

def Header.canonical (x : Header) : Header :=
  { x with schema := x.schema.map SchemaNode.content }

def MediaType.canonical (x : MediaType) : MediaType :=
  ⟨x.schema.map SchemaNode.content, x.example?.map Value.canonical⟩

def Response.canonical (x : Response) : Response :=
  { x with
    content := Dict.mapValues MediaType.canonical x.content
    headers := Dict.mapValues Header.canonical x.headers }

def RequestBody.canonical (x : RequestBody) : RequestBody :=
  { x with content := Dict.mapValues MediaType.canonical x.content }

def Parameter.canonical (x : Parameter) : Parameter :=
  { x with
    schema := x.schema.map SchemaNode.content
    example? := x.example?.map Value.canonical }

def Operation.canonical (x : Operation) : Operation :=
  { x with
    responses := Dict.mapValues Response.canonical x.responses
    parameters := x.parameters.map Parameter.canonical
    requestBody := x.requestBody.map RequestBody.canonical
    headers := Dict.mapValues Header.canonical x.headers }

def Components.canonical (x : Components) : Components :=
  { x with schemas := Dict.mapValues Schema.content x.schemas }

def Document.canonical (x : Document) : Document :=
  { x with
    paths := Dict.mapValues (Dict.mapValues Operation.canonical) x.paths
    components := x.components.canonical
    tagGroups := x.tagGroups.map Value.canonical }

-- Records are compared field by field; what the canonical form leaves alone is compared as it is.
theorem Header.seenBy_canonical : SeenBy Header.canonical := by
  rintro ⟨description, schema⟩ ⟨description', schema'⟩
  change (description == description' && schema == schema') = true ↔ _
  simp [canonical, SchemaNode.seenBy_content.option schema schema']

theorem MediaType.seenBy_canonical : SeenBy MediaType.canonical := by
  rintro ⟨schema, ex⟩ ⟨schema', ex'⟩
  change (schema == schema' && ex == ex') = true ↔ _
  simp [canonical, SchemaNode.seenBy_content.option schema schema',
    Value.seenBy_canonical.option ex ex']

theorem Response.seenBy_canonical : SeenBy Response.canonical := by
  rintro ⟨description, content, headers⟩ ⟨description', content', headers'⟩
  change (description == description' && (content == content' && headers == headers')) = true ↔ _
  simp [canonical, MediaType.seenBy_canonical.dict content content',
    Header.seenBy_canonical.dict headers headers']

theorem RequestBody.seenBy_canonical : SeenBy RequestBody.canonical := by
  rintro ⟨description, required, content⟩ ⟨description', required', content'⟩
  change (description == description' && (required == required' && content == content')) = true ↔ _
  simp [canonical, MediaType.seenBy_canonical.dict content content']

theorem Parameter.seenBy_canonical : SeenBy Parameter.canonical := by
  rintro ⟨name, location, required, description, schema, ex⟩
    ⟨name', location', required', description', schema', ex'⟩
  change (name == name' && (location == location' && (required == required' &&
    (description == description' && (schema == schema' && ex == ex'))))) = true ↔ _
  simp [canonical, SchemaNode.seenBy_content.option schema schema',
    Value.seenBy_canonical.option ex ex']

theorem Operation.seenBy_canonical : SeenBy Operation.canonical := by
  rintro ⟨summary, description, operationId, responses, tags, parameters, requestBody, security,
      headers, deprecated, servers, externalDocs⟩
    ⟨summary', description', operationId', responses', tags', parameters', requestBody', security',
      headers', deprecated', servers', externalDocs'⟩
  change (summary == summary' && (description == description' && (operationId == operationId' &&
    (responses == responses' && (tags == tags' && (parameters == parameters' &&
    (requestBody == requestBody' && (security == security' && (headers == headers' &&
    (deprecated == deprecated' && (servers == servers' && externalDocs == externalDocs')))))))))))
      = true ↔ _
  simp [canonical, Response.seenBy_canonical.dict responses responses',
    Parameter.seenBy_canonical.list parameters parameters',
    RequestBody.seenBy_canonical.option requestBody requestBody',
    Header.seenBy_canonical.dict headers headers']

theorem Components.seenBy_canonical : SeenBy Components.canonical := by
  rintro ⟨schemas, securitySchemes⟩ ⟨schemas', securitySchemes'⟩
  change (schemas == schemas' && securitySchemes == securitySchemes') = true ↔ _
  simp [canonical, Schema.seenBy_content.dict schemas schemas']

theorem Document.seenBy_canonical : SeenBy Document.canonical := by
  rintro ⟨openapi, info, servers, paths, tags, components, security, tagGroups⟩
    ⟨openapi', info', servers', paths', tags', components', security', tagGroups'⟩
  change (openapi == openapi' && (info == info' && (servers == servers' && (paths == paths' &&
    (tags == tags' && (components == components' && (security == security' &&
    tagGroups == tagGroups'))))))) = true ↔ _
  simp [canonical, Operation.seenBy_canonical.dict.dict paths paths',
    Components.seenBy_canonical components components',
    Value.seenBy_canonical.list tagGroups tagGroups']

end ApiScribe
