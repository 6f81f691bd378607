import ApiScribe.Document.Decode
import ApiScribe.Proofs.Document.MergeAll
import ApiScribe.Proofs.Schema.ReadBack

set_option autoImplicit false

namespace ApiScribe

open ApiScribe.Tree Fields

def Info.slots (x : Info) : List (String × Option Value) :=
  [("version", some (.text x.version)), ("title", some (.text x.title)),
    ("description", textSlot x.description), ("x-logo", dictSlot .text x.logo),
    ("contact", dictSlot .text x.contact), ("license", dictSlot .text x.license)]

theorem Info.stable : Stable decode? encode := by
  refine rereads_record slots (fun _ => rfl) (fun x => by simp [encode, slots]) (by decide)
    (fun _ => rfl) fun given gs x found look => ?_
  simp only [Option.bind_eq_bind, Option.bind_eq_some_iff, Option.pure_def, Option.some.injEq]
    at found
  obtain ⟨version, version', title, title', description, description', logo, logo', contact,
    contact', license, license', rfl⟩ := found
  simp [textDict?, set_back stable_text rfl version' (look "version"),
    set_back stable_text rfl title' (look "title"), text_back description' (look "description"),
    dict_back stable_text logo' (look "x-logo"), dict_back stable_text contact' (look "contact"),
    dict_back stable_text license' (look "license")]

def ServerVariable.slots (x : ServerVariable) : List (String × Option Value) :=
  [("default", some (.text x.default)), ("enum", listSlot .text x.enumValues),
    ("description", textSlot x.description)]

theorem ServerVariable.stable : Stable decode? encode := by
  refine rereads_record slots (fun _ => rfl) (fun x => by simp [encode, slots]) (by decide)
    (fun _ => rfl) fun given gs x found look => ?_
  simp only [Option.bind_eq_bind, Option.bind_eq_some_iff, Option.pure_def, Option.some.injEq]
    at found
  obtain ⟨default, default', enumValues, enumValues', description, description', rfl⟩ := found
  simp [texts?, set_back stable_text rfl default' (look "default"),
    list_back stable_text enumValues' (look "enum"), text_back description' (look "description")]

def Server.slots (x : Server) : List (String × Option Value) :=
  [("url", some (.text x.url)), ("description", textSlot x.description),
    ("variables", dictSlot ServerVariable.encode x.placeholders)]

theorem Server.stable : Stable decode? encode := by
  refine rereads_record slots (fun _ => rfl) (fun x => by simp [encode, slots]) (by decide)
    (fun _ => rfl) fun given gs x found look => ?_
  simp only [Option.bind_eq_bind, Option.bind_eq_some_iff, Option.pure_def, Option.some.injEq]
    at found
  obtain ⟨url, url', description, description', placeholders, placeholders', rfl⟩ := found
  simp [need?_back stable_text url' (look "url"), text_back description' (look "description"),
    dict_back ServerVariable.stable placeholders' (look "variables")]

def OperationTag.slots (x : OperationTag) : List (String × Option Value) :=
  [("name", some (.text x.name)), ("description", textSlot x.description)]

theorem OperationTag.stable : Stable decode? encode := by
  refine rereads_record slots (fun _ => rfl) (fun x => by simp [encode, slots]) (by decide)
    (fun _ => rfl) fun given gs x found look => ?_
  simp only [Option.bind_eq_bind, Option.bind_eq_some_iff, Option.pure_def, Option.some.injEq]
    at found
  obtain ⟨name, name', description, description', rfl⟩ := found
  simp [need?_back stable_text name' (look "name"), text_back description' (look "description")]

def OAuthFlow.slots (x : OAuthFlow) : List (String × Option Value) :=
  [("authorizationUrl", textSlot x.authorizationUrl), ("tokenUrl", textSlot x.tokenUrl),
    ("scopes", some (dictValue .text x.scopes))]

theorem OAuthFlow.stable : Stable decode? encode := by
  refine rereads_record slots (fun _ => rfl) (fun x => by simp [encode, slots]) (by decide)
    (fun _ => rfl) fun given gs x found look => ?_
  simp only [Option.bind_eq_bind, Option.bind_eq_some_iff, Option.pure_def, Option.some.injEq]
    at found
  obtain ⟨authorizationUrl, authorizationUrl', tokenUrl, tokenUrl', scopes, scopes', rfl⟩ := found
  simp [textDict?, text_back authorizationUrl' (look "authorizationUrl"),
    text_back tokenUrl' (look "tokenUrl"),
    set_back (stable_dict stable_text) rfl scopes' (look "scopes")]

def SecurityScheme.slots (x : SecurityScheme) : List (String × Option Value) :=
  [("type", some (.text x.type)), ("flows", dictSlot OAuthFlow.encode x.flows),
    ("scheme", textSlot x.scheme), ("bearerFormat", textSlot x.bearerFormat),
    ("name", textSlot x.name), ("in", textSlot x.location)]

theorem SecurityScheme.stable : Stable decode? encode := by
  refine rereads_record slots (fun _ => rfl) (fun x => by simp [encode, slots]) (by decide)
    (fun _ => rfl) fun given gs x found look => ?_
  simp only [Option.bind_eq_bind, Option.bind_eq_some_iff, Option.pure_def, Option.some.injEq]
    at found
  obtain ⟨type, type', flows, flows', scheme, scheme', bearerFormat, bearerFormat', name, name',
    location, location', rfl⟩ := found
  simp [need?_back stable_text type' (look "type"),
    dict_back OAuthFlow.stable flows' (look "flows"), text_back scheme' (look "scheme"),
    text_back bearerFormat' (look "bearerFormat"), text_back name' (look "name"),
    text_back location' (look "in")]

theorem node_back {gs : Fields} {name : String} {given : List (String × Value)}
    {x : Option SchemaNode} (found : option? (valueFields given) name node? = some x)
    (placed : Dict.get? gs name = (x.map SchemaNode.encode).map ofValue) :
    option? gs name node? = some x :=
  option?_back SchemaNode.stable_node (fun _ x _ _ => x.encode_ne_null) found placed

theorem value_back {gs : Fields} {name : String} {given : List (String × Value)}
    {x : Option Value} (found : option? (valueFields given) name toValue? = some x)
    (placed : Dict.get? gs name = (x.map id).map ofValue) :
    option? gs name toValue? = some x :=
  option?_back stable_value (fun _ _ => toValue?_ne_null) found placed

def Header.slots (x : Header) : List (String × Option Value) :=
  [("description", textSlot x.description), ("schema", x.schema.map SchemaNode.encode)]

theorem Header.stable : Stable decode? encode := by
  refine rereads_record slots (fun _ => rfl) (fun x => by simp [encode, slots]) (by decide)
    (fun _ => rfl) fun given gs x found look => ?_
  simp only [Option.bind_eq_bind, Option.bind_eq_some_iff, Option.pure_def, Option.some.injEq]
    at found
  obtain ⟨description, description', schema, schema', rfl⟩ := found
  simp [text_back description' (look "description"), node_back schema' (look "schema")]

def MediaType.slots (x : MediaType) : List (String × Option Value) :=
  [("schema", x.schema.map SchemaNode.encode), ("example", x.example?.map id)]

theorem MediaType.stable : Stable decode? encode := by
  refine rereads_record slots (fun _ => rfl) (fun x => by simp [encode, slots]) (by decide)
    (fun _ => rfl) fun given gs x found look => ?_
  simp only [Option.bind_eq_bind, Option.bind_eq_some_iff, Option.pure_def, Option.some.injEq]
    at found
  obtain ⟨schema, schema', ex, ex', rfl⟩ := found
  simp [node_back schema' (look "schema"), value_back ex' (look "example")]

def Response.slots (x : Response) : List (String × Option Value) :=
  [("description", some (.text x.description)), ("content", dictSlot MediaType.encode x.content),
    ("headers", dictSlot Header.encode x.headers)]

theorem Response.stable : Stable decode? encode := by
  refine rereads_record slots (fun _ => rfl) (fun x => by simp [encode, slots]) (by decide)
    (fun _ => rfl) fun given gs x found look => ?_
  simp only [Option.bind_eq_bind, Option.bind_eq_some_iff, Option.pure_def, Option.some.injEq]
    at found
  obtain ⟨description, description', content, content', headers, headers', rfl⟩ := found
  simp [set_back stable_text rfl description' (look "description"),
    dict_back MediaType.stable content' (look "content"),
    dict_back Header.stable headers' (look "headers")]

def RequestBody.slots (x : RequestBody) : List (String × Option Value) :=
  [("description", textSlot x.description), ("required", some (.bool x.required)),
    ("content", some (dictValue MediaType.encode x.content))]

theorem RequestBody.stable : Stable decode? encode := by
  refine rereads_record slots (fun _ => rfl) (fun x => by simp [encode, slots]) (by decide)
    (fun _ => rfl) fun given gs x found look => ?_
  simp only [Option.bind_eq_bind, Option.bind_eq_some_iff, Option.pure_def, Option.some.injEq]
    at found
  obtain ⟨description, description', required, required', content, content', rfl⟩ := found
  simp [text_back description' (look "description"),
    set_back stable_bool rfl required' (look "required"),
    set_back (stable_dict MediaType.stable) rfl content' (look "content")]

def Parameter.slots (x : Parameter) : List (String × Option Value) :=
  [("name", some (.text x.name)), ("in", some (.text x.location)),
    ("required", some (.bool x.required)), ("description", textSlot x.description),
    ("schema", x.schema.map SchemaNode.encode), ("example", x.example?.map id)]

theorem Parameter.stable : Stable decode? encode := by
  refine rereads_record slots (fun _ => rfl) (fun x => by simp [encode, slots]) (by decide)
    (fun _ => rfl) fun given gs x found look => ?_
  simp only [Option.bind_eq_bind, Option.bind_eq_some_iff, Option.pure_def, Option.some.injEq]
    at found
  obtain ⟨name, name', location, location', required, required', description, description',
    schema, schema', ex, ex', rfl⟩ := found
  simp [need?_back stable_text name' (look "name"), need?_back stable_text location' (look "in"),
    set_back stable_bool rfl required' (look "required"),
    text_back description' (look "description"), node_back schema' (look "schema"),
    value_back ex' (look "example")]

def ExternalDocs.slots (x : ExternalDocs) : List (String × Option Value) :=
  [("description", textSlot x.description), ("url", some (.text x.url))]

theorem ExternalDocs.stable : Stable decode? encode := by
  refine rereads_record slots (fun _ => rfl) (fun x => by simp [encode, slots]) (by decide)
    (fun _ => rfl) fun given gs x found look => ?_
  simp only [Option.bind_eq_bind, Option.bind_eq_some_iff, Option.pure_def, Option.some.injEq]
    at found
  obtain ⟨description, description', url, url', rfl⟩ := found
  simp [text_back description' (look "description"), set_back stable_text rfl url' (look "url")]

theorem stable_security : Stable (dictOf? (listOf? asText?)) securityValue :=
  stable_dict (stable_list stable_text)

theorem memberOf_flag (name : String) (flag : Bool) :
    memberOf name id (slot (!flag) (.bool flag)) = if flag then [(name, .bool true)] else [] := by
  cases flag <;> rfl

def Operation.slots (x : Operation) : List (String × Option Value) :=
  [("summary", textSlot x.summary), ("description", textSlot x.description),
    ("operationId", textSlot x.operationId),
    ("responses", some (dictValue Response.encode x.responses)), ("tags", listSlot .text x.tags),
    ("parameters", listSlot Parameter.encode x.parameters),
    ("requestBody", x.requestBody.map RequestBody.encode),
    ("security", listSlot securityValue x.security),
    ("headers", dictSlot Header.encode x.headers),
    ("deprecated", slot (!x.deprecated) (.bool x.deprecated)),
    ("servers", listSlot Server.encode x.servers),
    ("externalDocs", x.externalDocs.map ExternalDocs.encode)]

theorem Operation.stable : Stable decode? encode := by
  refine rereads_record slots (fun _ => rfl) (fun x => by simp [encode, slots, memberOf_flag])
    (by decide) (fun _ => rfl) fun given gs x found look => ?_
  simp only [Option.bind_eq_bind, Option.bind_eq_some_iff, Option.pure_def, Option.some.injEq]
    at found
  obtain ⟨summary, summary', description, description', operationId, operationId', responses,
    responses', tags, tags', parameters, parameters', requestBody, requestBody', security,
    security', headers, headers', deprecated, deprecated', servers, servers', externalDocs,
    externalDocs', rfl⟩ := found
  simp [texts?, securityRequirements?, text_back summary' (look "summary"),
    text_back description' (look "description"), text_back operationId' (look "operationId"),
    set_back (stable_dict Response.stable) rfl responses' (look "responses"),
    list_back stable_text tags' (look "tags"),
    list_back Parameter.stable parameters' (look "parameters"),
    option?_back RequestBody.stable (by simp [RequestBody.encode]) requestBody'
      (look "requestBody"),
    list_back stable_security security' (look "security"),
    dict_back Header.stable headers' (look "headers"),
    getD?_back stable_bool rfl deprecated' (by simp) (look "deprecated"),
    list_back Server.stable servers' (look "servers"),
    option?_back ExternalDocs.stable (by simp [ExternalDocs.encode]) externalDocs'
      (look "externalDocs")]

namespace Components

def slots (x : Components) : List (String × Option Value) :=
  [("schemas", some (dictValue Schema.encode x.schemas)),
    ("securitySchemes", dictSlot SecurityScheme.encode x.securitySchemes)]

def reread (x : Components) : Components :=
  { x with schemas := Dict.mapValues Schema.reread x.schemas }

theorem rereads : Rereads decode? encode reread := by
  refine rereads_record slots (fun _ => rfl) (fun x => by simp [encode, slots]) (by decide)
    (fun _ => rfl) fun given gs x found look => ?_
  simp only [Option.bind_eq_bind, Option.bind_eq_some_iff, Option.pure_def, Option.some.injEq]
    at found
  obtain ⟨schemas, schemas', securitySchemes, securitySchemes', rfl⟩ := found
  simp [set_back (rereads_dict Schema.rereads_schema) rfl schemas' (look "schemas"),
    dict_back SecurityScheme.stable securitySchemes' (look "securitySchemes"), reread]

end Components

namespace Document

def slots (x : Document) : List (String × Option Value) :=
  [("openapi", some (.text x.openapi)), ("info", some x.info.encode),
    ("servers", listSlot Server.encode x.servers),
    ("paths", some (dictValue (dictValue Operation.encode) x.paths)),
    ("tags", listSlot OperationTag.encode x.tags), ("components", some x.components.encode),
    ("security", listSlot securityValue x.security), ("x-tagGroups", listSlot id x.tagGroups)]

def reread (x : Document) : Document :=
  { x with components := x.components.reread }

theorem rereads : Rereads decode? encode reread := by
  refine rereads_record slots (fun _ => rfl) (fun x => by simp [encode, slots]) (by decide)
    (fun _ => rfl) fun given gs x found look => ?_
  simp only [Option.bind_eq_bind, Option.bind_eq_some_iff, Option.pure_def, Option.some.injEq]
    at found
  obtain ⟨openapi, openapi', info, info', servers, servers', paths, paths', tags, tags',
    components, components', security, security', tagGroups, tagGroups', rfl⟩ := found
  simp [paths?, texts?, securityRequirements?, need?_back stable_text openapi' (look "openapi"),
    set_back Info.stable rfl info' (look "info"), list_back Server.stable servers' (look "servers"),
    set_back (stable_dict (stable_dict Operation.stable)) rfl paths' (look "paths"),
    list_back OperationTag.stable tags' (look "tags"),
    set_back Components.rereads rfl components' (look "components"),
    list_back stable_security security' (look "security"),
    list_back stable_value tagGroups' (look "x-tagGroups"), reread]

theorem decode?_ordered {t : Tree} {doc : Document} (found : decode? t = some doc) :
    doc.Ordered := by
  simp only [decode?, Option.bind_eq_bind, Option.bind_eq_some_iff, Option.pure_def,
    Option.some.injEq] at found
  obtain ⟨fs, _, openapi, _, info, _, servers, _, paths, paths', tags, _, components, components',
    security, _, tagGroups, _, rfl⟩ := found
  have urls : Dict.Sorted paths ∧ ∀ entry ∈ paths, Dict.Sorted entry.2 := by
    rcases of_getD? paths' with rfl | ⟨t, reads⟩
    · simp [Dict.Sorted]
    · refine ⟨dictOf?_sorted reads, fun entry member => ?_⟩
      obtain ⟨w, reads⟩ := dictOf?_values reads entry member
      exact dictOf?_sorted reads
  have schemas : Dict.Sorted components.schemas := by
    rcases of_getD? components' with rfl | ⟨t, reads⟩
    · simp [Dict.Sorted]
    · simp only [Components.decode?, Option.bind_eq_bind, Option.bind_eq_some_iff,
        Option.pure_def, Option.some.injEq] at reads
      obtain ⟨fs, _, schemas, schemas', securitySchemes, _, rfl⟩ := reads
      rcases of_getD? schemas' with rfl | ⟨t, reads⟩
      · simp [Dict.Sorted]
      · exact dictOf?_sorted reads
  exact ⟨urls.1, urls.2, schemas⟩

/-- No component schema is a plain node with nothing but members. -/
def Lasting (doc : Document) : Prop := ∀ e ∈ doc.components.schemas, ¬ e.2.Bare

theorem reread_of_lasting {doc : Document} (lasting : doc.Lasting) : doc.reread = doc := by
  have same : Dict.mapValues Schema.reread doc.components.schemas = doc.components.schemas := by
    refine (List.map_congr_left fun e member => ?_).trans (List.map_id _)
    simp [(Schema.reread_eq_iff e.2).mpr (lasting e member)]
  rw [reread, Components.reread, same]

theorem reread_reread (doc : Document) : doc.reread.reread = doc.reread := by
  simp [reread, Components.reread, Dict.mapValues, Function.comp_def, Schema.reread_reread]

theorem schema?_reread (doc : Document) (name : String) :
    doc.reread.schema? name = (doc.schema? name).map Schema.reread :=
  Dict.get?_map _ _ _

theorem compatible_reread_iff {doc : Document} (ordered : doc.Ordered) :
    doc.Compatible doc.reread ↔ doc.Lasting := by
  constructor
  · rintro ⟨_, names⟩ e member
    have here : doc.schema? e.1 = some e.2 := Dict.get?_of_mem ordered.schemas.nodup member
    have there : doc.reread.schema? e.1 = some e.2.reread := by simp [schema?_reread, here]
    exact (Schema.reread_beq_iff e.2).mp (names e.1 e.2 e.2.reread here there)
  · intro lasting
    rw [reread_of_lasting lasting]
    exact compatible_refl doc

theorem reread_beq_iff (doc : Document) : (doc == doc.reread) = true ↔ doc.Lasting := by
  constructor
  · intro equal e member
    rw [Document.seenBy_canonical] at equal
    have schemas : Dict.mapValues Schema.content doc.components.schemas =
        Dict.mapValues Schema.content (Dict.mapValues Schema.reread doc.components.schemas) :=
      congrArg (·.components.schemas) equal
    simp only [Dict.mapValues, List.map_map, List.map_inj_left] at schemas
    have same := (Prod.mk.inj (schemas e member)).2
    exact (Schema.reread_beq_iff e.2).mp ((Schema.same_iff _ _).mpr same)
  · intro lasting
    rw [reread_of_lasting lasting]
    exact Document.seenBy_canonical.refl doc

/-- A document that was read from a value, written and read again comes back as it was, and can be
merged with its copy, exactly if no component schema is a plain node with nothing but members: such
a node comes back as a composition. The copy itself is read back as it is. -/
theorem reread_outcome {v : Value} {doc : Document} (found : decode? (ofValue v) = some doc)
    (source : String) :
    decode? (ofValue doc.encode) = some doc.reread ∧
    ((doc == doc.reread) = true ↔ doc.Lasting) ∧
    ((doc.merge doc.reread source).2 = none ↔ doc.Lasting) ∧
    decode? (ofValue doc.reread.encode) = some doc.reread := by
  have copied := rereads v doc found
  have copiedAgain := rereads _ _ copied
  rw [reread_reread] at copiedAgain
  refine ⟨copied, reread_beq_iff doc, ?_, copiedAgain⟩
  rw [merge_eq_none_iff doc source (decode?_ordered copied)]
  exact compatible_reread_iff (decode?_ordered found)

def catValue : Value :=
  .object [("openapi", .text "3.0.0"), ("x-team", .text "pets"),
    ("components", .object [("schemas", .object [
      ("Pet", .object [("type", .text "object"), ("x-order", .int 1)]),
      ("Cat", .object [
        ("allOf", .list [.object [("$ref", .text "#/components/schemas/Pet")]])])])])]

def catDocument : Document :=
  { components :=
      { schemas := [("Cat", .composed [{ reference := some "#/components/schemas/Pet" }] {}),
          ("Pet", .plain { type := some "object" })] } }

theorem reread_outcome_cat :
    decode? (ofValue catValue) = some catDocument ∧ catDocument.Lasting ∧
      decode? (ofValue catDocument.encode) = some catDocument.reread ∧
      (catDocument == catDocument.reread) = true ∧
      (catDocument.merge catDocument.reread "copy.yaml").2 = none := by
  have read : decode? (ofValue catValue) = some catDocument := rfl
  have lasting : catDocument.Lasting := by
    intro e member
    simp only [catDocument, List.mem_cons, List.not_mem_nil, or_false] at member
    rcases member with rfl | rfl
    · rintro ⟨members, names, same⟩
      cases same
    · rintro ⟨members, names, same⟩
      cases same
  obtain ⟨copied, equal, merged, _⟩ := reread_outcome read "copy.yaml"
  exact ⟨read, lasting, copied, equal.mpr lasting, merged.mpr lasting⟩

def orderedPet : Value :=
  .object [("openapi", .text "3.0.0"),
    ("components", .object [("schemas", .object [("Pet", .object [
      ("allOf", .list [.object [("$ref", .text "#/components/schemas/Animal")]]),
      ("x-order", .int 1)])])])]

theorem reread_conflicts_orderedPet :
    ∃ doc copy, decode? (ofValue orderedPet) = some doc ∧
      decode? (ofValue doc.encode) = some copy ∧ (doc == copy) = false ∧
      (doc.merge copy "copy.yaml").2 = some (.schemaConflict "Pet" "copy.yaml") :=
  ⟨_, _, rfl, rfl, rfl, rfl⟩

end Document

end ApiScribe
