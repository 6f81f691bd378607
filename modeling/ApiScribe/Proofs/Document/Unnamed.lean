import ApiScribe.Proofs.Document.PathBlocks
import ApiScribe.Proofs.Document.ReadBack
import ApiScribe.Proofs.Schema.Unnamed

set_option autoImplicit false

namespace ApiScribe

open ApiScribe.Tree Fields

namespace Info

structure Ordered (info : Info) : Prop where
  logo : Dict.Sorted info.logo
  contact : Dict.Sorted info.contact
  license : Dict.Sorted info.license

theorem decode?_ordered {t : Tree} {info : Info} (found : decode? t = some info) :
    info.Ordered := by
  simp only [decode?, Option.bind_eq_bind, Option.bind_eq_some_iff, Option.pure_def,
    Option.some.injEq] at found
  obtain ⟨fs, _, version, _, title, _, description, _, logo, logo', contact, contact', license,
    license', rfl⟩ := found
  have sorted {name : String} {d : Dict String} (read : getD? fs name [] textDict? = some d) :
      Dict.Sorted d := by
    rcases of_getD? read with rfl | ⟨t, reads⟩
    · simp [Dict.Sorted]
    · exact dictOf?_sorted reads
  exact ⟨sorted logo', sorted contact', sorted license'⟩

theorem decode?_encode {info : Info} (ordered : info.Ordered) :
    decode? (ofValue info.encode) = some info := by
  refine record_written slots (fun _ => rfl) (fun x => by simp [encode, slots]) (by decide)
    (fun _ => rfl) fun gs look => ?_
  have text {name text : String} (placed : Dict.get? gs name = (textSlot text).map ofValue) :
      getD? gs name "" asText? = some text :=
    getD?_written rfl (by simp) placed
  have dict {name : String} {d : Dict String} (sorted : Dict.Sorted d)
      (placed : Dict.get? gs name = (dictSlot .text d).map ofValue) :
      getD? gs name [] textDict? = some d :=
    getD?_written (dictOf?_written_same sorted fun _ _ => rfl) (by simp) placed
  have version : getD? gs "version" "" asText? = some info.version :=
    set_written rfl (look "version")
  have title : getD? gs "title" "" asText? = some info.title :=
    set_written rfl (look "title")
  simp [version, title, text (look "description"), dict ordered.logo (look "x-logo"),
    dict ordered.contact (look "contact"), dict ordered.license (look "license")]

end Info

namespace Components

def unnamed (x : Components) : Components :=
  { x with schemas := Dict.mapValues Schema.unnamed x.schemas }

theorem decode?_encode {x : Components} (only : x.securitySchemes = [])
    (sorted : Dict.Sorted x.schemas) (readable : ∀ e ∈ x.schemas, e.2.Readable) :
    decode? (ofValue x.encode) = some x.unnamed := by
  refine record_written slots (fun _ => rfl) (fun x => by simp [encode, slots]) (by decide)
    (fun _ => rfl) fun gs look => ?_
  have back := dictOf?_written sorted fun e member => (readable e member).decode?_encode
  have others : getD? gs "securitySchemes" [] (dictOf? SecurityScheme.decode?) = some [] :=
    skipped_written (look "securitySchemes") (by simp [only])
  simp [set_written back (look "schemas"), others, unnamed, only]

end Components

namespace Document

def unnamed (doc : Document) : Document :=
  { doc with components := doc.components.unnamed }

theorem beq_unnamed (doc : Document) : (doc == doc.unnamed) = true := by
  have schemas : Dict.mapValues Schema.content (Dict.mapValues Schema.unnamed doc.components.schemas)
      = Dict.mapValues Schema.content doc.components.schemas := by
    simp [Dict.mapValues, Schema.content_unnamed]
  rw [seenBy_canonical]
  simp [canonical, Components.canonical, unnamed, Components.unnamed, schemas]

theorem schema?_unnamed (doc : Document) (name : String) :
    doc.unnamed.schema? name = (doc.schema? name).map Schema.unnamed :=
  Dict.get?_map _ _ _

structure Filled (doc : Document) : Prop where
  only : ∃ info paths schemas, doc = { info, paths, components := { schemas } }
  info : doc.info.Ordered
  ordered : doc.Ordered
  operations : ∀ url verb operation, doc.operation? url verb = some operation →
    Operation.decode? (ofValue operation.encode) = some operation
  readable : ∀ e ∈ doc.components.schemas, e.2.Readable

theorem Filled.paths {doc : Document} (filled : doc.Filled) :
    paths? (ofValue (dictValue (dictValue Operation.encode) doc.paths)) = some doc.paths := by
  refine dictOf?_written_same filled.ordered.urls fun item member => ?_
  have verbs := filled.ordered.verbs item member
  refine dictOf?_written_same verbs fun e listed => ?_
  apply filled.operations item.1 e.1
  rw [operation?, Dict.get?_of_mem filled.ordered.urls.nodup member]
  exact Dict.get?_of_mem verbs.nodup listed

theorem Filled.decode?_encode {doc : Document} (filled : doc.Filled) :
    decode? (ofValue doc.encode) = some doc.unnamed := by
  have rest : doc.servers = [] ∧ doc.tags = [] ∧ doc.security = [] ∧ doc.tagGroups = [] ∧
      doc.components.securitySchemes = [] := by
    obtain ⟨info, paths, schemas, rfl⟩ := filled.only
    exact ⟨rfl, rfl, rfl, rfl, rfl⟩
  obtain ⟨servers, tags, security, tagGroups, securitySchemes⟩ := rest
  have components :=
    Components.decode?_encode securitySchemes filled.ordered.schemas filled.readable
  refine record_written slots (fun _ => rfl) (fun x => by simp [encode, slots]) (by decide)
    (fun _ => rfl) fun gs look => ?_
  have version : need? gs "openapi" asText? = some doc.openapi := by
    simp [need?, look "openapi", slots, Dict.get?, ofValue, asText?]
  simp [version, set_written (Info.decode?_encode filled.info) (look "info"),
    skipped_written (look "servers") (by simp [servers]), set_written filled.paths (look "paths"),
    skipped_written (look "tags") (by simp [tags]), set_written components (look "components"),
    skipped_written (look "security") (by simp [security]),
    skipped_written (look "x-tagGroups") (by simp [tagGroups]), unnamed, servers, tags, security,
    tagGroups]

end Document

def Block.OfValue (block : Block) : Prop :=
  block.kind = .path → ∀ paths, decodeBlock pathsOutline paths? block.content = .ok (some paths) →
    ∃ v, paths? (ofValue v) = some paths

theorem Block.OfValue.entries_back {block : Block} (given : block.OfValue) :
    ∀ entry ∈ block.entries, Operation.decode? (ofValue entry.2.2.encode) = some entry.2.2 := by
  intro entry member
  unfold Block.entries at member
  split at member
  next paths kind read =>
    obtain ⟨v, found⟩ := given kind paths read
    obtain ⟨-, urls, -, items⟩ := dictOf?_members found
    obtain ⟨item, listed, below⟩ := List.mem_flatMap.mp member
    obtain ⟨e, verb, rfl⟩ := List.mem_map.mp below
    obtain ⟨url, -, verbs⟩ := items item listed
    obtain ⟨-, operations, -, values⟩ := dictOf?_members verbs
    obtain ⟨m, -, reads⟩ := values e verb
    exact Operation.stable m.2 e.2 reads
  next => cases member

namespace Document

theorem mergeInfo_ordered {read : FileReader} {base : Option String} {current incoming : Info}
    (here : current.Ordered) (there : incoming.Ordered) :
    (mergeInfo read base current incoming).1.Ordered := by
  have chosen {a b : Dict String} (before : Dict.Sorted a) (after : Dict.Sorted b) :
      Dict.Sorted (if a.isEmpty then b else a) := by
    split
    next => exact after
    next => exact before
  exact ⟨chosen here.logo there.logo, chosen here.contact there.contact,
    chosen here.license there.license⟩

theorem applyBlock_frame (doc : Document) (read : FileReader) (base : Option String)
    (block : Block) :
    ∃ info paths, (doc.applyBlock read base block).1 = { doc with info, paths } ∧
      (doc.info.Ordered → info.Ordered) := by
  rw [applyBlock]
  split
  next =>
    have frame := doc.addEntries_frame (pathEntries (ofPathBlock block.content).paths)
    rw [← applyPathBlock_eq] at frame
    refine ⟨doc.info, (doc.applyPathBlock block.content).1.paths, ?_, id⟩
    have back := congrArg (withPaths · (doc.applyPathBlock block.content).1.paths) frame
    exact back
  next =>
    rw [applyInfoBlock]
    split
    next => exact ⟨doc.info, doc.paths, rfl, id⟩
    next => exact ⟨doc.info, doc.paths, rfl, id⟩
    next incoming decoded =>
      obtain ⟨tree, given⟩ := decodeBlock_decoded decoded
      refine ⟨_, doc.paths, rfl, fun ordered => ?_⟩
      exact mergeInfo_ordered ordered (Info.decode?_ordered given)

theorem Filled.applyBlock {doc : Document} (filled : doc.Filled) (read : FileReader)
    (base : Option String) {block : Block} (given : block.OfValue) :
    (doc.applyBlock read base block).1.Filled := by
  have grown := doc.applyBlock_extends read base block
  obtain ⟨info, paths, same, ordered⟩ := doc.applyBlock_frame read base block
  refine ⟨?_, ?_, grown.ordered filled.ordered, ?_, ?_⟩
  · obtain ⟨_, _, schemas, rfl⟩ := filled.only
    exact ⟨info, paths, schemas, same⟩
  · rw [same]
    exact ordered filled.info
  · intro url verb operation found
    have origin := grown.found (url, verb)
    rw [show byRoute.get? _ (url, verb) = some operation from found] at origin
    rcases Option.or_eq_some_iff.mp origin.symm with before | ⟨-, added⟩
    · exact filled.operations url verb operation before
    · obtain ⟨front, back, split, -⟩ := List.lookup_eq_some_iff.mp added
      have listed : ((url, verb), operation) ∈ routes block.entries := by simp [split]
      obtain ⟨entry, member, same⟩ := List.mem_map.mp listed
      cases same
      exact given.entries_back entry member
  · rw [grown.components]
    exact filled.readable

theorem Filled.empty : ({} : Document).Filled where
  only := ⟨{}, [], [], rfl⟩
  info := by constructor <;> simp [Dict.Sorted]
  ordered := by constructor <;> simp [Dict.Sorted]
  operations := by simp [operation?, Dict.get?]
  readable := by simp

theorem Filled.withSchemas {doc : Document} (filled : doc.Filled) {schemas : Dict Schema}
    (sorted : Dict.Sorted schemas) (readable : ∀ e ∈ schemas, e.2.Readable) :
    (doc.withSchemas schemas).Filled where
  only := by
    obtain ⟨info, paths, _, rfl⟩ := filled.only
    exact ⟨info, paths, schemas, rfl⟩
  info := filled.info
  ordered := ⟨filled.ordered.urls, filled.ordered.verbs, sorted⟩
  operations := filled.operations
  readable := readable

end Document

end ApiScribe
