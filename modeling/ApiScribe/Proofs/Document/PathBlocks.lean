import ApiScribe.Document.Blocks
import ApiScribe.Proofs.Document.Merge
import ApiScribe.Proofs.Tree.ReadBack

set_option autoImplicit false

namespace ApiScribe

def Block.entries (block : Block) : List Document.PathEntry :=
  match block.kind, decodeBlock pathsOutline paths? block.content with
  | .path, .ok (some paths) => Document.pathEntries paths
  | _, _ => []

namespace Document

/-- A document with the operations of some entries: the first entry for a URL and a verb counts, and
only if there was none before. -/
structure Extends (before after : Document) (entries : List PathEntry) : Prop where
  found : ∀ route, byRoute.get? after route =
    (byRoute.get? before route).or ((routes entries).lookup route)
  components : after.components = before.components
  ordered : before.Ordered → after.Ordered
  routed : ∀ main : Document, main.Routed before → main.Routed after

theorem Extends.trans {a b c : Document} {front back : List PathEntry} (first : a.Extends b front)
    (second : b.Extends c back) : a.Extends c (front ++ back) where
  found route := by
    rw [second.found, first.found, routes, routes, routes, List.map_append, List.lookup_append,
      Option.or_assoc]
  components := second.components.trans first.components
  ordered := second.ordered ∘ first.ordered
  routed main := second.routed main ∘ first.routed main

theorem extends_of_paths {before after : Document} (paths : after.paths = before.paths)
    (components : after.components = before.components) : before.Extends after [] where
  found route := by simp [byRoute, operation?, paths, routes]
  components := components
  ordered ordered :=
    ⟨paths ▸ ordered.urls, paths ▸ ordered.verbs, components ▸ ordered.schemas⟩
  routed main routed := by
    simpa only [Routed, operation?, paths] using routed

theorem addEntry_extends (doc : Document) (entry : PathEntry) :
    doc.Extends (doc.addEntry entry).1 [entry] := by
  obtain ⟨url, verb, operation⟩ := entry
  cases here : doc.operation? url verb with
  | none =>
    have added : (doc.addEntry (url, verb, operation)).1 = doc.addOperation url verb operation := by
      simp [addEntry, here]
    rw [added]
    refine ⟨fun route => ?_, rfl, fun ordered => addOperation_ordered ordered _ _ _,
      fun main routed => routed.addOperation _ _ _⟩
    have put : byRoute.get? (doc.addOperation url verb operation) route =
        if (url, verb) = route then some operation else byRoute.get? doc route :=
      byRoute.get?_add doc (url, verb) operation route
    rw [put]
    by_cases same : (url, verb) = route
    · subst same
      have absent : byRoute.get? doc (url, verb) = none := here
      simp [absent, routes]
    · have other : (route == (url, verb)) = false := by simpa using Ne.symm same
      simp [same, routes, List.lookup_cons, other]
  | some present =>
    have kept : (doc.addEntry (url, verb, operation)).1 = doc := by
      simp only [addEntry, here]
      split <;> rfl
    rw [kept]
    refine ⟨fun route => ?_, rfl, id, fun _ => id⟩
    by_cases same : (url, verb) = route
    · subst same
      have there : byRoute.get? doc (url, verb) = some present := here
      simp [there]
    · have other : (route == (url, verb)) = false := by simpa using Ne.symm same
      simp [routes, List.lookup_cons, other]

theorem addEntries_extends (doc : Document) (entries : List PathEntry) :
    doc.Extends (doc.addEntries entries).1 entries := by
  induction entries generalizing doc with
  | nil => exact extends_of_paths rfl rfl
  | cons entry rest ih => exact (doc.addEntry_extends entry).trans (ih _)

theorem applyBlock_extends (doc : Document) (read : FileReader) (base : Option String)
    (block : Block) : doc.Extends (doc.applyBlock read base block).1 block.entries := by
  obtain ⟨kind, content⟩ := block
  cases kind with
  | info =>
    have info : (doc.applyInfoBlock read base content).1.paths = doc.paths ∧
        (doc.applyInfoBlock read base content).1.components = doc.components := by
      rw [applyInfoBlock]
      split <;> exact ⟨rfl, rfl⟩
    exact extends_of_paths info.1 info.2
  | path =>
    simp only [applyBlock, applyPathBlock, Block.entries]
    cases decodeBlock pathsOutline paths? content with
    | error reason => exact extends_of_paths rfl rfl
    | ok paths =>
      cases paths with
      | none => exact extends_of_paths rfl rfl
      | some paths => exact doc.addEntries_extends _

end Document

namespace Document

def ofPathBlock (content : String) : Document :=
  match decodeBlock pathsOutline paths? content with
  | .ok (some paths) => { paths }
  | _ => {}

def applyPathBlocks (doc : Document) (contents : List String) : Document :=
  contents.foldl (fun doc content => (doc.applyPathBlock content).1) doc

def verbExists (route : String × String) : Diagnostic :=
  { problem := .verbExists, subject := route.2 ++ " " ++ route.1 }

theorem decodeBlock_decoded {α : Type} {outline : Outline} {decode : Tree → Option α}
    {content : String} {x : α} (read : decodeBlock outline decode content = .ok (some x)) :
    ∃ tree, decode tree = some x := by
  unfold decodeBlock at read
  split at read
  next => cases read
  next => cases read
  next tree _ =>
    split at read
    next => cases read
    next found opened =>
      cases read
      simp only [Tree.optionOf?, Option.bind_eq_bind, Option.bind_eq_some_iff] at opened
      obtain ⟨present, -, opened⟩ := opened
      cases present with
      | false => cases opened
      | true =>
        obtain ⟨other, decoded, same⟩ := Option.map_eq_some_iff.mp opened
        cases same
        exact ⟨tree, decoded⟩

theorem decodeBlock_ordered {content : String} {paths : Dict PathItem}
    (read : decodeBlock pathsOutline paths? content = .ok (some paths)) :
    ({ paths } : Document).Ordered := by
  obtain ⟨tree, decoded⟩ := decodeBlock_decoded read
  refine ⟨Tree.dictOf?_sorted decoded, ?_, by simp [Dict.Sorted]⟩
  intro entry member
  obtain ⟨w, item⟩ := Tree.dictOf?_values decoded entry member
  exact Tree.dictOf?_sorted item

theorem ofPathBlock_ordered (content : String) : (ofPathBlock content).Ordered := by
  unfold ofPathBlock
  split
  next paths read => exact decodeBlock_ordered read
  next => constructor <;> simp [Dict.Sorted]

theorem applyPathBlock_eq (doc : Document) (content : String) :
    (doc.applyPathBlock content).1 =
      (doc.addEntries (pathEntries (ofPathBlock content).paths)).1 := by
  unfold applyPathBlock ofPathBlock
  cases decodeBlock pathsOutline paths? content with
  | error reason => rfl
  | ok found => cases found <;> rfl

theorem operation?_applyPathBlock (doc : Document) (content url verb : String) :
    (doc.applyPathBlock content).1.operation? url verb =
      (doc.operation? url verb).or ((ofPathBlock content).operation? url verb) := by
  have found := (doc.addEntries_extends (pathEntries (ofPathBlock content).paths)).found (url, verb)
  rw [(lists_routes (ofPathBlock_ordered content)).lookup_eq] at found
  rw [applyPathBlock_eq]
  exact found

theorem operation?_applyPathBlocks (doc : Document) (contents : List String) (url verb : String) :
    (doc.applyPathBlocks contents).operation? url verb =
      (doc.operation? url verb).or
        (contents.findSome? fun content => (ofPathBlock content).operation? url verb) := by
  induction contents generalizing doc with
  | nil => simp [applyPathBlocks]
  | cons content rest ih =>
    have later := ih (doc.applyPathBlock content).1
    rw [operation?_applyPathBlock, Option.or_assoc] at later
    rw [applyPathBlocks, List.foldl_cons, List.findSome?_cons]
    refine later.trans ?_
    cases (ofPathBlock content).operation? url verb <;> rfl

def withPaths (doc : Document) (paths : Dict PathItem) : Document := { doc with paths }

theorem addEntry_frame (doc : Document) (entry : PathEntry) :
    (doc.addEntry entry).1.withPaths doc.paths = doc := by
  unfold addEntry
  dsimp only
  split
  next => rfl
  next => split <;> rfl

theorem addEntries_frame (doc : Document) (entries : List PathEntry) :
    (doc.addEntries entries).1.withPaths doc.paths = doc := by
  induction entries generalizing doc with
  | nil => rfl
  | cons entry rest ih =>
    have here := doc.addEntry_frame entry
    have later := ih (doc.addEntry entry).1
    exact (congrArg (withPaths · doc.paths) later).trans here

theorem applyPathBlocks_frame (doc : Document) (contents : List String) :
    (doc.applyPathBlocks contents).withPaths doc.paths = doc := by
  induction contents generalizing doc with
  | nil => rfl
  | cons content rest ih =>
    have here := doc.addEntries_frame (pathEntries (ofPathBlock content).paths)
    rw [← applyPathBlock_eq] at here
    have later := ih (doc.applyPathBlock content).1
    exact (congrArg (withPaths · doc.paths) later).trans here

def differs (doc : Document) (entry : (String × String) × Operation) : Bool :=
  (byRoute.get? doc entry.1).any fun present => !(present == entry.2)

theorem differs_iff {doc source : Document} (ordered : source.Ordered) (route : String × String) :
    route ∈ ((routes (pathEntries source.paths)).filter doc.differs).map Prod.fst ↔
      byRoute.Clash doc source route := by
  simp only [List.mem_map, List.mem_filter, Prod.exists, exists_and_right, exists_eq_right,
    differs, Option.any_eq_true, Bool.not_eq_true', Keyed.Clash]
  constructor
  · rintro ⟨operation, member, present, held, unequal⟩
    exact ⟨present, operation, held, ((lists_routes ordered).mem_iff route operation).mp member,
      unequal⟩
  · rintro ⟨present, operation, held, declared, unequal⟩
    exact ⟨operation, ((lists_routes ordered).mem_iff route operation).mpr declared, present, held,
      unequal⟩

theorem differs_addEntry (doc : Document) {entry : PathEntry}
    {other : (String × String) × Operation} (apart : (entry.1, entry.2.1) ≠ other.1) :
    (doc.addEntry entry).1.differs other = doc.differs other := by
  have kept := (doc.addEntry_extends entry).found other.1
  have absent : (routes [entry]).lookup other.1 = none := by
    have unequal : (other.1 == (entry.1, entry.2.1)) = false := by simpa using Ne.symm apart
    simp [routes, List.lookup_cons, unequal]
  rw [absent, Option.or_none] at kept
  rw [differs, kept, differs]

theorem addEntry_found (doc : Document) (entry : PathEntry) :
    (doc.addEntry entry).2 =
      if doc.differs ((entry.1, entry.2.1), entry.2.2) then [verbExists (entry.1, entry.2.1)]
      else [] := by
  obtain ⟨url, verb, operation⟩ := entry
  cases held : doc.operation? url verb with
  | none => simp [addEntry, differs, byRoute, held]
  | some present =>
    by_cases equal : (present == operation) = true <;>
      simp [addEntry, differs, byRoute, held, equal, verbExists]

-- No two entries have one route, so what an entry adds makes no difference to the later ones.
theorem addEntries_found (doc : Document) {entries : List PathEntry}
    (distinct : ((routes entries).map Prod.fst).Nodup) :
    (doc.addEntries entries).2 =
      (((routes entries).filter doc.differs).map Prod.fst).map verbExists := by
  induction entries generalizing doc with
  | nil => rfl
  | cons entry rest ih =>
    simp only [routes, List.map_cons, List.nodup_cons] at distinct
    have later := ih (doc.addEntry entry).1 distinct.2
    have same : (routes rest).filter (doc.addEntry entry).1.differs =
        (routes rest).filter doc.differs := by
      apply List.filter_congr
      intro other member
      apply differs_addEntry
      intro shared
      exact distinct.1 (List.mem_map.mpr ⟨other, member, shared.symm⟩)
    rw [same] at later
    simp only [addEntries, later, addEntry_found]
    by_cases here : doc.differs ((entry.1, entry.2.1), entry.2.2) = true <;>
      simp [routes, here]

theorem applyPathBlock_found (doc : Document) {content : String} {paths : Dict PathItem}
    (read : decodeBlock pathsOutline paths? content = .ok (some paths)) :
    ∃ conflicts : List (String × String),
      (doc.applyPathBlock content).2 = conflicts.map verbExists ∧
      conflicts.Pairwise (Prod.Lex (· < ·) (· < ·)) ∧
      ∀ route, route ∈ conflicts ↔ byRoute.Clash doc (ofPathBlock content) route := by
  have ordered := decodeBlock_ordered read
  have same : ofPathBlock content = { paths } := by simp only [ofPathBlock, read]
  have reported : (doc.applyPathBlock content).2 = (doc.addEntries (pathEntries paths)).2 := by
    simp only [applyPathBlock, read]
  refine ⟨((routes (pathEntries paths)).filter doc.differs).map Prod.fst, ?_, ?_, ?_⟩
  · rw [reported]
    exact doc.addEntries_found (lists_routes ordered).distinct
  · exact List.pairwise_map.mpr ((routes_ordered ordered).filter _)
  · intro route
    rw [same]
    exact differs_iff ordered route

theorem applyPathBlock_isError (doc : Document) (content : String) :
    ∀ diagnostic ∈ (doc.applyPathBlock content).2, diagnostic.isError = true := by
  intro diagnostic member
  cases read : decodeBlock pathsOutline paths? content with
  | error reason =>
    simp only [applyPathBlock, read, List.mem_singleton] at member
    subst member
    rfl
  | ok found =>
    cases found with
    | none => simp [applyPathBlock, read] at member
    | some paths =>
      obtain ⟨conflicts, reported, -⟩ := doc.applyPathBlock_found read
      rw [reported, List.mem_map] at member
      obtain ⟨route, -, rfl⟩ := member
      rfl

/-- After path blocks, every operation is the one that the document had or that of the first block
with one. The next block is then reported once if it cannot be read, and otherwise once for each of
its operations that differs from the one held before it, in the order of URLs and verbs. -/
theorem applyPathBlocks_outcome (doc : Document) (earlier : List String) (content : String) :
    let before := doc.applyPathBlocks earlier
    let step := before.applyPathBlock content
    (∀ url verb, before.operation? url verb =
      (doc.operation? url verb).or
        (earlier.findSome? fun block => (ofPathBlock block).operation? url verb)) ∧
    before.withPaths doc.paths = doc ∧
    (∀ reason, decodeBlock pathsOutline paths? content = .error reason →
      step = (before, [undecodable .path reason])) ∧
    (decodeBlock pathsOutline paths? content = .ok none → step = (before, [])) ∧
    (∀ paths, decodeBlock pathsOutline paths? content = .ok (some paths) →
      ∃ conflicts : List (String × String), step.2 = conflicts.map verbExists ∧
        conflicts.Pairwise (Prod.Lex (· < ·) (· < ·)) ∧
        ∀ url verb, (url, verb) ∈ conflicts ↔
          ∃ present declared, before.operation? url verb = some present ∧
            (ofPathBlock content).operation? url verb = some declared ∧
            (present == declared) = false) ∧
    ∀ diagnostic ∈ step.2, diagnostic.isError = true := by
  intro before step
  refine ⟨doc.operation?_applyPathBlocks earlier, doc.applyPathBlocks_frame earlier, ?_, ?_, ?_,
    before.applyPathBlock_isError content⟩
  · intro reason read
    simp only [step, applyPathBlock, read]
  · intro read
    simp only [step, applyPathBlock, read]
  · intro paths read
    obtain ⟨conflicts, reported, ordered, clashes⟩ := before.applyPathBlock_found read
    exact ⟨conflicts, reported, ordered, fun url verb => clashes (url, verb)⟩

end Document

end ApiScribe
