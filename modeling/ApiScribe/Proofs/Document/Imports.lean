import ApiScribe.Proofs.Document.InfoBlocks
import ApiScribe.Proofs.Text.Blank
import ApiScribe.Proofs.Text.Search

set_option autoImplicit false

namespace ApiScribe

open Text

-- The import of a path stands in a text behind `front`.
def ImportAt (text front path : List Char) : Prop :=
  path ≠ [] ∧ ')' ∉ path ∧ ∃ back, text = front ++ ("import(".toList ++ (path ++ ')' :: back))

def MentionsImport (description : String) : Prop :=
  ∃ front path, ImportAt description.toList front path

def IsImport (description : String) : Prop :=
  ∃ path, path ≠ [] ∧ ')' ∉ path ∧
    trim description.toList = "import(".toList ++ (path ++ [')'])

theorem IsImport.mentions {description : String} (isImport : IsImport description) :
    MentionsImport description := by
  obtain ⟨path, visible, closed, whole⟩ := isImport
  obtain ⟨front, back, -, -, parts⟩ := trim_parts description.toList
  refine ⟨front, path, visible, closed, back, ?_⟩
  rw [parts, whole]
  simp

def Diagnostic.isImportFailure (d : Diagnostic) : Bool :=
  match d.problem with
  | .importFailed _ _ => true
  | _ => false

namespace Document

theorem parenthesized?_eq_some_iff (cs inner : List Char) :
    parenthesized? cs = some inner ↔
      inner ≠ [] ∧ ')' ∉ inner ∧ ∃ back, cs = inner ++ ')' :: back := by
  unfold parenthesized?
  constructor
  · intro found
    obtain ⟨whole, closed, stops⟩ := (span_ne_iff ')' cs _ _).mp ⟨rfl, rfl⟩
    cases rest : cs.dropWhile (· != ')') with
    | nil => simp [rest] at found
    | cons c back =>
      rw [rest] at whole stops
      obtain rfl : c = ')' := stops c rfl
      by_cases empty : cs.takeWhile (· != ')') = []
      · simp [empty] at found
      · obtain rfl : cs.takeWhile (· != ')') = inner := by simpa [rest, empty] using found
        exact ⟨empty, closed, back, whole⟩
  · rintro ⟨visible, closed, back, whole⟩
    obtain ⟨front, rest⟩ := (span_ne_iff ')' cs inner (')' :: back)).mpr
      ⟨whole, closed, by simp⟩
    simp [front, rest, visible]

theorem importAt_iff (text front path : List Char) :
    ImportAt text front path ↔ MatchAt "import(".toList parenthesized? text front path := by
  simp only [MatchAt, parenthesized?_eq_some_iff]
  constructor
  · rintro ⟨visible, closed, back, whole⟩
    exact ⟨_, whole, visible, closed, back, rfl⟩
  · rintro ⟨_, whole, visible, closed, back, rfl⟩
    exact ⟨visible, closed, back, whole⟩

theorem importPath?_eq_none_iff (description : String) :
    importPath? description = none ↔ ¬ MentionsImport description := by
  rw [importPath?, Option.map_eq_none_iff, firstMatch?_eq_none_iff (by decide)]
  simp only [MentionsImport, importAt_iff, not_exists]

theorem importPath?_first {description relative : String}
    (found : importPath? description = some relative) :
    ∃ front path, ImportAt description.toList front path ∧ relative = String.ofList (trim path) ∧
      ∀ earlier other, ImportAt description.toList earlier other → front.length ≤ earlier.length := by
  rw [importPath?] at found
  obtain ⟨path, here, rfl⟩ := Option.map_eq_some_iff.mp found
  obtain ⟨front, matched, first⟩ := firstMatch?_first here
  refine ⟨front, path, (importAt_iff _ _ _).mpr matched, rfl, ?_⟩
  intro earlier other mentioned
  exact first earlier other ((importAt_iff _ _ _).mp mentioned)

end Document

namespace InfoBlock

open Document

theorem imported?_eq_none_iff (block : InfoBlock) :
    block.imported? = none ↔ ¬ MentionsImport block.info.description := by
  rw [imported?, Option.map_eq_none_iff, importPath?_eq_none_iff]

theorem conflictReports_imports (field current brought : String) :
    ∀ d ∈ conflictReports field current brought, d.isImportFailure = false := by
  intro d member
  rw [conflictReports] at member
  split at member
  · rw [List.mem_singleton.mp member]
    rfl
  · cases member

theorem mem_reports_iff (block : InfoBlock) (read : FileReader) {held incoming : Info}
    (unset : held.description = "")
    (decoded : decodeBlock Info.outline Info.decode? block.content = .ok (some incoming))
    {d : Diagnostic} (failure : d.isImportFailure = true) :
    d ∈ block.reports read held ↔ d ∈ block.importReports read := by
  have other (field current brought : String) : d ∉ conflictReports field current brought := by
    intro member
    rw [conflictReports_imports field current brought d member] at failure
    cases failure
  simp [reports, decoded, unset, other]

end InfoBlock

namespace Document

theorem applyInfoBlock_description (doc : Document) (read : FileReader) (block : InfoBlock)
    (unset : doc.info.description = "") :
    (doc.applyInfoBlock read block.base block.content).1.info.description = block.described read := by
  rw [applyInfoBlock_eq]
  simp [Info.after, unset, firstSet_pair]

/-- Where no description is set, the text of a block becomes the description as it stands, whatever
the files hold and without a report of an import, if and only if no import is mentioned in it. Else
the first import that is mentioned counts: the description is what its file holds, or empty with a
report if the file cannot be read. A text that is nothing but an import mentions one. -/
theorem description_outcome (doc : Document) (base : Option String) {content : String}
    {incoming : Info} (unset : doc.info.description = "")
    (decoded : decodeBlock Info.outline Info.decode? content = .ok (some incoming))
    (said : incoming.description ≠ "") :
    ((∀ read, (doc.applyInfoBlock read base content).1.info.description = incoming.description ∧
        (∀ d ∈ (doc.applyInfoBlock read base content).2, d.isImportFailure = false) ∧
        ∀ other, doc.applyInfoBlock other base content = doc.applyInfoBlock read base content) ↔
      ¬ MentionsImport incoming.description) ∧
    (MentionsImport incoming.description →
      ∃ front path, ImportAt incoming.description.toList front path ∧
        (∀ earlier other, ImportAt incoming.description.toList earlier other →
          front.length ≤ earlier.length) ∧
        let file := base.elim (String.ofList (trim path)) (Path.join · (String.ofList (trim path)))
        ∀ read, (doc.applyInfoBlock read base content).1.info.description =
            (read file).toOption.getD "" ∧
          ∀ reason, read file = .error reason →
            InfoBlock.importFailed file reason ∈ (doc.applyInfoBlock read base content).2) ∧
    (IsImport incoming.description → MentionsImport incoming.description) := by
  let block : InfoBlock := ⟨base, content⟩
  have saying : block.info = incoming := by simp only [InfoBlock.info, block, decoded]
  have described (read : FileReader) :
      (doc.applyInfoBlock read base content).1.info.description = block.described read :=
    doc.applyInfoBlock_description read block unset
  have reports (read : FileReader) :
      (doc.applyInfoBlock read base content).2 = block.reports read doc.info :=
    congrArg Prod.snd (doc.applyInfoBlock_eq read block)
  have silent := block.imported?_eq_none_iff
  rw [saying] at silent
  refine ⟨⟨?_, ?_⟩, ?_, IsImport.mentions⟩
  · -- A reader for which every import fails leaves the description empty.
    intro kept mentioned
    have verbatim := (kept fun _ => .error "").1
    rw [described, InfoBlock.described] at verbatim
    cases imported : block.imported? with
    | none => exact silent.mp imported mentioned
    | some file =>
      rw [imported] at verbatim
      exact said verbatim.symm
  · intro unmentioned read
    have none := silent.mpr unmentioned
    refine ⟨?_, ?_, ?_⟩
    · rw [described, InfoBlock.described, none, Option.elim_none, saying]
    · intro d member
      by_contra failure
      rw [reports, block.mem_reports_iff read unset decoded (by simpa using failure),
        InfoBlock.importReports, none] at member
      cases member
    · intro other
      apply applyInfoBlock_congr doc block
      intro _ path asked
      rw [none] at asked
      cases asked
  · intro mentioned
    obtain ⟨relative, found⟩ : ∃ relative, importPath? incoming.description = some relative := by
      rw [← Option.ne_none_iff_exists', Ne, importPath?_eq_none_iff, not_not]
      exact mentioned
    obtain ⟨front, path, here, rfl, first⟩ := importPath?_first found
    refine ⟨front, path, here, first, ?_⟩
    intro file read
    have imported : block.imported? = some file := by
      rw [InfoBlock.imported?, saying, found]
      rfl
    constructor
    · rw [described, InfoBlock.described, imported, Option.elim_some]
    · intro reason failed
      rw [reports, block.mem_reports_iff read unset decoded rfl, InfoBlock.importReports, imported,
        Option.elim_some, failed]
      exact List.mem_singleton_self _

theorem ok_of_toOption {ε α : Type} {result : Except ε α} {x : α}
    (succeeded : result.toOption = some x) : result = .ok x := by
  cases result with
  | error e => cases succeeded
  | ok y => exact congrArg Except.ok (Option.some.inj succeeded)

def proseText : String := "Try import() or import(intro.md, then read on"

theorem description_outcome_prose :
    decodeBlock Info.outline Info.decode? ("title: Pets\ndescription: " ++ proseText) =
      .ok (some { title := "Pets", description := proseText }) ∧
    ¬ MentionsImport proseText ∧
    ∀ read, (applyInfoBlock {} read (some "src")
      ("title: Pets\ndescription: " ++ proseText)).1.info.description = proseText := by
  have decoded : decodeBlock Info.outline Info.decode? ("title: Pets\ndescription: " ++ proseText) =
      .ok (some { title := "Pets", description := proseText }) :=
    ok_of_toOption (by decide +kernel)
  have unmentioned : ¬ MentionsImport proseText :=
    (importPath?_eq_none_iff proseText).mp (by decide +kernel)
  have outcome := description_outcome {} (some "src") rfl decoded (by decide)
  refine ⟨decoded, unmentioned, ?_⟩
  intro read
  exact (outcome.1.mpr unmentioned read).1

theorem mentioned_import_made :
    let content := "description: See import(intro.md) for details"
    let after := applyInfoBlock {} (fun _ => .error "missing") none content
    decodeBlock Info.outline Info.decode? content =
      .ok (some { description := "See import(intro.md) for details" }) ∧
    ¬ IsImport "See import(intro.md) for details" ∧
    after.1.info.description = "" ∧ after.2 = [InfoBlock.importFailed "intro.md" "missing"] := by
  refine ⟨ok_of_toOption (by decide +kernel), ?_, by decide +kernel, by decide +kernel⟩
  rintro ⟨path, -, -, whole⟩
  have start : some 'S' = some 'i' := congrArg List.head? whole
  revert start
  decide

end Document

end ApiScribe
