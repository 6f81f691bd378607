import ApiScribe.Document.Blocks
import Mathlib.Data.List.Infix

set_option autoImplicit false

namespace ApiScribe

def Holds {α : Type} (unset before after : α) : Prop := before = unset ∨ after = before

theorem Holds.refl {α : Type} (unset x : α) : Holds unset x x := .inr rfl

theorem Holds.trans {α : Type} {unset a b c : α} (first : Holds unset a b)
    (second : Holds unset b c) : Holds unset a c := by
  rcases first with empty | rfl
  · exact .inl empty
  · exact second

structure Info.Within (before after : Info) : Prop where
  version : Holds "" before.version after.version
  title : Holds "" before.title after.title
  description : Holds "" before.description after.description
  logo : Holds [] before.logo after.logo
  contact : Holds [] before.contact after.contact
  license : Holds [] before.license after.license

theorem Info.within_refl (info : Info) : info.Within info := by
  constructor <;> exact .refl _ _

theorem Info.Within.trans {a b c : Info} (first : a.Within b) (second : b.Within c) :
    a.Within c :=
  ⟨first.version.trans second.version, first.title.trans second.title,
    first.description.trans second.description, first.logo.trans second.logo,
    first.contact.trans second.contact, first.license.trans second.license⟩

section FirstSet

variable {α : Type} [DecidableEq α] (unset : α)

def firstSet (values : List α) : α := (values.find? (· ≠ unset)).getD unset

theorem firstSet_cons (x : α) (rest : List α) :
    firstSet unset (x :: rest) = if x = unset then firstSet unset rest else x := by
  by_cases empty : x = unset <;> simp [firstSet, empty]

theorem firstSet_single (x : α) : firstSet unset [x] = x := by
  by_cases empty : x = unset <;> simp [firstSet, empty]

theorem firstSet_pair (x y : α) : firstSet unset [x, y] = if x = unset then y else x := by
  rw [firstSet_cons, firstSet_single]

theorem firstSet_unset (x : α) : firstSet unset [x, unset] = x := by
  by_cases empty : x = unset <;> simp [firstSet, empty]

theorem firstSet_append (front back : List α) :
    firstSet unset (front ++ back) = firstSet unset (firstSet unset front :: back) := by
  induction front with
  | nil => simp [firstSet]
  | cons x rest ih =>
    by_cases empty : x = unset <;> simp [firstSet_cons, empty, ih]

theorem firstSet_holds (front back : List α) :
    Holds unset (firstSet unset front) (firstSet unset (front ++ back)) := by
  rw [firstSet_append, firstSet_cons]
  by_cases empty : firstSet unset front = unset
  · exact .inl empty
  · exact .inr (if_neg empty)

end FirstSet

structure InfoBlock where
  base : Option String
  content : String

namespace InfoBlock

def info (block : InfoBlock) : Info :=
  match decodeBlock Info.outline Info.decode? block.content with
  | .ok (some incoming) => incoming
  | _ => {}

def imported? (block : InfoBlock) : Option String :=
  (Document.importPath? block.info.description).map fun relative =>
    block.base.elim relative fun folder => Path.join folder relative

def described (read : Document.FileReader) (block : InfoBlock) : String :=
  block.imported?.elim block.info.description fun path => (read path).toOption.getD ""

-- The description that the block brings where one is set. An import is not made there.
def stated (block : InfoBlock) : String :=
  if block.imported?.isSome then "" else block.info.description

def importFailed (path reason : String) : Diagnostic :=
  { problem := .importFailed path reason, subject := "info.description" }

def infoDiffers (field current ignored : String) : Diagnostic :=
  { problem := .infoDiffers current ignored, subject := "info." ++ field }

def importReports (read : Document.FileReader) (block : InfoBlock) : List Diagnostic :=
  block.imported?.elim [] fun path =>
    match read path with
    | .ok _ => []
    | .error reason => [importFailed path reason]

def conflictReports (field current brought : String) : List Diagnostic :=
  if current ≠ "" ∧ brought ≠ "" ∧ brought ≠ current then [infoDiffers field current brought]
  else []

def reports (read : Document.FileReader) (held : Info) (block : InfoBlock) : List Diagnostic :=
  match decodeBlock Info.outline Info.decode? block.content with
  | .error reason => [Document.undecodable .info reason]
  | .ok _ =>
    (if held.description = "" then block.importReports read else []) ++
      conflictReports "version" held.version block.info.version ++
      conflictReports "title" held.title block.info.title ++
      conflictReports "description" held.description block.stated

theorem imported?_silent {block : InfoBlock} (silent : block.info = {}) :
    block.imported? = none := by
  rw [imported?, silent]
  rfl

theorem reports_silent (read : Document.FileReader) (held : Info) {block : InfoBlock}
    (empty : decodeBlock Info.outline Info.decode? block.content = .ok none) :
    block.reports read held = [] := by
  have silent : block.info = {} := by simp only [info, empty]
  simp [reports, empty, importReports, stated, imported?_silent silent, silent, conflictReports]

end InfoBlock

def Info.after (read : Document.FileReader) (info : Info) (blocks : List InfoBlock) : Info where
  version := firstSet "" (info.version :: blocks.map fun block => block.info.version)
  title := firstSet "" (info.title :: blocks.map fun block => block.info.title)
  description := firstSet "" (info.description :: blocks.map fun block => block.described read)
  logo := firstSet [] (info.logo :: blocks.map fun block => block.info.logo)
  contact := firstSet [] (info.contact :: blocks.map fun block => block.info.contact)
  license := firstSet [] (info.license :: blocks.map fun block => block.info.license)

namespace Info

theorem after_nil (read : Document.FileReader) (info : Info) : info.after read [] = info := by
  simp only [after, List.map_nil, firstSet_single]

theorem after_silent (read : Document.FileReader) (info : Info) {block : InfoBlock}
    (silent : block.info = {}) : info.after read [block] = info := by
  have nothing : block.described read = "" := by
    rw [InfoBlock.described, InfoBlock.imported?_silent silent, silent, Option.elim_none]
  simp only [after, List.map_cons, List.map_nil, silent, nothing, firstSet_unset]

theorem after_append (read : Document.FileReader) (info : Info) (front back : List InfoBlock) :
    info.after read (front ++ back) = (info.after read front).after read back := by
  simp only [after, List.map_append, ← List.cons_append, firstSet_append]

theorem after_within (read : Document.FileReader) (info : Info) (front back : List InfoBlock) :
    (info.after read front).Within (info.after read (front ++ back)) := by
  constructor <;>
    (simp only [after, List.map_append, ← List.cons_append]; exact firstSet_holds _ _ _)

end Info

namespace Document

theorem mergeText_eq (name current incoming : String) :
    (mergeText name current incoming).1 = if current = "" then incoming else current := by
  unfold mergeText
  by_cases empty : current = ""
  · subst empty
    by_cases nothing : incoming = ""
    · simp [nothing]
    · simp [nothing, Ne.symm nothing]
  · by_cases skipped : (incoming.isEmpty || current == incoming) = true <;> simp [skipped, empty]

theorem mergeText_found (name current incoming : String) :
    (mergeText name current incoming).2 = InfoBlock.conflictReports name current incoming := by
  unfold mergeText InfoBlock.conflictReports
  by_cases nothing : incoming = ""
  · simp [nothing]
  · by_cases same : current = incoming
    · simp [same]
    · by_cases empty : current = "" <;>
        simp [nothing, same, Ne.symm same, empty, InfoBlock.infoDiffers]

theorem mergeInfo_eq (read : FileReader) (base : Option String) (current incoming : Info) :
    (mergeInfo read base current incoming).1 =
      { version := if current.version = "" then incoming.version else current.version
        title := if current.title = "" then incoming.title else current.title
        description :=
          if current.description = "" then
            (incomingDescription read base "" incoming.description).1
          else current.description
        logo := if current.logo = [] then incoming.logo else current.logo
        contact := if current.contact = [] then incoming.contact else current.contact
        license := if current.license = [] then incoming.license else current.license } := by
  by_cases empty : current.description = "" <;>
    simp [mergeInfo, mergeText_eq, empty]

theorem incomingDescription_unset (read : FileReader) (block : InfoBlock) :
    incomingDescription read block.base "" block.info.description =
      (block.described read, block.importReports read) := by
  obtain ⟨base, content⟩ := block
  rw [incomingDescription, InfoBlock.described, InfoBlock.importReports, InfoBlock.imported?]
  cases importPath? (InfoBlock.info ⟨base, content⟩).description with
  | none => rfl
  | some relative =>
    cases base with
    | none => cases found : read relative <;> simp [found, Except.toOption, InfoBlock.importFailed]
    | some folder =>
      cases found : read (Path.join folder relative) <;>
        simp [found, Except.toOption, InfoBlock.importFailed]

theorem incomingDescription_set (read : FileReader) (block : InfoBlock) {current : String}
    (held : current ≠ "") :
    incomingDescription read block.base current block.info.description = (block.stated, []) := by
  rw [incomingDescription, InfoBlock.stated, InfoBlock.imported?]
  cases importPath? block.info.description <;> simp [held]

theorem applyInfoBlock_eq (doc : Document) (read : FileReader) (block : InfoBlock) :
    doc.applyInfoBlock read block.base block.content =
      ({ doc with info := doc.info.after read [block] }, block.reports read doc.info) := by
  cases decoded : decodeBlock Info.outline Info.decode? block.content with
  | error reason =>
    have silent : block.info = {} := by simp only [InfoBlock.info, decoded]
    rw [Info.after_silent read doc.info silent]
    simp only [applyInfoBlock, InfoBlock.reports, decoded]
  | ok found =>
    cases found with
    | none =>
      have silent : block.info = {} := by simp only [InfoBlock.info, decoded]
      rw [Info.after_silent read doc.info silent, InfoBlock.reports_silent read doc.info decoded]
      simp only [applyInfoBlock, decoded]
    | some incoming =>
      have said : block.info = incoming := by simp only [InfoBlock.info, decoded]
      have unset := incomingDescription_unset read block
      rw [said] at unset
      have merged : (mergeInfo read block.base doc.info incoming).1 = doc.info.after read [block] := by
        rw [mergeInfo_eq, unset]
        simp only [Info.after, List.map_cons, List.map_nil, firstSet_pair, said]
      have reported : (mergeInfo read block.base doc.info incoming).2 =
          block.reports read doc.info := by
        simp only [mergeInfo, mergeText_found, InfoBlock.reports, decoded, said]
        by_cases held : doc.info.description = ""
        · simp [held, unset, InfoBlock.conflictReports]
        · have set := incomingDescription_set read block held
          rw [said] at set
          simp [held, set]
      simp only [applyInfoBlock, decoded, merged, reported]

def applyInfoBlocks (doc : Document) (read : FileReader) :
    List InfoBlock → Document × List Diagnostic
  | [] => (doc, [])
  | block :: rest =>
    let (next, here) := doc.applyInfoBlock read block.base block.content
    let (last, found) := next.applyInfoBlocks read rest
    (last, here ++ found)

theorem applyInfoBlocks_eq (doc : Document) (read : FileReader) (blocks : List InfoBlock) :
    doc.applyInfoBlocks read blocks =
      ({ doc with info := doc.info.after read blocks },
        (blocks.inits.zip blocks).flatMap fun step =>
          step.2.reports read (doc.info.after read step.1)) := by
  induction blocks generalizing doc with
  | nil =>
    rw [Info.after_nil]
    rfl
  | cons block rest ih =>
    have later (front : List InfoBlock) : doc.info.after read (block :: front) =
        (doc.info.after read [block]).after read front :=
      doc.info.after_append read [block] front
    have reported : (fun step : List InfoBlock × InfoBlock =>
          step.2.reports read (doc.info.after read (block :: step.1))) = fun step =>
        step.2.reports read ((doc.info.after read [block]).after read step.1) := by
      funext step
      rw [later step.1]
    rw [applyInfoBlocks, applyInfoBlock_eq, List.inits_cons, List.zip_cons_cons,
      List.zip_map_left, List.flatMap_cons, List.flatMap_map, Info.after_nil, later rest]
    simp only [ih, Prod.map_fst, Prod.map_snd, id_eq, reported]

theorem applyInfoBlock_congr (doc : Document) {read other : FileReader} (block : InfoBlock)
    (same : doc.info.description = "" → ∀ path, block.imported? = some path →
      other path = read path) :
    doc.applyInfoBlock other block.base block.content =
      doc.applyInfoBlock read block.base block.content := by
  have incoming : incomingDescription other block.base doc.info.description
      block.info.description =
      incomingDescription read block.base doc.info.description block.info.description := by
    by_cases held : doc.info.description = ""
    · rw [held, incomingDescription_unset, incomingDescription_unset, InfoBlock.described,
        InfoBlock.described, InfoBlock.importReports, InfoBlock.importReports]
      cases asked : block.imported? with
      | none => rfl
      | some path => simp only [Option.elim_some, same held path asked]
    · rw [incomingDescription_set other block held, incomingDescription_set read block held]
  cases decoded : decodeBlock Info.outline Info.decode? block.content with
  | error reason => simp only [applyInfoBlock, decoded]
  | ok found =>
    cases found with
    | none => simp only [applyInfoBlock, decoded]
    | some brought =>
      have said : block.info = brought := by simp only [InfoBlock.info, decoded]
      rw [said] at incoming
      simp only [applyInfoBlock, decoded, mergeInfo, incoming]

theorem applyInfoBlocks_congr (doc : Document) {read other : FileReader} {blocks : List InfoBlock}
    (same : ∀ earlier block later, blocks = earlier ++ block :: later →
      (doc.info.after read earlier).description = "" → ∀ path, block.imported? = some path →
        other path = read path) :
    doc.applyInfoBlocks other blocks = doc.applyInfoBlocks read blocks := by
  induction blocks generalizing doc with
  | nil => rfl
  | cons block rest ih =>
    have here : doc.applyInfoBlock other block.base block.content =
        doc.applyInfoBlock read block.base block.content := by
      apply applyInfoBlock_congr
      intro unset
      apply same [] block rest rfl
      rw [Info.after_nil]
      exact unset
    rw [applyInfoBlocks, applyInfoBlocks, here, applyInfoBlock_eq]
    dsimp only
    rw [ih]
    intro earlier next later split unset
    apply same (block :: earlier) next later (congrArg (block :: ·) split)
    rw [← List.singleton_append, Info.after_append]
    exact unset

/-- After info blocks, every field has the first value that is set, that of the document before those
of the blocks, and nothing else has changed. A value that is set stays. A block is reported once if it
cannot be read; otherwise for an import that is tried and fails, and for each of version, title and
description that it sets to another value than the one held before it. No file matters but those that
are asked for while the description is not set. -/
theorem applyInfoBlocks_outcome (doc : Document) (read : FileReader) (blocks : List InfoBlock) :
    doc.applyInfoBlocks read blocks =
      ({ doc with info := doc.info.after read blocks },
        (blocks.inits.zip blocks).flatMap fun step =>
          step.2.reports read (doc.info.after read step.1)) ∧
    (∀ earlier later, blocks = earlier ++ later →
      (doc.info.after read earlier).Within (doc.info.after read blocks)) ∧
    (∀ other : FileReader, (∀ earlier block later, blocks = earlier ++ block :: later →
        (doc.info.after read earlier).description = "" → ∀ path, block.imported? = some path →
          other path = read path) →
      doc.applyInfoBlocks other blocks = doc.applyInfoBlocks read blocks) ∧
    (∀ reason, (undecodable .info reason).isError = true) ∧
    (∀ path reason, (InfoBlock.importFailed path reason).isError = true) ∧
    ∀ field current ignored, (InfoBlock.infoDiffers field current ignored).isError = false := by
  refine ⟨doc.applyInfoBlocks_eq read blocks, ?_, fun other same => doc.applyInfoBlocks_congr same,
    fun _ => rfl, fun _ _ => rfl, fun _ _ _ => rfl⟩
  rintro earlier later rfl
  exact doc.info.after_within read earlier later

example : (applyInfoBlocks {} (fun _ => .error "missing")
    [⟨none, "version: 1.2.3\ndescription: import(intro.md)"⟩, ⟨none, "version: 2.0.0\ntitle: Pets"⟩,
      ⟨none, "title: [Pets"⟩]).2.map Diagnostic.subject =
    ["info.description", "info.version", "info block"] := by
  decide +kernel

end Document

end ApiScribe
