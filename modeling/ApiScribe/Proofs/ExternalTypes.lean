import ApiScribe.ExternalTypes
import ApiScribe.Proofs.Dict
import ApiScribe.Proofs.Text.Blank
import ApiScribe.Proofs.Text.Pieces

set_option autoImplicit false

namespace ApiScribe.ExternalTypes

open Text

section Lines

/-- The text can stand in a cell: no blank character begins or ends it, and none in it ends a cell,
the line or what counts of the line. -/
structure Clean (text : String) : Prop where
  first : ∀ c ∈ text.toList.head?, isBlank c = false
  last : ∀ c ∈ text.toList.getLast?, isBlank c = false
  plain : ∀ c ∈ text.toList, c ≠ '\t' ∧ c ≠ '#' ∧ c ≠ '\n'

theorem clean_iff (text : String) : Clean text ↔
    text.toList.head?.all (!isBlank ·) = true ∧ text.toList.getLast?.all (!isBlank ·) = true ∧
      text.toList.all (fun c => c != '\t' && c != '#' && c != '\n') = true := by
  simp only [Option.all_eq_true, List.all_eq_true, Bool.not_eq_true', Bool.and_eq_true, bne_iff_ne,
    and_assoc]
  exact ⟨fun clean => ⟨clean.first, clean.last, clean.plain⟩,
    fun ⟨first, last, plain⟩ => ⟨first, last, plain⟩⟩

instance (text : String) : Decidable (Clean text) := decidable_of_iff _ (clean_iff text).symm

structure Cell where
  before : List Char := []
  text : String
  after : List Char := []
  clean : Clean text
  blank : ∀ c ∈ before ++ after, isBlank c = true ∧ c ≠ '\t' ∧ c ≠ '\n'

def Cell.chars (cell : Cell) : List Char :=
  cell.before ++ cell.text.toList ++ cell.after

structure Line where
  cells : List Cell
  comment : Option (List Char) := none
  whole : ∀ rest, comment = some rest → '\n' ∉ rest

namespace Line

def texts (line : Line) : List String := line.cells.map Cell.text

def content (line : Line) : List Char := ['\t'].intercalate (line.cells.map Cell.chars)

def chars (line : Line) : List Char :=
  line.content ++ ((line.comment.map ('#' :: ·)).getD [])

end Line

def render (lines : List Line) : String :=
  String.ofList (['\n'].intercalate (lines.map Line.chars))

theorem Cell.plain (cell : Cell) : ∀ c ∈ cell.chars, c ≠ '\t' ∧ c ≠ '#' ∧ c ≠ '\n' := by
  have around : ∀ c ∈ cell.before ++ cell.after, c ≠ '\t' ∧ c ≠ '#' ∧ c ≠ '\n' := by
    intro c member
    obtain ⟨blank, noTab, noFeed⟩ := cell.blank c member
    refine ⟨noTab, ?_, noFeed⟩
    rintro rfl
    cases blank
  intro c member
  simp only [chars, List.mem_append] at member around
  rcases member with (leading | inside) | trailing
  · exact around c (.inl leading)
  · exact cell.clean.plain c inside
  · exact around c (.inr trailing)

theorem Cell.trim_chars (cell : Cell) : trim cell.chars = cell.text.toList := by
  have blank := cell.blank
  rw [List.forall_mem_append] at blank
  rw [chars, trim_around (fun c member => (blank.1 c member).1) fun c member =>
    (blank.2 c member).1]
  exact trim_eq_self cell.clean.first cell.clean.last

theorem Cell.blank_iff (cell : Cell) :
    (∀ c ∈ cell.chars, isBlank c = true) ↔ cell.text = "" := by
  rw [← trim_eq_nil_iff, cell.trim_chars, String.toList_eq_nil_iff]

namespace Line

variable (line : Line)

theorem content_plain : ∀ c ∈ line.content, c ≠ '#' ∧ c ≠ '\n' := by
  rw [content, forall_mem_intercalate (by decide), List.forall_mem_map]
  exact fun cell _ c member => (cell.plain c member).2

theorem content_blank_iff :
    (∀ c ∈ line.content, isBlank c = true) ↔ ∀ text ∈ line.texts, text = "" := by
  rw [content, forall_mem_intercalate (by decide), List.forall_mem_map, texts, List.forall_mem_map]
  simp only [Cell.blank_iff]

theorem withoutComment_chars : withoutComment line.chars = line.content := by
  have kept : ∀ c ∈ line.content, (c != '#') = true := by
    intro c member
    simpa using (line.content_plain c member).1
  rw [withoutComment, chars, List.takeWhile_append_of_pos kept]
  cases line.comment <;> simp

theorem chars_whole : '\n' ∉ line.chars := by
  rw [chars, List.mem_append, not_or]
  refine ⟨fun member => (line.content_plain _ member).2 rfl, ?_⟩
  cases ending : line.comment with
  | none => simp
  | some rest => simpa using line.whole rest ending

theorem cells?_chars :
    cells? line.chars = if ∀ text ∈ line.texts, text = "" then none else some line.texts := by
  have blank : line.content.all isBlank = true ↔ ∀ text ∈ line.texts, text = "" := by
    rw [List.all_eq_true, content_blank_iff]
  simp only [cells?, withoutComment_chars, blank]
  split
  next => rfl
  next filled =>
    have cut : pieces (· == '\t') line.content = line.cells.map Cell.chars := by
      rw [pieces_eq_iff]
      refine ⟨?_, ?_, rfl⟩
      · intro empty
        exact filled (by simp [texts, List.map_eq_nil_iff.mp empty])
      · rw [List.forall_mem_map]
        exact fun cell _ member => (cell.plain _ member).1 rfl
    simp [cut, texts, Cell.trim_chars, Function.comp_def]

end Line

theorem cells?_return (line : List Char) : cells? (line ++ ['\r']) = cells? line := by
  by_cases commented : '#' ∈ line
  · obtain ⟨front, back, rfl, before⟩ := List.eq_append_cons_of_mem commented
    have kept : ∀ c ∈ front, (c != '#') = true := by
      intro c member
      simpa using fun same : c = '#' => before (same ▸ member)
    simp [cells?, withoutComment, List.takeWhile_append_of_pos kept]
  · have whole (text : List Char) (plain : '#' ∉ text) : withoutComment text = text := by
      rw [withoutComment, List.takeWhile_eq_self_iff]
      intro c member
      simpa using fun same : c = '#' => plain (same ▸ member)
    have blank : isBlank '\r' = true := rfl
    obtain ⟨init, last, uncut, longer⟩ :=
      @pieces_concat (· == '\t') '\r' (by decide) line
    simp [cells?, whole line commented, whole (line ++ ['\r']) (by simpa using commented), uncut,
      longer, trim_append_blank blank, blank]

theorem filterMap_render (lines : List Line) :
    (charLines (render lines).toList).filterMap cells? =
      lines.filterMap fun line => cells? line.chars := by
  rw [filterMap_charLines (by rfl) cells?_return, render, String.toList_ofList]
  cases lines with
  | nil => rfl
  | cons line rest =>
    have cut : pieces (· == '\n') (['\n'].intercalate ((line :: rest).map Line.chars)) =
        (line :: rest).map Line.chars := by
      rw [pieces_eq_iff]
      refine ⟨by simp, ?_, rfl⟩
      rw [List.forall_mem_map]
      exact fun line _ => line.chars_whole
    rw [cut, List.filterMap_map]
    rfl

end Lines

section Rows

structure Columns where
  names : List String
  clean : ∀ name ∈ names, Clean name
  distinct : names.Nodup
  known : ∀ name ∈ ["name", "type", "format"], name ∈ names

structure Row where
  name : String
  type : String
  format : Option String
  filled : ∀ text ∈ name :: type :: format.toList, text ≠ "" ∧ Clean text

namespace Row

def external (row : Row) : ExternalType := ⟨row.type, row.format⟩

def cell (row : Row) (further : String → String) (column : String) : String :=
  if column = "name" then row.name
  else if column = "type" then row.type
  else if column = "format" then row.format.getD ""
  else further column

end Row

-- The line holds the row under the columns. Empty cells at its end may be missing.
def Line.Holds (columns : Columns) (line : Line) (row : Row) : Prop :=
  ∃ further missing, columns.names.map (row.cell further) = line.texts ++ missing ∧
    ∀ text ∈ missing, text = ""

-- The cell for the name or the one for the type is empty or missing.
def Line.Lacks (columns : Columns) (line : Line) : Prop :=
  ∃ column ∈ ["name", "type"], ∀ p ∈ columns.names.zip line.texts, p.1 = column → p.2 = ""

-- Lines that give the rows in order. One that lacks a name or a type, as a blank line and a line
-- with nothing but a comment do, gives none.
inductive Listed (columns : Columns) : List Line → List Row → Prop
  | nil : Listed columns [] []
  | row {line : Line} {row : Row} {lines : List Line} {rows : List Row}
      (holds : line.Holds columns row) (rest : Listed columns lines rows) :
      Listed columns (line :: lines) (row :: rows)
  | passed {line : Line} {lines : List Line} {rows : List Row} (lacks : line.Lacks columns)
      (rest : Listed columns lines rows) : Listed columns (line :: lines) rows

inductive Written (columns : Columns) : List Line → List Row → Prop
  | blank {line : Line} {lines : List Line} {rows : List Row}
      (empty : ∀ text ∈ line.texts, text = "") (rest : Written columns lines rows) :
      Written columns (line :: lines) rows
  | header {line : Line} {lines : List Line} {rows : List Row}
      (names : line.texts = columns.names) (rest : Listed columns lines rows) :
      Written columns (line :: lines) rows

def rowNamed? (rows : List Row) (name : String) : Option ExternalType :=
  (rows.find? fun row => row.name == name).map Row.external

section Cells

variable {columns texts : List String} {column text : String}

theorem mem_zip_iff : (column, text) ∈ columns.zip texts ↔
    ∃ i : Nat, columns[i]? = some column ∧ texts[i]? = some text := by
  simp only [List.mem_iff_getElem?, List.getElem?_zip_eq_some]

theorem eq_of_mem_zip {other : String} (distinct : columns.Nodup)
    (first : (column, text) ∈ columns.zip texts) (second : (column, other) ∈ columns.zip texts) :
    text = other := by
  obtain ⟨i, here, found⟩ := mem_zip_iff.mp first
  obtain ⟨j, there, alsoFound⟩ := mem_zip_iff.mp second
  have bound : i < columns.length := (List.getElem?_eq_some_iff.mp here).1
  obtain rfl : i = j := (List.getElem?_inj bound distinct).mp (here.trans there.symm)
  exact Option.some.inj (found.symm.trans alsoFound)

theorem cellUnder_eq_some_iff (distinct : columns.Nodup) :
    cellUnder column columns texts = some text ↔
      (column, text) ∈ columns.zip texts ∧ text ≠ "" := by
  constructor
  · rw [cellUnder, Option.map_eq_some_iff]
    rintro ⟨⟨other, value⟩, found, rfl⟩
    have member := List.mem_reverse.mp (List.mem_of_find?_eq_some found)
    have counts := List.find?_some found
    simp only [Bool.and_eq_true, beq_iff_eq, Bool.not_eq_true', String.isEmpty_eq_false_iff]
      at counts
    exact ⟨counts.1 ▸ member, counts.2⟩
  · rintro ⟨member, filled⟩
    rw [cellUnder]
    cases found : (columns.zip texts).reverse.find? fun p => p.1 == column && !p.2.isEmpty with
    | none =>
      have none := List.find?_eq_none.mp found _ (List.mem_reverse.mpr member)
      simp [filled] at none
    | some p =>
      obtain ⟨other, value⟩ := p
      have there := List.mem_reverse.mp (List.mem_of_find?_eq_some found)
      have counts := List.find?_some found
      simp only [Bool.and_eq_true, beq_iff_eq] at counts
      obtain ⟨rfl, -⟩ := counts
      rw [Option.map_some, eq_of_mem_zip distinct there member]

theorem cellUnder_append {missing : List String} (distinct : columns.Nodup)
    (empty : ∀ text ∈ missing, text = "") :
    cellUnder column columns (texts ++ missing) = cellUnder column columns texts := by
  apply Option.ext
  intro text
  rw [cellUnder_eq_some_iff distinct, cellUnder_eq_some_iff distinct, mem_zip_iff, mem_zip_iff]
  refine and_congr_left fun filled => exists_congr fun i => and_congr_right fun _ => ?_
  rw [List.getElem?_append]
  split
  next => rfl
  next beyond =>
    have absent : texts[i]? = none := List.getElem?_eq_none (Nat.le_of_not_lt beyond)
    simpa [absent] using fun found => filled (empty text (List.mem_of_getElem? found))

theorem cellUnder_map (distinct : columns.Nodup) (listed : column ∈ columns)
    (f : String → String) :
    cellUnder column columns (columns.map f) = if f column = "" then none else some (f column) := by
  have member : (column, f column) ∈ columns.zip (columns.map f) := by
    obtain ⟨i, here⟩ := List.mem_iff_getElem?.mp listed
    exact mem_zip_iff.mpr ⟨i, here, by simp [here]⟩
  apply Option.ext
  intro text
  rw [cellUnder_eq_some_iff distinct]
  constructor
  · rintro ⟨found, filled⟩
    obtain rfl := eq_of_mem_zip distinct member found
    rw [if_neg filled]
  · intro found
    split at found
    next => cases found
    next filled =>
      cases found
      exact ⟨member, filled⟩

end Cells

variable {columns : Columns} {line : Line} {row : Row} {lines : List Line} {rows : List Row}

theorem addRow_of_holds (holds : line.Holds columns row) (table : ExternalTypes) :
    addRow columns.names table line.texts = Dict.insert row.name row.external table := by
  obtain ⟨further, missing, laid, empty⟩ := holds
  have under (column : String) (key : column ∈ ["name", "type", "format"]) :
      cellUnder column columns.names line.texts =
        if row.cell further column = "" then none else some (row.cell further column) := by
    rw [← cellUnder_map columns.distinct (columns.known column key), laid,
      cellUnder_append columns.distinct empty]
  have format : cellUnder "format" columns.names line.texts = row.format := by
    rw [under "format" (by simp)]
    cases given : row.format with
    | none => simp [Row.cell, given]
    | some format =>
      have filled : format ≠ "" := (row.filled format (by simp [given])).1
      simp [Row.cell, given, filled]
  have named : row.name ≠ "" := (row.filled row.name (by simp)).1
  have typed : row.type ≠ "" := (row.filled row.type (by simp)).1
  simp [addRow, format, under "name" (by simp), under "type" (by simp), Row.cell, named, typed,
    Row.external]

theorem addRow_of_lacks (lacks : line.Lacks columns) (table : ExternalTypes) :
    addRow columns.names table line.texts = table := by
  obtain ⟨column, key, lacking⟩ := lacks
  have none : cellUnder column columns.names line.texts = none := by
    rw [Option.eq_none_iff_forall_ne_some]
    intro text found
    obtain ⟨member, filled⟩ := (cellUnder_eq_some_iff columns.distinct).mp found
    exact filled (lacking _ member rfl)
  simp only [List.mem_cons, List.not_mem_nil, or_false] at key
  unfold addRow
  split
  next name type named typed =>
    rcases key with rfl | rfl
    · cases none.symm.trans named
    · cases none.symm.trans typed
  next => rfl

theorem Line.Holds.filled (holds : line.Holds columns row) :
    ¬ ∀ text ∈ line.texts, text = "" := by
  obtain ⟨further, missing, laid, empty⟩ := holds
  intro none
  have named : row.name ≠ "" := (row.filled row.name (by simp)).1
  have member : row.name ∈ line.texts ++ missing := by
    rw [← laid]
    exact List.mem_map.mpr ⟨"name", columns.known "name" (by simp), by simp [Row.cell]⟩
  rcases List.mem_append.mp member with here | there
  · exact named (none _ here)
  · exact named (empty _ there)

theorem Listed.foldl_addRow (listed : Listed columns lines rows) (table : ExternalTypes) :
    (lines.filterMap fun line => cells? line.chars).foldl (addRow columns.names) table =
      rows.foldl (fun table row => Dict.insert row.name row.external table) table := by
  induction listed generalizing table with
  | nil => rfl
  | row holds rest ih =>
    rw [List.filterMap_cons, Line.cells?_chars, if_neg holds.filled]
    simp only [List.foldl_cons, addRow_of_holds holds, ih]
  | passed lacks rest ih =>
    rw [List.filterMap_cons, Line.cells?_chars]
    split
    next => exact ih table
    next texts found =>
      split at found
      · cases found
      · cases found
        rw [List.foldl_cons, addRow_of_lacks lacks, ih]

theorem Written.ofText_render (written : Written columns lines rows) :
    ofText (render lines) = Dict.ofList (rows.map fun row => (row.name, row.external)) := by
  rw [ofText, filterMap_render]
  induction written with
  | blank empty rest ih =>
    rw [List.filterMap_cons, Line.cells?_chars, if_pos empty]
    exact ih
  | @header line lines rows names rest =>
    have shown : ¬ ∀ text ∈ line.texts, text = "" := by
      intro none
      rw [names] at none
      simpa using none "name" (columns.known "name" (by simp))
    rw [List.filterMap_cons, Line.cells?_chars, if_neg shown, names]
    simp only [rest.foldl_addRow, Dict.ofList, List.foldl_map]

theorem get?_rows (unique : (rows.map Row.name).Nodup) (name : String) :
    Dict.get? (Dict.ofList (rows.map fun row => (row.name, row.external))) name =
      rowNamed? rows name := by
  rw [Dict.get?_ofList, Dict.get?_reverse (by simpa [Dict.keys, Function.comp_def] using unique),
    rowNamed?]
  induction rows with
  | nil => rfl
  | cons row rest ih =>
    rw [List.map_cons, List.nodup_cons] at unique
    by_cases here : row.name = name <;> simp [Dict.get?, here, ih unique.2]

def Line.ofTexts (texts : List String) (clean : ∀ text ∈ texts, Clean text) : Line where
  cells := texts.pmap (fun text clean => { text, clean, blank := by simp }) clean
  whole := by simp

@[simp] theorem Line.texts_ofTexts (texts : List String) (clean : ∀ text ∈ texts, Clean text) :
    (Line.ofTexts texts clean).texts = texts := by
  simp [Line.ofTexts, Line.texts, List.map_pmap]

theorem Row.clean_cell (row : Row) (column : String) : Clean (row.cell (fun _ => "") column) := by
  have empty : Clean "" := by decide
  unfold cell
  split
  · exact (row.filled _ (by simp)).2
  · split
    · exact (row.filled _ (by simp)).2
    · split
      · cases given : row.format with
        | none => exact empty
        | some format => exact (row.filled format (by simp [given])).2
      · exact empty

theorem exists_listed (columns : Columns) (rows : List Row) :
    ∃ lines, Listed columns lines rows := by
  induction rows with
  | nil => exact ⟨[], .nil⟩
  | cons row rest ih =>
    obtain ⟨lines, listed⟩ := ih
    have clean : ∀ text ∈ columns.names.map (row.cell fun _ => ""), Clean text := by
      simpa using fun column _ => row.clean_cell column
    have holds : (Line.ofTexts _ clean).Holds columns row :=
      ⟨fun _ => "", [], by simp, by simp⟩
    exact ⟨_, .row holds listed⟩

/-- Every list of rows of different names can be written under every choice of columns, and however
it is written, a lookup in the table that is read gives the row of the whole path, else the row of
the name, else the row of the qualifier. -/
theorem lookup_written (columns : Columns) {rows : List Row}
    (unique : (rows.map Row.name).Nodup) :
    (∃ lines, Written columns lines rows) ∧
      ∀ lines, Written columns lines rows → ∀ name,
        lookup (ofText (render lines)) name none = rowNamed? rows name ∧
        ∀ qualifier, lookup (ofText (render lines)) name (some qualifier) =
          (rowNamed? rows (qualifier ++ "::" ++ name)).or
            ((rowNamed? rows name).or (rowNamed? rows qualifier)) := by
  constructor
  · obtain ⟨lines, listed⟩ := exists_listed columns rows
    exact ⟨.ofTexts columns.names columns.clean :: lines, .header (by simp) listed⟩
  · intro lines written name
    rw [written.ofText_render]
    simp only [lookup, get?_rows unique, implies_true, and_self]

def moneyColumns : Columns :=
  ⟨["type", "name", "note", "format"], by decide, by decide, by decide⟩

def moneyRows : List Row :=
  [⟨"rust_decimal::Decimal", "string", some "decimal", by decide⟩,
    ⟨"Url", "string", some "uri", by decide⟩, ⟨"bson", "string", none, by decide⟩]

def moneyLines : List Line :=
  [{ cells := [], comment := some " money".toList, whole := by decide },
    .ofTexts moneyColumns.names moneyColumns.clean,
    .ofTexts ["string", "rust_decimal::Decimal", "", "decimal"] (by decide),
    { Line.ofTexts ["string", "Url", "link", "uri"] (by decide) with
      comment := some " links".toList, whole := by decide },
    .ofTexts [] (by decide), .ofTexts ["", "broken"] (by decide),
    .ofTexts ["string", "bson"] (by decide)]

theorem moneyLines_written : Written moneyColumns moneyLines moneyRows := by
  refine .blank (by decide) (.header rfl ?_)
  refine .row ?_ (.row ?_ (.passed ?_ (.passed ?_ (.row ?_ .nil))))
  · exact ⟨fun _ => "", [], by decide, by decide⟩
  · exact ⟨fun _ => "link", [], by decide, by decide⟩
  · exact ⟨"name", by decide, by decide⟩
  · exact ⟨"type", by decide, by decide⟩
  · exact ⟨fun _ => "", ["", ""], by decide, by decide⟩

theorem lookup_written_money :
    (moneyRows.map Row.name).Nodup ∧ Written moneyColumns moneyLines moneyRows ∧
      lookup (ofText (render moneyLines)) "Decimal" (some "rust_decimal") =
        some ⟨"string", some "decimal"⟩ ∧
      lookup (ofText (render moneyLines)) "ObjectId" (some "bson") = some ⟨"string", none⟩ ∧
      lookup (ofText (render moneyLines)) "broken" none = none := by
  have unique : (moneyRows.map Row.name).Nodup := by decide
  have found := (lookup_written moneyColumns unique).2 moneyLines moneyLines_written
  refine ⟨unique, moneyLines_written, ?_, ?_, ?_⟩
  · exact ((found "Decimal").2 "rust_decimal").trans (by decide)
  · exact ((found "ObjectId").2 "bson").trans (by decide)
  · exact (found "broken").1.trans (by decide)

end Rows

end ApiScribe.ExternalTypes
