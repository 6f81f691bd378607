import ApiScribe.Dict
import ApiScribe.Text.Blank

set_option autoImplicit false

namespace ApiScribe

open Text

structure ExternalType where
  type : String
  format : Option String
  deriving DecidableEq, Repr

abbrev ExternalTypes := Dict ExternalType

namespace ExternalTypes

def withoutComment (line : List Char) : List Char :=
  line.takeWhile (· != '#')

def cells? (line : List Char) : Option (List String) :=
  let content := withoutComment line
  if content.all isBlank then none
  else some ((pieces (· == '\t') content).map fun cell => String.ofList (trim cell))

/-- The cell under a column. Empty cells do not count, and of two columns of one name the last that
has a cell counts. -/
def cellUnder (column : String) (columns cells : List String) : Option String :=
  ((columns.zip cells).reverse.find? fun p => p.1 == column && !p.2.isEmpty).map Prod.snd

/-- Adds a row; one without a name or a type adds nothing, and a later row replaces an earlier one of
its name. -/
def addRow (columns : List String) (table : ExternalTypes) (cells : List String) : ExternalTypes :=
  match cellUnder "name" columns cells, cellUnder "type" columns cells with
  | some name, some type =>
    Dict.insert name ⟨type, cellUnder "format" columns cells⟩ table
  | _, _ => table

def ofText (text : String) : ExternalTypes :=
  match (charLines text.toList).filterMap cells? with
  | [] => []
  | columns :: rows => rows.foldl (addRow columns) []

/-- Looks up a name behind a qualifier: first the whole path, then the name, then the qualifier. -/
def lookup (table : ExternalTypes) (name : String) : Option String → Option ExternalType
  | none => Dict.get? table name
  | some qualifier =>
    (Dict.get? table (qualifier ++ "::" ++ name)).or
      ((Dict.get? table name).or (Dict.get? table qualifier))

end ExternalTypes

end ApiScribe
