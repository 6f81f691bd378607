import ApiScribe.FieldSpec
import Mathlib.Tactic.SplitIfs

set_option autoImplicit false

namespace ApiScribe.FieldSpec

abbrev Mark := String × Token

-- The tokens of attributes that say something, in order. Groups do not.
def marks (attributes : List Attribute) : List Mark :=
  attributes.flatMap fun attr =>
    match Token.tokenize attr.arguments with
    | .ok tokens => (tokens.filter (!·.nested)).map (attr.name, ·)
    | .error _ => []

theorem mem_marks {attributes : List Attribute} {m : Mark} (member : m ∈ marks attributes) :
    ∃ attr ∈ attributes, attr.name = m.1 := by
  obtain ⟨attr, listed, here⟩ := List.mem_flatMap.mp member
  refine ⟨attr, listed, ?_⟩
  split at here
  · obtain ⟨token, -, rfl⟩ := List.mem_map.mp here
    rfl
  · cases here

-- What a token is for the name and the role of its field.
inductive Kind where
  | rename
  | flatten
  | primary
  | attr
  | relation
  | other
  deriving DecidableEq

namespace Kind

def flattens : Kind → Bool
  | .flatten => true
  | _ => false

def givesName : Kind → Bool
  | .rename | .attr | .relation => true
  | _ => false

def isMember : Kind → Bool
  | .attr | .relation => true
  | _ => false

def givesRole : Kind → Bool
  | .primary | .attr | .relation => true
  | _ => false

@[simp] theorem flattens_other : flattens .other = false := rfl

@[simp] theorem givesName_other : givesName .other = false := rfl

@[simp] theorem givesRole_other : givesRole .other = false := rfl

theorem flattens_iff (kind : Kind) : kind.flattens = true ↔ kind = .flatten := by
  cases kind <;> simp [flattens]

theorem isMember_of_name {kind : Kind} (names : kind.givesName = true)
    (other : kind ≠ .rename) : kind.isMember = true := by
  cases kind <;> simp_all [givesName, isMember]

theorem givesRole_of_member {kind : Kind} (member : kind.isMember = true) :
    kind.givesRole = true := by
  cases kind <;> simp_all [givesRole, isMember]

theorem givesName_of_member {kind : Kind} (member : kind.isMember = true) :
    kind.givesName = true := by
  cases kind <;> simp_all [givesName, isMember]

end Kind

namespace Mark

def kind (m : Mark) : Kind :=
  if m.1 = "serde" then
    if m.2.key = "rename" then .rename else if m.2.key = "flatten" then .flatten else .other
  else if m.1 = "jsonapi" then
    if m.2.key = "primary" then .primary
    else if m.2.key = "attr" then .attr
    else if m.2.key = "relation" then .relation
    else .other
  else .other

theorem givesRole_of_ne {m : Mark} (other : m.1 ≠ "jsonapi") : m.kind.givesRole = false := by
  rw [kind, if_neg other]
  split_ifs <;> rfl

def skips (m : Mark) : Bool :=
  m.1 == "serde" && (m.2.key == "skip" || m.2.key == "skip_serializing")

def givesName (m : Mark) : Bool := Kind.givesName (Mark.kind m)

def givesValues (m : Mark) : Bool :=
  m.1 == "validate" && (m.2.key == "enum" || m.2.key == "oneof")

def describes (m : Mark) : Bool := m.1 == "openapi" && m.2.key == "description"

end Mark

-- What one token changes, whatever was read before it.
structure Change where
  name : Option String := none
  role : Role := .none
  enumValues : Option (List String) := none
  description : Option String := none
  required : Bool := false
  stringCoercion : Bool := false
  nullable : Bool := false
  embedded : Bool := false
  omitEmpty : Bool := false

namespace Change

-- The role of a field that is given one more; a role that is given twice is refused.
def roles (given role : Role) : Option Role :=
  if given = .none then some role else if role = .none then some given else none

def write (change : Change) (draft : Draft) (role : Role) : Draft where
  spec := { draft.spec with
    name := change.name.or draft.spec.name
    required := change.required || draft.spec.required
    enumValues := change.enumValues.getD draft.spec.enumValues
    stringCoercion := change.stringCoercion || draft.spec.stringCoercion
    nullable := change.nullable || draft.spec.nullable
    description := change.description.or draft.spec.description
    role }
  embedded := change.embedded || draft.embedded
  omitEmpty := change.omitEmpty || draft.omitEmpty

def apply (change : Change) (draft : Draft) : Option Draft :=
  (roles change.role draft.spec.role).map (change.write draft)

theorem apply_eq_some_iff {change : Change} {draft after : Draft} :
    change.apply draft = some after ↔
      ∃ role, roles change.role draft.spec.role = some role ∧ change.write draft role = after :=
  Option.map_eq_some_iff

end Change

section Steps

open Change

variable {shape : Shape} {token : Token} {draft : Draft}

def required? (token : Token) : Option String := (requiredValue token).toOption

theorem required?_value {value : String} (given : required? token = some value) :
    token.value = some value := by
  unfold required? requiredValue at given
  split at given
  next text found =>
    split_ifs at given
    · cases given
    · cases given
      exact found
  next => cases given

def serdeChange? (token : Token) : Option Change :=
  if token.key = "rename" then (required? token).map fun name => { name := some name }
  else if token.key = "flatten" then some { embedded := true }
  else some {}

def validateChange? (token : Token) : Option Change :=
  if token.key = "required" then some { required := true }
  else if token.key = "enum" ∨ token.key = "oneof" then
    (required? token).map fun value => { enumValues := some (Text.words value) }
  else some {}

def jsonApiChange? (shape : Shape) (token : Token) : Option Change :=
  if token.key = "primary" then (required? token).map fun value => { role := .primary value }
  else if token.key = "attr" then
    (required? token).map fun name => { name := some name, role := .attr false }
  else if token.key = "relation" then
    (required? token).map fun name => { name := some name, role := .relation shape.isSequence }
  else if token.key = "omitempty" then some { omitEmpty := true }
  else none

def openApiChange? (token : Token) : Option Change :=
  if token.key = "string" then some { stringCoercion := true }
  else if token.key = "nullable" then some { nullable := true }
  else if token.key = "description" then
    (required? token).map fun text => { description := some text }
  else none

def change? (shape : Shape) (m : Mark) : Option Change :=
  if m.1 = "serde" then serdeChange? m.2
  else if m.1 = "validate" then validateChange? m.2
  else if m.1 = "jsonapi" then jsonApiChange? shape m.2
  else if m.1 = "openapi" then openApiChange? m.2
  else some {}

def act (shape : Shape) (m : Mark) (draft : Draft) : Option Draft :=
  (change? shape m).bind (·.apply draft)

def step? (shape : Shape) (m : Mark) (draft : Draft) : Option Progress :=
  if m.skips then some (.skipped { draft.spec with ignored := true })
  else (act shape m draft).map .reading

-- What is read of one token is said by its change, errors apart.
def Does (read : Except TagError Progress) (draft : Draft) (change : Option Change) : Prop :=
  read.toOption = (change.bind (·.apply draft)).map .reading

theorem does_change {change : Change} {after : Draft} (free : change.role = .none)
    (same : change.write draft draft.spec.role = after) :
    Does (.ok (.reading after)) draft (some change) := by
  rw [Does, Option.bind_some, Change.apply, roles, if_pos free, Option.map_some, same]
  rfl

theorem does_required {read : String → Except TagError Progress} {change : String → Change}
    (later : ∀ value, Does (read value) draft (some (change value))) :
    Does (requiredValue token >>= read) draft ((required? token).map change) := by
  rw [required?]
  cases requiredValue token with
  | error e => rfl
  | ok value => exact later value

theorem does_role {change : Change} {spec : FieldSpec} {role : Role} (given : role ≠ .none)
    (gives : change.role = role) (before : spec.role = draft.spec.role)
    (same : change.write draft role = { draft with spec := { spec with role } }) :
    Does (setRole spec role >>= fun spec => pure (.reading { draft with spec })) draft
      (some change) := by
  rw [Does, Option.bind_some, setRole, before, Change.apply, gives, roles, if_neg given]
  split_ifs
  · rw [Option.map_some, same]
    rfl
  · rfl

theorem readSerde_does (unskipped : Mark.skips ("serde", token) = false) :
    Does (readSerde draft token) draft (serdeChange? token) := by
  have other : ¬ (token.key = "skip" ∨ token.key = "skip_serializing") := by
    simpa [Mark.skips] using unskipped
  rw [readSerde, if_neg other, serdeChange?]
  split_ifs
  · exact does_required fun _ => does_change rfl rfl
  · exact does_change rfl rfl
  · exact does_change rfl rfl

theorem readValidate_does : Does (readValidate draft token) draft (validateChange? token) := by
  rw [readValidate, validateChange?]
  split_ifs
  · exact does_change rfl rfl
  · exact does_required fun _ => does_change rfl rfl
  · exact does_change rfl rfl

theorem readJsonApi_does :
    Does (readJsonApi shape draft token) draft (jsonApiChange? shape token) := by
  rw [readJsonApi, jsonApiChange?]
  split_ifs
  · exact does_required fun _ => does_role nofun rfl rfl rfl
  · exact does_required fun _ => does_role nofun rfl rfl rfl
  · exact does_required fun _ => does_role nofun rfl rfl rfl
  · exact does_change rfl rfl
  · rfl

theorem readOpenApi_does : Does (readOpenApi draft token) draft (openApiChange? token) := by
  rw [readOpenApi, openApiChange?]
  split_ifs
  · exact does_change rfl rfl
  · exact does_change rfl rfl
  · exact does_required fun _ => does_change rfl rfl
  · rfl

theorem readToken_step {m : Mark} (single : m.2.nested = false) :
    (readToken shape m.1 draft m.2).toOption = step? shape m draft := by
  obtain ⟨name, token⟩ := m
  have counts : ¬ token.nested = true := by simpa using single
  rw [readToken, if_neg counts, step?]
  -- A skip ends the reading; everything else is a change.
  by_cases skips : Mark.skips (name, token) = true
  · obtain ⟨rfl, skip⟩ : name = "serde" ∧ (token.key = "skip" ∨ token.key = "skip_serializing") := by
      simpa [Mark.skips] using skips
    rw [if_pos rfl, if_pos skips, readSerde, if_pos skip]
    rfl
  · rw [if_neg skips, act, change?]
    split_ifs with serde
    · exact readSerde_does (serde ▸ Bool.eq_false_iff.mpr skips)
    · exact readValidate_does
    · exact readJsonApi_does
    · exact readOpenApi_does
    · exact does_change rfl rfl

end Steps

def Gives (shape : Shape) (m : Mark) (role : Role) : Prop :=
  match m.kind with
  | .primary => ∃ resourceType, role = .primary resourceType
  | .attr => role = .attr false
  | .relation => role = .relation shape.isSequence
  | _ => False

theorem Gives.ne_none {shape : Shape} {m : Mark} {role : Role} (gives : Gives shape m role) :
    role ≠ .none := by
  unfold Gives at gives
  split at gives
  · obtain ⟨resourceType, rfl⟩ := gives
    simp
  · simp [gives]
  · simp [gives]
  · exact gives.elim

structure Change.Of (shape : Shape) (m : Mark) (change : Change) : Prop where
  name : if m.kind.givesName then ∃ name, m.2.value = some name ∧ change.name = some name
    else change.name = none
  role : if m.kind.givesRole then Gives shape m change.role else change.role = .none
  embedded : change.embedded = m.kind.flattens
  enumValues : m.givesValues = false → change.enumValues = none
  description : m.describes = false → change.description = none

section Changes

variable {shape : Shape} {token : Token} {change : Change}

theorem Change.Of.other {m : Mark} (kind : m.kind = .other)
    (same : change.name = none ∧ change.role = .none ∧ change.embedded = false)
    (values : m.givesValues = false → change.enumValues = none)
    (description : m.describes = false → change.description = none) : change.Of shape m := by
  obtain ⟨name, role, embedded⟩ := same
  exact ⟨by simpa [kind] using name, by simpa [kind] using role, by simpa [kind] using embedded,
    values, description⟩

theorem serdeChange?_of (made : serdeChange? token = some change) :
    change.Of shape ("serde", token) := by
  unfold serdeChange? at made
  split_ifs at made with renames flattens
  · obtain ⟨name, given, rfl⟩ := Option.map_eq_some_iff.mp made
    have kind : Mark.kind ("serde", token) = .rename := by simp [Mark.kind, renames]
    constructor <;> simp [kind, Kind.givesName, Kind.givesRole, Kind.flattens, required?_value given]
  · cases made
    have kind : Mark.kind ("serde", token) = .flatten := by simp [Mark.kind, flattens]
    constructor <;> simp [kind, Kind.givesName, Kind.givesRole, Kind.flattens]
  · cases made
    have kind : Mark.kind ("serde", token) = .other := by simp [Mark.kind, renames, flattens]
    exact .other kind ⟨rfl, rfl, rfl⟩ (fun _ => rfl) fun _ => rfl

theorem validateChange?_of (made : validateChange? token = some change) :
    change.Of shape ("validate", token) := by
  have kind : Mark.kind ("validate", token) = .other := rfl
  unfold validateChange? at made
  split_ifs at made with required listed
  · cases made
    exact .other kind ⟨rfl, rfl, rfl⟩ (fun _ => rfl) fun _ => rfl
  · obtain ⟨value, -, rfl⟩ := Option.map_eq_some_iff.mp made
    refine .other kind ⟨rfl, rfl, rfl⟩ ?_ fun _ => rfl
    obtain same | same := listed <;> simp [Mark.givesValues, same]
  · cases made
    exact .other kind ⟨rfl, rfl, rfl⟩ (fun _ => rfl) fun _ => rfl

theorem jsonApiChange?_of (made : jsonApiChange? shape token = some change) :
    change.Of shape ("jsonapi", token) := by
  unfold jsonApiChange? at made
  split_ifs at made with primary attr relation omits
  · obtain ⟨value, -, rfl⟩ := Option.map_eq_some_iff.mp made
    have kind : Mark.kind ("jsonapi", token) = .primary := by simp [Mark.kind, primary]
    constructor <;> simp [kind, Gives, Kind.givesName, Kind.givesRole, Kind.flattens]
  · obtain ⟨name, given, rfl⟩ := Option.map_eq_some_iff.mp made
    have kind : Mark.kind ("jsonapi", token) = .attr := by simp [Mark.kind, attr]
    constructor <;>
      simp [kind, Gives, Kind.givesName, Kind.givesRole, Kind.flattens, required?_value given]
  · obtain ⟨name, given, rfl⟩ := Option.map_eq_some_iff.mp made
    have kind : Mark.kind ("jsonapi", token) = .relation := by simp [Mark.kind, relation]
    constructor <;>
      simp [kind, Gives, Kind.givesName, Kind.givesRole, Kind.flattens, required?_value given]
  · cases made
    have kind : Mark.kind ("jsonapi", token) = .other := by simp [Mark.kind, omits]
    exact .other kind ⟨rfl, rfl, rfl⟩ (fun _ => rfl) fun _ => rfl

theorem openApiChange?_of (made : openApiChange? token = some change) :
    change.Of shape ("openapi", token) := by
  have kind : Mark.kind ("openapi", token) = .other := rfl
  unfold openApiChange? at made
  split_ifs at made with coerced nullable described
  · cases made
    exact .other kind ⟨rfl, rfl, rfl⟩ (fun _ => rfl) fun _ => rfl
  · cases made
    exact .other kind ⟨rfl, rfl, rfl⟩ (fun _ => rfl) fun _ => rfl
  · obtain ⟨text, -, rfl⟩ := Option.map_eq_some_iff.mp made
    exact .other kind ⟨rfl, rfl, rfl⟩ (fun _ => rfl) (by simp [Mark.describes, described])

theorem change?_of {m : Mark} (made : change? shape m = some change) : change.Of shape m := by
  obtain ⟨name, token⟩ := m
  unfold change? at made
  dsimp only at made
  split_ifs at made with serde validate jsonapi openapi
  · exact serde ▸ serdeChange?_of made
  · exact validate ▸ validateChange?_of made
  · exact jsonapi ▸ jsonApiChange?_of made
  · exact openapi ▸ openApiChange?_of made
  · cases made
    have kind : Mark.kind (name, token) = .other := by simp [Mark.kind, serde, jsonapi]
    exact .other kind ⟨rfl, rfl, rfl⟩ (fun _ => rfl) fun _ => rfl

end Changes

end ApiScribe.FieldSpec
