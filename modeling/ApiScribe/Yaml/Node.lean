import ApiScribe.Yaml.Scalar

set_option autoImplicit false

namespace ApiScribe.Yaml

inductive Node where
  | alias (name : String)
  | scalar (anchor : Option String) (s : Scalar)
  | sequence (anchor : Option String) (tag : Option Tag) (items : List Node)
  | mapping (anchor : Option String) (tag : Option Tag) (entries : List (Node × Node))

namespace Node

def emptyScalar : Node := .scalar none ⟨"", .plain, none⟩

abbrev Handles := List (String × Tag)

def defaultHandles : Handles := [("!", .bare), ("!!", .core "")]

def tagOf? (handles : Handles) (handle : String) (suffix : Tag) : Option Tag :=
  if handle.isEmpty then some suffix
  else (handles.find? (·.1 == handle)).map fun h => h.2.append suffix

structure Properties where
  anchor : Option String := none
  tag : Option Tag := none

def Properties.isNone (p : Properties) : Bool := p.anchor.isNone && p.tag.isNone

def properties? (handles : Handles) : List Token → Option (Properties × List Token)
  | .anchor a :: .tag h s :: rest =>
    (tagOf? handles h s).map fun tag => (⟨some a, some tag⟩, rest)
  | .tag h s :: .anchor a :: rest =>
    (tagOf? handles h s).map fun tag => (⟨some a, some tag⟩, rest)
  | .anchor a :: rest => some (⟨some a, none⟩, rest)
  | .tag h s :: rest => (tagOf? handles h s).map fun tag => (⟨none, some tag⟩, rest)
  | rest => some ({}, rest)

def startsWith (tokens : List Token) (these : List Token) : Bool :=
  match tokens with
  | t :: _ => these.contains t
  | [] => false

mutual

/-- Reads a node. `block` says that block collections may start here, and `entries` that the entries
of a sequence may stand here without an indentation of their own. -/
def parse? (handles : Handles) (block entries : Bool) :
    Nat → List Token → Option (Node × List Token)
  | 0, _ => none
  | _ + 1, .alias name :: rest => some (.alias name, rest)
  | fuel + 1, tokens =>
    match properties? handles tokens with
    | none => none
    | some (p, tokens) =>
      match tokens with
      | .scalar text style :: rest => some (.scalar p.anchor ⟨text, style, p.tag⟩, rest)
      | .flowSequenceStart :: rest =>
        (flowItems? handles true fuel rest).map fun (items, rest) =>
          (.sequence p.anchor p.tag items, rest)
      | .flowMappingStart :: rest =>
        (flowEntries? handles true fuel rest).map fun (es, rest) => (.mapping p.anchor p.tag es, rest)
      | .blockEntry :: rest =>
        if entries then
          (looseItems? handles fuel (.blockEntry :: rest)).map fun (items, rest) =>
            (.sequence p.anchor p.tag items, rest)
        else if p.isNone then none
        else some (.scalar p.anchor ⟨"", .plain, p.tag⟩, .blockEntry :: rest)
      | .blockSequenceStart :: rest =>
        if block then
          (blockItems? handles fuel rest).map fun (items, rest) =>
            (.sequence p.anchor p.tag items, rest)
        else if p.isNone then none
        else some (.scalar p.anchor ⟨"", .plain, p.tag⟩, .blockSequenceStart :: rest)
      | .blockMappingStart :: rest =>
        if block then
          (blockEntries? handles fuel rest).map fun (es, rest) => (.mapping p.anchor p.tag es, rest)
        else if p.isNone then none
        else some (.scalar p.anchor ⟨"", .plain, p.tag⟩, .blockMappingStart :: rest)
      | rest => if p.isNone then none else some (.scalar p.anchor ⟨"", .plain, p.tag⟩, rest)
termination_by structural fuel => fuel

def blockItems? (handles : Handles) : Nat → List Token → Option (List Node × List Token)
  | fuel + 1, .blockEntry :: rest => do
    let (item, rest) ←
      if rest.isEmpty || startsWith rest [.blockEntry, .blockEnd] then some (emptyScalar, rest)
      else parse? handles true false fuel rest
    let (items, rest) ← blockItems? handles fuel rest
    return (item :: items, rest)
  | _ + 1, .blockEnd :: rest => some ([], rest)
  | _, _ => none
termination_by structural fuel => fuel

def looseItems? (handles : Handles) : Nat → List Token → Option (List Node × List Token)
  | fuel + 1, .blockEntry :: rest => do
    let (item, rest) ←
      if rest.isEmpty || startsWith rest [.blockEntry, .key, .value, .blockEnd] then
        some (emptyScalar, rest)
      else parse? handles true false fuel rest
    let (items, rest) ← looseItems? handles fuel rest
    return (item :: items, rest)
  | 0, _ => none
  | _ + 1, rest => some ([], rest)
termination_by structural fuel => fuel

def blockEntries? (handles : Handles) :
    Nat → List Token → Option (List (Node × Node) × List Token)
  | fuel + 1, .key :: rest => do
    let (key, rest) ←
      if rest.isEmpty || startsWith rest [.key, .value, .blockEnd] then some (emptyScalar, rest)
      else parse? handles true true fuel rest
    let (value, rest) ←
      match rest with
      | .value :: rest =>
        if rest.isEmpty || startsWith rest [.key, .value, .blockEnd] then some (emptyScalar, rest)
        else parse? handles true true fuel rest
      | rest => some (emptyScalar, rest)
    let (entries, rest) ← blockEntries? handles fuel rest
    return ((key, value) :: entries, rest)
  | _ + 1, .blockEnd :: rest => some ([], rest)
  | _, _ => none
termination_by structural fuel => fuel

/-- Reads the items of a flow sequence, with the bracket that ends it. An item may be a single entry
of a mapping. -/
def flowItems? (handles : Handles) (first : Bool) :
    Nat → List Token → Option (List Node × List Token)
  | 0, _ => none
  | _ + 1, .flowSequenceEnd :: rest => some ([], rest)
  | fuel + 1, tokens => do
    let tokens ←
      if first then some tokens
      else
        match tokens with
        | .flowEntry :: rest => some rest
        | _ => none
    match tokens with
    | .flowSequenceEnd :: rest => return ([], rest)
    | .key :: rest => do
      let (entry, rest) ← flowPair? handles fuel rest
      let (items, rest) ← flowItems? handles false fuel rest
      return (.mapping none none [entry] :: items, rest)
    | tokens => do
      let (item, rest) ← parse? handles false false fuel tokens
      let (items, rest) ← flowItems? handles false fuel rest
      return (item :: items, rest)
termination_by structural fuel => fuel

/-- Reads the entry of a mapping that stands in a flow sequence, from behind the mark of its key. The
token behind an empty key is passed over. -/
def flowPair? (handles : Handles) : Nat → List Token → Option ((Node × Node) × List Token)
  | 0, _ => none
  | fuel + 1, tokens => do
    let (key, rest) ←
      if tokens.isEmpty || startsWith tokens [.value, .flowEntry, .flowSequenceEnd] then
        some (emptyScalar, tokens.tail)
      else parse? handles false false fuel tokens
    match rest with
    | .value :: rest => do
      if rest.isEmpty || startsWith rest [.flowEntry, .flowSequenceEnd] then
        return ((key, emptyScalar), rest)
      else
        let (value, rest) ← parse? handles false false fuel rest
        return ((key, value), rest)
    | rest => return ((key, emptyScalar), rest)
termination_by structural fuel => fuel

def flowEntries? (handles : Handles) (first : Bool) :
    Nat → List Token → Option (List (Node × Node) × List Token)
  | 0, _ => none
  | _ + 1, .flowMappingEnd :: rest => some ([], rest)
  | fuel + 1, tokens => do
    let tokens ←
      if first then some tokens
      else
        match tokens with
        | .flowEntry :: rest => some rest
        | _ => none
    match tokens with
    | .flowMappingEnd :: rest => return ([], rest)
    | .key :: rest => do
      let (key, rest) ←
        if rest.isEmpty || startsWith rest [.value, .flowEntry, .flowMappingEnd] then
          some (emptyScalar, rest)
        else parse? handles false false fuel rest
      let (value, rest) ←
        match rest with
        | .value :: rest =>
          if rest.isEmpty || startsWith rest [.flowEntry, .flowMappingEnd] then
            some (emptyScalar, rest)
          else parse? handles false false fuel rest
        | rest => some (emptyScalar, rest)
      let (entries, rest) ← flowEntries? handles false fuel rest
      return ((key, value) :: entries, rest)
    | tokens => do
      let (key, rest) ← parse? handles false false fuel tokens
      let (entries, rest) ← flowEntries? handles false fuel rest
      return ((key, emptyScalar) :: entries, rest)
termination_by structural fuel => fuel

end

structure Directives where
  version : Option (Nat × Nat) := none
  handles : Handles := []

/-- Reads directives: at most one version, which must be 1.1 or 1.2, and no handle twice. -/
def directives? (d : Directives) : List Token → Option (Directives × List Token)
  | .version major minor :: rest =>
    if d.version.isSome || major != 1 || (minor != 1 && minor != 2) then none
    else directives? { d with version := some (major, minor) } rest
  | .tagDirective handle start :: rest =>
    if d.handles.any (·.1 == handle) then none
    else directives? { d with handles := d.handles ++ [(handle, start)] } rest
  | rest => some (d, rest)

/-- Reads a stream of at most one document; the inner result is none if there is no document. -/
def stream? (tokens : List Token) : Option (Option Node) := do
  if tokens.isEmpty then return none
  else
    let (d, rest) ← directives? {} tokens
    let handles := d.handles ++ defaultHandles
    let explicit := startsWith rest [.documentStart]
    if !explicit && (d.version.isSome || !d.handles.isEmpty) then none
    else
      let content := if explicit then rest.tail else rest
      let ends :=
        match content with
        | [] => true
        | .version _ _ :: _ => true
        | .tagDirective _ _ :: _ => true
        | .documentStart :: _ => true
        | .documentEnd :: _ => true
        | _ => false
      let (node, rest) ←
        if explicit && ends then some (emptyScalar, content)
        else parse? handles true false (2 * tokens.length + 4) content
      if rest.all (· = .documentEnd) then return some node else none

end Node

end ApiScribe.Yaml
