import ApiScribe.Yaml.Token.Text

set_option autoImplicit false

namespace ApiScribe.Yaml

open Number

structure KeyPlace where
  token : Nat
  spot : Spot
  required : Bool

structure Scan where
  input : Input
  tokens : Array Token := #[]
  indent : Int := -1
  indents : List Int := []
  keyAllowed : Bool := true
  keys : List (Option KeyPlace) := [none]

namespace Scan

def flowLevel (s : Scan) : Nat := s.keys.length - 1

def inFlow (s : Scan) : Bool := 0 < s.flowLevel

def push (s : Scan) (token : Token) : Scan := { s with tokens := s.tokens.push token }

def pushAt (s : Scan) (n : Nat) (tokens : Array Token) : Scan :=
  { s with tokens := s.tokens.extract 0 n ++ tokens ++ s.tokens.extract n s.tokens.size }

/-- Skips white space and comments, and a byte order mark at the start of a line. In a block a new
line may start a key; before one that may, a tab is not skipped. -/
def skipBlank (flow : Bool) : Input → Bool → Bool → Input × Bool
  | [], allowed, _ => ([], allowed)
  | s :: rest, allowed, comment =>
    if isBreak s.char then skipBlank flow rest (allowed || !flow) false
    else if comment then skipBlank flow rest allowed true
    else if s.char == ' ' || (s.char == '\t' && (flow || !allowed)) ||
        (s.column == 0 && s.char == byteOrderMark) then
      skipBlank flow rest allowed false
    else if s.char == '#' then skipBlank flow rest allowed true
    else (s :: rest, allowed)

/-- A key ends on the line it starts on, at most 1024 characters on. -/
def isStale (key : KeyPlace) (here : Spot) : Bool :=
  key.spot.line < here.line || key.spot.index + 1024 < here.index

def dropStale? (here : Spot) : List (Option KeyPlace) → Option (List (Option KeyPlace))
  | [] => some []
  | none :: rest => (dropStale? here rest).map (none :: ·)
  | some key :: rest =>
    if isStale key here then
      if key.required then none else (dropStale? here rest).map (none :: ·)
    else (dropStale? here rest).map (some key :: ·)

def unroll (column : Int) : Int → List Int → Array Token → Int × List Int × Array Token
  | indent, [], tokens => (indent, [], tokens)
  | indent, outer :: rest, tokens =>
    if column < indent then unroll column outer rest (tokens.push .blockEnd)
    else (indent, outer :: rest, tokens)

def unrollTo (s : Scan) (column : Int) : Scan :=
  if s.inFlow then s
  else
    let (indent, indents, tokens) := unroll column s.indent s.indents s.tokens
    { s with indent, indents, tokens }

def roll (s : Scan) (column : Nat) (at? : Option Nat) (token : Token) : Scan :=
  if s.inFlow || (column : Int) ≤ s.indent then s
  else
    let s := { s with indents := s.indent :: s.indents, indent := column }
    match at? with
    | none => s.push token
    | some n => s.pushAt n #[token]

def removeKey? (s : Scan) : Option Scan :=
  match s.keys with
  | some key :: rest => if key.required then none else some { s with keys := none :: rest }
  | _ => some s

def saveKey? (s : Scan) (here : Spot) : Option Scan :=
  if s.keyAllowed then do
    let s ← s.removeKey?
    let key : KeyPlace :=
      ⟨s.tokens.size, here, !s.inFlow && s.indent == (here.column : Int)⟩
    return { s with keys := some key :: s.keys.tail }
  else some s

def allowKey (s : Scan) (allowed : Bool) : Scan := { s with keyAllowed := allowed }

def moveTo (s : Scan) (input : Input) : Scan := { s with input }

def isNameChar (c : Char) : Bool := c.isAlphanum || c == '_' || c == '-'

def takeName (input : Input) : List Char × Input :=
  ((input.takeWhile fun s => isNameChar s.char).map Spot.char,
    input.dropWhile fun s => isNameChar s.char)

def versionNumber? (input : Input) : Option (Nat × Input) :=
  let digits := (input.takeWhile fun s => s.char.isDigit).map Spot.char
  if digits.isEmpty || 9 < digits.length then none
  else some (decimalValue digits, input.drop digits.length)

def octets? : Nat → Input → List Nat → Option (List Nat × Input)
  | 0, input, octets => some (octets.reverse, input)
  | n + 1, ⟨'%', _, _, _⟩ :: rest, octets =>
    match hexNumber? 2 rest 0 with
    | some (octet, after) => octets? n after (octet :: octets)
    | none => none
  | _ + 1, _, _ => none

/-- The octets of percent escapes that together write one character: the first says how many there
are, and the others must be marked as its followers. -/
def percentEscape? (input : Input) : Option (List UInt8 × Input) := do
  let ([lead], _) ← octets? 1 input [] | none
  let width :=
    if lead < 0x80 then 1 else if lead / 32 == 6 then 2 else if lead / 16 == 14 then 3
    else if lead / 8 == 30 then 4 else 0
  if width == 0 then none
  else
    let (octets, rest) ← octets? width input []
    if octets.tail.all fun o => o / 64 == 2 then return (octets.map Nat.toUInt8, rest) else none

def isUriChar (verbatim : Bool) (c : Char) : Bool :=
  isNameChar c ||
    [';', '/', '?', ':', '@', '&', '=', '+', '$', '.', '%', '!', '~', '*', '\'', '(', ')'].contains c ||
    (verbatim && [',', '[', ']'].contains c)

def uri? (verbatim : Bool) : Nat → Input → List UInt8 → Option (List UInt8 × Input)
  | 0, _, _ => none
  | _ + 1, [], acc => some (acc.reverse, [])
  | fuel + 1, s :: rest, acc =>
    if !isUriChar verbatim s.char then some (acc.reverse, s :: rest)
    else if s.char == '%' then
      match percentEscape? (s :: rest) with
      | some (octets, after) => uri? verbatim fuel after (octets.reverse ++ acc)
      | none => none
    else uri? verbatim fuel rest (s.char.toNat.toUInt8 :: acc)

def handle? (closed : Bool) (input : Input) : Option (List Char × Input) :=
  match input with
  | ⟨'!', _, _, _⟩ :: rest =>
    let (name, after) := takeName rest
    match after with
    | ⟨'!', _, _, _⟩ :: more => some ('!' :: name ++ ['!'], more)
    | _ => if closed && !name.isEmpty then none else some ('!' :: name, after)
  | _ => none

def directive? (input : Input) : Option (Token × Input) := do
  let (name, input) := takeName input
  if name.isEmpty || !Input.endsAt input 0 then none
  else if name = "YAML".toList then
    let (major, input) ← versionNumber? (Input.dropSpaces input)
    let ⟨'.', _, _, _⟩ :: input := input | none
    let (minor, input) ← versionNumber? input
    return (.version major minor, ← Input.dropLine? input)
  else if name = "TAG".toList then
    let (handle, input) ← handle? true (Input.dropSpaces input)
    if input.isEmpty || !(Input.peek input 0).any isSpace then none
    else
      let (start, input) ← uri? true (input.length + 1) (Input.dropSpaces input) []
      if start.isEmpty || !Input.endsAt input 0 then none
      else return (.tagDirective (String.ofList handle) (.ofOctets start), ← Input.dropLine? input)
  else none

def anchorName? (input : Input) : Option (String × Input) :=
  let (name, rest) := takeName input
  let ended :=
    Input.endsAt rest 0 ||
      (Input.peek rest 0).any fun c => ['?', ':', ',', ']', '}', '%', '@', '`'].contains c
  if name.isEmpty || !ended then none else some (String.ofList name, rest)

def tagToken? (input : Input) : Option (Token × Input) := do
  if Input.peek input 1 == some '<' then
    let (suffix, rest) ← uri? true (input.length + 1) (input.drop 2) []
    let ⟨'>', _, _, _⟩ :: rest := rest | none
    if suffix.isEmpty then none else return (.tag "" (.ofOctets suffix), rest)
  else
    let (handle, rest) ← handle? false input
    let (suffix, after) ← uri? false (rest.length + 1) rest []
    if 1 < handle.length && handle.getLast? == some '!' then
      if suffix.isEmpty then none
      else return (.tag (String.ofList handle) (.ofOctets suffix), after)
    else
      let suffix := (Tag.ofText (String.ofList handle.tail)).append (.ofOctets suffix)
      return (if suffix.isEmpty then .tag "" .bare else .tag "!" suffix, after)

def tag? (flow : Bool) (input : Input) : Option (Token × Input) := do
  let (token, rest) ← tagToken? input
  if Input.endsAt rest 0 || (flow && Input.peek rest 0 == some ',') then return (token, rest)
  else none

def closeBlocks? (s : Scan) : Option Scan :=
  ((s.unrollTo (-1)).removeKey?).map (·.allowKey false)

def enterFlow (s : Scan) : Scan := { s with keys := none :: s.keys }

def leaveFlow (s : Scan) : Scan :=
  match s.keys with
  | _ :: outer :: rest => { s with keys := outer :: rest }
  | _ => s

def blockMark? (s : Scan) (here : Spot) (start token : Token) (allowed : Bool) : Option Scan := do
  if !s.inFlow && !s.keyAllowed then none
  else
    let s ← (s.roll here.column none start).removeKey?
    return (s.allowKey allowed).push token

/-- A colon: what stands at the place of the key is one, or a key of several lines ends. -/
def value? (s : Scan) (here : Spot) : Option Scan :=
  match s.keys with
  | some key :: rest =>
    let s := s.pushAt key.token #[.key]
    let s := s.roll key.spot.column (some key.token) .blockMappingStart
    some (({ s with keys := none :: rest }.allowKey false).push .value)
  | _ =>
    if !s.inFlow && !s.keyAllowed then none
    else
      let s := s.roll here.column none .blockMappingStart
      some ((s.allowKey (!s.inFlow)).push .value)

def content? (s : Scan) (here : Spot) (token : Token) (rest : Input) : Option Scan :=
  (s.saveKey? here).map fun s => ((s.allowKey false).push token).moveTo rest

def plain? (s : Scan) (here : Spot) : Option Scan := do
  let (text, rest, broken) ←
    plainText? s.inFlow (s.indent + 1) (s.input.length + 1) s.input [] {}
  let s ← s.content? here (.scalar (String.ofList text.reverse) .plain) rest
  return if broken then s.allowKey true else s

def startsPlain (flow : Bool) (c : Char) (rest : Input) : Bool :=
  let indicators :=
    ['-', '?', ':', ',', '[', ']', '{', '}', '#', '&', '*', '!', '|', '>', '\'', '"', '%', '@', '`']
  !(isSpace c || isBreak c || indicators.contains c) ||
    (c == '-' && !(Input.peek rest 0).any isSpace) ||
    (!flow && (c == '?' || c == ':') && !Input.endsAt rest 0)

def token? (s : Scan) (here : Spot) (rest : Input) : Option Scan :=
  let flow := s.inFlow
  let single (s : Option Scan) : Option Scan := s.map (·.moveTo rest)
  match here.char with
  | '[' => single ((s.saveKey? here).map fun s => (s.enterFlow.allowKey true).push .flowSequenceStart)
  | '{' => single ((s.saveKey? here).map fun s => (s.enterFlow.allowKey true).push .flowMappingStart)
  | ']' => single (s.removeKey?.map fun s => (s.leaveFlow.allowKey false).push .flowSequenceEnd)
  | '}' => single (s.removeKey?.map fun s => (s.leaveFlow.allowKey false).push .flowMappingEnd)
  | ',' => single (s.removeKey?.map fun s => (s.allowKey true).push .flowEntry)
  | '*' => do
    let (name, rest) ← anchorName? rest
    s.content? here (.alias name) rest
  | '&' => do
    let (name, rest) ← anchorName? rest
    s.content? here (.anchor name) rest
  | '!' => do
    let (token, rest) ← tag? flow s.input
    s.content? here token rest
  | '\'' => do
    let (text, rest) ← quotedText? true (rest.length + 1) rest []
    s.content? here (.scalar (String.ofList text.reverse) .singleQuoted) rest
  | '"' => do
    let (text, rest) ← quotedText? false (rest.length + 1) rest []
    s.content? here (.scalar (String.ofList text.reverse) .doubleQuoted) rest
  | c =>
    if c == '-' && Input.endsAt rest 0 then
      single (s.blockMark? here .blockSequenceStart .blockEntry true)
    else if c == '?' && (flow || Input.endsAt rest 0) then
      single (s.blockMark? here .blockMappingStart .key (!flow))
    else if c == ':' && (flow || Input.endsAt rest 0) then single (s.value? here)
    else if (c == '|' || c == '>') && !flow then do
      let s ← s.removeKey?
      let (text, after) ← blockText? (c == '|') s.indent rest
      let style := if c == '|' then Style.literal else .folded
      return ((s.allowKey true).push (.scalar (String.ofList text.reverse) style)).moveTo after
    else if startsPlain flow c rest then s.plain? here
    else none

def step? (s : Scan) (here : Spot) (rest : Input) : Option Scan := do
  let keys ← dropStale? here s.keys
  let s := { s with keys }.unrollTo here.column
  if here.column == 0 && here.char == '%' then
    let s ← s.closeBlocks?
    let (token, rest) ← directive? rest
    return (s.push token).moveTo rest
  else if Input.marksDocument s.input '-' then
    let s ← s.closeBlocks?
    return (s.push .documentStart).moveTo (rest.drop 2)
  else if Input.marksDocument s.input '.' then
    let s ← s.closeBlocks?
    return (s.push .documentEnd).moveTo (rest.drop 2)
  else s.token? here rest

/-- Reads all tokens. Every step takes at least one character. -/
def run? : Nat → Scan → Option (Array Token)
  | 0, _ => none
  | fuel + 1, s =>
    let (input, allowed) := skipBlank s.inFlow s.input s.keyAllowed false
    let s := { s with input, keyAllowed := allowed }
    match input with
    | [] => s.closeBlocks?.map Scan.tokens
    | here :: rest =>
      match s.step? here rest with
      | none => none
      | some s => run? fuel s

end Scan

def tokens? (input : Input) : Option (List Token) :=
  (Scan.run? (input.length + 1) { input }).map Array.toList

end ApiScribe.Yaml
