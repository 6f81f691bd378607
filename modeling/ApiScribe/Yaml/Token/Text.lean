import ApiScribe.Number.Digits
import ApiScribe.Yaml.Input
import ApiScribe.Yaml.Scalar

set_option autoImplicit false

namespace ApiScribe.Yaml

open Number

structure Gap where
  spaces : List Char := []
  broken : Bool := false
  first : Option Char := none
  others : List Char := []

namespace Gap

/-- Takes in white space. Once a line is broken, spaces do not count; a tab left of `limit` is then
not allowed. -/
def take? (limit : Int) : Input → Gap → Option (Gap × Input)
  | [], gap => some (gap, [])
  | s :: rest, gap =>
    if isSpace s.char then
      if gap.broken then
        if s.char == '\t' && (s.column : Int) < limit then none else take? limit rest gap
      else take? limit rest { gap with spaces := s.char :: gap.spaces }
    else if isBreak s.char then
      if gap.broken then take? limit rest { gap with others := s.char :: gap.others }
      else take? limit rest { gap with broken := true, spaces := [], first := some s.char }
    else some (gap, s :: rest)

def fold (gap : Gap) (text : List Char) : List Char :=
  if gap.broken then
    if gap.first = some '\n' then
      if gap.others.isEmpty then ' ' :: text else gap.others ++ text
    else gap.others ++ gap.first.toList ++ text
  else gap.spaces ++ text

end Gap

def isFlowEnd (c : Char) : Bool := [',', '[', ']', '{', '}'].contains c

def plainWord? (flow : Bool) : Input → Option (List Char × Input)
  | [] => some ([], [])
  | s :: rest =>
    if isSpace s.char || isBreak s.char then some ([], s :: rest)
    else if flow && s.char == ':' &&
        (match rest with
          | [] => false
          | n :: _ => isFlowEnd n.char || n.char == '?') then none
    else if (s.char == ':' && Input.endsAt rest 0) || (flow && isFlowEnd s.char) then
      some ([], s :: rest)
    else (plainWord? flow rest).map fun (word, after) => (s.char :: word, after)

/-- Reads a plain scalar, whose lines stand at least at column `indent` outside flow collections. The
last part of the result says whether a line break follows it. -/
def plainText? (flow : Bool) (indent : Int) :
    Nat → Input → List Char → Gap → Option (List Char × Input × Bool)
  | 0, _, _, _ => none
  | fuel + 1, input, text, gap =>
    if Input.atDocumentMark input || Input.peek input 0 == some '#' then some (text, input, gap.broken)
    else
      match plainWord? flow input with
      | none => none
      | some ([], rest) => some (text, rest, gap.broken)
      | some (word, rest) =>
        let text := word.reverse ++ gap.fold text
        if rest.isEmpty || !Input.endsAt rest 0 then some (text, rest, false)
        else
          match Gap.take? indent rest {} with
          | none => none
          | some (gap, after) =>
            match after with
            | s :: _ =>
              if !flow && (s.column : Int) < indent then some (text, after, gap.broken)
              else plainText? flow indent fuel after text gap
            | [] => some (text, [], gap.broken)

def hexNumber? : Nat → Input → Nat → Option (Nat × Input)
  | 0, input, value => some (value, input)
  | n + 1, s :: rest, value =>
    match digitOf? 16 s.char with
    | some d => hexNumber? n rest (16 * value + d)
    | none => none
  | _ + 1, [], _ => none

def hexChar? (n : Nat) (input : Input) : Option (Char × Input) :=
  match hexNumber? n input 0 with
  | none => none
  | some (value, rest) =>
    if h : value.isValidChar then some (Char.ofNatAux value h, rest) else none

def escape? : Input → Option (Char × Input)
  | [] => none
  | s :: rest =>
    let is (n : Nat) : Option (Char × Input) := some (Char.ofNat n, rest)
    match s.char with
    | '0' => is 0
    | 'a' => is 7
    | 'b' => is 8
    | 't' => is 9
    | '\t' => is 9
    | 'n' => is 10
    | 'v' => is 11
    | 'f' => is 12
    | 'r' => is 13
    | 'e' => is 27
    | ' ' => is 32
    | '"' => is 34
    | '/' => is 47
    | '\\' => is 92
    | 'N' => is 0x85
    | '_' => is 0xA0
    | 'L' => is 0x2028
    | 'P' => is 0x2029
    | 'x' => hexChar? 2 rest
    | 'u' => hexChar? 4 rest
    | 'U' => hexChar? 8 rest
    | _ => none

def quotedText? (single : Bool) : Nat → Input → List Char → Option (List Char × Input)
  | 0, _, _ => none
  | _ + 1, [], _ => none
  | fuel + 1, s :: rest, text =>
    let continueAfter (gap : Gap) (input : Input) : Option (List Char × Input) :=
      match Gap.take? 0 input gap with
      | none => none
      | some (gap, after) => quotedText? single fuel after (gap.fold text)
    if Input.atDocumentMark (s :: rest) then none
    else if isSpace s.char || isBreak s.char then continueAfter {} (s :: rest)
    else if single then
      if s.char == '\'' then
        if Input.peek rest 0 == some '\'' then quotedText? single fuel rest.tail ('\'' :: text)
        else some (text, rest)
      else quotedText? single fuel rest (s.char :: text)
    else if s.char == '"' then some (text, rest)
    else if s.char == '\\' then
      if (Input.peek rest 0).any isBreak then continueAfter { broken := true } rest.tail
      else
        match escape? rest with
        | none => none
        | some (c, after) => quotedText? single fuel after (c :: text)
    else quotedText? single fuel rest (s.char :: text)

inductive Chomping where
  | strip
  | clip
  | keep
  deriving DecidableEq, Repr

structure BlockHeader where
  chomping : Chomping := .clip
  indentation : Option Nat := none

def chomping? (c : Char) : Option Chomping :=
  if c == '+' then some .keep else if c == '-' then some .strip else none

def indentation? (c : Char) : Option Nat := (digitOf? 10 c).filter (0 < ·)

def blockHeader? (input : Input) : Option (BlockHeader × Input) :=
  match input with
  | [] => some ({}, [])
  | s :: rest =>
    match chomping? s.char with
    | some chomping =>
      match rest with
      | t :: more =>
        if t.char.isDigit then
          (indentation? t.char).map fun n => ({ chomping, indentation := some n }, more)
        else some ({ chomping }, rest)
      | [] => some ({ chomping }, [])
    | none =>
      if s.char.isDigit then
        match indentation? s.char with
        | none => none
        | some n =>
          match rest with
          | t :: more =>
            match chomping? t.char with
            | some chomping => some ({ chomping, indentation := some n }, more)
            | none => some ({ indentation := some n }, rest)
          | [] => some ({ indentation := some n }, [])
      else some ({}, input)

/-- Takes in the indentation of the next line and the empty lines before it. The result holds the
line breaks backwards and the greatest column reached. A tab in the indentation is an error. -/
def blockBreaks? (indent : Option Nat) :
    Input → List Char → Nat → Option (List Char × Nat × Input)
  | [], breaks, reached => some (breaks, reached, [])
  | s :: rest, breaks, reached =>
    let inside :=
      match indent with
      | none => true
      | some n => s.column < n
    if inside && s.char == ' ' then blockBreaks? indent rest breaks reached
    else
      let reached := max reached s.column
      if inside && s.char == '\t' then none
      else if isBreak s.char then blockBreaks? indent rest (s.char :: breaks) reached
      else some (breaks, reached, s :: rest)

structure BlockText where
  text : List Char := []
  first : Option Char := none
  others : List Char := []
  indented : Bool := false

/-- Adds a line. Folding joins it to the last one unless one of both starts with white space. -/
def BlockText.addLine (literal : Bool) (b : BlockText) (line : List Char) : List Char :=
  let indented := (line.head?.map isSpace).getD false
  if !literal && b.first = some '\n' && !b.indented && !indented then
    line.reverse ++ b.others ++ (if b.others.isEmpty then ' ' :: b.text else b.text)
  else line.reverse ++ b.others ++ b.first.toList ++ b.text

def blockLines? (literal : Bool) (indent : Nat) :
    Nat → Input → BlockText → Option (BlockText × Input)
  | 0, _, _ => none
  | _ + 1, [], b => some (b, [])
  | fuel + 1, s :: rest, b =>
    if s.column != indent then some (b, s :: rest)
    else
      let (line, after) := Input.restOfLine (s :: rest)
      let text := b.addLine literal line
      let indented := (line.head?.map isSpace).getD false
      match blockBreaks? (some indent) after.tail [] 0 with
      | none => none
      | some (others, _, next) =>
        blockLines? literal indent fuel next
          { text, first := after.head?.map Spot.char, others, indented }

def blockText? (literal : Bool) (parent : Int) (input : Input) : Option (List Char × Input) := do
  let (header, input) ← blockHeader? input
  let input ← Input.dropLine? input
  let given := header.indentation.map fun n => if 0 ≤ parent then parent.toNat + n else n
  let (others, reached, input) ← blockBreaks? given input [] 0
  let indent := given.getD (max 1 (max reached (parent + 1).toNat))
  let (b, input) ← blockLines? literal indent (input.length + 1) input { others }
  let text := if header.chomping = .strip then b.text else b.first.toList ++ b.text
  return (if header.chomping = .keep then b.others ++ text else text, input)

end ApiScribe.Yaml
