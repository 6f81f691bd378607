import ApiScribe.Command

set_option autoImplicit false

namespace ApiScribe

inductive UsageError where
  | helpAsked
  | versionAsked
  | nothingGiven
  | noCommand
  | unknownCommand (word : String)
  | unknownArgument (text : String)
  | valueNotTaken (option : String)
  | givenTwice (option : String)
  | badValue (option : String)
  | missing (names : List String)
  deriving DecidableEq, Repr

def UsageError.message : UsageError → String
  | .helpAsked | .nothingGiven =>
    "Usage: api-scribe generate [OPTIONS] <ROOTS>...\n" ++
      "       api-scribe merge --main <FILE> --dir <DIR> [--output <FILE>]"
  | .versionAsked => "api-scribe 0.1.0"
  | .noCommand => "no command is given"
  | .unknownCommand word => "there is no command " ++ Text.quoted word
  | .unknownArgument text => "unexpected argument " ++ Text.quoted text
  | .valueNotTaken option => "--" ++ option ++ " takes no value"
  | .givenTwice option => "--" ++ option ++ " is given more than once"
  | .badValue option => option ++ " has no value or one that is not allowed"
  | .missing names => "not given: " ++ Text.joinWith ", " names

inductive Flag where
  | help
  | version
  | verbose
  | strict
  | output
  | format
  | includes
  | vendor
  | vendorsPath
  | externalTypes
  | mainFile
  | folder
  deriving DecidableEq, Repr

namespace Flag

def long : Flag → String
  | .help => "help"
  | .version => "version"
  | .verbose => "verbose"
  | .strict => "strict"
  | .output => "output"
  | .format => "format"
  | .includes => "jsonapi-includes"
  | .vendor => "vendor"
  | .vendorsPath => "vendors-path"
  | .externalTypes => "external-types"
  | .mainFile => "main"
  | .folder => "dir"

def short? : Flag → Option Char
  | .help => some 'h'
  | .version => some 'V'
  | .verbose => some 'v'
  | .output => some 'o'
  | .format => some 'f'
  | _ => none

def takesValue : Flag → Bool
  | .help | .version | .verbose | .strict => false
  | _ => true

def repeats : Flag → Bool
  | .vendor => true
  | _ => false

def allows (flag : Flag) (value : String) : Bool :=
  match flag with
  | .help | .version | .verbose | .strict | .vendor => true
  | .format => value == "yaml" || value == "json"
  | .includes => value == "true" || value == "false"
  | .output | .vendorsPath | .externalTypes | .mainFile | .folder => !value.isEmpty

end Flag

structure Usage where
  flags : List Flag
  letters : List Flag
  takesWords : Bool := false

namespace Usage

def top : Usage where
  flags := [.help, .version, .verbose]
  letters := [.help, .version, .verbose]

def generate : Usage where
  flags :=
    [.help, .verbose, .output, .format, .strict, .includes, .vendor, .vendorsPath, .externalTypes]
  letters := [.help, .verbose, .output, .format]
  takesWords := true

def merge : Usage where
  flags := [.help, .verbose, .mainFile, .folder, .output]
  letters := [.help, .verbose]

def ofName? (usage : Usage) (name : String) : Option Flag :=
  usage.flags.find? (·.long == name)

def ofLetter? (usage : Usage) (letter : Char) : Option Flag :=
  usage.letters.find? (·.short? == some letter)

end Usage

inductive Argument where
  | word (text : String)
  | separator
  | named (name : String) (value : Option String)
  | letters (letters : List Char)
  deriving DecidableEq, Repr

def Argument.ofText (text : String) : Argument :=
  match text.toList with
  | ['-', '-'] => .separator
  | '-' :: '-' :: rest =>
    .named (String.ofList (rest.takeWhile (· != '=')))
      (match rest.dropWhile (· != '=') with
        | [] => none
        | _ :: value => some (String.ofList value))
  | '-' :: letter :: rest => .letters (letter :: rest)
  | _ => .word text

inductive Pending where
  | nothing
  | value (flag : Flag) (text : Option String)
  | words (texts : List String)
  deriving DecidableEq, Repr

structure Reading where
  given : List (Flag × String) := []
  words : List String := []
  pending : Pending := .nothing
  onlyWords : Bool := false

namespace Reading

def has (reading : Reading) (flag : Flag) : Bool := reading.given.any (·.1 == flag)

def values (reading : Reading) (flag : Flag) : List String :=
  (reading.given.filter (·.1 == flag)).map Prod.snd

def value? (reading : Reading) (flag : Flag) : Option String := (reading.values flag).head?

/-- Takes in an option with its value. That it was given before counts more than a bad value. -/
def give (reading : Reading) (flag : Flag) (value : String) : Except UsageError Reading :=
  if !flag.repeats && reading.has flag then .error (.givenTwice flag.long)
  else if !flag.allows value then .error (.badValue flag.long)
  else .ok { reading with given := reading.given ++ [(flag, value)] }

def commit (reading : Reading) : Except UsageError Reading :=
  let settled := { reading with pending := .nothing }
  match reading.pending with
  | .nothing => .ok settled
  | .value flag none => .error (.badValue flag.long)
  | .value flag (some text) => settled.give flag text
  | .words texts =>
    if texts.any String.isEmpty then .error (.badValue "ROOTS")
    else .ok { settled with words := settled.words ++ texts }

def react (reading : Reading) (flag : Flag) (value : String) : Except UsageError Reading := do
  let settled ← reading.commit
  match flag with
  | .help => throw .helpAsked
  | .version => throw .versionAsked
  | flag => settled.give flag value

def await (reading : Reading) (flag : Flag) : Except UsageError Reading := do
  let settled ← reading.commit
  return { settled with pending := .value flag none }

/-- An option by its name. A switch with a value, like a name that is not known, is an error whatever
is pending. -/
def named (reading : Reading) (usage : Usage) (name : String) (value : Option String) :
    Except UsageError Reading :=
  match usage.ofName? name with
  | none => .error (.unknownArgument ("--" ++ name))
  | some flag =>
    match flag.takesValue, value with
    | true, some text => reading.react flag text
    | true, none => reading.await flag
    | false, some _ => .error (.valueNotTaken name)
    | false, none => reading.react flag ""

/-- Options by their letters. What follows the letter of an option with a value is the value, with or
without an equals sign before it. -/
def letters (reading : Reading) (usage : Usage) : List Char → Except UsageError Reading
  | [] => .ok reading
  | letter :: rest =>
    match usage.ofLetter? letter with
    | none => .error (.unknownArgument (String.ofList ['-', letter]))
    | some flag =>
      if flag.takesValue then
        match rest with
        | [] => reading.await flag
        | '=' :: value => reading.react flag (String.ofList value)
        | value => reading.react flag (String.ofList value)
      else
        match reading.react flag "" with
        | .ok after => after.letters usage rest
        | .error error => .error error

def word (reading : Reading) (usage : Usage) (text : String) : Except UsageError Reading :=
  if !usage.takesWords then .error (.unknownArgument text)
  else
    match reading.pending with
    | .words texts => .ok { reading with pending := .words (texts ++ [text]) }
    | _ => do
      let settled ← reading.commit
      return { settled with pending := .words [text] }

def take (reading : Reading) (usage : Usage) (text : String) : Except UsageError Reading :=
  if reading.onlyWords then reading.word usage text
  else
    match Argument.ofText text with
    | .separator => .ok { reading with onlyWords := true }
    | .named name value => reading.named usage name value
    | .letters cs => reading.letters usage cs
    | .word text =>
      match reading.pending with
      | .value flag none => .ok { reading with pending := .value flag (some text) }
      | _ => reading.word usage text

def takeAll (reading : Reading) (usage : Usage) : List String → Except UsageError Reading
  | [] => reading.commit
  | text :: rest =>
    match reading.take usage text with
    | .ok after => after.takeAll usage rest
    | .error error => .error error

end Reading

def GenerateOptions.ofReading (reading : Reading) : Except UsageError GenerateOptions :=
  if reading.words.isEmpty then .error (.missing ["ROOTS"])
  else
    .ok
      { roots := reading.words
        output := reading.value? .output
        format := if reading.value? .format == some "json" then .json else .yaml
        strict := reading.has .strict
        includes := reading.value? .includes != some "false"
        vendors := reading.values .vendor
        vendorsPath := reading.value? .vendorsPath
        externalTypes := reading.value? .externalTypes }

def MergeOptions.ofReading (reading : Reading) : Except UsageError MergeOptions :=
  match reading.value? .mainFile, reading.value? .folder with
  | some mainFile, some folder =>
    match reading.value? .output with
    | some output => .ok { mainFile, folder, output }
    | none => .ok { mainFile, folder }
  | mainFile, folder =>
    .error <| .missing <|
      (if mainFile.isNone then ["main"] else []) ++ if folder.isNone then ["dir"] else []

structure Invocation where
  command : Command
  verbose : Bool
  deriving DecidableEq, Repr

namespace Invocation

inductive Verb where
  | generate
  | merge
  | help
  deriving DecidableEq, Repr

def Verb.ofText? (text : String) : Option Verb :=
  if text == "generate" then some .generate
  else if text == "merge" then some .merge
  else if text == "help" then some .help
  else none

def helpOn : List String → UsageError
  | [] => .helpAsked
  | name :: rest =>
    match Verb.ofText? name, rest with
    | none, _ => .unknownCommand name
    | some _, [] => .helpAsked
    | some _, next :: _ => .unknownCommand next

def dispatch (verbose : Bool) (verb : Verb) (arguments : List String) :
    Except UsageError Invocation := do
  match verb with
  | .generate =>
    let reading ← Reading.takeAll {} .generate arguments
    let options ← GenerateOptions.ofReading reading
    return ⟨.generate options, verbose || reading.has .verbose⟩
  | .merge =>
    let reading ← Reading.takeAll {} .merge arguments
    let options ← MergeOptions.ofReading reading
    return ⟨.merge options, verbose || reading.has .verbose⟩
  | .help => throw (helpOn arguments)

def read (reading : Reading) : List String → Except UsageError Invocation
  | [] => .error (if reading.given.isEmpty then .nothingGiven else .noCommand)
  | text :: rest =>
    if reading.onlyWords then
      .error (if (Verb.ofText? text).isSome then .unknownArgument text else .unknownCommand text)
    else
      match Argument.ofText text with
      | .word word =>
        match Verb.ofText? word with
        | some verb => dispatch (reading.has .verbose) verb rest
        | none => .error (.unknownCommand word)
      | _ =>
        match reading.take .top text with
        | .ok after => read after rest
        | .error error => .error error

def ofArguments (arguments : List String) : Except UsageError Invocation :=
  read {} arguments

end Invocation

end ApiScribe
