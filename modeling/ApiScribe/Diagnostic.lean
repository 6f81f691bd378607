import ApiScribe.Tag
import ApiScribe.Text.Visible

set_option autoImplicit false

namespace ApiScribe

open Text

inductive ResolveError where
  | unsupported (what : String)
  | unsupportedMapKey (found : String)
  deriving DecidableEq, Repr

def ResolveError.message : ResolveError → String
  | .unsupported what => "type " ++ what ++ " is unsupported for a schema"
  | .unsupportedMapKey found => "map keys can only be strings or integers, found " ++ found

inductive ResourceFault where
  | missingFields (names : List String)
  | primaryNotId
  | noPrimary
  | severalPrimaries
  | relationWithoutTarget (name : String)
  deriving DecidableEq, Repr

def ResourceFault.message : ResourceFault → String
  | .missingFields names => "missing fields: " ++ joinWith ", " names
  | .primaryNotId => "the primary field must be named `id`"
  | .noPrimary => "no primary field"
  | .severalPrimaries => "more than one primary field"
  | .relationWithoutTarget name => "relation " ++ name ++ " must reference another resource"

inductive Failure where
  | resource (declaration : String) (fault : ResourceFault)
  | duplicateSchema (name : String)
  | pathConflict (url verb source : String)
  | schemaConflict (name source : String)
  | strict (count : Nat) (first : String)
  deriving DecidableEq, Repr

namespace Failure

def message : Failure → String
  | .resource declaration fault => "JSON:API resource " ++ declaration ++ ": " ++ fault.message
  | .duplicateSchema name =>
    "schema " ++ name ++ " is defined more than once with different content"
  | .pathConflict url verb source =>
    "path conflict in " ++ source ++ ": verb " ++ verb ++ " already exists for " ++ url
  | .schemaConflict name source =>
    "schema conflict in " ++ source ++ ": schema " ++ name ++ " already exists and is different"
  | .strict count first =>
    toString count ++ " error(s) while generating the OpenAPI document (first: " ++ first ++ ")"

/-- A structural failure abandons the file it arises in, and not the run. -/
def isStructural : Failure → Bool
  | .resource _ _ => true
  | _ => false

end Failure

inductive BlockKind where
  | path
  | info
  deriving DecidableEq, Repr

def BlockKind.name : BlockKind → String
  | .path => "path"
  | .info => "info"

inductive Problem where
  | badTags (error : TagError)
  | unresolved (error : ResolveError)
  | undecodable (kind : BlockKind) (reason : String)
  | verbExists
  | infoDiffers (current ignored : String)
  | importFailed (path reason : String)
  | abandoned (failure : Failure)
  deriving DecidableEq, Repr

inductive Severity where
  | warning
  | error
  deriving DecidableEq, Repr

namespace Problem

def message : Problem → String
  | .badTags error => error.message
  | .unresolved error => error.message
  | .undecodable kind reason => "unable to decode " ++ kind.name ++ ": " ++ reason
  | .verbExists => "verb for this path already exists"
  | .infoDiffers current ignored =>
    "already set to " ++ quoted current ++ ", ignoring " ++ quoted ignored
  | .importFailed path reason => "could not import " ++ path ++ ": " ++ reason
  | .abandoned failure => failure.message

/-- Only a second value for an information field is no more than a warning. -/
def severity : Problem → Severity
  | .infoDiffers _ _ => .warning
  | _ => .error

end Problem

structure Diagnostic where
  problem : Problem
  subject : String
  file : Option String := none
  deriving DecidableEq, Repr

namespace Diagnostic

def message (d : Diagnostic) : String := d.problem.message

def isError (d : Diagnostic) : Bool := d.problem.severity == .error

def display (d : Diagnostic) : String :=
  (match d.file with
    | some file => file ++ ": "
    | none => "") ++ d.subject ++ ": " ++ d.message

end Diagnostic

end ApiScribe
