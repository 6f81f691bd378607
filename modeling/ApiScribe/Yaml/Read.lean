import ApiScribe.Tree.Record
import ApiScribe.Yaml.Node
import ApiScribe.Yaml.Token.Scan

set_option autoImplicit false

namespace ApiScribe.Yaml

inductive Linked where
  | alias (number : Nat)
  | scalar (s : Scalar)
  | sequence (tag : Option Tag) (items : List Linked)
  | mapping (tag : Option Tag) (entries : List (Linked × Linked))

/-- The anchors met so far. An anchor gets the number of different names known before it, and a
number stands for the node that got it last. -/
structure Anchors where
  numbers : Dict Nat := []
  places : List (Nat × Nat) := []
  count : Nat := 0
  nodes : List (Nat × Linked) := []

namespace Anchors

def enter (a : Anchors) (anchor : Option String) : Nat × Anchors :=
  let place := a.count
  let a := { a with count := a.count + 1 }
  match anchor with
  | none => (place, a)
  | some name =>
    let number := a.numbers.length
    (place,
      { a with
        numbers := Dict.insert name number a.numbers
        places := (number, place) :: a.places })

def leave (a : Anchors) (anchor : Option String) (place : Nat) (node : Linked) : Anchors :=
  if anchor.isSome then { a with nodes := (place, node) :: a.nodes } else a

def node? (a : Anchors) (number : Nat) : Option Linked :=
  (a.places.lookup number).bind fun place => a.nodes.lookup place

end Anchors

namespace Linked

mutual

def ofNode? (node : Node) (a : Anchors) : Option (Linked × Anchors) :=
  match node with
  | .alias name =>
    (Dict.get? a.numbers name).map fun number => (.alias number, { a with count := a.count + 1 })
  | .scalar anchor s =>
    let (place, a) := a.enter anchor
    some (.scalar s, a.leave anchor place (.scalar s))
  | .sequence anchor tag items =>
    let (place, a) := a.enter anchor
    match ofItems? items a with
    | none => none
    | some (items, a) =>
      let linked := .sequence tag items
      some (linked, { a with count := a.count + 1 }.leave anchor place linked)
  | .mapping anchor tag entries =>
    let (place, a) := a.enter anchor
    match ofEntries? entries a with
    | none => none
    | some (entries, a) =>
      let linked := .mapping tag entries
      some (linked, { a with count := a.count + 1 }.leave anchor place linked)
termination_by structural node

def ofItems? (nodes : List Node) (a : Anchors) : Option (List Linked × Anchors) :=
  match nodes with
  | [] => some ([], a)
  | node :: rest =>
    match ofNode? node a with
    | none => none
    | some (linked, a) => (ofItems? rest a).map fun (others, a) => (linked :: others, a)
termination_by structural nodes

def ofEntries? (entries : List (Node × Node)) (a : Anchors) :
    Option (List (Linked × Linked) × Anchors) :=
  match entries with
  | [] => some ([], a)
  | (key, value) :: rest =>
    match ofNode? key a with
    | none => none
    | some (key, a) =>
      match ofNode? value a with
      | none => none
      | some (value, a) => (ofEntries? rest a).map fun (others, a) => ((key, value) :: others, a)
termination_by structural entries

end

/-- Follows an alias, if aliases may still be followed `budget` times. -/
def follow? (a : Anchors) (node : Linked) (budget : Nat) : Option (Linked × Nat) :=
  match node with
  | .alias number =>
    match budget with
    | 0 => none
    | budget + 1 => (a.node? number).map fun node => (node, budget)
  | node => some (node, budget)

def gather? {α β : Type} (f : α → Nat → Option (Option β × Nat)) :
    List α → Nat → Option (List β × Nat)
  | [], budget => some ([], budget)
  | x :: rest, budget =>
    match f x budget with
    | none => none
    | some (y, budget) =>
      (gather? f rest budget).map fun (ys, budget) => (y.toList ++ ys, budget)

def key? (a : Anchors) (node : Linked) (budget : Nat) : Option (Scalar × Nat) :=
  match follow? a node budget with
  | some (.scalar s, budget) => some (s, budget)
  | _ => none

def pair? (a : Anchors) (read : Outline → Linked → Nat → Option (Tree × Nat)) (outline : Outline)
    (entry : Linked × Linked) (budget : Nat) : Option (Option (Tree × Tree) × Nat) :=
  let value (outline : Outline) (key : Tree) (budget : Nat) :=
    (read outline entry.2 budget).map fun (value, budget) => (some (key, value), budget)
  match outline with
  | .whole => (read .whole entry.1 budget).bind fun (key, budget) => value .whole key budget
  | .dict outline =>
    (key? a entry.1 budget).bind fun (key, budget) => value outline (.scalar key) budget
  | .record fields =>
    (key? a entry.1 budget).bind fun (key, budget) =>
      match fields.lookup key.text with
      | none => some (none, budget)
      | some outline => value outline (.scalar key) budget
  | _ => none

/-- The tree of a node as far as `outline` asks for it; none if it is nested more than `depth` deep
or is not of the kind that is asked for. -/
def expand? (a : Anchors) : Nat → Outline → Linked → Nat → Option (Tree × Nat)
  | depth, outline, node, budget =>
    match follow? a node budget with
    | some (.scalar s, budget) => some (.scalar s, budget)
    | some (.sequence tag items, budget) =>
      match depth, outline.unfold.items? with
      | depth + 1, some outline =>
        (gather? (fun item budget =>
          (expand? a depth outline item budget).map fun (t, budget) => (some t, budget))
          items budget).map fun (trees, budget) => (.seq tag trees, budget)
      | _, _ => none
    | some (.mapping tag entries, budget) =>
      match depth with
      | 0 => none
      | depth + 1 =>
        (gather? (pair? a (expand? a depth) outline.unfold) entries budget).map
          fun (trees, budget) => (.map tag trees, budget)
    | _ => none

end Linked

def greatestDepth : Nat := 128

inductive ReadError where
  | malformed
  | ungrammatical
  | unknownAlias
  | unreadable
  deriving DecidableEq, Repr

def ReadError.message : ReadError → String
  | .malformed => "the text has no tokens of YAML"
  | .ungrammatical => "the text is not one document of YAML"
  | .unknownAlias => "an alias has no anchor before it"
  | .unreadable => "a part is not of the expected kind, nested too deeply or repeated too often"

def read (outline : Outline) (text : String) : Except ReadError (Option Tree) :=
  match (inputOf? text).bind tokens? with
  | none => .error .malformed
  | some tokens =>
    match Node.stream? tokens with
    | none => .error .ungrammatical
    | some none => .ok none
    | some (some node) =>
      match Linked.ofNode? node {} with
      | none => .error .unknownAlias
      | some (linked, anchors) =>
        match Linked.expand? anchors greatestDepth outline linked (100 * anchors.count) with
        | none => .error .unreadable
        | some (tree, _) => .ok (some tree)

end ApiScribe.Yaml
