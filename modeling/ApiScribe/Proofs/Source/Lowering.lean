import ApiScribe.Source.TypeExpr

set_option autoImplicit false

namespace ApiScribe

inductive Shape.Lowered : Shape → Prop
  | named (name : String) : Lowered (.named name)
  | qualified (qualifier name : String) : Lowered (.qualified qualifier (.named name))
  | optional {inner : Shape} (inside : Lowered inner) : Lowered (.optional inner)
  | sequence {element : Shape} (inside : Lowered element) : Lowered (.sequence element)
  | mapping {key value : Shape} (keyed : Lowered key) (valued : Lowered value) :
      Lowered (.mapping key value)
  | dynamic : Lowered .dynamic
  | unsupported (what : String) : Lowered (.unsupported what)

namespace Source

open Shape

theorem lowered_ite {c : Prop} [Decidable c] {a b : Shape} (yes : Lowered a) (no : Lowered b) :
    Lowered (if c then a else b) := by
  split
  · exact yes
  · exact no

theorem plain_lowered (qualifier : List String) (name : String) :
    Lowered (match qualifier with
      | [] => .named name
      | _ => .qualified (Text.joinWith "::" qualifier) (.named name)) := by
  cases qualifier with
  | nil => exact .named name
  | cons => exact .qualified _ name

theorem pathShape_lowered (qualifier : List String) (name : String) {arguments : List Shape}
    (inside : ∀ shape ∈ arguments, Lowered shape) :
    Lowered (pathShape qualifier name arguments) := by
  have plain := plain_lowered qualifier name
  have wanting : Lowered (.unsupported (name ++ " without type arguments")) := .unsupported _
  refine lowered_ite ?_ (lowered_ite ?_ (lowered_ite ?_ (lowered_ite ?_
    (lowered_ite .dynamic plain))))
  · split
    next inner => exact .optional (inside inner (by simp))
    next => exact wanting
  · split
    next inner rest => exact inside inner (by simp)
    next => exact plain
  · split
    next element rest => exact .sequence (inside element (by simp))
    next => exact lowered_ite wanting plain
  · split
    next key value rest => exact .mapping (inside key (by simp)) (inside value (by simp))
    next => exact lowered_ite plain wanting

mutual

theorem TypeExpr.shape_lowered : (type : TypeExpr) → Lowered type.shape
  | .path _ _ segments => segmentsShape_lowered [] segments
  | .reference target => target.shape_lowered
  | .slice element => .sequence element.shape_lowered
  | .array element => .sequence element.shape_lowered
  | .paren inner => inner.shape_lowered
  | .tuple [] => .unsupported _
  | .tuple (_ :: _) => .unsupported _
  | .traitObject _ => .dynamic
  | .function => .unsupported _
  | .someTrait => .unsupported _
  | .pointer => .unsupported _
  | .never => .unsupported _
  | .other => .unsupported _

theorem segmentsShape_lowered (qualifier : List String) :
    (segments : List Segment) → Lowered (segmentsShape qualifier segments)
  | [] => .unsupported _
  | [segment] => segmentShape_lowered qualifier segment
  | segment :: next :: rest =>
    segmentsShape_lowered (qualifier ++ [segment.name]) (next :: rest)

theorem segmentShape_lowered (qualifier : List String) :
    (segment : Segment) → Lowered (segmentShape qualifier segment)
  | ⟨name, arguments⟩ => pathShape_lowered qualifier name (argumentsShapes_lowered arguments)

theorem argumentsShapes_lowered (arguments : Arguments) :
    ∀ shape ∈ argumentsShapes arguments, Lowered shape := by
  match arguments with
  | .none => exact fun shape member => nomatch member
  | .angle arguments => exact typeShapes_lowered arguments

theorem typeShapes_lowered (arguments : List Argument) :
    ∀ shape ∈ typeShapes arguments, Lowered shape := by
  match arguments with
  | [] => exact fun shape member => nomatch member
  | argument :: rest =>
    intro shape member
    obtain here | later := List.mem_append.mp member
    · exact argumentShape_lowered argument shape here
    · exact typeShapes_lowered rest shape later

theorem argumentShape_lowered (argument : Argument) :
    ∀ shape ∈ argumentShape argument, Lowered shape := by
  match argument with
  | .type type =>
    intro shape member
    rw [List.mem_singleton.mp member]
    exact type.shape_lowered
  | .other => exact fun shape member => nomatch member

end

end Source

end ApiScribe
