import ApiScribe.Source.Grammar

set_option autoImplicit false

namespace ApiScribe.Source

open Reader Look

structure PathForm where
  isQualified : Bool
  isGlobal : Bool
  segments : List Segment

namespace PathForm

def type (path : PathForm) : TypeExpr :=
  .path path.isQualified path.isGlobal path.segments

def isPlain (path : PathForm) : Bool :=
  !path.isQualified && path.segments.all (·.arguments.isNone)

def lastIsBare (path : PathForm) : Bool :=
  match path.segments.getLast? with
  | some segment => segment.arguments.isEmpty
  | none => false

end PathForm

def TypeExpr.isSingleName : TypeExpr → Bool
  | .path false false [⟨_, .none⟩] => true
  | .path false false [⟨_, .angle _⟩] => true
  | _ => false

def TypeExpr.startsSum : TypeExpr → Bool
  | .path isQualified _ _ => !isQualified
  | .traitObject isBound => isBound
  | _ => false

def Look.genericParameters (rest : List Lexeme) : Bool :=
  marks "<" rest &&
    (second (marks ">") rest || second (marks "#") rest ||
      ((second lifetime rest || second name rest) &&
        third (either [colon, marks ",", marks ">", marks "="]) rest) ||
      second (word "const") rest)

def Look.builtin (rest : List Lexeme) : Bool :=
  word "builtin" rest && second (marks "#") rest

def Look.callArguments (rest : List Lexeme) : Bool :=
  group .round rest || (marks "::" rest && third (group .round) rest)

def Look.startsBound (takesConst : Bool) (rest : List Lexeme) : Bool :=
  either [anyWord, marks "::", marks "?", lifetime, group .round] rest ||
    (takesConst && group .square rest)

namespace Grammar

def constArgument (g : Grammar) : Reader Unit := do
  if ← sees literal then takeLiteral
  else if ← sees name then
    let _ ← takeName
  else
    let _ ← blockWithAttrs g

def lifetimeParameter : Reader Unit := do
  takeLifetime
  if ← optionalMarks ":" then
    let _ ← chain (either [nothing, marks ",", marks ">"]) "+" takeLifetime

def forLifetimes (g : Grammar) : Reader Unit := do
  takeWord "for"
  takeMarks "<"
  let _ ← list (marks ">") do
    let _ ← outerAttrs g
    lifetimeParameter
  takeMarks ">"

def optionalForLifetimes (g : Grammar) : Reader Bool := do
  if ← sees (word "for") then
    forLifetimes g
    return true
  else return false

def capturedParameters : Reader Unit := do
  takeWord "use"
  takeMarks "<"
  let _ ← list (marks ">") do
    if ← sees lifetime then takeLifetime
    else
      require (← sees (either [name, word "Self"]))
      let _ ← takeAnyWord
  takeMarks ">"

def callArguments (g : Grammar) : Reader Unit := do
  let _ ← inside .round (listToEnd (g.typeExpr true))
  if ← optionalMarks "->" then
    let _ ← g.typeExpr false

def argument (g : Grammar) : Reader Argument := do
  if ← sees fun rest => lifetime rest && !second (marks "+") rest then
    takeLifetime
    return .other
  if ← sees (either [literal, group .curly]) then
    constArgument g
    return .other
  let type ← g.typeExpr true
  if type.isSingleName then
    if ← optionalMarks "=" then
      if ← sees (either [literal, group .curly]) then constArgument g
      else
        let _ ← g.typeExpr true
      return .other
    if ← optionalMarks ":" then
      let _ ← chain (either [marks ",", marks ">"]) "+" (g.bound false true)
      return .other
  return .type type

def angleArguments (g : Grammar) : Reader (List Argument) := do
  let _ ← optionalMarks "::"
  takeMarks "<"
  let arguments ← list (marks ">") (argument g)
  takeMarks ">"
  return arguments

/-- A segment of a path. In an expression `<` opens arguments only after `::`. -/
def segment (g : Grammar) (inExpr : Bool) : Reader Segment := do
  if ← sees (either [word "super", word "self", word "crate", word "try"]) then
    return ⟨← takeAnyWord, .none⟩
  let name ← if ← sees (word "Self") then takeAnyWord else takeName
  if ← sees fun rest =>
      (!inExpr && marks "<" rest && !marks "<=" rest && !marks "<<=" rest) ||
        (marks "::" rest && third (marks "<") rest) then
    return ⟨name, .angle (← angleArguments g)⟩
  else return ⟨name, .none⟩

def moreSegments (g : Grammar) (inExpr : Bool) : Reader (List Segment) :=
  asLongAs (fun rest => marks "::" rest && !third (group .round) rest) do
    takeMarks "::"
    segment g inExpr

def path (g : Grammar) (inExpr : Bool) : Reader PathForm := do
  let isGlobal ← optionalMarks "::"
  let first ← segment g inExpr
  return ⟨false, isGlobal, first :: (← moreSegments g inExpr)⟩

/-- The bound by a trait; gives whether it is one of the constant kinds. One that is general in
lifetimes cannot be optional. -/
def traitBound (g : Grammar) (takesConst : Bool) : Reader Bool := do
  let isGeneral ← optionalForLifetimes g
  let isConst ← do
    if ← sees (group .square) then
      inside .square (takeWord "const")
      pure true
    else optionalWord "const"
  require (takesConst || !isConst)
  let isOptional ← optionalMarks "?"
  require (!isGeneral || !isOptional)
  let path ← path g false
  if path.lastIsBare && (← sees Look.callArguments) then
    let _ ← optionalMarks "::"
    callArguments g
  return isConst

def boundRule (g : Grammar) (takesCapture takesConst : Bool) : Reader BoundForm := do
  if ← sees lifetime then
    takeLifetime
    return .lifetime
  if ← sees (word "use") then
    capturedParameters
    require takesCapture
    return .capture
  let (isConst, found) ← capture do
    if ← sees (group .round) then inside .round (traitBound g takesConst)
    else traitBound g takesConst
  unless isConst do note found
  return .aTrait

def bounds (g : Grammar) (takesSum takesCapture takesConst : Bool) : Reader (List BoundForm) := do
  let first ← g.bound takesCapture takesConst
  if takesSum && (← sees (marks "+")) then
    takeMarks "+"
    let more ← chain (fun rest => !Look.startsBound takesConst rest) "+" (g.bound takesCapture takesConst)
    return first :: more
  else return [first]

def qualifiedPath (g : Grammar) (inExpr : Bool) : Reader PathForm := do
  if ← optionalMarks "<" then
    let _ ← g.typeExpr true
    let leading ← do
      if ← optionalWord "as" then pure (← path g false).segments else pure []
    takeMarks ">"
    takeMarks "::"
    let first ← segment g inExpr
    let more ← asLongAs (marks "::") do
      takeMarks "::"
      segment g inExpr
    return ⟨true, leading.isEmpty, leading ++ first :: more⟩
  else path g inExpr

def genericParameter (g : Grammar) : Reader Unit := do
  let _ ← outerAttrs g
  if ← sees lifetime then lifetimeParameter
  else if ← sees name then
    let _ ← takeName
    if ← optionalMarks ":" then
      let _ ← chain (either [nothing, marks ",", marks ">", marks "="]) "+" (g.bound false true)
    if ← optionalMarks "=" then
      let _ ← g.typeExpr true
  else if ← optionalWord "const" then
    let _ ← takeName
    takeMarks ":"
    let _ ← g.typeExpr true
    if ← optionalMarks "=" then constArgument g
  else takeWord "_"

def generics (g : Grammar) : Reader Bool := do
  if ← optionalMarks "<" then
    let _ ← list (marks ">") (genericParameter g)
    takeMarks ">"
    return true
  else return false

def wherePredicate (g : Grammar) : Reader Unit := do
  if ← sees fun rest => lifetime rest && second (marks ":") rest then
    takeLifetime
    takeMarks ":"
    let _ ← chain (either [nothing, group .curly, marks ",", marks ";", marks ":", marks "="]) "+"
      takeLifetime
  else
    let _ ← optionalForLifetimes g
    let _ ← g.typeExpr true
    takeMarks ":"
    let _ ← chain (either [nothing, group .curly, marks ",", marks ";", colon, marks "="]) "+"
      (g.bound false true)

def whereClause (g : Grammar) : Reader Bool := do
  if ← optionalWord "where" then
    require (!(← sees Look.genericParameters))
    let _ ← chain (either [nothing, group .curly, marks ",", marks ";", colon, marks "="]) ","
      (wherePredicate g)
    return true
  else return false

def abi : Reader Unit := do
  if ← optionalWord "extern" then
    if ← sees textLiteral then advance 1

def pointerParameter (g : Grammar) (isFirst : Bool) : Reader Unit := do
  let changesSelf := isFirst && (← sees fun rest => word "mut" rest && second (word "self") rest)
  if changesSelf then takeWord "mut"
  let isNamed ← sees fun rest =>
    (either [name, word "_"] rest || (isFirst && word "self" rest)) && second colon rest
  let isReceiver := isNamed && (← sees (word "self"))
  if isNamed then
    let _ ← takeAnyWord
    takeMarks ":"
  if ← sees fun rest =>
      isFirst && !isReceiver && word "mut" rest && second (word "self") rest then
    takeWord "mut"
    takeWord "self"
  else if changesSelf && !isNamed then takeWord "self"
  else if changesSelf then
    let _ ← forgetting (g.typeExpr true)
  else
    let _ ← g.typeExpr true

def pointerParametersFrom (g : Grammar) : (fuel : Nat) → (isFirst : Bool) → Reader Unit
  | 0, _ => failure
  | fuel + 1, isFirst => do
    if ← sees nothing then return
    let _ ← outerAttrs g
    if ← sees fun rest =>
        marks "..." rest ||
          (either [name, word "_"] rest && second (marks ":") rest && third (marks "...") rest) then
      if ← sees anyWord then
        let _ ← takeAnyWord
        takeMarks ":"
      takeMarks "..."
      let _ ← optionalMarks ","
    else
      pointerParameter g isFirst
      if ← sees nothing then return
      takeMarks ","
      pointerParametersFrom g fuel false

def functionPointer (g : Grammar) : Reader Unit := do
  let _ ← optionalWord "unsafe"
  abi
  takeWord "fn"
  inside .round do pointerParametersFrom g ((← get).rest.length + 1) true
  if ← optionalMarks "->" then
    let _ ← g.typeExpr false

def traitBounds (g : Grammar) (takesSum takesCapture takesConst : Bool) : Reader Unit := do
  let found ← bounds g takesSum takesCapture takesConst
  require (found.contains .aTrait)

inductive ParenForm where
  | types (first : TypeExpr) (isTuple : Bool) (more : List TypeExpr)
  | unit
  | lifetimes
  | optionalTrait

def parenForm (g : Grammar) : Reader ParenForm := do
  if ← sees nothing then return .unit
  if ← sees lifetime then
    traitBounds g true false false
    return .lifetimes
  if ← sees (marks "?") then
    let _ ← traitBound g false
    return .optionalTrait
  let first ← g.typeExpr true
  if ← optionalMarks "," then return .types first true (← listToEnd (g.typeExpr true))
  else return .types first false []

def plusBounds (g : Grammar) : Reader Bool := do
  let more ← asLongAs (marks "+") do
    takeMarks "+"
    g.bound false false
  return !more.isEmpty

def parenType (g : Grammar) (takesSum : Bool) : Reader TypeExpr := do
  match ← inside .round (parenForm g) with
  | .unit => return .tuple []
  | .lifetimes => return .paren (.traitObject false)
  | .optionalTrait => return .traitObject (!(← plusBounds g))
  | .types first true more => return .tuple (first :: more)
  | .types first false _ =>
    if takesSum && first.startsSum && (← sees (marks "+")) then
      let _ ← plusBounds g
      return .traitObject false
    else return .paren first

/-- A type that starts with a path. `inLifetimes` holds what stands in the lifetimes that it is
general in; a macro does not keep them. -/
def pathType (g : Grammar) (takesSum isGeneral : Bool) (inLifetimes : List Item) :
    Reader TypeExpr := do
  let (path, inside) ← capture (qualifiedPath g false)
  if path.isQualified then
    note inside
    return path.type
  if path.isPlain && (← sees fun rest => marks "!" rest && !marks "!=" rest) then
    takeMarks "!"
    let _ ← takeGroup
    return .other
  note (inLifetimes ++ inside)
  if isGeneral || (takesSum && (← sees (marks "+"))) then
    let mut isBound := true
    if takesSum && (← optionalMarks "+") then
      isBound := false
      let _ ← chain (fun rest => !Look.startsBound false rest) "+" (g.bound false false)
    return .traitObject isBound
  return path.type

def builtinCall : Reader Unit := do
  takeWord "builtin"
  takeMarks "#"
  let _ ← takeName
  require (← sees (group .round))
  let _ ← takeGroup

def typeRule (g : Grammar) (takesSum : Bool) : Reader TypeExpr := do
  let (isGeneral, inLifetimes) ← capture (optionalForLifetimes g)
  if isGeneral then
    require (← sees (either [pathWord, word "fn", word "unsafe", word "extern"]))
  if ← sees (group .round) then parenType g takesSum
  else if ← sees (either [word "fn", word "unsafe", word "extern"]) then
    note inLifetimes
    functionPointer g
    return .function
  else if ← sees Look.builtin then
    builtinCall
    return .other
  else if ← sees (either [pathWord, marks "::", marks "<"]) then pathType g takesSum isGeneral inLifetimes
  else if ← optionalWord "dyn" then
    let isPointer ← optionalMarks "*"
    if isPointer then
      forgetting (traitBounds g takesSum false false)
      return .other
    traitBounds g takesSum false false
    return .traitObject false
  else if ← sees (group .square) then
    inside .square do
      let element ← g.typeExpr true
      if ← optionalMarks ";" then
        let _ ← g.expr true
        return .array element
      else return .slice element
  else if ← optionalMarks "*" then
    unless ← optionalWord "const" do takeWord "mut"
    let _ ← g.typeExpr false
    return .pointer
  else if ← optionalMarks "&" then
    let _ ← optionalLifetime
    let _ ← optionalWord "mut"
    return .reference (← g.typeExpr false)
  else if ← optionalMarks "!" then return .never
  else if ← optionalWord "impl" then
    traitBounds g takesSum true true
    return .someTrait
  else if ← optionalWord "_" then return .other
  else if ← sees lifetime then
    traitBounds g true false false
    return .traitObject false
  else failure

end Grammar

end ApiScribe.Source
