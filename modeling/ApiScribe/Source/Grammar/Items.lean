import ApiScribe.Source.Grammar.Types
import ApiScribe.Source.Grammar.Patterns

set_option autoImplicit false

namespace ApiScribe.Source

open Reader Look

def Look.startsMacro : List Lexeme → Bool :=
  either [name, word "self", word "super", word "crate", marks "::"]

namespace Grammar

/-- The words before `fn`; in a foreign block `safe` may stand for `unsafe`, which is given back. -/
def functionWords (takesSafe : Bool) : Reader Bool := do
  let _ ← optionalWord "const"
  let _ ← optionalWord "async"
  let isSafe ← do
    if takesSafe && (← sees (word "safe")) then optionalWord "safe"
    else
      let _ ← optionalWord "unsafe"
      pure false
  abi
  takeWord "fn"
  return isSafe

def startsFunction (takesSafe : Bool) : Reader Bool := do
  return (← ahead (functionWords takesSafe)).isSome

def receiver (g : Grammar) : Reader Unit := do
  let isReference ← optionalMarks "&"
  if isReference then
    let _ ← optionalLifetime
  let _ ← optionalWord "mut"
  takeWord "self"
  require (!(← sees (marks "::")))
  if !isReference && (← optionalMarks ":") then
    let _ ← g.typeExpr true

def parameter (g : Grammar) : Reader Bool := do
  if ← sees fun rest => name rest && second (marks "<") rest then
    let _ ← g.typeExpr true
    return false
  let _ ← g.pattern
  takeMarks ":"
  if ← optionalMarks "..." then return true
  let _ ← g.typeExpr true
  return false

def parametersFrom (g : Grammar) : (fuel : Nat) → (isFirst : Bool) → Reader Unit
  | 0, _ => failure
  | fuel + 1, isFirst => do
    if ← sees nothing then return
    let _ ← outerAttrs g
    let isLast ← do
      if ← optionalMarks "..." then pure true
      else if (← attempt (receiver g)).isSome then
        require isFirst
        pure false
      else parameter g
    if ← sees nothing then return
    takeMarks ","
    if isLast then return
    parametersFrom g fuel false

def signature (g : Grammar) (takesSafe : Bool) : Reader (List Item × Bool) := do
  let isSafe ← functionWords takesSafe
  let _ ← takeName
  let (_, general) ← capture (generics g)
  let (_, parameters) ← capture do
    inside .round do parametersFrom g ((← get).rest.length + 1) true
    if ← optionalMarks "->" then
      let _ ← g.typeExpr true
  let (_, conditions) ← capture (whereClause g)
  return (general ++ conditions ++ parameters, isSafe)

def noteDocumented (attrs : List Attr) (inside : List Item) : Reader Unit :=
  note [.documented (docText attrs) inside]

/-- A function after its visibility. One without a body leaves nothing behind unless `keepsHead`. -/
def function (g : Grammar) (keepsHead : Bool) (attrs : List Attr) (attached : List Item) :
    Reader Unit := do
  let (head, _) ← signature g false
  if ← optionalMarks ";" then
    if keepsHead then noteDocumented attrs (attached ++ head)
  else
    let (inner, innerAttached, contents) ← body g g.statements
    noteDocumented (attrs ++ inner) (attached ++ innerAttached ++ head ++ contents)

def namedField (g : Grammar) : Reader Field := do
  let attrs ← outerAttrs g
  let _ ← visibility
  let isNameless ← sees (word "_")
  let name ← if isNameless then takeAnyWord else takeName
  takeMarks ":"
  let type ← do
    if isNameless && (← sees fun rest =>
        word "struct" rest || (word "union" rest && second (group .curly) rest)) then
      let _ ← takeAnyWord
      let _ ← forgetting g.fields
      pure TypeExpr.other
    else g.typeExpr true
  return ⟨some name, type.shape, docText attrs, fieldAttributes attrs⟩

def fieldsRule (g : Grammar) : Reader (List Field) :=
  inside .curly (listToEnd (namedField g))

def positionalMembers (g : Grammar) : Reader (List TypeExpr) :=
  inside .round <| listToEnd do
    let _ ← outerAttrs g
    let _ ← visibility
    g.typeExpr true

def noteDeclaration (name : String) (shape : Shape) (attrs : List Attr) (inside : List Item) :
    Reader Unit :=
  note [.declaration ⟨name, shape, docText attrs⟩ inside]

def structItem (g : Grammar) (attrs : List Attr) (attached : List Item) : Reader Unit := do
  takeWord "struct"
  let name ← takeName
  let (_, general) ← capture (generics g)
  let (isConditional, conditions) ← capture (whereClause g)
  if !isConditional && (← sees (group .round)) then
    let (types, inside) ← capture (positionalMembers g)
    let (_, conditions) ← capture (whereClause g)
    takeMarks ";"
    noteDeclaration name (Members.positional types).shape attrs
      (attached ++ general ++ conditions ++ inside)
  else if ← sees (group .curly) then
    let (fields, inside) ← capture (fieldsRule g)
    noteDeclaration name (Members.named fields).shape attrs
      (attached ++ general ++ conditions ++ inside)
  else
    takeMarks ";"
    noteDeclaration name Members.none.shape attrs (attached ++ general ++ conditions)

def variant (g : Grammar) : Reader Variant := do
  let attrs ← outerAttrs g
  let _ ← visibility
  let name ← takeName
  let members ← do
    if ← sees (group .curly) then pure (Members.named (← fieldsRule g))
    else if ← sees (group .round) then pure (Members.positional (← positionalMembers g))
    else pure Members.none
  if ← optionalMarks "=" then
    let _ ← g.expr true
  return ⟨name, attrs, members⟩

def enumItem (g : Grammar) (attrs : List Attr) (attached : List Item) : Reader Unit := do
  takeWord "enum"
  let name ← takeName
  let (variants, inside) ← capture do
    let _ ← generics g
    let _ ← whereClause g
    inside .curly (listToEnd (variant g))
  noteDeclaration name (variantsShape variants) attrs (attached ++ inside)

def unionItem (g : Grammar) (attached : List Item) : Reader Unit := do
  let (_, inside) ← capture do
    takeWord "union"
    let _ ← takeName
    let _ ← generics g
    let _ ← whereClause g
    fieldsRule g
  note [.other (attached ++ inside)]

inductive ConditionPlace where
  | before
  | after
  | both
  deriving DecidableEq, Repr

structure AliasForm where
  name : String
  hasBounds : Bool
  type : Option TypeExpr
  inside : List Item

def aliasForm (g : Grammar) (place : ConditionPlace) : Reader AliasForm := do
  takeWord "type"
  let name ← takeName
  let (_, general) ← capture (generics g)
  let hasBounds ← optionalMarks ":"
  let (_, bounds) ← capture do
    if hasBounds then
      let _ ← sumTo (either [word "where", marks "=", marks ";"]) (g.bound false true)
  let (isConditional, conditions) ← capture do
    if place = .after then pure false else whereClause g
  let (type, inside) ← capture do
    if ← optionalMarks "=" then some <$> g.typeExpr true else pure none
  let (_, conditionsAfter) ← capture do
    if place ≠ .before && !isConditional then whereClause g else pure false
  takeMarks ";"
  return ⟨name, hasBounds, type, general ++ conditions ++ conditionsAfter ++ bounds ++ inside⟩

def aliasItem (g : Grammar) (attrs : List Attr) (attached : List Item) : Reader Unit := do
  let form ← aliasForm g .before
  match form.hasBounds, form.type with
  | false, some type => noteDeclaration form.name type.shape attrs (attached ++ form.inside)
  | _, _ => pure ()

def constForm (g : Grammar) : Reader (Bool × Bool × List Item) := do
  takeWord "const"
  require (← sees (either [name, word "_"]))
  let _ ← takeAnyWord
  let ((isGeneral, hasValue), inside) ← capture do
    let isGeneral ← generics g
    takeMarks ":"
    let _ ← g.typeExpr true
    let hasValue ← optionalMarks "="
    if hasValue then
      let _ ← g.expr true
    let isConditional ← whereClause g
    takeMarks ";"
    return (isGeneral || isConditional, hasValue)
  return (isGeneral, hasValue, inside)

def constItem (g : Grammar) (attrs : List Attr) (attached : List Item) : Reader Unit := do
  let (isGeneral, hasValue, inside) ← constForm g
  if hasValue && !isGeneral then noteDocumented attrs (attached ++ inside)

def staticItem (g : Grammar) (attrs : List Attr) (attached : List Item) : Reader Unit := do
  takeWord "static"
  let _ ← optionalWord "mut"
  let _ ← takeName
  if ← optionalMarks "=" then
    let _ ← forgetting (g.expr true)
    takeMarks ";"
  else
    let (hasValue, inside) ← capture do
      takeMarks ":"
      let _ ← g.typeExpr true
      if ← sees (marks ";") then pure false
      else
        takeMarks "="
        let _ ← g.expr true
        pure true
    takeMarks ";"
    if hasValue then noteDocumented attrs (attached ++ inside)

def useTreeFrom : (fuel : Nat) → (takesRoot : Bool) → Reader Bool
  | 0, _ => failure
  | fuel + 1, takesRoot => do
    if ← sees (either [name, word "self", word "super", word "crate", word "try"]) then
      let _ ← takeAnyWord
      if ← optionalMarks "::" then useTreeFrom fuel false
      else
        if ← optionalWord "as" then
          unless ← optionalWord "_" do
            let _ ← takeName
        return false
    else if ← optionalMarks "*" then return false
    else
      let parts ← inside .curly <| listToEnd do
        let isRoot ← if takesRoot then optionalMarks "::" else pure false
        return (← useTreeFrom fuel (takesRoot && !isRoot)) || isRoot
      return parts.any id

/-- An import. One that names the root inside its brackets leaves nothing behind. -/
def useItem (attached : List Item) : Reader Unit := do
  takeWord "use"
  let isRoot ← optionalMarks "::"
  let holdsRoot ← useTreeFrom (Lexeme.countAll (← get).rest + 1) !isRoot
  takeMarks ";"
  unless holdsRoot do note [.other attached]

def externCrate : Reader Unit := do
  takeWord "extern"
  takeWord "crate"
  unless ← optionalWord "self" do
    let _ ← takeName
  if ← optionalWord "as" then
    unless ← optionalWord "_" do
      let _ ← takeName
  takeMarks ";"

def macroCall (takesName : Bool) : Reader Unit := do
  let _ ← modulePath
  takeMarks "!"
  if takesName && (← sees (either [name, word "try"])) then
    let _ ← takeAnyWord
  let (bracket, _) ← takeGroup
  if bracket ≠ .curly then takeMarks ";"

def macroDefinition : Reader Unit := do
  takeWord "macro"
  let _ ← takeName
  if ← sees (group .round) then
    let _ ← takeGroup
  require (← sees (group .curly))
  let _ ← takeGroup

def traitItem (g : Grammar) : Reader Unit := do
  let (attrs, attached) ← capture (outerAttrs g)
  let isVisible ← visibility
  let isDefault ← optionalWord "default"
  let ((), found) ← capture do
    if ← startsFunction false then function g true attrs attached
    else if ← sees (word "const") then
      let (isGeneral, _, inside) ← constForm g
      unless isGeneral do note [.other (attached ++ inside)]
    else if ← sees (word "type") then
      let form ← aliasForm g .after
      note [.other (attached ++ form.inside)]
    else
      require (!isVisible && !isDefault)
      require (← sees Look.startsMacro)
      macroCall false
      note [.other attached]
  unless isVisible || isDefault do note found

def traitBody (g : Grammar) (attrs : List Attr) (attached general : List Item) : Reader Unit := do
  let (_, bounds) ← capture do
    if ← optionalMarks ":" then
      let _ ← sumTo (either [word "where", group .curly]) (g.bound false true)
  let (_, conditions) ← capture (whereClause g)
  let (inner, innerAttached, contents) ← body g do
    let _ ← toEnd (traitItem g)
  noteDocumented (attrs ++ inner)
    (attached ++ innerAttached ++ general ++ conditions ++ bounds ++ contents)

def traitDefinition (g : Grammar) (takesAlias : Bool) (attrs : List Attr) (attached : List Item) :
    Reader Unit := do
  takeWord "trait"
  let _ ← takeName
  let (_, general) ← capture (generics g)
  if takesAlias && (← optionalMarks "=") then
    let (_, bounds) ← capture (sumTo (either [word "where", marks ";"]) (g.bound false false))
    let (_, conditions) ← capture (whereClause g)
    takeMarks ";"
    note [.other (attached ++ general ++ conditions ++ bounds)]
  else traitBody g attrs attached general

def implementedItem (g : Grammar) : Reader Unit := do
  let (attrs, attached) ← capture (outerAttrs g)
  let isVisible ← visibility
  let isDefault ← do
    if ← sees fun rest => word "default" rest && !second (marks "!") rest then optionalWord "default"
    else pure false
  if ← startsFunction false then function g false attrs attached
  else if ← sees (word "const") then
    let (isGeneral, hasValue, inside) ← constForm g
    if hasValue && !isGeneral then note [.other (attached ++ inside)]
  else if ← sees (word "type") then
    let form ← aliasForm g .after
    if form.type.isSome && !form.hasBounds then note [.other (attached ++ form.inside)]
  else
    require (!isVisible && !isDefault)
    require (← sees Look.startsMacro)
    macroCall false
    note [.other attached]

def implementation (g : Grammar) (isVisible : Bool) (attrs : List Attr) (attached : List Item) :
    Reader Unit := do
  let _ ← optionalWord "default"
  let _ ← optionalWord "unsafe"
  takeWord "impl"
  let (_, general) ← capture do
    if ← sees Look.genericParameters then generics g else pure false
  let isConst ← sees fun rest => word "const" rest || (marks "?" rest && second (word "const") rest)
  if isConst then
    let _ ← optionalMarks "?"
    takeWord "const"
  let isNegative ← sees fun rest => marks "!" rest && !second (group .curly) rest
  if isNegative then takeMarks "!"
  let (isMeant, types) ← capture do
    let first ← g.typeExpr true
    if ← optionalWord "for" then
      let _ ← g.typeExpr true
      match first with
      | .path false _ _ => pure true
      | _ => pure false
    else
      require !isNegative
      pure true
  let (_, conditions) ← capture (whereClause g)
  let (inner, innerAttached, contents) ← body g do
    let _ ← toEnd (implementedItem g)
  if isMeant && !isVisible && !isConst then
    noteDocumented (attrs ++ inner) (attached ++ innerAttached ++ general ++ conditions ++ types ++ contents)

def itemWithAttrs (g : Grammar) : Reader Unit := do
  let (attrs, attached) ← capture (outerAttrs g)
  g.item attrs attached

def moduleItem (g : Grammar) (attrs : List Attr) (attached : List Item) : Reader Unit := do
  let _ ← optionalWord "unsafe"
  takeWord "mod"
  unless ← optionalWord "try" do
    let _ ← takeName
  if ← optionalMarks ";" then note [.module (docText attrs) attached []]
  else
    let (inner, innerAttached, contents) ← body g do
      let _ ← toEnd (itemWithAttrs g)
    note [.module (docText (attrs ++ inner)) (attached ++ innerAttached) contents]

def foreignItem (g : Grammar) : Reader Unit := do
  let (_, attached) ← capture (outerAttrs g)
  let isVisible ← visibility
  if ← startsFunction true then
    let (head, isSafe) ← signature g true
    let hasBody ← sees (group .curly)
    if hasBody then
      let _ ← forgetting (blockWithAttrs g)
    else takeMarks ";"
    unless isSafe || hasBody do note [.other (attached ++ head)]
  else if ← sees fun rest =>
      word "static" rest || (either [word "unsafe", word "safe"] rest && second (word "static") rest) then
    let isMarked ← sees (either [word "unsafe", word "safe"])
    if isMarked then
      let _ ← takeAnyWord
    takeWord "static"
    let _ ← optionalWord "mut"
    let _ ← takeName
    takeMarks ":"
    let (hasValue, inside) ← capture do
      let _ ← g.typeExpr true
      if ← optionalMarks "=" then
        let _ ← g.expr true
        pure true
      else pure false
    takeMarks ";"
    unless isMarked || hasValue do note [.other (attached ++ inside)]
  else if ← sees (word "type") then
    let form ← aliasForm g .both
    unless form.hasBounds || form.type.isSome do note [.other (attached ++ form.inside)]
  else
    require !isVisible
    require (← sees Look.startsMacro)
    macroCall false
    note [.other attached]

def foreignBlock (g : Grammar) (attached : List Item) : Reader Unit := do
  let _ ← optionalWord "unsafe"
  require (← sees (word "extern"))
  abi
  let (_, innerAttached, contents) ← body g do
    let _ ← toEnd (foreignItem g)
  note [.other (attached ++ innerAttached ++ contents)]

def itemRule (g : Grammar) (attrs : List Attr) (attached : List Item) : Reader Unit := do
  let isVisible ← visibility
  if ← startsFunction false then function g false attrs attached
  else if ← sees (word "extern") then
    if ← sees (second (word "crate")) then
      externCrate
      note [.other attached]
    else
      require !isVisible
      foreignBlock g attached
  else if ← sees (word "use") then
    useItem attached
  else if ← sees (word "static") then staticItem g attrs attached
  else if ← sees (word "const") then constItem g attrs attached
  else if ← sees (word "unsafe") then
    if ← sees (second (either [word "trait", word "auto"])) then
      takeWord "unsafe"
      let _ ← optionalWord "auto"
      traitDefinition g false attrs attached
    else if ← sees (second (word "impl")) then implementation g isVisible attrs attached
    else if ← sees (second (word "extern")) then
      require !isVisible
      foreignBlock g attached
    else moduleItem g attrs attached
  else if ← sees (word "mod") then moduleItem g attrs attached
  else if ← sees (word "type") then aliasItem g attrs attached
  else if ← sees (word "struct") then structItem g attrs attached
  else if ← sees (word "enum") then enumItem g attrs attached
  else if ← sees fun rest => word "union" rest && second name rest then unionItem g attached
  else if ← sees (word "trait") then traitDefinition g true attrs attached
  else if ← sees fun rest => word "auto" rest && second (word "trait") rest then
    takeWord "auto"
    traitDefinition g false attrs attached
  else if ← sees fun rest =>
      word "impl" rest || (word "default" rest && !second (marks "!") rest) then
    implementation g isVisible attrs attached
  else if ← sees (word "macro") then macroDefinition
  else
    require !isVisible
    require (← sees Look.startsMacro)
    macroCall true
    note [.other attached]

end Grammar

end ApiScribe.Source
