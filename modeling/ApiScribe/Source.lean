import ApiScribe.Source.Grammar.Items
import ApiScribe.Source.Grammar.Statements
import ApiScribe.Source.Lexeme.Scan

set_option autoImplicit false

namespace ApiScribe

open Source Reader

namespace Source

def Grammar.deeper (g : Grammar) : Grammar where
  typeExpr := g.typeRule
  bound := g.boundRule
  exprAbove := g.exprRule
  boundaryExpr := g.boundaryRule
  pattern := g.patternRule
  statements := g.statementsRule
  item := g.itemRule
  fields := g.fieldsRule

def Grammar.ofDepth (depth : Nat) : Grammar :=
  Nat.repeat Grammar.deeper depth Grammar.empty

/-- Reads the lexemes to their end. On its way down a reader takes a lexeme before it comes to the
same symbol again, so a few steps for each lexeme are depth enough. -/
def readAll? {α : Type} (reader : Grammar → Reader α) (lexemes : List Lexeme) : Option α := do
  let g := Grammar.ofDepth (8 * (Lexeme.countAll lexemes + 1))
  let (value, after) ← reader g ⟨lexemes, []⟩
  if after.rest.isEmpty then some value else none

def TypeExpr.ofText? (text : String) : Option TypeExpr := do
  readAll? (fun g => g.typeExpr true) (← Lexeme.scan? text.toList)

def file (g : Grammar) : Reader (String × List Item × List Item) := do
  let (attrs, attached) ← capture (Grammar.innerAttrs g)
  let (_, contents) ← capture (toEnd (Grammar.itemWithAttrs g))
  return (docText attrs, attached, contents)

end Source

def SourceFile.ofText? (path text : String) : Option SourceFile := do
  let lexemes ← Lexeme.scan? (fileText text.toList)
  let (doc, attached, contents) ← readAll? file lexemes
  return {
    path := path
    declarations := allDeclarations contents
    docs := docs? doc ++ allDocs attached ++ allDocs contents }

end ApiScribe
