import SafeMarkup.Html.Rules.Select

/-!
Contract: the rules of tree construction inside drawings and formulas, and which rules hold.

Drawings and formulas have vocabularies of their own. Some of their elements hold content of the
main vocabulary, and some tags of that vocabulary end them.
-/

namespace SafeMarkup.Html.Rules

open Build

/-- Whether a token is looked at by the rules of drawings and formulas. -/
def isForeign (builder : Builder) (token : Token) : Bool :=
  let name := builder.adjustedName
  if name.vocabulary == .html then false
  else
    let isText : Bool := match token with
      | .characters _ => true
      | .null => true
      | _ => false
    let isStart (wanted : String → Bool) : Bool := match token with
      | .start tag => wanted tag.name
      | _ => false
    if name.holdsFormulaText &&
        (isText || isStart fun tag => tag != "mglyph" && tag != "malignmark") then false
    else if name.holdsMarkup && (isText || isStart fun _ => true) then false
    else if name == ⟨.mathml, "annotation-xml"⟩ then
      if isStart (· == "svg") then false
      else if isText || isStart fun _ => true then
        !ElementName.annotationHoldsMarkup (builder.tree.attributesOf builder.current)
      else true
    else true

def inMode : Mode → Token → Build Next
  | .body => inBody
  | .text => inText
  | .table => inTable
  | .tableText => inTableText
  | .caption => inCaption
  | .columnGroup => inColumnGroup
  | .tableBody => inTableBody
  | .row => inRow
  | .cell => inCell
  | .select => inSelect
  | .selectInTable => inSelectInTable
  | .template => inTemplate

/-- Looks at a token by the rules of the mode. -/
def inCurrentMode (token : Token) : Build Next := do inMode (← get).mode token

/-- Closes a drawing or formula for a tag that cannot stand in it. -/
def leaveForeign (token : Token) : Build Next := do
  popWhile fun name =>
    name.vocabulary != .html && !name.holdsFormulaText && !name.holdsMarkup
  inCurrentMode token

/-- The start tag of an element of a drawing or formula. -/
def foreignStart (tag : StartTag) : Build Next := do
  let vocabulary := (← ask Builder.adjustedName).vocabulary
  let name := if vocabulary == .svg then ElementName.spelled ElementName.svgElements tag.name
    else tag.name
  let attributes := ElementName.spelledAttributes vocabulary tag.attributes
  if tag.selfClosing then
    let _ ← insertClosed ⟨vocabulary, name⟩ attributes
  else
    let _ ← insertOpen ⟨vocabulary, name⟩ attributes
  return .done

/-- What an end tag in a drawing or formula closes. -/
inductive ForeignEnd where
  | nothing
  /-- The rules of the mode apply. -/
  | byMode
  /-- These elements stay open. -/
  | leaving (stack : List Nat)

/-- What an end tag closes, looking at open elements from the current one on. -/
def foreignEnd (builder : Builder) (name : String) (first : Bool) : List Nat → ForeignEnd
  | [] => .nothing
  | [_] => .nothing
  | node :: rest =>
    let element := builder.nameOf node
    if !first && element.vocabulary == .html then .byMode
    else if element.name.toList.map Char.toLower = name.toList then .leaving rest
    else foreignEnd builder name false rest

def inForeign (token : Token) : Build Next := do
  match token with
  | .null =>
    insertText ['\ufffd']
    return .done
  | .characters text =>
    insertText text
    return .done
  | .comment =>
    insertComment
    return .done
  | .malformed => return .done
  | .start tag =>
    let shaped := tag.attributes.any fun (key, _) => ["color", "face", "size"].contains key
    if ElementName.endsForeign.contains tag.name || (tag.name == "font" && shaped) then
      leaveForeign token
    else foreignStart tag
  | .stop name =>
    if name = "br" ∨ name = "p" then leaveForeign token
    else
      match ← ask fun builder => foreignEnd builder name true builder.stack with
      | .nothing => return .done
      | .byMode => inCurrentMode token
      | .leaving stack =>
        modifyStack fun _ => stack
        return .done

end SafeMarkup.Html.Rules
