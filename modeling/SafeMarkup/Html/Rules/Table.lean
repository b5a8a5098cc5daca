import SafeMarkup.Html.Rules.Content

/-!
Contract: the rules of tree construction inside tables.

A table holds its parts only. Text and elements that may not stand in it are moved in front of it,
and blank text stays where it is.
-/

namespace SafeMarkup.Html.Rules

open Build

/-- Looks at a token by the rules of content, moving what it inserts in front of the table. -/
def fosterInBody (token : Token) : Build Next := do
  modify fun builder => { builder with fostering := true, fostered := builder.fostered + 1 }
  let next ← inBody token
  modify fun builder => { builder with fostering := false }
  return next

/-- Sets a mode in which a token is looked at again. -/
def againIn (mode : Mode) (token : Token) : Build Next := do
  setMode mode
  return .again token

/-- Closes elements up to one that bounds a context. -/
def backTo (names : List String) : Build Unit :=
  popWhile fun element => !element.isOneOf names

def backToTable : Build Unit := popWhile fun element => !element.endsTableScope

/-- Whether an element is in scope of tables. -/
def inTableScope (name : String) : Build Bool :=
  ask fun builder => builder.inScope ElementName.endsTableScope name

/-- Text in a table. It is kept until it is known whether all of it is blank. -/
def tableCharacters (token : Token) : Build Next := do
  if (← ask Builder.currentName).fostersContent then
    modify fun builder => { builder with returnMode := builder.mode }
    againIn .tableText token
  else fosterInBody token

/-- Whether a tag is an input that is not shown. -/
def isHidden (tag : StartTag) : Bool :=
  tag.attributes.any fun (key, value) =>
    key = "type" && Text.toAsciiLower value = "hidden".toList

def tableStart (tag : StartTag) : Build Next := do
  let token := Token.start tag
  let name := tag.name
  if name = "caption" then
    backToTable
    mark
    openTag tag
    setMode .caption
    return .done
  else if name = "colgroup" then
    backToTable
    openTag tag
    setMode .columnGroup
    return .done
  else if name = "col" then
    backToTable
    openImplied "colgroup"
    againIn .columnGroup token
  else if ["tbody", "tfoot", "thead"].contains name then
    backToTable
    openTag tag
    setMode .tableBody
    return .done
  else if ["td", "th", "tr"].contains name then
    backToTable
    openImplied "tbody"
    againIn .tableBody token
  else if name = "table" then
    if ← inTableScope "table" then
      popThroughNamed "table"
      againIn (← ask Builder.fittingMode) token
    else return .done
  else if ["style", "script", "template"].contains name then
    headStart tag
    return .done
  else if name = "input" ∧ isHidden tag then
    insertVoid tag
    return .done
  else if name = "form" then
    if !(← ask fun builder => builder.hasOpen "template") && (← get).form.isNone then
      let node ← insertClosed ⟨.html, "form"⟩ tag.attributes
      modify fun builder => { builder with form := some node }
    return .done
  else fosterInBody token

/-- Parts of tables whose end tags are ignored where they do not fit. -/
def tableParts : List String :=
  ["body", "caption", "col", "colgroup", "html", "tbody", "td", "tfoot", "th", "thead", "tr"]

def tableStop (name : String) : Build Next := do
  if name = "table" then
    if ← inTableScope "table" then
      popThroughNamed "table"
      setMode (← ask Builder.fittingMode)
    return .done
  else if tableParts.contains name then return .done
  else if name = "template" then
    closeTemplate
    return .done
  else fosterInBody (.stop name)

def inTable : Token → Build Next
  | .start tag => tableStart tag
  | .stop name => tableStop name
  | .characters text => tableCharacters (.characters text)
  | .null => tableCharacters .null
  | .comment => do
    insertComment
    return .done
  | .malformed => return .done

/-- Places the text of a table that was kept: in the table if it is blank, in front of it
otherwise. -/
def placePending : Build Unit := do
  let pending := (← get).pending.reverse
  modify fun builder => { builder with pending := [] }
  if pending.any hasInk then
    for text in pending do
      let _ ← fosterInBody (.characters text)
  else
    for text in pending do
      insertText text

def inTableText : Token → Build Next
  | .characters text => do
    modify fun builder => { builder with pending := text :: builder.pending }
    return .done
  | .null => return .done
  | token => do
    placePending
    againIn (← get).returnMode token

/-- Closes a caption if it is in scope. Whether it was. -/
def closeCaption : Build Bool := do
  if ← inTableScope "caption" then
    closeImplied
    popThroughNamed "caption"
    forgetToMarker
    setMode .table
    return true
  else return false

def inCaption (token : Token) : Build Next := do
  match token with
  | .start tag =>
    if ["caption", "col", "colgroup", "tbody", "td", "tfoot", "th", "thead", "tr"].contains
        tag.name then
      if ← closeCaption then return .again token else return .done
    else inBody token
  | .stop name =>
    if name = "caption" then
      let _ ← closeCaption
      return .done
    else if name = "table" then
      if ← closeCaption then return .again token else return .done
    else if tableParts.contains name then return .done
    else inBody token
  | _ => inBody token

/-- Leaves a group of columns for the table. -/
def leaveColumnGroup (token : Token) : Build Next := do
  if (← ask Builder.currentName) == ⟨.html, "colgroup"⟩ then
    pop
    againIn .table token
  else return .done

def inColumnGroup (token : Token) : Build Next := do
  match token with
  | .characters text =>
    match text.takeWhile isSpace, text.dropWhile isSpace with
    | [], _ => leaveColumnGroup token
    | spaces, rest =>
      insertText spaces
      if rest.isEmpty then return .done else return .again (.characters rest)
  | .comment =>
    insertComment
    return .done
  | .start tag =>
    if tag.name = "html" then return .done
    else if tag.name = "col" then
      insertVoid tag
      return .done
    else if tag.name = "template" then
      headStart tag
      return .done
    else leaveColumnGroup token
  | .stop name =>
    if name = "colgroup" then
      if (← ask Builder.currentName) == ⟨.html, "colgroup"⟩ then
        pop
        setMode .table
      return .done
    else if name = "col" then return .done
    else if name = "template" then
      closeTemplate
      return .done
    else leaveColumnGroup token
  | .null => leaveColumnGroup token
  | .malformed => return .done

/-- What bounds the rows of a table. -/
def bodyContext : List String := ["tbody", "tfoot", "thead", "template", "html"]

/-- What bounds the cells of a row. -/
def rowContext : List String := ["tr", "template", "html"]

/-- Leaves the body of a table, if there is one, and looks at the token again in the table. -/
def leaveTableBody (token : Token) : Build Next := do
  if ← ask fun builder => builder.inScopeFrom ElementName.endsTableScope
      (fun node => (builder.nameOf node).isOneOf ["table", "tbody", "tfoot"]) builder.stack then
    backTo bodyContext
    pop
    againIn .table token
  else return .done

def inTableBody (token : Token) : Build Next := do
  match token with
  | .start tag =>
    if tag.name = "tr" then
      backTo bodyContext
      openTag tag
      setMode .row
      return .done
    else if tag.name = "th" ∨ tag.name = "td" then
      backTo bodyContext
      openImplied "tr"
      againIn .row token
    else if ["caption", "col", "colgroup", "tbody", "tfoot", "thead"].contains tag.name then
      leaveTableBody token
    else inTable token
  | .stop name =>
    if ["tbody", "tfoot", "thead"].contains name then
      if ← inTableScope name then
        backTo bodyContext
        pop
        setMode .table
      return .done
    else if name = "table" then leaveTableBody token
    else if tableParts.contains name then return .done
    else inTable token
  | _ => inTable token

/-- Leaves a row, if there is one, and looks at the token again behind it. -/
def leaveRow (token : Token) : Build Next := do
  if ← inTableScope "tr" then
    backTo rowContext
    pop
    againIn .tableBody token
  else return .done

def inRow (token : Token) : Build Next := do
  match token with
  | .start tag =>
    if tag.name = "th" ∨ tag.name = "td" then
      backTo rowContext
      openTag tag
      setMode .cell
      mark
      return .done
    else if ["caption", "col", "colgroup", "tbody", "tfoot", "thead", "tr"].contains tag.name then
      leaveRow token
    else inTable token
  | .stop name =>
    if name = "tr" then
      if ← inTableScope "tr" then
        backTo rowContext
        pop
        setMode .tableBody
      return .done
    else if name = "table" then leaveRow token
    else if ["tbody", "tfoot", "thead"].contains name then
      if ← inTableScope name then leaveRow token else return .done
    else if tableParts.contains name then return .done
    else inTable token
  | _ => inTable token

def closeCell : Build Unit := do
  closeImplied
  popThrough (ElementName.isOneOf ["td", "th"])
  forgetToMarker

def inCell (token : Token) : Build Next := do
  match token with
  | .start tag =>
    if ["caption", "col", "colgroup", "tbody", "td", "tfoot", "th", "thead", "tr"].contains
        tag.name then
      if ← ask fun builder => builder.inScopeFrom ElementName.endsTableScope
          (fun node => (builder.nameOf node).isOneOf ["td", "th"]) builder.stack then
        closeCell
        againIn .row token
      else return .done
    else inBody token
  | .stop name =>
    if name = "td" ∨ name = "th" then
      if ← inTableScope name then
        closeImplied
        popThroughNamed name
        forgetToMarker
        setMode .row
      return .done
    else if ["body", "caption", "col", "colgroup", "html"].contains name then return .done
    else if ["table", "tbody", "tfoot", "thead", "tr"].contains name then
      if ← inTableScope name then
        closeCell
        againIn .row token
      else return .done
    else inBody token
  | _ => inBody token

end SafeMarkup.Html.Rules
