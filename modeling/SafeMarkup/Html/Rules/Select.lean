import SafeMarkup.Html.Rules.Table

/-!
Contract: the rules of tree construction inside selections, which hold options, their groups, rules
between them and text; and inside templates, where what a template holds decides which rules hold in
the rest of it.
-/

namespace SafeMarkup.Html.Rules

open Build

def closeOption : Build Unit := do
  if (← ask Builder.currentName) == ⟨.html, "option"⟩ then pop

/-- Closes a group of options that is current. -/
def closeOptionGroup : Build Unit := do
  if (← ask Builder.currentName) == ⟨.html, "optgroup"⟩ then pop

/-- Closes the selection, if it is in scope. Whether it was. -/
def closeSelect : Build Bool := do
  if ← ask fun builder => builder.inScope ElementName.endsSelectScope "select" then
    popThroughNamed "select"
    setMode (← ask Builder.fittingMode)
    return true
  else return false

def inSelect (token : Token) : Build Next := do
  match token with
  | .characters text =>
    insertText text
    return .done
  | .comment =>
    insertComment
    return .done
  | .start tag =>
    if tag.name = "option" then
      closeOption
      openTag tag
      return .done
    else if tag.name = "optgroup" then
      closeOption
      closeOptionGroup
      openTag tag
      return .done
    else if tag.name = "hr" then
      closeOption
      closeOptionGroup
      insertVoid tag
      return .done
    else if tag.name = "select" then
      let _ ← closeSelect
      return .done
    else if ["input", "keygen", "textarea"].contains tag.name then
      if ← closeSelect then return .again token else return .done
    else if tag.name = "script" ∨ tag.name = "template" then
      headStart tag
      return .done
    else return .done
  | .stop name =>
    if name = "optgroup" then
      let builder ← get
      match builder.stack with
      | _ :: below :: _ =>
        if builder.nameOf below == ⟨.html, "optgroup"⟩ then closeOption
      | _ => pure ()
      closeOptionGroup
      return .done
    else if name = "option" then
      closeOption
      return .done
    else if name = "select" then
      let _ ← closeSelect
      return .done
    else if name = "template" then
      closeTemplate
      return .done
    else return .done
  | _ => return .done

def inSelectInTable (token : Token) : Build Next := do
  let parts := ["caption", "table", "tbody", "tfoot", "thead", "tr", "td", "th"]
  match token with
  | .start tag =>
    if parts.contains tag.name then
      popThroughNamed "select"
      againIn (← ask Builder.fittingMode) token
    else inSelect token
  | .stop name =>
    if parts.contains name then
      if ← inTableScope name then
        popThroughNamed "select"
        againIn (← ask Builder.fittingMode) token
      else return .done
    else inSelect token
  | _ => inSelect token

/-- Looks at a token again in the mode that a template has from now on. -/
def templateAs (mode : Mode) (token : Token) : Build Next := do
  modify fun builder => { builder with templateModes := mode :: builder.templateModes.drop 1 }
  againIn mode token

def inTemplate (token : Token) : Build Next := do
  match token with
  | .characters _ => inBody token
  | .comment => inBody token
  | .start tag =>
    if headNames.contains tag.name then
      headStart tag
      return .done
    else if ["caption", "colgroup", "tbody", "tfoot", "thead"].contains tag.name then
      templateAs .table token
    else if tag.name = "col" then templateAs .columnGroup token
    else if tag.name = "tr" then templateAs .tableBody token
    else if tag.name = "td" ∨ tag.name = "th" then templateAs .row token
    else templateAs .body token
  | .stop name =>
    if name = "template" then closeTemplate
    return .done
  | _ => return .done

end SafeMarkup.Html.Rules
