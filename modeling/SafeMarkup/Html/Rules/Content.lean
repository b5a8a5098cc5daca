import SafeMarkup.Html.Builder

/-!
Contract: the rules of tree construction for content, and for text that is read in another way.

A rule takes a token and changes the state. It is done with the token, or has set another mode in
which the token is to be looked at again. The rules of all other modes fall back on those here.
-/

namespace SafeMarkup.Html

/-- What is left to do with a token. -/
inductive Next where
  | done
  | again (token : Token)
deriving DecidableEq, Repr

namespace Rules

open Build

/-- Whether a text has something besides spaces. -/
def hasInk (text : Text) : Bool := text.any fun c => !isSpace c

/-! ## Elements of heads, which may stand anywhere -/

def headNames : List String :=
  ["base", "basefont", "bgsound", "link", "meta", "noframes", "script", "style", "template",
   "title"]

/-- The start tag of an element of heads. -/
def headStart (tag : StartTag) : Build Unit := do
  match tag.name with
  | "title" => openRaw tag (.escapable "title")
  | "noframes" => openRaw tag (.raw "noframes")
  | "style" => openRaw tag (.raw "style")
  | "script" => openRaw tag .script
  | "template" =>
    openTag tag
    mark
    setMode .template
    modify fun builder => { builder with templateModes := .template :: builder.templateModes }
  | _ => insertVoid tag

def closeTemplate : Build Unit := do
  if ← ask fun builder => builder.hasOpen "template" then
    popWhile ElementName.hasImpliedEndInTemplate
    popThroughNamed "template"
    forgetToMarker
    modify fun builder => { builder with templateModes := builder.templateModes.drop 1 }
    setMode (← ask Builder.fittingMode)

/-! ## Content -/

def bodyText (text : Text) : Build Unit := do
  reopenFormatting
  insertText text

/-- Elements that close a paragraph and have nothing else to them. -/
def blockNames : List String :=
  ["address", "article", "aside", "blockquote", "center", "details", "dialog", "dir", "div", "dl",
   "fieldset", "figcaption", "figure", "footer", "header", "hgroup", "main", "menu", "nav", "ol",
   "p", "search", "section", "summary", "ul"]

/-- Elements whose end tag closes them if they are in scope. -/
def scopedNames : List String :=
  ["address", "article", "aside", "blockquote", "button", "center", "details", "dialog", "dir",
   "div", "dl", "fieldset", "figcaption", "figure", "footer", "header", "hgroup", "listing",
   "main", "menu", "nav", "ol", "pre", "search", "section", "summary", "ul"]

/-- Formatting elements without rules of their own. -/
def formattingNames : List String :=
  ["b", "big", "code", "em", "font", "i", "s", "small", "strike", "strong", "tt", "u"]

def ignoredNames : List String :=
  ["caption", "col", "colgroup", "frame", "frameset", "head", "tbody", "td", "tfoot", "th", "thead",
   "tr", "body", "html"]

/-- The name of a list item that a new one closes, innermost first. -/
def itemToClose (builder : Builder) (names : List String) : List Nat → Option String
  | [] => none
  | node :: rest =>
    let name := builder.nameOf node
    if name.isOneOf names then some name.name
    else if name.isSpecial && !name.isOneOf ["address", "div", "p"] then none
    else itemToClose builder names rest

/-- The start tag of a list item. -/
def itemStart (tag : StartTag) (names : List String) : Build Unit := do
  match ← ask fun builder => itemToClose builder names builder.stack with
  | some name =>
    closeImpliedBut name
    popThroughNamed name
  | none => pure ()
  closeOpenParagraph
  openTag tag

/-- The start tag of a drawing or a formula. -/
def foreignRoot (tag : StartTag) (vocabulary : Vocabulary) : Build Unit := do
  let attributes := ElementName.spelledAttributes vocabulary tag.attributes
  if tag.selfClosing then
    let _ ← insertClosed ⟨vocabulary, tag.name⟩ attributes
  else
    let _ ← insertOpen ⟨vocabulary, tag.name⟩ attributes

/-- The start tag of a link: one that is still open is closed. -/
def linkStart (tag : StartTag) : Build Unit := do
  match ← ask fun builder => builder.recentFormatting.find? fun (node, _) =>
      builder.nameOf node == ⟨.html, "a"⟩ with
  | some (node, _) =>
    adopt "a"
    forget node
    close node
  | none => pure ()
  reopenFormatting
  openFormatting tag

/-- The start tag of a form. Forms do not stand in forms. -/
def formStart (tag : StartTag) : Build Unit := do
  let inTemplate ← ask fun builder => builder.hasOpen "template"
  if (← get).form.isSome && !inTemplate then pure ()
  else
    closeOpenParagraph
    let node ← insertOpen ⟨.html, "form"⟩ tag.attributes
    if !inTemplate then modify fun builder => { builder with form := some node }

def selectModeIn : Mode → Mode
  | .table | .caption | .tableBody | .row | .cell => .selectInTable
  | _ => .select

def bodyStart (tag : StartTag) : Build Unit := do
  let name := tag.name
  if headNames.contains name then headStart tag
  else if ignoredNames.contains name then pure ()
  else if blockNames.contains name then
    closeOpenParagraph
    openTag tag
  else if ["h1", "h2", "h3", "h4", "h5", "h6"].contains name then
    closeOpenParagraph
    if (← ask Builder.currentName).isHeading then pop
    openTag tag
  else if name = "pre" ∨ name = "listing" then
    closeOpenParagraph
    openTag tag
    modify fun builder => { builder with dropLineFeed := true }
  else if name = "form" then formStart tag
  else if name = "li" then itemStart tag ["li"]
  else if name = "dd" ∨ name = "dt" then itemStart tag ["dd", "dt"]
  else if name = "plaintext" then
    closeOpenParagraph
    openTag tag
    modify fun builder => { builder with reading := .plain }
  else if name = "button" then
    if ← ask fun builder => builder.inScope ElementName.endsScope "button" then
      closeImplied
      popThroughNamed "button"
    reopenFormatting
    openTag tag
  else if name = "a" then linkStart tag
  else if formattingNames.contains name then
    reopenFormatting
    openFormatting tag
  else if name = "nobr" then
    reopenFormatting
    if ← ask fun builder => builder.inScope ElementName.endsScope "nobr" then
      adopt "nobr"
      reopenFormatting
    openFormatting tag
  else if ["applet", "marquee", "object"].contains name then
    reopenFormatting
    openTag tag
    mark
  else if name = "table" then
    closeOpenParagraph
    openTag tag
    setMode .table
  else if ["area", "br", "embed", "img", "keygen", "wbr", "input"].contains name then
    reopenFormatting
    insertVoid tag
  else if name = "image" then
    reopenFormatting
    insertVoid { tag with name := "img" }
  else if ["param", "source", "track"].contains name then insertVoid tag
  else if name = "hr" then
    closeOpenParagraph
    insertVoid tag
  else if name = "textarea" then
    openRaw tag (.escapable "textarea")
    modify fun builder => { builder with dropLineFeed := true }
  else if name = "xmp" then
    closeOpenParagraph
    reopenFormatting
    openRaw tag (.raw "xmp")
  else if ["iframe", "noembed", "noscript"].contains name then openRaw tag (.raw name)
  else if name = "select" then
    reopenFormatting
    openTag tag
    modify fun builder => { builder with mode := selectModeIn builder.mode }
  else if name = "optgroup" ∨ name = "option" then
    if (← ask Builder.currentName) == ⟨.html, "option"⟩ then pop
    reopenFormatting
    openTag tag
  else if name = "rb" ∨ name = "rtc" then
    if ← ask fun builder => builder.inScope ElementName.endsScope "ruby" then closeImplied
    openTag tag
  else if name = "rp" ∨ name = "rt" then
    if ← ask fun builder => builder.inScope ElementName.endsScope "ruby" then
      closeImpliedBut "rtc"
    openTag tag
  else if name = "math" then foreignRoot tag .mathml
  else if name = "svg" then foreignRoot tag .svg
  else
    reopenFormatting
    openTag tag

def formStop : Build Unit := do
  if ← ask fun builder => builder.hasOpen "template" then
    if ← ask fun builder => builder.inScope ElementName.endsScope "form" then
      closeImplied
      popThroughNamed "form"
  else
    match (← get).form with
    | none => pure ()
    | some node =>
      modify fun builder => { builder with form := none }
      if ← ask fun builder =>
          builder.inScopeFrom ElementName.endsScope (· == node) builder.stack then
        closeImplied
        close node

def bodyStop (name : String) : Build Unit := do
  if name = "template" then closeTemplate
  else if name = "body" ∨ name = "html" then pure ()
  else if scopedNames.contains name then
    if ← ask fun builder => builder.inScope ElementName.endsScope name then
      closeImplied
      popThroughNamed name
  else if name = "form" then formStop
  else if name = "p" then
    if !(← ask fun builder => builder.inScope ElementName.endsButtonScope "p") then
      openImplied "p"
    closeParagraph
  else if name = "li" then
    if ← ask fun builder => builder.inScope ElementName.endsListScope "li" then
      closeImpliedBut "li"
      popThroughNamed "li"
  else if name = "dd" ∨ name = "dt" then
    if ← ask fun builder => builder.inScope ElementName.endsScope name then
      closeImpliedBut name
      popThroughNamed name
  else if ["h1", "h2", "h3", "h4", "h5", "h6"].contains name then
    if ← ask fun builder => builder.inScopeFrom ElementName.endsScope
        (fun node => (builder.nameOf node).isHeading) builder.stack then
      closeImplied
      popThrough ElementName.isHeading
  else if name = "a" ∨ name = "nobr" ∨ formattingNames.contains name then adopt name
  else if ["applet", "marquee", "object"].contains name then
    if ← ask fun builder => builder.inScope ElementName.endsScope name then
      closeImplied
      popThroughNamed name
      forgetToMarker
  else if name = "br" then bodyStart ⟨"br", [], false⟩
  else closeNamed name

def inBody : Token → Build Next
  | .start tag => do
    bodyStart tag
    return .done
  | .stop name => do
    bodyStop name
    return .done
  | .characters text => do
    bodyText text
    return .done
  | .comment => do
    insertComment
    return .done
  | _ => return .done

/-! ## Text that is read in another way -/

def inText : Token → Build Next
  | .characters text => do
    insertText text
    return .done
  | .stop _ => do
    pop
    modify fun builder => { builder with mode := builder.returnMode }
    return .done
  | _ => return .done

end Rules
end SafeMarkup.Html
