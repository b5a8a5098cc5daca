import SafeMarkup.Policy.Spec

/-!
Contract: the built-in policy.

It keeps the markup that an editor of formatted text produces, without scripts, frames, forms,
elements of whole documents, identifiers and classes. Policies of users are merged over it.
-/

namespace SafeMarkup.DefaultPolicy

/-! ## Short forms -/

/-- A validator of a kind without options. -/
def plain (kind : SimpleSpec) : ValidatorSpec := .simple .unwritten kind

/-- A validator of a kind whose value has to be there. -/
def required (kind : SimpleSpec) : ValidatorSpec :=
  .simple { OptionsSpec.unwritten with required := true } kind

def words (values : List Text) : SimpleSpec := .list values true

def unsigned : NumberSpec := ⟨some false, none, none⟩

/-- A whole value that matches a pattern. -/
def whole (pattern : Text) : SimpleSpec := .regexp pattern (some false) none

/-- A word of a list or an unsigned size. -/
def wordsOrSize (values : List Text) : SimpleSpec := .listOrSize values (some false) none

/-- A property whose chain is a single validator. -/
def property (name : Text) (validator : ValidatorSpec) : Text × ChainSpec :=
  (name, [[(name, validator)]])

/-! ## Validators in several places -/

def language : ValidatorSpec := plain (whole "[A-Za-z]\x7b1,8\x7d(?:-[A-Za-z0-9]\x7b1,8\x7d)*")

def direction : SimpleSpec := words ["ltr", "rtl"]

/-- A name that links can point at. -/
def anchorName : ValidatorSpec := required (whole "[A-Za-z][A-Za-z0-9_:.-]*")

def pointInTime : ValidatorSpec :=
  plain (whole ("[0-9]\x7b4\x7d-[0-9]\x7b2\x7d-[0-9]\x7b2\x7d(?:T[0-9:.]+" ++
    "(?:Z|[+-][0-9]\x7b2\x7d:[0-9]\x7b2\x7d)?)?"))

def title : Text × ValidatorSpec := ("title", plain .text)

def style (table : Text) : Text × ValidatorSpec := ("style", plain (.style table))

def common : RuleSetSpec :=
  [title, ("lang", language), ("dir", plain direction), style "common"]

/-- The place of content in a cell. -/
def cellAlignment : RuleSetSpec :=
  [("align", plain (words ["left", "center", "right", "justify", "char"])),
    ("valign", plain (words ["top", "middle", "bottom", "baseline"])),
    ("char", plain .char), ("charoff", plain (.length ⟨none, none, none⟩))]

def span : ValidatorSpec := plain (.number ⟨some false, some false, none⟩)

def sides (name : Text) : Text × List Text :=
  (name, [name ++ "-top", name ++ "-right", name ++ "-bottom", name ++ "-left"])

/-- Widths around a box, each a size. -/
def margin : Text × ChainSpec := property "margin" (.indent .unwritten none none none none)

/-- Widths around a box, each an unsigned size. -/
def padding : Text × ChainSpec :=
  property "padding" (.indent .unwritten (some (required (.size unsigned))) none none none)

def border (styles : List Text) : Text × ChainSpec :=
  property "border" (.complex .unwritten
    [plain (wordsOrSize ["thin", "medium", "thick"]), plain (words styles), plain .color] none none)

/-! ## Style tables -/

def commonStyles : StyleTableSpec where
  aliases := [("color", ["background-color", "border-color"]), sides "margin", sides "padding",
    sides "border"]
  properties := [
    property "color" (plain .color),
    property "font-weight" (plain (words ["normal", "bold", "bolder", "lighter", "100", "200",
      "300", "400", "500", "600", "700", "800", "900"])),
    property "font-style" (plain (words ["normal", "italic", "oblique"])),
    property "font-size" (plain (wordsOrSize ["xx-small", "x-small", "small", "medium", "large",
      "x-large", "xx-large", "larger", "smaller"])),
    property "font-family" (.sequence .unwritten (some (plain (whole "[A-Za-z0-9 _'\"-]+")))
      (some ",") (some ", ") none),
    property "text-align" (plain (words ["left", "right", "center", "justify"])),
    property "text-decoration" (plain (words ["none", "underline", "overline", "line-through"])),
    property "text-indent" (plain (.size ⟨none, none, none⟩)),
    property "line-height" (plain (wordsOrSize ["normal"])),
    property "vertical-align" (plain (.listOrSize ["baseline", "sub", "super", "top", "text-top",
      "middle", "bottom", "text-bottom"] none none)),
    property "list-style-type" (plain (words ["disc", "circle", "square", "decimal", "lower-roman",
      "upper-roman", "lower-alpha", "upper-alpha", "none"])),
    margin, padding,
    border ["none", "hidden", "dotted", "dashed", "solid", "double", "groove", "ridge", "inset",
      "outset"]]

def tableStyles : StyleTableSpec where
  aliases := [("color", ["background-color", "border-color"]), sides "padding",
    ("width", ["height"])]
  properties := [
    property "color" (plain .color),
    property "text-align" (plain (words ["left", "right", "center", "justify"])),
    property "vertical-align" (plain (words ["baseline", "top", "middle", "bottom"])),
    property "width" (plain (wordsOrSize ["auto"])),
    padding,
    property "border-collapse" (plain (words ["collapse", "separate"])),
    property "empty-cells" (plain (words ["show", "hide"])),
    property "white-space" (plain (words ["normal", "nowrap", "pre"]))]

def imageStyles : StyleTableSpec where
  aliases := [sides "margin", ("width", ["height"])]
  properties := [
    property "float" (plain (words ["left", "right", "none"])),
    property "width" (plain (wordsOrSize ["auto"])),
    margin,
    property "vertical-align" (plain (words ["baseline", "top", "middle", "bottom", "text-top",
      "text-bottom"])),
    border ["none", "solid", "dotted", "dashed"]]

/-! ## Elements -/

/-- A link to a place on this or another site. -/
def link : ValidatorSpec := plain (.url false true true)

def source : SimpleSpec := .url false true false

def elements : Dictionary ChainSpec := [
  ("p", [common]),
  ("h1", [common]),
  ("b", [common]),
  ("a", [("href", required (.url false true true)) :: common, [("name", anchorName), title]]),
  ("br", [[("clear", plain (words ["left", "all", "right", "none"]))]]),
  ("hr", []),
  ("q", [("cite", plain source) :: common]),
  ("ins", [[("cite", plain source), ("datetime", pointInTime), title, style "common"]]),
  ("bdo", [[("dir", required direction), ("lang", language), title]]),
  ("img", [[("src", required source), ("alt", plain .text), title,
    ("width", plain (.length unsigned)), ("height", plain (.length unsigned)),
    ("lowsrc", .simple { OptionsSpec.unwritten with invalid := true } source),
    ("dynsrc", .simple { OptionsSpec.unwritten with invalid := true } source), style "images"]]),
  ("map", [[("name", anchorName), title]]),
  ("area", [[
    ("shape", .simple { OptionsSpec.unwritten with default := some "rect" }
      (words ["rect", "circle", "poly", "default"])),
    ("coords", .sequence .unwritten (some (required (.length unsigned))) (some ",") none none),
    ("href", link), ("alt", required .text), title]]),
  ("ul", [common]),
  ("li", [common]),
  ("table", [[("summary", plain .text), title, ("lang", language), ("dir", plain direction),
    style "tables"]]),
  ("caption", [[("align", plain (words ["top", "bottom", "left", "right"])), title,
    style "tables"]]),
  ("col", [("span", span) :: cellAlignment]),
  ("tr", [cellAlignment ++ [title, style "tables"]]),
  ("td", [("abbr", plain .text) :: ("axis", plain .text) :: ("headers", plain .text) ::
    ("scope", plain (words ["row", "col", "rowgroup", "colgroup"])) :: ("rowspan", span) ::
    ("colspan", span) :: (cellAlignment ++ [title, style "tables"])])]

/-- Elements with the elements that share their rules. -/
def elementAliases : Dictionary (List Text) := [
  ("p", ["div", "span", "address", "pre"]),
  ("h1", ["h2", "h3", "h4", "h5", "h6"]),
  ("b", ["i", "em", "strong", "sub", "sup", "small", "big", "tt", "code", "kbd", "samp", "var",
    "dfn", "cite", "abbr", "acronym"]),
  ("q", ["blockquote"]),
  ("ins", ["del"]),
  ("ul", ["ol", "dl"]),
  ("li", ["dt", "dd"]),
  ("tr", ["thead", "tbody", "tfoot"]),
  ("td", ["th"]),
  ("col", ["colgroup"])]

end DefaultPolicy

/-- The built-in policy. A rule, a list or an item inside a paragraph would close it, so these are
blocks as well. -/
def PolicySpec.builtIn : PolicySpec where
  siteDomain := some "localhost"
  verbose := some false
  blockElements := some ["p", "h1", "h2", "h3", "h4", "h5", "h6", "div", "address", "fieldset",
    "ins", "del", "ul", "ol", "blockquote", "table", "pre", "hr", "dl", "li", "dd", "dt"]
  defaultBlock := some "p"
  voidElements := none
  keepEmpty := some ["td", "th", "caption", "a"]
  keepNbsp := some ["td", "th"]
  elementAliases := DefaultPolicy.elementAliases
  attributeAliases := []
  rewrites := []
  styleTables := [("common", DefaultPolicy.commonStyles), ("tables", DefaultPolicy.tableStyles),
    ("images", DefaultPolicy.imageStyles)]
  elements := DefaultPolicy.elements

end SafeMarkup
