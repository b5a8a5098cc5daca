import SafeMarkup.Html.Tree

/-!
Contract: what the names of elements mean to tree construction.
-/

namespace SafeMarkup.Html.ElementName

/-- Whether an element of the main vocabulary has one of some names. -/
def isOneOf (names : List String) (element : ElementName) : Bool :=
  element.vocabulary == .html && names.contains element.name

/-- Elements with rules of their own that formatting does not cross. -/
def isSpecial : ElementName → Bool :=
  isOneOf ["address", "applet", "area", "article", "aside", "base", "basefont", "bgsound",
    "blockquote", "body", "br", "button", "caption", "center", "col", "colgroup", "dd", "details",
    "dir", "div", "dl", "dt", "embed", "fieldset", "figcaption", "figure", "footer", "form",
    "frame", "frameset", "h1", "h2", "h3", "h4", "h5", "h6", "head", "header", "hgroup", "hr",
    "html", "iframe", "img", "input", "isindex", "li", "link", "listing", "main", "marquee",
    "menu", "meta", "nav", "noembed", "noframes", "noscript", "object", "ol", "p", "param",
    "plaintext", "pre", "script", "section", "select", "source", "style", "summary", "table",
    "tbody", "td", "template", "textarea", "tfoot", "th", "thead", "title", "tr", "track", "ul",
    "wbr", "xmp"]

def holdsFormulaText (element : ElementName) : Bool :=
  element.vocabulary == .mathml && ["mi", "mo", "mn", "ms", "mtext"].contains element.name

/-- Elements of drawings that hold elements of the main vocabulary. -/
def holdsMarkup (element : ElementName) : Bool :=
  element.vocabulary == .svg && ["foreignObject", "desc", "title"].contains element.name

def endsScope (element : ElementName) : Bool :=
  element.isOneOf ["applet", "caption", "html", "table", "td", "th", "marquee", "object",
    "template"] || element.holdsFormulaText || element.holdsMarkup

/-- Elements that end the scope of list items. -/
def endsListScope (element : ElementName) : Bool :=
  element.endsScope || element.isOneOf ["ol", "ul"]

/-- Elements that end the scope of buttons. -/
def endsButtonScope (element : ElementName) : Bool :=
  element.endsScope || element.isOneOf ["button"]

/-- Elements that end the scope of tables. -/
def endsTableScope : ElementName → Bool := isOneOf ["html", "table", "template"]

/-- Elements that end the scope of selections: all but those a selection holds. -/
def endsSelectScope (element : ElementName) : Bool := !element.isOneOf ["optgroup", "option"]

/-- Elements whose end tags may be left out. -/
def hasImpliedEnd : ElementName → Bool :=
  isOneOf ["dd", "dt", "li", "option", "optgroup", "p", "rb", "rp", "rt", "rtc"]

/-- The same with the parts of tables. -/
def hasImpliedEndInTemplate (element : ElementName) : Bool :=
  element.hasImpliedEnd || element.isOneOf ["caption", "colgroup", "tbody", "td", "tfoot", "th",
    "thead", "tr"]

def isHeading : ElementName → Bool := isOneOf ["h1", "h2", "h3", "h4", "h5", "h6"]

/-- Elements that content may not stand in directly and is moved in front of. -/
def fostersContent : ElementName → Bool := isOneOf ["table", "tbody", "tfoot", "thead", "tr"]

/-! ## Names of drawings and formulas -/

/-- The names of elements of drawings that have capitals. -/
def svgElements : List String :=
  ["altGlyph", "altGlyphDef", "altGlyphItem", "animateColor", "animateMotion", "animateTransform",
   "clipPath", "feBlend", "feColorMatrix", "feComponentTransfer", "feComposite",
   "feConvolveMatrix", "feDiffuseLighting", "feDisplacementMap", "feDistantLight",
   "feDropShadow", "feFlood", "feFuncA", "feFuncB", "feFuncG", "feFuncR", "feGaussianBlur",
   "feImage", "feMerge", "feMergeNode", "feMorphology", "feOffset", "fePointLight",
   "feSpecularLighting", "feSpotLight", "feTile", "feTurbulence", "foreignObject", "glyphRef",
   "linearGradient", "radialGradient", "textPath"]

/-- The keys of drawings that have capitals. -/
def svgKeys : List String :=
  ["attributeName", "attributeType", "baseFrequency", "baseProfile", "calcMode", "clipPathUnits",
   "diffuseConstant", "edgeMode", "filterUnits", "glyphRef", "gradientTransform", "gradientUnits",
   "kernelMatrix", "kernelUnitLength", "keyPoints", "keySplines", "keyTimes", "lengthAdjust",
   "limitingConeAngle", "markerHeight", "markerUnits", "markerWidth", "maskContentUnits",
   "maskUnits", "numOctaves", "pathLength", "patternContentUnits", "patternTransform",
   "patternUnits", "pointsAtX", "pointsAtY", "pointsAtZ", "preserveAlpha", "preserveAspectRatio",
   "primitiveUnits", "refX", "refY", "repeatCount", "repeatDur", "requiredExtensions",
   "requiredFeatures", "specularConstant", "specularExponent", "spreadMethod", "startOffset",
   "stdDeviation", "stitchTiles", "surfaceScale", "systemLanguage", "tableValues", "targetX",
   "targetY", "textLength", "viewBox", "viewTarget", "xChannelSelector", "yChannelSelector",
   "zoomAndPan"]

/-- The spelling with capitals, if a list has one. -/
def spelled (names : List String) (name : String) : String :=
  (names.find? fun spelling => spelling.toList.map Char.toLower = name.toList).getD name

/-- The keys of an element as its vocabulary spells them. -/
def spelledAttributes (vocabulary : Vocabulary) (attributes : List (String × Text)) :
    List (String × Text) :=
  let names := match vocabulary with
    | .svg => svgKeys
    | .mathml => ["definitionURL"]
    | .html => []
  attributes.map fun (key, value) => (spelled names key, value)

/-- Whether an annotation of a formula holds elements of the main vocabulary. -/
def annotationHoldsMarkup (attributes : List (String × Text)) : Bool :=
  attributes.any fun (key, value) => key = "encoding" &&
    ["text/html", "application/xhtml+xml"].contains (String.ofList (Text.toAsciiLower value))

def endsForeign : List String :=
  ["b", "big", "blockquote", "body", "br", "center", "code", "dd", "div", "dl", "dt", "em",
   "embed", "h1", "h2", "h3", "h4", "h5", "h6", "head", "hr", "i", "img", "li", "listing", "menu",
   "meta", "nobr", "ol", "p", "pre", "ruby", "s", "small", "span", "strong", "strike", "sub",
   "sup", "table", "tt", "u", "ul", "var"]

end SafeMarkup.Html.ElementName
