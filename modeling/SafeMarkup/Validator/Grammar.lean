import SafeMarkup.Pattern.Reader

/-!
Contract: grammars for numbers, lengths, sizes and colors, and grammars given by a pattern.

Every grammar is tried at the beginning of a value. Where garbage is trimmed the part that matches
is kept and what follows is dropped; otherwise the whole value has to match.
-/

namespace SafeMarkup

/-- The grammars that need no pattern. -/
inductive Shape where
  /-- Up to seven digits. -/
  | number
  /-- A number, perhaps in percent. -/
  | length
  /-- A number, perhaps with a unit. -/
  | size
  /-- A color in hexadecimal or functional notation. -/
  | color
deriving DecidableEq, Repr

/-- How a grammar is applied. -/
structure GrammarSettings where
  /-- A number may begin with a sign. -/
  allowSign : Bool
  /-- What follows the matched part is dropped. -/
  trimGarbage : Bool
  /-- Blanks are removed before matching. -/
  removeBlanks : Bool
  caseSensitive : Bool
deriving DecidableEq, Repr

namespace GrammarSettings

def plain : GrammarSettings := ⟨true, true, false, false⟩

def size : GrammarSettings := { plain with removeBlanks := true }

def color : GrammarSettings := { size with allowSign := false }

end GrammarSettings

def sizeUnits : List Text := ["px", "cm", "mm", "in", "pt", "pc", "em", "ex", "%", ""]

/-- Named colors: those of the user interface, then the extended set. -/
def colorNames : List Text :=
  (["activeborder", "activecaption", "appworkspace", "background", "buttonface", "buttonhighlight",
   "buttonshadow", "buttontext", "captiontext", "graytext", "highlight", "highlighttext",
   "inactiveborder", "inactivecaption", "inactivecaptiontext", "infobackground", "infotext",
   "menu", "menutext", "scrollbar", "threeddarkshadow", "threedface", "threedhighlight",
   "threedlightshadow", "threedshadow", "window", "windowframe", "windowtext", "currentcolor",
   "aliceblue", "antiquewhite", "aqua", "aquamarine", "azure", "beige", "bisque", "black",
   "blanchedalmond", "blue", "blueviolet", "brown", "burlywood", "cadetblue", "chartreuse",
   "chocolate", "coral", "cornflowerblue", "cornsilk", "crimson", "cyan", "darkblue", "darkcyan",
   "darkgoldenrod", "darkgray", "darkgreen", "darkgrey", "darkkhaki", "darkmagenta",
   "darkolivegreen", "darkorange", "darkorchid", "darkred", "darksalmon", "darkseagreen",
   "darkslateblue", "darkslategray", "darkslategrey", "darkturquoise", "darkviolet", "deeppink",
   "deepskyblue", "dimgray", "dimgrey", "dodgerblue", "firebrick", "floralwhite", "forestgreen",
   "fuchsia", "gainsboro", "ghostwhite", "gold", "goldenrod", "gray", "green", "greenyellow",
   "grey", "honeydew", "hotpink", "indianred", "indigo", "ivory", "khaki", "lavender",
   "lavenderblush", "lawngreen", "lemonchiffon", "lightblue", "lightcoral", "lightcyan",
   "lightgoldenrodyellow", "lightgray", "lightgreen", "lightgrey", "lightpink", "lightsalmon",
   "lightseagreen", "lightskyblue", "lightslategray", "lightslategrey", "lightsteelblue",
   "lightyellow", "lime", "limegreen", "linen", "magenta", "maroon", "mediumaquamarine",
   "mediumblue", "mediumorchid", "mediumpurple", "mediumseagreen", "mediumslateblue",
   "mediumspringgreen", "mediumturquoise", "mediumvioletred", "midnightblue", "mintcream",
   "mistyrose", "moccasin", "navajowhite", "navy", "oldlace", "olive", "olivedrab", "orange",
   "orangered", "orchid", "palegoldenrod", "palegreen", "paleturquoise", "palevioletred",
   "papayawhip", "peachpuff", "peru", "pink", "plum", "powderblue", "purple", "red", "rosybrown",
   "royalblue", "saddlebrown", "salmon", "sandybrown", "seagreen", "seashell", "sienna", "silver",
   "skyblue", "slateblue", "slategray", "slategrey", "snow", "springgreen", "steelblue", "tan",
   "teal", "thistle", "tomato", "turquoise", "violet", "wheat", "white", "whitesmoke", "yellow",
   "yellowgreen"] : List String).map String.toList

/-- A pattern to match at the beginning of values. -/
structure Grammar where
  pattern : Pattern
  removeBlanks : Bool

namespace Grammar

/-! ## The built-in patterns -/

/-- A set, closed under case if case is ignored. -/
def oneOf (foldCase : Bool) (set : CharSet) : Pattern :=
  .one (if foldCase then set.folded else set)

/-- The characters of a text in a row. -/
def exactly (foldCase : Bool) (text : Text) : Pattern :=
  .concat (text.map fun c => oneOf foldCase (.single c))

/-- One to seven decimal digits, as many as there are. -/
def digits : Pattern := .repeated true 1 (some 7) (.one .digits)

def sign : Pattern := .optional true (.one (.union (.single '+') (.single '-')))

def percent : Pattern := .optional true (.one (.single '%'))

/-- A number, with a sign if that is allowed. -/
def number (settings : GrammarSettings) : Pattern :=
  if settings.allowSign then .seq sign digits else digits

def channel : Pattern := .concat [sign, digits, percent]

def alpha : Pattern :=
  .choice (.concat [.optional true digits, .one (.single '.'), digits]) channel

def call (foldCase : Bool) (names : List Text) (arguments : List Pattern) : Pattern :=
  .concat [.firstOf (names.map (exactly foldCase)), .one (.single '('),
    .concat (arguments.intersperse (.one (.single ','))), .one (.single ')')]

/-- A number sign and a count of hexadecimal digits. -/
def hexadecimal (foldCase : Bool) (count : Nat) : Pattern :=
  .seq (.one (.single '#')) (.repeated true count (some count)
    (oneOf foldCase (.unions [.range '0' '9', .range 'a' 'f', .range 'A' 'F'])))

/-- A color: three channels, three channels with an alpha, six or three hexadecimal digits. -/
def color (foldCase : Bool) : Pattern :=
  .firstOf [call foldCase ["rgb", "hsl"] [channel, channel, channel],
    call foldCase ["rgba", "hsla"] [channel, channel, channel, alpha],
    hexadecimal foldCase 6, hexadecimal foldCase 3]

def ofShapePattern (shape : Shape) (settings : GrammarSettings) : Pattern :=
  let foldCase := !settings.caseSensitive
  match shape with
  | .number => number settings
  | .length => .seq (number settings) percent
  | .size => .seq (number settings) (.firstOf (sizeUnits.map (exactly foldCase)))
  | .color => color foldCase

/-! ## Grammars -/

def ofShape (shape : Shape) (settings : GrammarSettings) : Grammar :=
  let pattern := .seq (.assert .textStart) (ofShapePattern shape settings)
  ⟨if settings.trimGarbage then pattern else .seq pattern (.assert .textEnd), settings.removeBlanks⟩

/-- The text of a pattern, bound to the beginning of a value and perhaps to its end. -/
def anchored (pattern : Text) (settings : GrammarSettings) : Text :=
  "^(?:" ++ pattern ++ ")" ++ if settings.trimGarbage then [] else ['$']

/-- A grammar by the text of a pattern. -/
def ofPattern (pattern : Text) (settings : GrammarSettings) :
    Except Pattern.Fault Grammar :=
  (Pattern.read (!settings.caseSensitive) (anchored pattern settings)).map fun pattern =>
    ⟨pattern, settings.removeBlanks⟩

/-- The text a grammar is matched against. -/
def candidate (grammar : Grammar) (value : Text) : Text :=
  if grammar.removeBlanks then Text.removeBlanks value else value

/-- The part of a value that matches. -/
def matched? (grammar : Grammar) (value : Text) : Option Text :=
  grammar.pattern.find? (grammar.candidate value)

end Grammar
end SafeMarkup
