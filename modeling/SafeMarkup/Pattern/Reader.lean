import SafeMarkup.Pattern.Room
import SafeMarkup.Text.Latest

/-!
Contract: the written form of patterns.

Groups, alternatives, greedy and reluctant repetitions, classes with set operations, named
properties, anchors and word boundaries, and the flags `i m s R U u x`. References to groups and
looking around are not part of the notation. A text outside the notation has no pattern, and neither
has one that is nested too deeply or takes too much room.
-/

namespace SafeMarkup.Pattern

/-- Why a text has no pattern. -/
inductive Fault where
  | malformed
  | oversized
deriving DecidableEq, Repr

namespace Fault

/-- A fault in words; what is malformed is told by a mark that stands for a diagnostic. -/
def message : Fault → Text
  | .malformed => "<regex error>"
  | .oversized => "Compiled regex exceeds size limit of 10485760 bytes."

end Fault

/-- How deep patterns may be nested: groups, repetitions, alternatives, rows, and classes with their
operations count. -/
def maxDepth : Nat := 250

/-- What the flags say at a place of the notation. -/
structure Flags where
  foldCase : Bool
  multiLine : Bool := false
  dotTakesLineFeed : Bool := false
  carriageReturnEndsLine : Bool := false
  swapGreed : Bool := false
  unicode : Bool := true
  ignoreBlanks : Bool := false
deriving DecidableEq, Repr

/-- The reader's state: the flags in force, the group names taken, and the text left. -/
structure ReaderState where
  flags : Flags
  names : List Text
  rest : Text

/-- Reading, which may fail. -/
abbrev Reader := StateT ReaderState Option

namespace Reader

def rest : Reader Text := return (← get).rest

def flags : Reader Flags := return (← get).flags

def setRest (text : Text) : Reader Unit := modify fun state => { state with rest := text }

def setFlags (flags : Flags) : Reader Unit := modify fun state => { state with flags }

def peek? : Reader (Option Char) := return (← rest).head?

def peekSecond? : Reader (Option Char) := return ((← rest).drop 1).head?

def next : Reader Char := do
  match ← rest with
  | [] => failure
  | c :: behind => setRest behind; return c

/-- Reads a given text if it comes next. -/
def accept (text : Text) : Reader Bool := do
  match Text.after? text (← rest) with
  | some behind => setRest behind; return true
  | none => return false

/-- Drops white space and comments, with the number of characters as fuel. -/
def dropBlanks : Nat → Text → Text
  | 0, text => text
  | fuel + 1, text =>
    match text with
    | [] => []
    | c :: behind =>
      if Text.isBlank c then dropBlanks fuel behind
      else if c = '#' then dropBlanks fuel ((behind.dropWhile (· != '\n')).drop 1)
      else text

/-- Skips white space and comments where the flags say so. -/
def skipBlanks : Reader Unit := do
  if (← flags).ignoreBlanks then
    let text ← rest
    setRest (dropBlanks text.length text)

/-- The character to be read next, which there has to be, after skipping blanks. -/
def peekPastBlanks : Reader Char := do
  skipBlanks
  match ← peek? with
  | some c => return c
  | none => failure

end Reader

open Reader

/-! ## Single characters -/

/-- A set as the flags have it: closed under case where case is ignored. -/
def Flags.closed (flags : Flags) (set : CharSet) : CharSet :=
  if flags.foldCase then if flags.unicode then CharSet.folded set else CharSet.asciiFolded set
  else set

/-- A negated set, which without Unicode could split a character. -/
def Flags.negated (flags : Flags) (negate : Bool) (set : CharSet) : Reader CharSet :=
  if negate then if flags.unicode then return CharSet.complement set else failure else return set

/-- One meaning of an escape. -/
inductive Escaped where
  | literal (c : Char)
  | set (set : CharSet)
  | assertion (condition : Assertion)

def hexDigits : Nat → Nat → Reader Nat
  | 0, value => return value
  | count + 1, value => do
    skipBlanks
    match Text.hexValue? (← next) with
    | some digit => hexDigits count (16 * value + digit)
    | none => failure

/-- Hexadecimal digits up to a closing brace. -/
def bracedHex : Nat → Option Nat → Reader Nat
  | 0, _ => failure
  | fuel + 1, value => do
    skipBlanks
    let c ← next
    if c = '\x7d' then
      match value with
      | some value => return value
      | none => failure
    else match Text.hexValue? c with
      | some digit =>
        let value := 16 * value.getD 0 + digit
        if value < 0x100000000 then bracedHex fuel (some value) else failure
      | none => failure

/-- A character by its code point: a fixed number of digits, or any number in braces. Two digits
without Unicode are a byte, which is a character only below 128. -/
def codePoint (digits : Nat) : Reader Escaped := do
  skipBlanks
  let inBraces := (← peek?) = some '\x7b'
  let value ←
    if inBraces then do
      let _ ← next
      bracedHex ((← rest).length + 1) none
    else hexDigits digits 0
  if !inBraces ∧ digits = 2 ∧ !(← flags).unicode ∧ 128 ≤ value then failure
  if value.isValidChar then return .literal (Char.ofNat value) else failure

/-- The text up to a closing brace, which is read too. -/
def braced : Reader Text := do
  let text ← rest
  match Text.splitOnce '\x7d' text with
  | some (inside, behind) => setRest behind; return inside
  | none => failure

/-- A property in braces: a name, or a name and a value that it has or has not. -/
def propertySet (inside : Text) : Option (Bool × CharSet) :=
  let pair (negate : Bool) (property value : Text) : Option (Bool × CharSet) :=
    (CharSet.unicodeValued? (CharSet.normalizedName property)
      (CharSet.normalizedName value)).map ((negate, ·))
  match inside.span (· != '!') with
  | (property, '!' :: '=' :: value) => pair true property value
  | _ => match Text.splitOnce ':' inside with
    | some (property, value) => pair false property value
    | none => match Text.splitOnce '=' inside with
      | some (property, value) => pair false property value
      | none => (CharSet.unicodeNamed? (CharSet.normalizedName inside)).map ((false, ·))

/-- The name in braces up to and with the closing one. -/
def bracedName : Nat → Text → Reader Text
  | 0, _ => failure
  | fuel + 1, name => do
    skipBlanks
    let c ← next
    if c = '\x7d' then return name.reverse else bracedName fuel (c :: name)

def unicodeClass (negate : Bool) : Reader CharSet := do
  let flags ← flags
  if !flags.unicode then failure
  skipBlanks
  let c ← next
  let found ←
    if c = '\x7b' then pure (propertySet (← bracedName ((← rest).length + 1) []))
    else if c = '\\' then failure
    else pure (propertySet [c])
  match found with
  | some (inverted, set) =>
    let set := flags.closed set
    return if negate != inverted then CharSet.complement set else set
  | none => failure

def letterClass (unicodeSet asciiSet : CharSet) (negate : Bool) : Reader CharSet := do
  let flags ← flags
  flags.negated negate (if flags.unicode then unicodeSet else asciiSet)

/-- The name of a word boundary in braces, or none if what follows is a repetition. -/
def boundaryName? : Reader (Option Text) := do
  let state ← get
  if (← peek?) != some '\x7b' then return none
  let _ ← next
  let c ← peekPastBlanks
  let inName (c : Char) : Bool := c.isAlpha || c = '-'
  if !inName c then set state; return none
  let inside ← braced
  let name := if state.flags.ignoreBlanks then Text.removeBlanks inside else inside
  if name.all inName then return some name else failure

/-- What follows a backslash. -/
def escaped : Reader Escaped := do
  let c ← next
  let flags ← flags
  let ascii := !flags.unicode
  if c.isDigit then failure
  else if c = 'x' then codePoint 2
  else if c = 'u' then codePoint 4
  else if c = 'U' then codePoint 8
  else if c = 'p' ∨ c = 'P' then return .set (← unicodeClass (c = 'P'))
  else if c = 'd' ∨ c = 'D' then
    return .set (← letterClass CharSet.digits CharSet.asciiDigits (c = 'D'))
  else if c = 's' ∨ c = 'S' then
    return .set (← letterClass CharSet.blanks CharSet.asciiBlanks (c = 'S'))
  else if c = 'w' ∨ c = 'W' then
    return .set (← letterClass CharSet.wordCharacters CharSet.asciiWordCharacters (c = 'W'))
  else if c = 'a' then return .literal '\x07'
  else if c = 'f' then return .literal '\x0c'
  else if c = 't' then return .literal '\t'
  else if c = 'n' then return .literal '\n'
  else if c = 'r' then return .literal '\r'
  else if c = 'v' then return .literal '\x0b'
  else if c = 'A' then return .assertion .textStart
  else if c = 'z' then return .assertion .textEnd
  else if c = 'B' then return .assertion (.notWordBoundary ascii)
  else if c = '<' then return .assertion (.wordStart ascii)
  else if c = '>' then return .assertion (.wordEnd ascii)
  else if c = 'b' then
    match ← boundaryName? with
    | none => return .assertion (.wordBoundary ascii)
    | some name =>
      if name = "start".toList then return .assertion (.wordStart ascii)
      else if name = "end".toList then return .assertion (.wordEnd ascii)
      else if name = "start-half".toList then return .assertion (.wordStartHalf ascii)
      else if name = "end-half".toList then return .assertion (.wordEndHalf ascii)
      else failure
  else if c.toNat < 128 ∧ !c.isAlpha then return .literal c
  else failure

/-! ## Classes in brackets -/

/-- A set operation between the parts of a class. -/
inductive SetOperation where
  | intersection
  | difference
  | symmetricDifference

/-- The result of a set operation, on operands closed as the flags say. -/
def SetOperation.apply (flags : Flags) (left right : CharSet) (operation : SetOperation) :
    CharSet :=
  let left := flags.closed left
  let right := flags.closed right
  match operation with
  | .intersection => CharSet.inter left right
  | .difference => CharSet.difference left right
  | .symmetricDifference => CharSet.symmetricDifference left right

/-- A set with the depth of the class it was written as. -/
structure NestedSet where
  set : CharSet
  depth : Nat

/-- The part of a class that was read: the operation that waits for its right side, if any, and
the members read since. -/
structure ClassState where
  pending : Option (NestedSet × SetOperation)
  members : List NestedSet

/-- The members read since an operation as one set. -/
def ClassState.union (state : ClassState) : NestedSet :=
  let deepest := (state.members.map NestedSet.depth).foldl max 0
  ⟨CharSet.unions (state.members.map NestedSet.set),
    if state.members.length < 2 then deepest else deepest + 1⟩

def ClassState.value (flags : Flags) (state : ClassState) : NestedSet :=
  match state.pending with
  | none => state.union
  | some (left, operation) =>
    let right := state.union
    ⟨operation.apply flags left.set right.set, max left.depth right.depth + 1⟩

def ClassState.add (state : ClassState) (set : NestedSet) : ClassState :=
  { state with members := set :: state.members }

/-- Begins the right side of an operation. -/
def ClassState.operate (flags : Flags) (state : ClassState) (operation : SetOperation) :
    ClassState :=
  ⟨some (state.value flags, operation), []⟩

/-- A class of ASCII characters by its name, as `[:alpha:]`; nothing is read if there is none. -/
def asciiClass? : Reader (Option CharSet) := do
  let text ← rest
  match Text.after? "[:" text with
  | none => return none
  | some inside =>
    let (negate, inside) : Bool × Text := match inside with
      | '^' :: rest => (true, rest)
      | rest => (false, rest)
    match Text.splitOnce ':' inside with
    | some (name, ']' :: behind) =>
      match CharSet.asciiNamed? (String.ofList name) with
      | some set =>
        setRest behind
        let flags ← flags
        return some (← flags.negated negate (flags.closed set))
      | none => return none
    | _ => return none

/-- A character of a class, which without Unicode has to be below 128. -/
def classCharacter (c : Char) : Reader Char := do
  if !(← flags).unicode ∧ 128 ≤ c.toNat then failure
  return c

/-- A single member of a class: a character, or the set of an escape. -/
def classItem : Reader (Char ⊕ CharSet) := do
  let c ← next
  if c = '\\' then
    match ← escaped with
    | .literal c => return .inl (← classCharacter c)
    | .set set => return .inr set
    | .assertion _ => failure
  else return .inl (← classCharacter c)

/-- A member of a class, which a hyphen may extend to a range. -/
def classRange : Reader CharSet := do
  let first ← classItem
  skipBlanks
  let text ← rest
  if text.isEmpty then failure
  let flags ← flags
  let behind := text.drop 1
  let behind := if flags.ignoreBlanks then dropBlanks behind.length behind else behind
  let isRange := text.head? = some '-' ∧ behind.head? ≠ some ']' ∧ behind.head? ≠ some '-'
  if isRange then
    let _ ← next
    skipBlanks
    let last ← classItem
    match first, last with
    | .inl first, .inl last =>
      if first ≤ last then return CharSet.range first last else failure
    | _, _ => failure
  else match first with
    | .inl c => return CharSet.single c
    | .inr set => return set

/-- The hyphens that open a class, before other members. -/
def openingHyphens : Nat → List NestedSet → Reader (List NestedSet)
  | 0, members => return members
  | fuel + 1, members => do
    if (← peekPastBlanks) = '-' then
      let _ ← next
      openingHyphens fuel (⟨CharSet.single '-', 0⟩ :: members)
    else return members

mutual
/-- A class, from its opening bracket to its closing one, that may be nested only so deep. -/
def bracketed (nesting : Nat) : Nat → Reader NestedSet
  | 0 => failure
  | fuel + 1 => do
    if nesting = 0 then failure
    let _ ← next
    let negate := (← peekPastBlanks) = '^'
    if negate then let _ ← next
    let hyphens ← openingHyphens ((← rest).length + 1) []
    let opened ←
      if hyphens.isEmpty ∧ (← peekPastBlanks) = ']' then do
        let _ ← next
        pure [⟨CharSet.single ']', 0⟩]
      else pure hyphens
    let inside ← classMembers (nesting - 1) fuel ⟨none, opened⟩
    let flags ← flags
    return ⟨← flags.negated negate (flags.closed inside.set), inside.depth + 1⟩

/-- The members of a class up to and with its closing bracket. -/
def classMembers (nesting : Nat) : Nat → ClassState → Reader NestedSet
  | 0, _ => failure
  | fuel + 1, state => do
    let c ← peekPastBlanks
    let second ← peekSecond?
    let flags ← flags
    if c = '[' then
      match ← asciiClass? with
      | some set => classMembers nesting fuel (state.add ⟨set, 0⟩)
      | none =>
        let inside ← bracketed nesting fuel
        classMembers nesting fuel (state.add inside)
    else if c = ']' then
      let _ ← next
      return state.value flags
    else if c = '&' ∧ second = some '&' then
      setRest ((← rest).drop 2)
      classMembers nesting fuel (state.operate flags .intersection)
    else if c = '-' ∧ second = some '-' then
      setRest ((← rest).drop 2)
      classMembers nesting fuel (state.operate flags .difference)
    else if c = '~' ∧ second = some '~' then
      setRest ((← rest).drop 2)
      classMembers nesting fuel (state.operate flags .symmetricDifference)
    else
      let set ← classRange
      classMembers nesting fuel (state.add ⟨set, 0⟩)
end

/-! ## Repetitions -/

/-- Decimal digits, with blanks and comments between them where the flags say so. -/
def decimalDigits : Nat → Text → Reader Text
  | 0, digits => return digits.reverse
  | fuel + 1, digits => do
    match (← peek?).filter Char.isDigit with
    | some c =>
      let _ ← next
      skipBlanks
      decimalDigits fuel (c :: digits)
    | none => return digits.reverse

/-- A decimal number with blanks around it. -/
def decimal : Reader Nat := do
  setRest ((← rest).dropWhile Text.isBlank)
  let digits ← decimalDigits ((← rest).length + 1) []
  setRest ((← rest).dropWhile Text.isBlank)
  skipBlanks
  match Text.toNat? digits with
  | some value => if value < 0x100000000 then return value else failure
  | none => failure

/-- The bounds of a counted repetition, from its opening brace to its closing one. -/
def bounds : Reader (Nat × Option Nat) := do
  let _ ← next
  skipBlanks
  let least ← decimal
  let most ←
    if (← peek?) = some ',' then do
      let _ ← next
      if (← peekPastBlanks) = '\x7d' then pure none else pure (some (← decimal))
    else pure (some least)
  if (← next) != '\x7d' then failure
  skipBlanks
  match most with
  | some most => if least ≤ most then return (least, some most) else failure
  | none => return (least, none)

/-- Whether a repetition is greedy: a question mark makes it reluctant. -/
def greed : Reader Bool := do
  let reluctant ← accept "?"
  return reluctant == (← flags).swapGreed

/-! ## Groups -/

def Flags.set (flags : Flags) (on : Bool) (c : Char) : Option Flags :=
  if c = 'i' then some { flags with foldCase := on }
  else if c = 'm' then some { flags with multiLine := on }
  else if c = 's' then some { flags with dotTakesLineFeed := on }
  else if c = 'R' then some { flags with carriageReturnEndsLine := on }
  else if c = 'U' then some { flags with swapGreed := on }
  else if c = 'u' then some { flags with unicode := on }
  else if c = 'x' then some { flags with ignoreBlanks := on }
  else none

/-- Flags up to a colon or a closing parenthesis, which is read too. Each flag comes once, and
something follows the hyphen that negates. -/
def flagItems : Nat → Flags → Text → Reader (Flags × Bool × Bool)
  | 0, _, _ => failure
  | fuel + 1, flags, seen => do
    let c ← next
    if c = ':' ∨ c = ')' then
      if seen.head? = some '-' then failure else return (flags, seen.isEmpty, c = ':')
    else if seen.contains c then failure
    else if c = '-' then flagItems fuel flags (c :: seen)
    else match flags.set (!seen.contains '-') c with
      | some flags => flagItems fuel flags (c :: seen)
      | none => failure

/-- The name of a group up to and with its closing angle bracket. -/
def groupName : Reader Unit := do
  match Text.splitOnce '>' (← rest) with
  | none => failure
  | some (name, behind) =>
    let fits := match name with
      | [] => false
      | c :: more =>
        (c = '_' || Text.Latest.alphabetic.get.member c.toNat) &&
          more.all fun c => c = '_' || c = '.' || c = '[' || c = ']' ||
            Text.Latest.alphanumeric.get.member c.toNat
    let state ← get
    if !fits ∨ state.names.contains name then failure
    set { state with names := name :: state.names, rest := behind }

/-- What opens after a parenthesis. -/
inductive Opening where
  /-- Flags for the rest of the enclosing group. -/
  | flags (flags : Flags)
  /-- A group with the flags inside it. -/
  | group (numbered : Bool) (flags : Flags)

/-- Reads how a group opens, after its parenthesis. -/
def opening : Reader Opening := do
  skipBlanks
  let flags ← flags
  if (← accept "?=") || (← accept "?!") || (← accept "?<=") || (← accept "?<!") then failure
  if ← accept "?P<" <||> accept "?<" then
    groupName
    return .group true flags
  if ← accept "?" then
    let (flags, blank, opens) ← flagItems ((← rest).length + 1) flags []
    if opens then return .group false flags
    else if blank then failure
    else return .flags flags
  return .group true flags

/-! ## Patterns -/

def literal (c : Char) : Reader Pattern := return .one ((← flags).closed (CharSet.single c))

/-- A character, a class by a letter, a dot, an anchor or an escape. -/
def primitive : Reader Pattern := do
  let flags ← flags
  let c ← next
  if c = '.' then
    if !flags.unicode then failure
    else if flags.dotTakesLineFeed then return .one CharSet.everything
    else if flags.carriageReturnEndsLine then
      return .one (CharSet.complement (CharSet.union (CharSet.single '\n') (CharSet.single '\r')))
    else return .one (CharSet.complement (CharSet.single '\n'))
  else if c = '^' then
    return .assert <|
      if !flags.multiLine then .textStart
      else if flags.carriageReturnEndsLine then .anyLineStart else .lineStart
  else if c = '$' then
    return .assert <|
      if !flags.multiLine then .textEnd
      else if flags.carriageReturnEndsLine then .anyLineEnd else .lineEnd
  else if c = '\\' then
    match ← escaped with
    | .literal c => literal c
    | .set set => return .one set
    | .assertion condition => return .assert condition
  else literal c

/-- A pattern with the depth it was written in. -/
structure Nested where
  pattern : Pattern
  depth : Nat

/-- A part of a branch: a pattern, or a setting of flags, which matches nothing. -/
abbrev Part := Option Nested

/-- Repeats the last part that was read; there has to be one that matches. -/
def repeatLast (least : Nat) (most : Option Nat) : List Part → Reader (List Part)
  | some last :: parts => do
    return some ⟨.repeated (← greed) least most last.pattern, last.depth + 1⟩ :: parts
  | _ => failure

/-- The pattern of a branch, whose parts were read last first. -/
def ofParts (parts : List Part) : Nested :=
  let deepest := (parts.map fun part => (part.map Nested.depth).getD 0).foldl max 0
  ⟨concat (parts.reverse.filterMap fun part => part.map Nested.pattern),
    if parts.length < 2 then deepest else deepest + 1⟩

/-- The pattern of alternatives, which were read last first. -/
def ofBranches (branches : List Nested) : Nested :=
  let deepest := (branches.map Nested.depth).foldl max 0
  ⟨firstOf (branches.reverse.map Nested.pattern),
    if branches.length < 2 then deepest else deepest + 1⟩

/-- Alternatives up to a closing parenthesis or the end, which may be nested only so deep. The
branches and the parts of the last one read so far come last first. Each step of the fuel reads a
character. -/
def alternatives (nesting : Nat) : Nat → List Nested → List Part → Reader Nested
  | 0, _, _ => failure
  | fuel + 1, branches, parts => do
    skipBlanks
    match (← peek?).filter (· ≠ ')') with
    | none => return ofBranches (ofParts parts :: branches)
    | some c =>
      if c = '|' then
        let _ ← next
        alternatives nesting fuel (ofParts parts :: branches) []
      else if c = '(' then
        let _ ← next
        let outer ← flags
        match ← opening with
        | .flags flags =>
          setFlags flags
          alternatives nesting fuel branches (none :: parts)
        | .group numbered flags =>
          if nesting = 0 then failure
          setFlags flags
          let inside ← alternatives (nesting - 1) fuel [] []
          if !(← accept ")") then failure
          setFlags outer
          alternatives nesting fuel branches
            (some ⟨.group numbered inside.pattern, inside.depth + 1⟩ :: parts)
      else if c = '[' then
        let inside ← bracketed nesting ((← rest).length + 1)
        alternatives nesting fuel branches (some ⟨.one inside.set, inside.depth⟩ :: parts)
      else if c = '?' then
        let _ ← next
        alternatives nesting fuel branches (← repeatLast 0 (some 1) parts)
      else if c = '*' then
        let _ ← next
        alternatives nesting fuel branches (← repeatLast 0 none parts)
      else if c = '+' then
        let _ ← next
        alternatives nesting fuel branches (← repeatLast 1 none parts)
      else if c = '\x7b' then
        if parts.head?.join.isNone then failure
        let (least, most) ← bounds
        alternatives nesting fuel branches (← repeatLast least most parts)
      else
        let pattern ← primitive
        alternatives nesting fuel branches (some ⟨pattern, 0⟩ :: parts)

def read (foldCase : Bool) (text : Text) : Except Fault Pattern :=
  match (alternatives maxDepth (2 * text.length + 2) [] []).run ⟨{ foldCase }, [], text⟩ with
  | some (inside, state) =>
    if !state.rest.isEmpty ∨ maxDepth < inside.depth then .error .malformed
    else if inside.pattern.fits then .ok inside.pattern
    else .error .oversized
  | none => .error .malformed

end SafeMarkup.Pattern
