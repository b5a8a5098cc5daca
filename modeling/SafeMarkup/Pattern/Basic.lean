import SafeMarkup.Pattern.CharSet
import Std.Data.HashMap

/-!
Contract: patterns and what they match.

A pattern is read as a preference: from a place in a text, `ends` lists the places where a match
may end, the most preferred first and each place once. The first of them from the first place that
has any is the match. Alternatives are preferred in their order, greedy repetitions prefer more
rounds and reluctant ones fewer; a round that takes nothing ends its repetition.
-/

namespace SafeMarkup

/-- A condition on a place that takes no characters. -/
inductive Assertion where
  | textStart
  | textEnd
  | lineStart
  | lineEnd
  /-- As `lineStart` where a carriage return also ends a line. -/
  | anyLineStart
  | anyLineEnd
  | wordBoundary (ascii : Bool)
  | notWordBoundary (ascii : Bool)
  | wordStart (ascii : Bool)
  | wordEnd (ascii : Bool)
  | wordStartHalf (ascii : Bool)
  | wordEndHalf (ascii : Bool)
deriving DecidableEq, Repr

/-- A pattern. -/
inductive Pattern where
  | empty
  | one (set : CharSet)
  | seq (first second : Pattern)
  | choice (first second : Pattern)
  /-- At least and perhaps at most a number of rounds in a row. -/
  | repeated (greedy : Bool) (least : Nat) (most : Option Nat) (body : Pattern)
  /-- A part in parentheses, whose text may be asked for by its number. -/
  | group (numbered : Bool) (body : Pattern)
  | assert (condition : Assertion)

/-- A place in a text: the character before it, if any, and the text after it. -/
structure Place where
  before : Option Char
  rest : Text
  /-- The number of characters after it. In one text it tells which place this is. -/
  left : Nat := rest.length
  left_eq : left = rest.length := by rfl
deriving DecidableEq

namespace Place

def start (text : Text) : Place := { before := none, rest := text }

/-- The character after a place, and the place behind it. -/
def next? (place : Place) : Option (Char × Place) :=
  match found : place.rest with
  | [] => none
  | c :: rest =>
    have left_eq : place.left - 1 = rest.length := by simp [place.left_eq, found]
    some (c, ⟨some c, rest, place.left - 1, left_eq⟩)

/-- Whether a neighbouring character is part of a word. -/
def isWord (ascii : Bool) (neighbour : Option Char) : Bool :=
  neighbour.any fun c =>
    if ascii then CharSet.asciiWordCharacters.member c else Text.isWordCharacter c

/-- Whether a condition holds at a place. -/
def holds (place : Place) : Assertion → Bool
  | .textStart => place.before.isNone
  | .textEnd => place.rest.isEmpty
  | .lineStart => place.before.all (· = '\n')
  | .lineEnd => place.rest.head?.all (· = '\n')
  | .anyLineStart =>
    place.before.all fun c => c = '\n' || (c = '\r' && place.rest.head? != some '\n')
  | .anyLineEnd =>
    place.rest.head?.all fun c => c = '\r' || (c = '\n' && place.before != some '\r')
  | .wordBoundary ascii => isWord ascii place.before != isWord ascii place.rest.head?
  | .notWordBoundary ascii => isWord ascii place.before == isWord ascii place.rest.head?
  | .wordStart ascii => !isWord ascii place.before && isWord ascii place.rest.head?
  | .wordEnd ascii => isWord ascii place.before && !isWord ascii place.rest.head?
  | .wordStartHalf ascii => !isWord ascii place.before
  | .wordEndHalf ascii => !isWord ascii place.rest.head?

/-- Keeps the first of each kind of places, except for those that a set of numbers holds already. A
set of numbers is written by the bits of one number. -/
def distinctFrom (seen : Nat) : List Place → List Place
  | [] => []
  | place :: places =>
    if seen.testBit place.left then distinctFrom seen places
    else place :: distinctFrom (seen ||| 1 <<< place.left) places

/-- Each place once, where it comes first. -/
def distinct : List Place → List Place
  | [] => []
  | [place] => [place]
  | places => distinctFrom 0 places

end Place

namespace Pattern

/-- What is known of a repetition without a greatest number: the ends found so far, the last one
first, and the set of the places it went on from. -/
structure Found where
  ends : List Place
  visited : Nat

def Found.add (place : Place) (found : Found) : Found :=
  { found with ends := place :: found.ends }

/-- Adds the ends of further rounds of a repetition without a greatest number. A place that was
visited before offers nothing new. Each round takes at least one character, so that the length of
the text is fuel enough. -/
def rounds (body : Place → List Place) (greedy : Bool) : Nat → Place → Found → Found
  | 0, place, found => found.add place
  | fuel + 1, place, found =>
    if found.visited.testBit place.left then found
    else
      let found := { found with visited := found.visited ||| 1 <<< place.left }
      let found := if greedy then found else found.add place
      let found := (body place).foldl (fun found next =>
        if next.left = place.left then found.add place
        else rounds body greedy fuel next found) found
      if greedy then found.add place else found

/-- What is known of a repetition with a greatest number: the ends found so far, the last one first,
and for places the number of rounds from there whose ends are among them. -/
structure FoundUpTo where
  ends : List Place
  done : Std.HashMap Nat Nat

def FoundUpTo.add (place : Place) (found : FoundUpTo) : FoundUpTo :=
  { found with ends := place :: found.ends }

/-- Adds the ends of up to a number of rounds, unless they are known: they are among those of as
many or more rounds. -/
def upTo (body : Place → List Place) (greedy : Bool) : Nat → Place → FoundUpTo → FoundUpTo
  | 0, place, found => found.add place
  | count + 1, place, found =>
    if count < found.done.getD place.left 0 then found
    else
      let found := if greedy then found else found.add place
      let found := (body place).foldl (fun found next => upTo body greedy count next found) found
      let found := { found with done := found.done.insert place.left (count + 1) }
      if greedy then found.add place else found

/-- The ends of a number of rounds from some places. As soon as a round changes nothing, none of the
others does. -/
def exactly (body : Place → List Place) : Nat → List Place → List Place
  | 0, places => places
  | count + 1, places =>
    let next := Place.distinct (places.flatMap body)
    if next.map Place.left = places.map Place.left then places else exactly body count next

/-- Where a match from a place may end, the most preferred first. More optional rounds than there
are characters left, and one that takes nothing, end nowhere else. -/
def ends : Pattern → Place → List Place
  | .empty, place => [place]
  | .one set, place =>
    match place.next? with
    | none => []
    | some (c, next) => if CharSet.member set c then [next] else []
  | .seq first second, place => Place.distinct ((ends first place).flatMap (ends second))
  | .choice first second, place => Place.distinct (ends first place ++ ends second place)
  | .repeated greedy least most body, place =>
    let begun := exactly (ends body) least [place]
    Place.distinct <| match most with
      | none =>
        let found := begun.foldl (fun found place =>
          rounds (ends body) greedy (place.left + 1) place found) ⟨[], 0⟩
        found.ends.reverse
      | some most =>
        let found := begun.foldl (fun found place =>
          upTo (ends body) greedy (min (most - least) (place.left + 1)) place found) ⟨[], ∅⟩
        found.ends.reverse
  | .group _ body, place => ends body place
  | .assert condition, place => if place.holds condition then [place] else []

/-- The preferred match from a place, as the text it takes. -/
def matchAt? (pattern : Pattern) (place : Place) : Option Text :=
  (pattern.ends place).head?.map fun stop => place.rest.take (place.left - stop.left)

/-- The match from the first place that has one, beginning with some place, where a number of
characters is left. -/
def findFrom? (pattern : Pattern) : Nat → Place → Option Text
  | 0, place => pattern.matchAt? place
  | left + 1, place =>
    (pattern.matchAt? place).or (place.next?.bind fun (_, next) => findFrom? pattern left next)

def find? (pattern : Pattern) (text : Text) : Option Text :=
  let start := Place.start text
  pattern.findFrom? start.left start

/-! ## Derived forms -/

def optional (greedy : Bool) (pattern : Pattern) : Pattern := .repeated greedy 0 (some 1) pattern

def concat : List Pattern → Pattern
  | [] => .empty
  | [pattern] => pattern
  | pattern :: patterns => .seq pattern (concat patterns)

/-- Alternatives, the most preferred first; without any there is no match. -/
def firstOf : List Pattern → Pattern
  | [] => .one .none
  | [pattern] => pattern
  | pattern :: patterns => .choice pattern (firstOf patterns)

end Pattern
end SafeMarkup
