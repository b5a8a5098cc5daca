import SafeMarkup.Pattern.Basic
import SafeMarkup.Text.Utf8

/-!
Contract: the form a pattern is reckoned in.

Owns: writing rows and alternatives flat, joining texts, and what can be told of a form without
matching: the least and greatest number of bytes, and whether it is bound to an end of the text.
Does not own: how much room a form takes.

A form matches what its pattern matches. It differs in that parts that say the same in fewer words
are put in their place: one character for a set of one, a set for alternatives of single characters,
the part itself for one round of it, and a common beginning in front of alternatives.
-/

namespace SafeMarkup

/-- A pattern with its rows and alternatives written flat. -/
inductive Form where
  | empty
  | literal (text : Text)
  | one (set : CharSet)
  | assert (condition : Assertion)
  | repeated (greedy : Bool) (least : Nat) (most : Option Nat) (body : Form)
  /-- A part whose text may be asked for. -/
  | capture (body : Form)
  | row (parts : List Form)
  | alternatives (branches : List Form)

namespace Form

/-! ## Comparing -/

mutual
/-- Whether two forms are the same. Parts whose text may be asked for are never the same, since they
have different numbers. -/
def same : Form → Form → Bool
  | .empty, .empty => true
  | .literal left, .literal right => left == right
  | .one left, .one right => left == right
  | .assert left, .assert right => left == right
  | .repeated greedy least most left, .repeated greedy' least' most' right =>
    greedy == greedy' && least == least' && most == most' && same left right
  | .row left, .row right => sameAll left right
  | .alternatives left, .alternatives right => sameAll left right
  | _, _ => false

/-- Whether two lists of forms are the same. -/
def sameAll : List Form → List Form → Bool
  | [], [] => true
  | left :: lefts, right :: rights => same left right && sameAll lefts rights
  | _, _ => false
end

/-! ## Lengths -/

mutual
/-- The least number of bytes of a match, if there is one. -/
def leastBytes : Form → Option Nat
  | .empty => some 0
  | .literal text => some text.byteSize
  | .one set => set.head?.map fun range => (Text.utf8 range.1).length
  | .assert _ => some 0
  | .repeated _ least _ body => (leastBytes body).map (least * ·)
  | .capture body => leastBytes body
  | .row parts => leastBytesAll parts
  | .alternatives branches => leastBytesAny branches

/-- The least number of bytes of a match of all parts in a row. -/
def leastBytesAll : List Form → Option Nat
  | [] => some 0
  | part :: parts => do return (← leastBytes part) + (← leastBytesAll parts)

/-- The least number of bytes of a match of one of some branches. -/
def leastBytesAny : List Form → Option Nat
  | [] => none
  | [branch] => leastBytes branch
  | branch :: branches => do return min (← leastBytes branch) (← leastBytesAny branches)
end

mutual
/-- Whether every match is empty. -/
def isEmptyOnly : Form → Bool
  | .empty => true
  | .literal text => text.isEmpty
  | .one _ => false
  | .assert _ => true
  | .repeated _ _ most body => most == some 0 || (most.isSome && isEmptyOnly body)
  | .capture body => isEmptyOnly body
  | .row parts => areEmptyOnly parts
  | .alternatives branches => areEmptyOnly branches

/-- Whether every match of each of some forms is empty. -/
def areEmptyOnly : List Form → Bool
  | [] => true
  | part :: parts => isEmptyOnly part && areEmptyOnly parts
end

/-! ## Anchors -/

mutual
/-- Whether every match meets a condition before its first character. -/
def beginsWith (condition : Assertion) : Form → Bool
  | .assert other => other == condition
  | .repeated _ least _ body => 0 < least && beginsWith condition body
  | .capture body => beginsWith condition body
  | .row parts => rowBeginsWith condition parts
  | .alternatives branches => allBeginWith condition branches
  | _ => false

/-- Whether a row meets a condition before its first character. -/
def rowBeginsWith (condition : Assertion) : List Form → Bool
  | [] => false
  | part :: parts =>
    beginsWith condition part || (isEmptyOnly part && rowBeginsWith condition parts)

/-- Whether each of some branches meets a condition before its first character. -/
def allBeginWith (condition : Assertion) : List Form → Bool
  | [] => true
  | branch :: branches => beginsWith condition branch && allBeginWith condition branches
end

mutual
/-- Whether every match meets a condition behind its last character. -/
def endsWith (condition : Assertion) : Form → Bool
  | .assert other => other == condition
  | .repeated _ least _ body => 0 < least && endsWith condition body
  | .capture body => endsWith condition body
  | .row parts => rowEndsWith condition parts
  | .alternatives branches => allEndWith condition branches
  | _ => false

/-- Whether a row meets a condition behind its last character. -/
def rowEndsWith (condition : Assertion) : List Form → Bool
  | [] => false
  | part :: parts =>
    rowEndsWith condition parts || (areEmptyOnly parts && endsWith condition part)

/-- Whether each of some branches meets a condition behind its last character. -/
def allEndWith (condition : Assertion) : List Form → Bool
  | [] => true
  | branch :: branches => endsWith condition branch && allEndWith condition branches
end

/-! ## Building -/

/-- The form of a set: a set of one character is that character. -/
def ofSet : CharSet → Form
  | [(first, last)] =>
    if first = last then .literal [Char.ofNat first] else .one [(first, last)]
  | set => .one set

def parts : Form → List Form
  | .empty => []
  | .row parts => parts
  | form => [form]

/-- Puts a part in front of others; neighbouring texts become one. -/
def consPart : Form → List Form → List Form
  | .literal text, .literal further :: parts => .literal (text ++ further) :: parts
  | part, parts => part :: parts

def ofParts : List Form → Form
  | [] => .empty
  | [part] => part
  | parts => .row parts

def inRow (forms : List Form) : Form := ofParts ((forms.flatMap parts).foldr consPart [])

def branches : Form → List Form
  | .alternatives branches => branches
  | form => [form]

/-- The set of a form that is one character. -/
def asCharacter? : Form → Option CharSet
  | .literal [c] => some (.single c)
  | _ => none

/-- The set of a form that is one. -/
def asSet? : Form → Option CharSet
  | .one set => some set
  | _ => none

/-- The parts that two rows have in common at their beginning. -/
def commonParts : List Form → List Form → List Form
  | left :: lefts, right :: rights =>
    if same left right then left :: commonParts lefts rights else []
  | _, _ => []

/-- The parts of a row of two or more. -/
def asRow? : Form → Option (List Form)
  | .row parts => some parts
  | _ => none

/-- The common beginning of rows, and what follows it in each of them. -/
def liftCommon? (branches : List Form) : Option (List Form × List (List Form)) := do
  match ← branches.mapM asRow? with
  | [] => none
  | first :: rest =>
    let common := rest.foldl commonParts first
    if common.isEmpty then none
    else return (common, (first :: rest).map (·.drop common.length))

/-- Alternatives, which are one set if all of them are characters or all of them are sets. What
follows a common beginning may have one of its own, so that the number of parts is fuel enough. -/
def inTurnFrom : Nat → List Form → Form
  | fuel, forms =>
    match forms.flatMap branches with
    | [] => .one []
    | [branch] => branch
    | flat =>
      match (flat.mapM asCharacter?).or (flat.mapM asSet?) with
      | some sets => ofSet (sets.foldl CharSet.union CharSet.none)
      | none =>
        match fuel, liftCommon? flat with
        | fuel + 1, some (common, rests) =>
          inRow (common ++ [inTurnFrom fuel (rests.map inRow)])
        | _, _ => .alternatives flat

def inTurn (forms : List Form) : Form :=
  inTurnFrom ((forms.flatMap branches).flatMap parts).length forms

/-- A repetition. More than one round of what takes nothing says no more than one round. -/
def inRounds (greedy : Bool) (least : Nat) (most : Option Nat) (body : Form) : Form :=
  let (least, most) :=
    if isEmptyOnly body then (min least 1, some (min (most.getD 1) 1)) else (least, most)
  if most = some 0 then .empty
  else if least = 1 ∧ most = some 1 then body
  else .repeated greedy least most body

mutual
/-- The forms of the branches of a pattern. -/
def ofBranches : Pattern → List Form
  | .empty => [.empty]
  | .one set => [ofSet set]
  | .seq first second => [ofParts (partsBefore first (partsBefore second []))]
  | .choice first second => ofBranches first ++ ofBranches second
  | .repeated greedy least most body =>
    [inRounds greedy least most (inTurn (ofBranches body))]
  | .group numbered body =>
    let inside := inTurn (ofBranches body)
    [if numbered then .capture inside else inside]
  | .assert condition => [.assert condition]

/-- The parts of a pattern in front of others. -/
def partsBefore : Pattern → List Form → List Form
  | .seq first second, others => partsBefore first (partsBefore second others)
  | pattern, others => (parts (inTurn (ofBranches pattern))).foldr consPart others
end

def ofPattern (pattern : Pattern) : Form := inTurn (ofBranches pattern)

end Form
end SafeMarkup
