import SafeMarkup.Pattern.Form
import Std.Data.HashMap

/-!
Contract: the room that the automata of a pattern take.

Owns: which states a form is laid out in, and what a state costs.
Does not own: matching. The automata are reckoned and not built.

A pattern is laid out twice, over the bytes of a text: once forwards with the ends of its numbered
parts, and once backwards without them. Each layout may take `Room.limit` bytes. A state costs 32
bytes, a state that tells bytes apart 8 more for each range of bytes, and a fork 4 more for each way
to go on. Sets of characters share states: forwards those from which the same bytes follow, and
backwards those behind which the same bytes stand.
-/

namespace SafeMarkup

/-- The states laid out so far: their number and the bytes they take. -/
structure Room where
  states : Nat
  bytes : Nat
deriving DecidableEq, Repr

namespace Room

/-- The bytes that one layout may take. -/
def limit : Nat := 10485760

def none : Room := ⟨0, 0⟩

def isOver (room : Room) : Bool := limit < room.bytes

/-- Some states without ways to choose from. -/
def plain (count : Nat) (room : Room) : Room := ⟨room.states + count, room.bytes + 32 * count⟩

/-- A state that goes on by a number of ranges of bytes. -/
def byBytes (ranges : Nat) (room : Room) : Room :=
  ⟨room.states + 1, room.bytes + 32 + 8 * ranges⟩

/-- A fork in a number of ways. -/
def fork (ways : Nat) (room : Room) : Room := ⟨room.states + 1, room.bytes + 32 + 4 * ways⟩

/-! ## Sets -/

/-- A range of bytes, and the state it leads to or comes from. -/
structure Step where
  first : Nat
  last : Nat
  state : Nat
deriving BEq

/-- A table of states with a bounded number of places. What comes later to a place takes it. -/
abbrev Seen (α : Type) := Std.HashMap Nat (α × Nat)

/-- The place of a list of numbers among some places: their FNV-1a hash. -/
def place (places : Nat) (numbers : List Nat) : Nat :=
  (numbers.foldl (fun hash number => (hash ^^^ UInt64.ofNat number) * 1099511628211)
    (14695981039346656037 : UInt64)).toNat % places

/-- The state that a table has for a key. -/
def Seen.find? {α : Type} [BEq α] (seen : Seen α) (place : Nat) (key : α) : Option Nat :=
  match seen.get? place with
  | some (known, state) => if known == key then some state else .none
  | .none => .none

/-- Neighbours that begin alike, as their beginning and what follows it. -/
def gatherHeads {α : Type} [BEq α] : List (List α) → List (α × List (List α))
  | [] => []
  | [] :: rows => gatherHeads rows
  | (head :: tail) :: rows =>
    match gatherHeads rows with
    | (next, tails) :: gathered =>
      if next == head then (head, tail :: tails) :: gathered
      else (head, [tail]) :: (next, tails) :: gathered
    | [] => [(head, [tail])]

/-- Lays out the state from which some rows of byte ranges lead to a state, those behind it first,
and tells which it is. A character has at most four bytes, which is the fuel. -/
def layRows (target : Nat) : Nat → List (List (Nat × Nat)) → Room × Seen (List Step) →
    Nat × Room × Seen (List Step)
  | 0, _, known => (target, known)
  | fuel + 1, rows, known =>
    let (steps, room, seen) := (gatherHeads rows).foldl (fun (steps, known) (range, tails) =>
      let (state, known) :=
        if tails.all List.isEmpty then (target, known) else layRows target fuel tails known
      (steps.push ⟨range.1, range.2, state⟩, known)) (#[], known)
    let steps := steps.toList
    let place := place 10000 (steps.flatMap fun step => [step.first, step.last, step.state])
    match seen.find? place steps with
    | some state => (state, room, seen)
    | .none => (room.states, room.byBytes steps.length, seen.insert place (steps, room.states))

/-- Lays out the bytes of a row from the state behind them, which for bytes of a character is the
state in front of the bytes before them, and keeps a state for each byte range. -/
def layBackwards : List (Nat × Nat) → Nat → Room × Seen Step → Room × Seen Step
  | [], _, known => known
  | range :: ranges, state, (room, seen) =>
    let key : Step := ⟨range.1, range.2, state⟩
    let place := place 1000 [state, range.1, range.2]
    match seen.find? place key with
    | some state => layBackwards ranges state (room, seen)
    | .none =>
      layBackwards ranges room.states (room.plain 1, seen.insert place (key, room.states))

/-- Lays out a set. The characters of ASCII are one byte each. -/
def ofSet (backwards : Bool) (set : CharSet) (room : Room) : Room :=
  if set.all fun range => range.2 < 0x80 then (room.plain 1).byBytes set.length
  else
    let rows := Text.Ranges.byteRows set
    if backwards then
      let last := room.states + 1
      (rows.foldl (fun known row => layBackwards row last known)
        ((room.fork rows.length).plain 1, ∅)).1
    else (layRows room.states 4 rows (room.plain 1, ∅)).2.1

/-! ## Alternatives of texts -/

/-- Lays out a tree of texts from one of its nodes. The texts that have come to their end cut the
others in pieces, and a node forks into its pieces and ends. The ends share a state. -/
def ofTexts : Nat → List (List Nat) → Room → Room
  | 0, _, room => room
  | fuel + 1, texts, room =>
    let pieces := (texts.splitBy fun left right => left.isEmpty == right.isEmpty).filter
      fun piece => !piece.all List.isEmpty
    let ends := (texts.filter List.isEmpty).length
    let room := pieces.foldl (fun room piece =>
      let heads := (piece.filterMap List.head?).eraseDups
      let room := heads.foldl (fun room head =>
        let tails := (piece.filter fun text => text.head? == some head).map List.tail
        if tails.all List.isEmpty then room else ofTexts fuel tails room) room
      if heads.length = 1 then room.plain 1 else room.byBytes heads.length) room
    room.fork (pieces.length + ends)

/-- The bytes of a form that is a text. -/
def asBytes? : Form → Option (List Nat)
  | .literal text => some (text.flatMap fun c => Text.utf8 c.toNat)
  | _ => .none

/-! ## Forms -/

/-- Lays out a number of copies, unless the limit is passed. -/
def copies (lay : Room → Room) : Nat → Room → Room
  | 0, room => room
  | count + 1, room => if room.isOver then room else copies lay count (lay room)

def ofRounds (lay : Room → Room) (nullable : Bool) (least : Nat) (most : Option Nat)
    (room : Room) : Room :=
  match least, most with
  | 0, .none => if nullable then (((lay room).fork 2).fork 2).plain 1 else lay (room.fork 2)
  | _, .none => (copies lay least room).fork 2
  | 0, some 1 => (lay (room.fork 2)).plain 1
  | least, some most =>
    let room := if least = 0 then room.plain 1 else copies lay least room
    if most = least then room
    else copies (fun room => lay (room.fork 2)) (most - least) (room.plain 1)

mutual
def ofForm (backwards : Bool) : Form → Room → Room
  | .empty, room => room.plain 1
  | .literal text, room => room.plain text.byteSize
  | .one set, room => ofSet backwards set room
  | .assert _, room => room.plain 1
  | .repeated _ least most body, room =>
    ofRounds (ofForm backwards body) (body.leastBytes.all (· == 0)) least most room
  | .capture body, room =>
    if backwards then ofForm backwards body room
    else (ofForm backwards body (room.plain 1)).plain 1
  | .row parts, room => ofRow backwards parts room
  | .alternatives branches, room =>
    match branches.mapM asBytes? with
    | some texts =>
      let texts := if backwards then texts.map List.reverse else texts
      ofTexts ((texts.map List.length).foldl max 0 + 1) texts (room.plain 1)
    | .none => ofBranches backwards branches.length 0 branches room

/-- Lays out the parts of a row in the order in which they are gone through. -/
def ofRow (backwards : Bool) : List Form → Room → Room
  | [], room => room
  | part :: parts, room =>
    if room.isOver then room
    else if backwards then ofForm backwards part (ofRow backwards parts room)
    else ofRow backwards parts (ofForm backwards part room)

/-- Lays out branches. The fork into `ways` branches and the end they share come behind the first
two. -/
def ofBranches (backwards : Bool) (ways : Nat) (laid : Nat) : List Form → Room → Room
  | [], room => room
  | branch :: branches, room =>
    if room.isOver then room
    else
      let room := ofForm backwards branch room
      let room := if laid = 1 then (room.fork ways).plain 1 else room
      ofBranches backwards ways (laid + 1) branches room
end

/-- Lays out what stands before a form: a match may begin anywhere, unless the form is bound to the
end of the text where it begins. -/
def beginning (bound : Bool) : Room :=
  if bound then none.plain 1 else ((none.fork 2).plain 1).byBytes 1

/-- The layout of a form from its beginning, with the ends of the whole match. -/
def forwards (form : Form) : Room :=
  (ofForm false form ((beginning (form.beginsWith .textStart)).plain 1)).plain 2

/-- The layout of a form from its end. -/
def backwards (form : Form) : Room :=
  (ofForm true form (beginning (form.endsWith .textEnd))).plain 1

end Room

def Pattern.fits (pattern : Pattern) : Bool :=
  let form := Form.ofPattern pattern
  !(Room.forwards form).isOver && !(Room.backwards form).isOver

end SafeMarkup
