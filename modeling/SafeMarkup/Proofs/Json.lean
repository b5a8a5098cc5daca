import SafeMarkup.Value.Json
import Mathlib.Data.List.Basic

/-!
Contract: the compact written form of data is read back as that data.

Owns: characters with their escapes, strings and whole values, each with any text behind it; which
values are too deep to be read; and records of which only some entries are wanted. Hence values that
are written alike are the same, whatever their depth.

Does not own: numbers, whose literals may be any text, and the indented written form.
-/

namespace SafeMarkup.Value

/-- Data without numbers. -/
inductive Numberless : Value → Prop
  | null : Numberless .null
  | bool (value : Bool) : Numberless (.bool value)
  | string (text : Text) : Numberless (.string text)
  | list {items : List Value} (each : ∀ item ∈ items, Numberless item) : Numberless (.list items)
  | record {fields : List (Text × Value)} (each : ∀ field ∈ fields, Numberless field.2) :
      Numberless (.record fields)

/-! ## Depth -/

mutual
/-- How many collections stand one inside the other. -/
def depth : Value → Nat
  | .list items => depthOfItems items + 1
  | .record fields => depthOfFields fields + 1
  | .null | .bool _ | .number _ | .string _ => 0

/-- The greatest depth among the items of a list. -/
def depthOfItems : List Value → Nat
  | [] => 0
  | item :: items => max (depth item) (depthOfItems items)

/-- The greatest depth among the values of a record. -/
def depthOfFields : List (Text × Value) → Nat
  | [] => 0
  | (_, value) :: fields => max (depth value) (depthOfFields fields)
end

namespace Json

namespace Demand

/-- A value with so many collections one inside the other is not refused. -/
def Admits : Demand → Nat → Prop
  | .wanted bound, depth => depth ≤ bound
  | .passed, _ => True

instance (demand : Demand) (depth : Nat) : Decidable (demand.Admits depth) :=
  match demand with
  | .wanted bound => inferInstanceAs (Decidable (depth ≤ bound))
  | .passed => inferInstanceAs (Decidable True)

variable {demand inside : Demand}

theorem admits_zero : demand.Admits 0 := by
  cases demand with
  | wanted bound => exact Nat.zero_le bound
  | passed => trivial

theorem admits_max {first second : Nat} :
    demand.Admits (max first second) ↔ demand.Admits first ∧ demand.Admits second := by
  cases demand with
  | wanted bound => exact Nat.max_le
  | passed => exact iff_of_true trivial ⟨trivial, trivial⟩

/-- A collection is admitted where it may be entered and its parts are admitted in it. -/
theorem admits_succ {depth : Nat} :
    demand.Admits (depth + 1) ↔ ∃ inside, demand.inside? = some inside ∧ inside.Admits depth := by
  cases demand with
  | wanted bound =>
      cases bound with
      | zero => simp [Admits, inside?]
      | succ bound => simp [Admits, inside?]
  | passed => simp [Admits, inside?]

theorem not_admits_succ (refused : demand.inside? = none) (depth : Nat) :
    ¬demand.Admits (depth + 1) := by
  simp [admits_succ, refused]

theorem admits_depthOfItems {items : List Value} :
    demand.Admits (depthOfItems items) ↔ ∀ item ∈ items, demand.Admits item.depth := by
  induction items with
  | nil => exact iff_of_true admits_zero (List.forall_mem_nil _)
  | cons item items inductionHypothesis =>
      rw [depthOfItems, admits_max, List.forall_mem_cons, inductionHypothesis]

theorem admits_depthOfFields {fields : List (Text × Value)} :
    demand.Admits (depthOfFields fields) ↔ ∀ field ∈ fields, demand.Admits field.2.depth := by
  induction fields with
  | nil => exact iff_of_true admits_zero (List.forall_mem_nil _)
  | cons field fields inductionHypothesis =>
      rw [depthOfFields, admits_max, List.forall_mem_cons, inductionHypothesis]

theorem admits_list (entered : demand.inside? = some inside) (items : List Value) :
    demand.Admits (depth (.list items)) ↔ ∀ item ∈ items, inside.Admits item.depth := by
  simp only [depth, admits_succ, entered, Option.some.injEq, exists_eq_left', admits_depthOfItems]

theorem admits_record (entered : demand.inside? = some inside) (fields : List (Text × Value)) :
    demand.Admits (depth (.record fields)) ↔ ∀ field ∈ fields, inside.Admits field.2.depth := by
  simp only [depth, admits_succ, entered, Option.some.injEq, exists_eq_left', admits_depthOfFields]

end Demand

variable (replacing : Bool) (demand : Demand) {fuel : Nat} {value : Value} {rest : Text}

/-! ## Strings -/

theorem readStringFrom_escape {c : Char} {used : Nat}
    (stands : escape? replacing rest = some (c, used)) :
    readStringFrom replacing 0 ('\\' :: rest) =
      (readStringFrom replacing used rest).map fun (text, behind) => (c :: text, behind) := by
  rw [readStringFrom, if_neg (by decide), if_pos rfl, stands, Option.map_eq_bind]
  rfl

/-- An escape of one letter. -/
theorem readStringFrom_letter {c letter : Char}
    (stands : escape? replacing (letter :: rest) = some (c, 1)) :
    readStringFrom replacing 0 ('\\' :: letter :: rest) =
      (readStringFrom replacing 0 rest).map fun (text, behind) => (c :: text, behind) :=
  readStringFrom_escape replacing stands

theorem hexValue?_hexDigit : ∀ value < 16, Text.hexValue? (Text.hexDigit value) = some value := by
  decide

/-- Control characters have two digits that count. -/
theorem escape?_control {c : Char} {high low : Nat} (highBound : high < 2) (lowBound : low < 16)
    (code : c.toNat = high * 16 + low) :
    escape? replacing ('u' :: '0' :: '0' :: Text.hexDigit high :: Text.hexDigit low :: rest) =
      some (c, 5) := by
  have highValue := hexValue?_hexDigit high (by omega)
  have lowValue := hexValue?_hexDigit low lowBound
  have unit : codeUnit? ('0' :: '0' :: Text.hexDigit high :: Text.hexDigit low :: rest) =
      some c.toNat := by
    have zero : Text.hexValue? '0' = some 0 := by decide
    simp [codeUnit?, zero, highValue, lowValue, code]
  have below : c.toNat < 0xD800 := by omega
  simp [escape?, unit, below, Char.ofNat_toNat]

theorem readStringFrom_escapedChar (c : Char) (rest : Text) :
    readStringFrom replacing 0 (escapedChar c ++ rest) =
      (readStringFrom replacing 0 rest).map fun (text, behind) => (c :: text, behind) := by
  unfold escapedChar
  split_ifs with quote backslash lineFeed carriageReturn tab backspace formFeed low high
  · subst quote
    exact readStringFrom_letter replacing rfl
  · subst backslash
    exact readStringFrom_letter replacing rfl
  · subst lineFeed
    exact readStringFrom_letter replacing rfl
  · subst carriageReturn
    exact readStringFrom_letter replacing rfl
  · subst tab
    exact readStringFrom_letter replacing rfl
  · subst backspace
    exact readStringFrom_letter replacing rfl
  · subst formFeed
    exact readStringFrom_letter replacing rfl
  · have code : c.toNat = 0 * 16 + c.toNat := by omega
    exact readStringFrom_escape replacing (escape?_control replacing (by decide) low code)
  · have code : c.toNat = 1 * 16 + (c.toNat - 16) := by omega
    exact readStringFrom_escape replacing
      (escape?_control replacing (by decide) (by omega) code)
  · rw [List.singleton_append, readStringFrom, if_neg quote, if_neg backslash, if_neg high,
      Option.map_eq_bind]
    rfl

/-- A string is read up to and with its closing quote. -/
theorem readStringFrom_written (text rest : Text) :
    readStringFrom replacing 0 (text.flatMap escapedChar ++ '"' :: rest) = some (text, rest) := by
  induction text with
  | nil => rfl
  | cons c text inductionHypothesis =>
      rw [List.flatMap_cons, List.append_assoc, readStringFrom_escapedChar, inductionHypothesis]
      rfl

theorem writeString_append (text rest : Text) :
    writeString text ++ rest = '"' :: (text.flatMap escapedChar ++ '"' :: rest) := by
  simp [writeString]

/-! ## Values -/

theorem skipSpaces_cons {c : Char} (visible : isSpace c = false) :
    skipSpaces (c :: rest) = c :: rest := by
  rw [skipSpaces, List.dropWhile_cons_of_neg (by simp [visible])]

/-- A value is read from its written form whatever follows and whatever is asked of it, with one
step for each character, and is refused just if what is asked is not so. -/
def Rereads (value : Value) : Prop :=
  ∀ (demand : Demand) (fuel : Nat) (rest : Text), (write value).length ≤ fuel →
    readValue demand fuel (write value ++ rest) =
      if demand.Admits value.depth then some (value, rest) else none

theorem writeItems_cons_cons (item next : Value) (items : List Value) :
    writeItems (item :: next :: items) = write item ++ ',' :: writeItems (next :: items) := by
  rw [writeItems]
  exact nofun

theorem writeFields_cons_cons (key : Text) (value : Value) (next : Text × Value)
    (fields : List (Text × Value)) :
    writeFields ((key, value) :: next :: fields) =
      writeString key ++ ':' :: (write value ++ ',' :: writeFields (next :: fields)) := by
  rw [writeFields]
  exact nofun

theorem readItems_writeItems (rest : Text) {item : Value} {items : List Value}
    (each : ∀ part ∈ item :: items, Rereads part)
    (enough : (writeItems (item :: items)).length + 1 ≤ fuel) :
    readItems demand fuel (writeItems (item :: items) ++ ']' :: rest) =
      if ∀ part ∈ item :: items, demand.Admits part.depth then
        some (item :: items, rest)
      else none := by
  induction items generalizing item fuel with
  | nil =>
      rw [writeItems] at enough ⊢
      obtain ⟨fuel, rfl⟩ : ∃ less, fuel = less + 1 := ⟨fuel - 1, by omega⟩
      have first := each item List.mem_cons_self demand fuel (']' :: rest) (by omega)
      rw [readItems]
      simp only [first, List.forall_mem_singleton]
      split <;> rfl
  | cons next items inductionHypothesis =>
      rw [writeItems_cons_cons, List.length_append, List.length_cons] at enough
      rw [writeItems_cons_cons, List.append_assoc, List.cons_append]
      obtain ⟨fuel, rfl⟩ : ∃ less, fuel = less + 1 := ⟨fuel - 1, by omega⟩
      have first := each item List.mem_cons_self demand fuel
        (',' :: (writeItems (next :: items) ++ ']' :: rest)) (by omega)
      have others := inductionHypothesis
        (fun part member => each part (List.mem_cons_of_mem _ member)) (show _ ≤ fuel by omega)
      rw [readItems, first]
      by_cases admitted : demand.Admits item.depth
      · have remaining : (∀ part ∈ item :: next :: items, demand.Admits part.depth) ↔
            ∀ part ∈ next :: items, demand.Admits part.depth :=
          List.forall_mem_cons.trans (and_iff_right admitted)
        simp only [if_pos admitted, Option.bind_eq_bind, Option.bind_some,
          skipSpaces_cons (c := ',') (by decide), others, remaining]
        split <;> rfl
      · rw [if_neg admitted, if_neg fun admits => admitted (admits item List.mem_cons_self)]
        rfl

theorem readFields_writeFields (demand : Text → Demand) (rest : Text)
    {field : Text × Value} {fields : List (Text × Value)}
    (each : ∀ part ∈ field :: fields, Rereads part.2)
    (enough : (writeFields (field :: fields)).length + 1 ≤ fuel) :
    readFields replacing demand fuel (writeFields (field :: fields) ++ '}' :: rest) =
      if ∀ part ∈ field :: fields, (demand part.1).Admits part.2.depth then
        some (field :: fields, rest)
      else none := by
  induction fields generalizing field fuel with
  | nil =>
      obtain ⟨key, value⟩ := field
      rw [writeFields, List.length_append, List.length_cons] at enough
      rw [writeFields, List.append_assoc, writeString_append, List.cons_append]
      obtain ⟨fuel, rfl⟩ : ∃ less, fuel = less + 1 := ⟨fuel - 1, by omega⟩
      have sound : Rereads value := each (key, value) List.mem_cons_self
      have first := sound (demand key) fuel ('}' :: rest) (by omega)
      rw [readFields, skipSpaces_cons (by decide)]
      simp only [readStringFrom_written, Option.bind_eq_bind, Option.bind_some,
        skipSpaces_cons (c := ':') (by decide), first, List.forall_mem_singleton]
      split <;> rfl
  | cons next fields inductionHypothesis =>
      obtain ⟨key, value⟩ := field
      rw [writeFields_cons_cons, List.length_append, List.length_cons, List.length_append,
        List.length_cons] at enough
      rw [writeFields_cons_cons, List.append_assoc, writeString_append, List.cons_append,
        List.append_assoc, List.cons_append]
      obtain ⟨fuel, rfl⟩ : ∃ less, fuel = less + 1 := ⟨fuel - 1, by omega⟩
      have sound : Rereads value := each (key, value) List.mem_cons_self
      have first := sound (demand key) fuel
        (',' :: (writeFields (next :: fields) ++ '}' :: rest)) (by omega)
      have others := inductionHypothesis
        (fun part member => each part (List.mem_cons_of_mem _ member)) (show _ ≤ fuel by omega)
      rw [readFields, skipSpaces_cons (by decide)]
      simp only [readStringFrom_written, Option.bind_eq_bind, Option.bind_some,
        skipSpaces_cons (c := ':') (by decide), first]
      by_cases admitted : (demand key).Admits value.depth
      · have remaining :
            (∀ part ∈ (key, value) :: next :: fields, (demand part.1).Admits part.2.depth) ↔
            ∀ part ∈ next :: fields, (demand part.1).Admits part.2.depth :=
          List.forall_mem_cons.trans (and_iff_right admitted)
        simp only [if_pos admitted, Option.bind_some, skipSpaces_cons (c := ',') (by decide),
          others, remaining]
        split <;> rfl
      · rw [if_neg admitted, if_neg fun admits => admitted (admits (key, value) List.mem_cons_self)]
        rfl

/-- The written form of a value begins with a character that opens a value. -/
theorem write_begins (numberless : Numberless value) :
    ∃ c more, write value = c :: more ∧ isSpace c = false ∧ c ≠ ']' := by
  cases numberless with
  | null => exact ⟨'n', _, rfl, by decide, by decide⟩
  | bool on =>
      cases on with
      | true => exact ⟨'t', _, rfl, by decide, by decide⟩
      | false => exact ⟨'f', _, rfl, by decide, by decide⟩
  | string => exact ⟨'"', _, rfl, by decide, by decide⟩
  | list => exact ⟨'[', _, rfl, by decide, by decide⟩
  | record => exact ⟨'{', _, rfl, by decide, by decide⟩

theorem writeItems_begins {item : Value} (numberless : Numberless item) (items : List Value) :
    ∃ c more, writeItems (item :: items) = c :: more ∧ isSpace c = false ∧ c ≠ ']' := by
  obtain ⟨c, more, begins, visible, inside⟩ := write_begins numberless
  cases items with
  | nil => exact ⟨c, more, begins, visible, inside⟩
  | cons next items =>
      rw [writeItems_cons_cons, begins]
      exact ⟨c, _, rfl, visible, inside⟩

theorem writeFields_begins (field : Text × Value) (fields : List (Text × Value)) :
    ∃ more, writeFields (field :: fields) = '"' :: more := by
  obtain ⟨key, value⟩ := field
  cases fields with
  | nil => exact ⟨_, rfl⟩
  | cons next fields => exact ⟨_, writeFields_cons_cons key value next fields⟩

theorem exists_step (numberless : Numberless value) (enough : (write value).length ≤ fuel) :
    ∃ less, fuel = less + 1 := by
  obtain ⟨c, more, begins, -, -⟩ := write_begins numberless
  rw [begins, List.length_cons] at enough
  exact ⟨fuel - 1, by omega⟩

theorem rereads_string (text : Text) : Rereads (.string text) := by
  intro demand fuel rest enough
  obtain ⟨fuel, rfl⟩ := exists_step (.string text) enough
  rw [depth, if_pos Demand.admits_zero, write, writeString_append, readValue,
    skipSpaces_cons (by decide)]
  simp only [readStringFrom_written]
  rfl

theorem rereads_list {items : List Value} (numberless : ∀ item ∈ items, Numberless item)
    (each : ∀ item ∈ items, Rereads item) : Rereads (.list items) := by
  intro demand fuel rest enough
  obtain ⟨fuel, rfl⟩ := exists_step (.list numberless) enough
  rw [write, List.length_cons, List.length_append, List.length_singleton] at enough
  rw [write, List.cons_append, List.append_assoc, List.singleton_append, readValue,
    skipSpaces_cons (by decide)]
  cases entered : demand.inside? with
  | none =>
      rw [depth, if_neg (Demand.not_admits_succ entered (depthOfItems items))]
      rfl
  | some inside =>
      simp only [Demand.admits_list entered]
      cases items with
      | nil => exact (if_pos (List.forall_mem_nil _)).symm
      | cons item items =>
          -- What an item begins with is no closing bracket, so the list is not taken for empty.
          obtain ⟨c, more, begins, visible, closes⟩ :=
            writeItems_begins (numberless item List.mem_cons_self) items
          have read := readItems_writeItems inside rest each (show _ ≤ fuel by omega)
          rw [begins, List.cons_append] at read ⊢
          simp only [Option.bind_eq_bind, Option.bind_some, skipSpaces_cons visible]
          split
          · rename_i closing
            exact absurd (List.cons.inj closing).1 closes
          · rw [read]
            split <;> rfl

theorem rereads_record {fields : List (Text × Value)}
    (numberless : ∀ field ∈ fields, Numberless field.2) (each : ∀ field ∈ fields, Rereads field.2) :
    Rereads (.record fields) := by
  intro demand fuel rest enough
  obtain ⟨fuel, rfl⟩ := exists_step (.record numberless) enough
  rw [write, List.length_cons, List.length_append, List.length_singleton] at enough
  rw [write, List.cons_append, List.append_assoc, List.singleton_append, readValue,
    skipSpaces_cons (by decide)]
  cases entered : demand.inside? with
  | none =>
      rw [depth, if_neg (Demand.not_admits_succ entered (depthOfFields fields))]
      rfl
  | some inside =>
      simp only [Demand.admits_record entered]
      cases fields with
      | nil => exact (if_pos (List.forall_mem_nil _)).symm
      | cons field fields =>
          obtain ⟨more, begins⟩ := writeFields_begins field fields
          have read := readFields_writeFields inside.replaces (fun _ => inside) rest each
            (show _ ≤ fuel by omega)
          rw [begins, List.cons_append] at read ⊢
          simp only [Option.bind_eq_bind, Option.bind_some,
            skipSpaces_cons (c := '"') (by decide)]
          split
          · rename_i closing
            exact absurd (List.cons.inj closing).1 (by decide)
          · rw [read]
            split <;> rfl

/-- Data without numbers is read from its written form, if it is not too deep. -/
theorem rereads_of_numberless (numberless : Numberless value) : Rereads value := by
  induction numberless with
  | null =>
      intro demand fuel rest enough
      obtain ⟨fuel, rfl⟩ := exists_step .null enough
      rw [depth, if_pos Demand.admits_zero]
      rfl
  | bool on =>
      intro demand fuel rest enough
      obtain ⟨fuel, rfl⟩ := exists_step (.bool on) enough
      rw [depth, if_pos Demand.admits_zero]
      cases on <;> rfl
  | string text => exact rereads_string text
  | list each inductionHypothesis => exact rereads_list each inductionHypothesis
  | record each inductionHypothesis => exact rereads_record each inductionHypothesis

/-- A whole text is read just if it is not too deep. -/
theorem read_write (numberless : Numberless value) :
    read (write value) = if value.depth ≤ maxDepth then some value else none := by
  have step := rereads_of_numberless numberless (.wanted maxDepth)
    (2 * (write value).length + 2) [] (by omega)
  rw [List.append_nil] at step
  rw [read, step]
  exact apply_ite whole _ _ _

/-- Values are told apart by what they are written as, also those that are too deep to be read. -/
theorem write_inj {other : Value} (numberless : Numberless value)
    (otherNumberless : Numberless other) : write value = write other ↔ value = other := by
  refine ⟨fun same => ?_, congrArg write⟩
  have reads := rereads_of_numberless numberless .passed _ [] (Nat.le_refl _)
  rw [same, rereads_of_numberless otherNumberless .passed _ [] (Nat.le_refl _)] at reads
  exact (congrArg Prod.fst (Option.some.inj reads)).symm

/-- A record is read whichever of its entries are wanted, if these are not too deep. -/
theorem readWanted_write {wanted : Text → Bool} {fields : List (Text × Value)}
    (numberless : ∀ field ∈ fields, Numberless field.2)
    (shallow : ∀ field ∈ fields, wanted field.1 = true → field.2.depth < maxDepth) :
    readWanted wanted (write (.record fields)) = some (.record fields) := by
  rw [readWanted, write, skipSpaces_cons (by decide)]
  cases fields with
  | nil => rfl
  | cons field fields =>
      obtain ⟨more, begins⟩ := writeFields_begins field fields
      have read := readFields_writeFields false
        (fun key => if wanted key then .wanted (maxDepth - 1) else .passed) []
        (fun part member => rereads_of_numberless (numberless part member))
        (show _ ≤ 2 * (write (.record (field :: fields))).length + 2 by
          rw [write, List.length_cons, List.length_append]
          omega)
      rw [write, begins, List.cons_append, if_pos] at read
      · rw [begins, List.cons_append]
        simp only [skipSpaces_cons (c := '"') (by decide), List.cons.injEq, Char.reduceEq,
          false_and, imp_self, implies_true, read]
        rfl
      · intro part member
        by_cases asked : wanted part.1 = true
        · rw [if_pos asked]
          exact Nat.le_sub_one_of_lt (shallow part member asked)
        · rw [if_neg asked]
          trivial

/-! ## Lines -/

/-- A text without control characters, and so without line breaks. -/
def ControlFree (text : Text) : Prop := ∀ c ∈ text, 32 ≤ c.toNat

instance (text : Text) : Decidable (ControlFree text) := List.decidableBAll _ text

theorem controlFree_append {left right : Text} :
    ControlFree (left ++ right) ↔ ControlFree left ∧ ControlFree right :=
  List.forall_mem_append

theorem controlFree_cons {c : Char} : ControlFree (c :: rest) ↔ 32 ≤ c.toNat ∧ ControlFree rest :=
  List.forall_mem_cons

theorem controlFree_ite {condition : Prop} [Decidable condition] {left right : Text}
    (holds : condition → ControlFree left) (fails : ¬condition → ControlFree right) :
    ControlFree (if condition then left else right) :=
  iteInduction holds fails

theorem controlFree_escapedChar (c : Char) : ControlFree (escapedChar c) := by
  have digit : ∀ value < 16, ControlFree [Text.hexDigit value] := by decide
  rw [escapedChar]
  iterate 7 refine controlFree_ite (fun _ => by decide) fun _ => ?_
  refine controlFree_ite (fun low => ?_) fun _ => controlFree_ite (fun high => ?_) fun printed => ?_
  · exact controlFree_append.mpr ⟨by decide, digit c.toNat low⟩
  · exact controlFree_append.mpr ⟨by decide, digit (c.toNat - 16) (by omega)⟩
  · exact controlFree_cons.mpr ⟨by omega, by decide⟩

theorem controlFree_writeString (text : Text) : ControlFree (writeString text) := by
  refine controlFree_cons.mpr ⟨by decide, controlFree_append.mpr ⟨?_, by decide⟩⟩
  intro part member
  obtain ⟨c, -, within⟩ := List.mem_flatMap.mp member
  exact controlFree_escapedChar c part within

theorem controlFree_writeItems {items : List Value}
    (each : ∀ item ∈ items, ControlFree (write item)) : ControlFree (writeItems items) := by
  induction items with
  | nil => decide
  | cons item items inductionHypothesis =>
      obtain ⟨first, others⟩ := List.forall_mem_cons.mp each
      cases items with
      | nil => exact first
      | cons next items =>
          rw [writeItems_cons_cons]
          exact controlFree_append.mpr
            ⟨first, controlFree_cons.mpr ⟨by decide, inductionHypothesis others⟩⟩

theorem controlFree_writeFields {fields : List (Text × Value)}
    (each : ∀ field ∈ fields, ControlFree (write field.2)) : ControlFree (writeFields fields) := by
  induction fields with
  | nil => decide
  | cons field fields inductionHypothesis =>
      obtain ⟨first, others⟩ := List.forall_mem_cons.mp each
      obtain ⟨key, value⟩ := field
      have keyFree := controlFree_writeString key
      cases fields with
      | nil =>
          rw [writeFields]
          exact controlFree_append.mpr ⟨keyFree, controlFree_cons.mpr ⟨by decide, first⟩⟩
      | cons next fields =>
          rw [writeFields_cons_cons]
          refine controlFree_append.mpr ⟨keyFree, controlFree_cons.mpr ⟨by decide, ?_⟩⟩
          exact controlFree_append.mpr
            ⟨first, controlFree_cons.mpr ⟨by decide, inductionHypothesis others⟩⟩

/-- Data without numbers is written in one line, whatever its texts are. -/
theorem controlFree_write (numberless : Numberless value) : ControlFree (write value) := by
  induction numberless with
  | null => decide
  | bool on => cases on <;> decide
  | string text => exact controlFree_writeString text
  | list each inductionHypothesis =>
      rw [write]
      exact controlFree_cons.mpr ⟨by decide,
        controlFree_append.mpr ⟨controlFree_writeItems inductionHypothesis, by decide⟩⟩
  | record each inductionHypothesis =>
      rw [write]
      exact controlFree_cons.mpr ⟨by decide,
        controlFree_append.mpr ⟨controlFree_writeFields inductionHypothesis, by decide⟩⟩

end SafeMarkup.Value.Json
