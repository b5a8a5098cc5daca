import SafeMarkup.Dictionary

/-!
Contract: structured data as documents hold it, whatever notation they are written in.

Records keep their entries in order, repeated keys included.
-/

namespace SafeMarkup

/-- A piece of structured data. -/
inductive Value where
  | null
  | bool (value : Bool)
  /-- A number as its literal. -/
  | number (literal : Text)
  | string (text : Text)
  | list (items : List Value)
  | record (fields : List (Text × Value))
deriving Inhabited

namespace Value

def ofNat (value : Nat) : Value := .number (Text.ofNat value)

/-- The value under a key of a record. -/
def field? (key : Text) : Value → Option Value
  | .record fields => Dictionary.get? key fields
  | _ => none

mutual
/-- The value with each repeated key of a record at its first place with its last value. -/
def collapsed : Value → Value
  | .list items => .list (collapsedItems items)
  | .record fields => .record (Dictionary.ofList (collapsedFields fields))
  | .null => .null
  | .bool value => .bool value
  | .number literal => .number literal
  | .string text => .string text

/-- `collapsed` for the items of a list. -/
def collapsedItems : List Value → List Value
  | [] => []
  | item :: items => collapsed item :: collapsedItems items

/-- `collapsed` for the values of a record. -/
def collapsedFields : List (Text × Value) → List (Text × Value)
  | [] => []
  | (key, value) :: fields => (key, collapsed value) :: collapsedFields fields
end

def asString? : Value → Option Text
  | .string text => some text
  | _ => none

def asBool? : Value → Option Bool
  | .bool value => some value
  | _ => none

def asList? : Value → Option (List Value)
  | .list items => some items
  | _ => none

/-- The number a literal of decimal digits stands for. -/
def asNat? : Value → Option Nat
  | .number literal => Text.toNat? literal
  | _ => none

/-- The texts of a list of strings. -/
def asStrings? : Value → Option (List Text)
  | .list items => items.mapM asString?
  | _ => none

end Value
end SafeMarkup
