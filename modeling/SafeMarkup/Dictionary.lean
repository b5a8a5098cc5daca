import SafeMarkup.Text.Basic

/-!
Contract: dictionaries that keep the order in which their keys first came.

Order is observable: it decides which alias wins, where attributes go and what the written form of
a policy is. A key that is set again keeps its place and takes the new value.
-/

namespace SafeMarkup

/-- Names with values, in order. -/
abbrev Dictionary (α : Type _) := List (Text × α)

namespace Dictionary

variable {α : Type _}

/-- The value of the first entry with a key. -/
def get? (key : Text) : Dictionary α → Option α
  | [] => none
  | (name, value) :: rest => if name = key then some value else get? key rest

def has (key : Text) (entries : Dictionary α) : Bool := (get? key entries).isSome

/-- Sets a key: in its place if it is there, at the end otherwise. -/
def insert (key : Text) (value : α) : Dictionary α → Dictionary α
  | [] => [(key, value)]
  | (name, old) :: rest =>
    if name = key then (name, value) :: rest else (name, old) :: insert key value rest

/-- Sets all keys of `added`, in order. -/
def insertAll (added entries : Dictionary α) : Dictionary α :=
  added.foldl (fun entries (key, value) => insert key value entries) entries

/-- A dictionary with the entries of a list: for a repeated key the first place and the last
value. -/
def ofList (entries : List (Text × α)) : Dictionary α := insertAll entries []

/-- Removes the first entry with a key. -/
def erase (key : Text) : Dictionary α → Dictionary α
  | [] => []
  | (name, value) :: rest => if name = key then rest else (name, value) :: erase key rest

def keys (entries : Dictionary α) : List Text := entries.map Prod.fst

def mapValues {β : Type _} (f : α → β) (entries : Dictionary α) : Dictionary β :=
  entries.map fun (key, value) => (key, f value)

@[simp] theorem get?_insert (key other : Text) (value : α) (entries : Dictionary α) :
    get? other (insert key value entries) =
      if key = other then some value else get? other entries := by
  induction entries with
  | nil => simp [insert, get?]
  | cons entry rest inductionHypothesis =>
    obtain ⟨name, old⟩ := entry
    by_cases here : name = key
    · subst here
      by_cases same : name = other <;> simp [insert, get?, same]
    · by_cases same : key = other
      · subst same
        simp [insert, get?, here, inductionHypothesis]
      · simp only [insert, here, if_false, get?, same, inductionHypothesis]

end Dictionary
end SafeMarkup
