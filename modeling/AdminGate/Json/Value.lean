import AdminGate.Number.Double

/-!
# JSON values

`Json` is the value type of request bodies, answers and log fields.  An object is an association
list in the order in which its names first appeared; `Assoc.insert` keeps names unique, and the
lemma beside it says what look-up sees.
-/

namespace AdminGate

/-- Entries under names, in order. -/
abbrev Assoc (α : Type) := List (String × α)

namespace Assoc

variable {α : Type}

def get? : Assoc α → String → Option α
  | [], _ => none
  | (first, value) :: rest, name => if name = first then some value else get? rest name

def has (entries : Assoc α) (name : String) : Bool :=
  (entries.get? name).isSome

/-- Put an entry under a name: in place when the name is there, at the end otherwise. -/
def insert : Assoc α → String → α → Assoc α
  | [], name, value => [(name, value)]
  | (first, old) :: rest, name, value =>
      if first = name then (name, value) :: rest else (first, old) :: insert rest name value

/-- Insert many entries, the last one under a name counting. -/
def insertAll (entries additions : Assoc α) : Assoc α :=
  additions.foldl (fun all (name, value) => insert all name value) entries

/-- Entries with unique names, from pairs of which later ones replace earlier ones. -/
def ofPairs (pairs : List (String × α)) : Assoc α :=
  insertAll [] pairs

/-- The entries under other names than the given ones. -/
def without (entries : Assoc α) (names : List String) : Assoc α :=
  entries.filter fun entry => !names.contains entry.1

/-- The entries under other names than a given one. -/
def erase (entries : Assoc α) (name : String) : Assoc α :=
  entries.filter fun entry => entry.1 != name

/-- No name appears twice. -/
def Distinct (entries : Assoc α) : Prop :=
  (entries.map Prod.fst).Nodup

theorem get?_insert (entries : Assoc α) (name other : String) (value : α) :
    (entries.insert name value).get? other =
      if other = name then some value else entries.get? other := by
  induction entries with
  | nil => simp [insert, get?]
  | cons entry rest ih =>
      obtain ⟨first, old⟩ := entry
      by_cases here : first = name
      · subst here
        by_cases same : other = first <;> simp [insert, get?, same]
      · by_cases found : other = first
        · subst found
          simp [insert, get?, here]
        · simp [insert, get?, here, found, ih]

end Assoc

/-- A JSON value.  Integers are exact; numbers with a fraction or an exponent are doubles. -/
inductive Json where
  | null
  | bool (value : Bool)
  | int (value : Int)
  | float (value : Double)
  | text (value : String)
  | array (items : List Json)
  | object (fields : List (String × Json))
deriving Inhabited, Repr

abbrev Fields := Assoc Json

namespace Json

def fields? : Json → Option Fields
  | object fields => some fields
  | _ => none

def text? : Json → Option String
  | text value => some value
  | _ => none

/-- Whether a value counts as true: everything but null, false, zero and what is empty. -/
def isTruthy : Json → Bool
  | null => false
  | bool value => value
  | int value => value != 0
  | float value => !value.isZero
  | text value => !value.isEmpty
  | array items => !items.isEmpty
  | object fields => !fields.isEmpty

mutual

/-- How deep arrays and objects are nested in a value. -/
def depth : Json → Nat
  | array items => depthOfItems items + 1
  | object fields => depthOfFields fields + 1
  | _ => 0

def depthOfItems : List Json → Nat
  | [] => 0
  | item :: rest => max (depth item) (depthOfItems rest)

def depthOfFields : List (String × Json) → Nat
  | [] => 0
  | (_, value) :: rest => max (depth value) (depthOfFields rest)

end

/-- The value under a name of an object, nothing for any other value. -/
def get? (value : Json) (name : String) : Option Json :=
  value.fields?.bind fun fields => fields.get? name

end Json

end AdminGate
