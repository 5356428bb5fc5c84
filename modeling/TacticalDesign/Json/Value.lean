import TacticalDesign.Number.Value
/-!
# JSON values

The members of an object keep the order in which their keys first came, and each key occurs once.
-/

namespace TacticalDesign

inductive Json where
  | null
  | bool (b : Bool)
  | number (n : Number)
  | string (s : String)
  | array (items : List Json)
  | object (members : List (String × Json))

namespace Json

instance : Inhabited Json := ⟨null⟩

def int (n : Int) : Json := number (.int n)

def float (x : Float) : Json := number (.float x)

def strings (items : List String) : Json := array (items.map string)

def optionalString : Option String → Json
  | none => null
  | some s => string s

def lookup (key : String) : List (String × Json) → Option Json
  | [] => none
  | (k, v) :: rest => if k = key then some v else lookup key rest

/-- Writes a member: a key that is there keeps its place and takes the new value. -/
def insertMember (key : String) (value : Json) : List (String × Json) → List (String × Json)
  | [] => [(key, value)]
  | (k, v) :: rest => if k = key then (k, value) :: rest else (k, v) :: insertMember key value rest

def get? (v : Json) (key : String) : Option Json :=
  match v with
  | object members => lookup key members
  | _ => none

@[simp] theorem lookup_insertMember_self (key : String) (value : Json)
    (members : List (String × Json)) :
    lookup key (insertMember key value members) = some value := by
  induction members with
  | nil => simp [insertMember, lookup]
  | cons m rest ih =>
    obtain ⟨k, v⟩ := m
    by_cases h : k = key <;> simp [insertMember, lookup, h, ih]

theorem lookup_insertMember_of_ne {key other : String} (h : key ≠ other) (value : Json)
    (members : List (String × Json)) :
    lookup other (insertMember key value members) = lookup other members := by
  induction members with
  | nil => simp [insertMember, lookup, h]
  | cons m rest ih =>
    obtain ⟨k, v⟩ := m
    by_cases hk : k = key
    · subst hk
      simp [insertMember, lookup, h]
    · by_cases ho : k = other
      · subst ho
        simp [insertMember, lookup, hk]
      · simp [insertMember, lookup, hk, ho, ih]

/-- Whether a value counts as true where a flag is expected: neither null, false, zero nor empty. -/
def isTruthy : Json → Bool
  | null => false
  | bool b => b
  | number n => !n.isZero
  | string s => !s.isEmpty
  | array items => !items.isEmpty
  | object members => !members.isEmpty

end Json

end TacticalDesign
