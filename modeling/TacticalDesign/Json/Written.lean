import TacticalDesign.Failure
import TacticalDesign.Json.Value
import TacticalDesign.Number.Reading
/-!
# Written values

How a message shows a value: `None`, `True`, `1.5`, `'text'`, `['a', 1]`, `{'k': 'v'}`. Inside a
list or an object every text is quoted; a text that stands alone may also be shown as it is. A value
from outside may be beyond what can be written.
-/

namespace TacticalDesign.Json

mutual

def written : Json → String
  | null => "None"
  | bool b => if b then "True" else "False"
  | number n => n.text
  | string s => Text.quoted s
  | array items => "[" ++ writtenItems items ++ "]"
  | object members => "\x7b" ++ writtenMembers members ++ "\x7d"

def writtenItems : List Json → String
  | [] => ""
  | [v] => written v
  | v :: rest => written v ++ ", " ++ writtenItems rest

def writtenMembers : List (String × Json) → String
  | [] => ""
  | [(k, v)] => Text.quoted k ++ ": " ++ written v
  | (k, v) :: rest => Text.quoted k ++ ": " ++ written v ++ ", " ++ writtenMembers rest

end

/-- The value as text: a text as it is, anything else in its written form. -/
def asText : Json → String
  | string s => s
  | v => v.written

def digitsFailure : Failure :=
  .value ("Exceeds the limit (" ++ Number.natText Number.digitLimit ++ " digits) for integer " ++
    "string conversion; use sys.set_int_max_str_digits() to increase the limit")

def nestingFailure : Failure :=
  .other "RecursionError" "maximum recursion depth exceeded while getting the repr of an object"

mutual

/-- What fails when a value is written, where the stack has room for lists and objects that are
nested so deep. -/
def writingFailure? (room : Nat) : Json → Option Failure
  | number (.int i) =>
    if Number.tenTo Number.digitLimit ≤ i.natAbs then some digitsFailure else none
  | array items => itemsFailure? room items
  | object members => membersFailure? room members
  | _ => none

def itemsFailure? (room : Nat) : List Json → Option Failure
  | [] => none
  | v :: rest =>
    match room with
    | 0 => some nestingFailure
    | inner + 1 => (writingFailure? inner v).or (itemsFailure? room rest)

def membersFailure? (room : Nat) : List (String × Json) → Option Failure
  | [] => none
  | (_, v) :: rest =>
    match room with
    | 0 => some nestingFailure
    | inner + 1 => (writingFailure? inner v).or (membersFailure? room rest)

end

end TacticalDesign.Json
