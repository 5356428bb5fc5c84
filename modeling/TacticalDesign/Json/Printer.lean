import TacticalDesign.Json.Value
import TacticalDesign.Text.Quoted
/-!
# Writing JSON

Keys ascend, everything beyond ASCII is escaped, and the float values without a JSON form are
written as the words that the reader takes. A document stands on one line or is indented by two
blanks a level.
-/

namespace TacticalDesign.Json

def escapeUnit (n : Nat) : List Char := [Text.backslash, 'u'] ++ Text.hexText 4 n

def escapeChar (c : Char) : List Char :=
  match c with
  | '\x22' => [Text.backslash, c]
  | '\x5c' => [Text.backslash, c]
  | '\n' => [Text.backslash, 'n']
  | '\r' => [Text.backslash, 'r']
  | '\t' => [Text.backslash, 't']
  | '\x08' => [Text.backslash, 'b']
  | '\x0c' => [Text.backslash, 'f']
  | _ =>
    let n := c.toNat
    if 32 ≤ n ∧ n < 127 then [c]
    else if n < 0x10000 then escapeUnit n
    else escapeUnit (0xd800 + (n - 0x10000) / 0x400) ++ escapeUnit (0xdc00 + n % 0x400)

def stringText (s : String) : String :=
  String.ofList ([Text.doubleQuote] ++ s.toList.flatMap escapeChar ++ [Text.doubleQuote])

def floatWord (x : Float) : String :=
  match Number.Parts.ofFloat x with
  | .nan => "NaN"
  | .infinite negative => if negative then "-Infinity" else "Infinity"
  | .finite .. => Number.floatText x

def numberText : Number → String
  | .int n => Number.intText n
  | .float x => floatWord x

def sortMembers (members : List (String × String)) : List (String × String) :=
  members.mergeSort fun a b => decide (a.1 ≤ b.1)

/-- What stands between the parts of a document, given how deep they are nested. -/
structure Layout where
  /-- Behind an opening bracket and between the items of level `n`, without the comma. -/
  itemBreak : Nat → String
  /-- Before the closing bracket of level `n`. -/
  closeBreak : Nat → String
  /-- Between the items, before their break. -/
  comma : String
  colon : String

def indentation (level : Nat) : String := "\n" ++ String.ofList (List.replicate (2 * level) ' ')

def Layout.indented : Layout where
  itemBreak level := indentation (level + 1)
  closeBreak level := indentation level
  comma := ","
  colon := ": "

def Layout.oneLine : Layout where
  itemBreak _ := ""
  closeBreak _ := ""
  comma := ", "
  colon := ": "

def Layout.compact : Layout where
  itemBreak _ := ""
  closeBreak _ := ""
  comma := ","
  colon := ":"

def Layout.bracket (layout : Layout) (level : Nat) (opening closing : String)
    (items : List String) : String :=
  if items.isEmpty then opening ++ closing
  else opening ++ layout.itemBreak level ++
    String.intercalate (layout.comma ++ layout.itemBreak level) items ++
    layout.closeBreak level ++ closing

mutual

def render (layout : Layout) (level : Nat) : Json → String
  | null => "null"
  | bool b => if b then "true" else "false"
  | number n => numberText n
  | string s => stringText s
  | array items => layout.bracket level "[" "]" (renderItems layout (level + 1) items)
  | object members =>
    layout.bracket level "\x7b" "\x7d"
      ((sortMembers (renderMembers layout (level + 1) members)).map fun (k, v) =>
        stringText k ++ layout.colon ++ v)

def renderItems (layout : Layout) (level : Nat) : List Json → List String
  | [] => []
  | v :: rest => render layout level v :: renderItems layout level rest

def renderMembers (layout : Layout) (level : Nat) :
    List (String × Json) → List (String × String)
  | [] => []
  | (k, v) :: rest => (k, render layout level v) :: renderMembers layout level rest

end

def indentedText (v : Json) : String := render .indented 0 v

def lineText (v : Json) : String := render .oneLine 0 v

end TacticalDesign.Json
