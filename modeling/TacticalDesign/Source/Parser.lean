import TacticalDesign.Source.Token
import TacticalDesign.Text.Normal
/-!
# Parsers over tokens

A parser takes tokens from the front of a list or fails. A choice takes the first parser that
succeeds and does not come back to it.
-/

namespace TacticalDesign.Source

abbrev Parser := StateT (List Token) Option

namespace Parser

def token (t : Token) : Parser Unit := fun ts =>
  match ts with
  | u :: rest => if u = t then some ((), rest) else none
  | [] => none

def op (text : String) : Parser Unit := token (.op text)

def keyword (word : String) : Parser Unit := token (.keyword word)

/-- Takes a token if it comes next, and says whether it did. -/
def takeToken (t : Token) : Parser Bool := fun ts =>
  match ts with
  | u :: rest => if u = t then some (true, rest) else some (false, ts)
  | [] => some (false, [])

def takeOp (text : String) : Parser Bool := takeToken (.op text)

def takeKeyword (word : String) : Parser Bool := takeToken (.keyword word)

def at? (t : Token) : Parser Bool := fun ts => some (ts.head? = some t, ts)

def atOp (text : String) : Parser Bool := at? (.op text)

def atKeyword (word : String) : Parser Bool := at? (.keyword word)

def atNameAnd (text : String) : Parser Bool := fun ts =>
  match ts with
  | .name _ :: t :: _ => some (t = .op text, ts)
  | _ => some (false, ts)

def name : Parser String := fun ts =>
  match ts with
  | .name text :: rest => some (Text.normalIdentifier text, rest)
  | _ => none

/-- A name that is a keyword only here. -/
def softKeyword (word : String) : Parser Unit := token (.name word)

variable {α β : Type}

def repeatUpTo (p : Parser α) : Nat → Parser (List α)
  | 0 => pure []
  | n + 1 => (do let a ← p; return a :: (← repeatUpTo p n)) <|> pure []

def many (p : Parser α) : Parser (List α) := fun ts => repeatUpTo p ts.length ts

def many1 (p : Parser α) : Parser (List α) := do return (← p) :: (← many p)

def optionally (p : Parser α) : Parser (Option α) := (some <$> p) <|> pure none

/-- Items with commas between them, and whether a comma follows the last one. -/
def commaSeparated (item : Parser α) : Parser (List α × Bool) := do
  let first ← item
  let rest ← many (do op ","; item)
  return (first :: rest, ← takeOp ",")

def between (opening : String) (p : Parser α) (closing : String) : Parser α := do
  op opening
  let a ← p
  op closing
  return a

/-- Makes a result of a parser that may not be one. -/
def accept (p : Parser α) (f : α → Option β) : Parser β := do
  match f (← p) with
  | some b => return b
  | none => failure

def oneOrMore (single : α → β) (several : List α → β) (items : List α × Bool) : β :=
  match items with
  | ([item], false) => single item
  | (items, _) => several items

end Parser

end TacticalDesign.Source
