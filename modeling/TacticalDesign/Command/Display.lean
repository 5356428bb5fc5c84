import TacticalDesign.Number.Compare
import TacticalDesign.Number.Decimal
import TacticalDesign.Report
/-!
# Displays

What a scan shows: ruled headings, texts and tables. Severe findings are coloured.
-/

namespace TacticalDesign.Command

structure Column where
  heading : String
  /-- The column's share of the width. -/
  share : Nat
  alignsRight : Bool := false
  deriving DecidableEq, Repr

structure Row where
  cells : List String
  colour : Option String := none
  deriving DecidableEq, Repr

inductive Display where
  /-- A heading over a ruled line. -/
  | heading (title : String)
  | text (content : String)
  | table (columns : List Column) (rows : List Row)
  deriving DecidableEq, Repr

namespace Display

def scoreText (x : Float) : String := Number.fixedText 2 x

def commaList (items : List String) : String := String.intercalate ", " items

/-! ## Classifications -/

def classificationColumns : List Column :=
  [⟨"symbol", 4, false⟩, ⟨"role", 2, false⟩, ⟨"confidence", 1, false⟩, ⟨"score", 1, true⟩,
    ⟨"evidence", 3, false⟩]

def classificationRow (c : Classification) : Row where
  cells := [c.symbolId, if c.ambiguous then c.role.word ++ " (ambiguous)" else c.role.word,
    c.confidence.word, scoreText c.score.toFloat, commaList c.evidence]

def ofClassifications (r : ScanReport) : List Display :=
  [heading ("classifications (registry " ++ r.registryVersion ++ ")"),
    table classificationColumns (r.classifications.map classificationRow)]

/-! ## Findings -/

def findingColumns : List Column :=
  [⟨"anti_pattern", 2, false⟩, ⟨"severity", 1, false⟩, ⟨"symbols", 3, false⟩,
    ⟨"evidence", 4, false⟩]

def severityColour : Level → Option String
  | .high => some "red"
  | .medium => some "yellow"
  | .low => some "green"
  | .other _ => none

def findingRow (f : Finding) : Row where
  cells := [f.antiPattern, f.severity.word, commaList f.symbolIds,
    String.intercalate "; " f.evidence]
  colour := severityColour f.severity

/-- Findings are shown when there are any. -/
def ofFindings (r : ScanReport) : List Display :=
  if r.findings.isEmpty then []
  else [heading "findings", table findingColumns (r.findings.map findingRow)]

/-! ## Changes -/

def changeColumns : List Column :=
  [⟨"symbol", 4, false⟩, ⟨"change", 1, false⟩, ⟨"detail", 5, false⟩]

/-- What changed in a symbol: its lists of names that are not empty, then its flags. -/
def diffText (d : StructuralDiff) : String :=
  let lists := (d.nameLists.filter fun l => !l.2.isEmpty).map fun (label, items) =>
    label ++ "=" ++ String.intercalate "," items
  String.intercalate "; " (lists ++ (d.flags.filter (·.2)).map (·.1))

def changeRow (c : ChangeRecord) : Row where
  cells := [c.symbolId, c.kind.word, (c.diff.map diffText).getD ""]

def hintText (h : RenameHint) : String :=
  "rename hint: " ++ h.removedId ++ " -> " ++ h.addedId ++ " (similarity=" ++
    scoreText h.similarity ++ ")"

/-- Changes are shown when there was something to compare with. -/
def ofChanges (r : ScanReport) : List Display :=
  match r.changes with
  | none => []
  | some changes =>
    [heading "changes", table changeColumns (changes.map changeRow)] ++
      r.renameHints.map fun h => text (hintText h)

def ofReport (r : ScanReport) : List Display := ofClassifications r ++ ofFindings r ++ ofChanges r

/-! ## Markup -/

/-- The texts of a display that are read as markup, column by column. -/
def marked : Display → List String
  | heading title => [title]
  | text _ => []
  | table columns rows =>
    columns.zipIdx.flatMap fun (c, i) => c.heading :: rows.filterMap (·.cells[i]?)

/-! ## Plain text -/

def rowText (cells : List String) : String := String.intercalate " | " cells

def lines : Display → List String
  | heading title => ["--- " ++ title ++ " ---"]
  | text content => [content]
  | table columns rows => rowText (columns.map (·.heading)) :: rows.map fun r => rowText r.cells

end Display

end TacticalDesign.Command
