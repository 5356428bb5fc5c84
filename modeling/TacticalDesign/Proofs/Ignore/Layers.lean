import TacticalDesign.Project
import TacticalDesign.Proofs.Except
import TacticalDesign.Proofs.Files.Written
import TacticalDesign.Proofs.Ignore.Deciding
import TacticalDesign.Proofs.Order
/-!
# Ignore files above one another

The patterns of a project are those of its ignore files, file by file in the order of their places.
The file of a directory comes before that of a deeper one exactly if the name that leads on from the
directory comes after the name of ignore files. What comes later overrides.
-/

namespace TacticalDesign

namespace Project

open IgnoreMatcher IgnorePattern

variable {m : IgnoreMatcher} {t : FileTree} {root : Path} {files files' : List (List String)}
  {lines lines' : List String} {patterns : List IgnorePattern}

/-! ## The patterns of a project -/

def entriesOf (t : FileTree) (root : Path) : List (List String × Entry) :=
  match t.locate root with
  | .ok place => t.below place
  | .error _ => []

def filterOf (m : IgnoreMatcher) (t : FileTree) (root : Path) :
    Except ProjectError (List IgnorePattern) := do
  let lines ← match ignoreLines t root (ignoreFiles (entriesOf t root)) with
    | .ok lines => pure lines
    | .error e => throw (.file e)
  match m.patternsOf lines with
  | .ok patterns => pure patterns
  | .error e => throw (.pattern e)

def modulesUnder (m : IgnoreMatcher) (t : FileTree) (root : Path)
    (patterns : List IgnorePattern) : List SourceUnit :=
  let files := (entriesOf t root).filter fun (_, entry) => !(entry matches .directory)
  let modules := (files.map (·.1)).filter (reaches m patterns)
  (modules.mergeSort fun a b => textLe (pathText a) (pathText b)).map (unitOf t root)

theorem discover_eq (m : IgnoreMatcher) (t : FileTree) (root : Path) :
    discover m t root = (filterOf m t root).map (modulesUnder m t root) := by
  unfold discover filterOf modulesUnder entriesOf
  cases t.locate root
  all_goals
    dsimp only
    generalize ignoreLines t root _ = lines?
    cases lines? with
    | error e => rfl
    | ok lines =>
        simp only [pure_bind]
        cases m.patternsOf lines <;> rfl

def Reads (m : IgnoreMatcher) (t : FileTree) (root : Path) (files : List (List String))
    (patterns : List IgnorePattern) : Prop :=
  ∃ lines, ignoreLines t root files = .ok lines ∧ m.patternsOf lines = .ok patterns

theorem filterOf_eq_ok :
    filterOf m t root = .ok patterns ↔
      Reads m t root (ignoreFiles (entriesOf t root)) patterns := by
  rw [filterOf, Reads]
  cases ignoreLines t root (ignoreFiles (entriesOf t root)) with
  | error e => simp [bind, Except.bind, throw, throwThe, MonadExceptOf.throw]
  | ok lines =>
      cases read : m.patternsOf lines <;>
        simp [read, bind, Except.bind, throw, throwThe, MonadExceptOf.throw, pure, Except.pure]

theorem ignoreLines_cons {names : List String} {bytes : List UInt8} {text : List Char}
    (read : t.read (root.append ⟨"", names⟩) = .ok bytes)
    (decoded : Document.textOf bytes = .ok text) :
    ignoreLines t root (names :: files) =
      (ignoreLines t root files).map (rootLines names.dropLast text ++ ·) := by
  rw [ignoreLines, read]
  change (Document.textOf bytes >>= _) = _
  rw [decoded]
  cases ignoreLines t root files <;> rfl

theorem ignoreLines_append (h : ignoreLines t root (files ++ files') = .ok lines) :
    ∃ first later, ignoreLines t root files = .ok first ∧ ignoreLines t root files' = .ok later ∧
      lines = first ++ later := by
  induction files generalizing lines with
  | nil => exact ⟨[], lines, rfl, h, rfl⟩
  | cons names rest ih =>
      rw [List.cons_append, ignoreLines] at h
      obtain ⟨bytes, read, h⟩ := bind_eq_ok.mp h
      obtain ⟨text, decoded, h⟩ := bind_eq_ok.mp h
      obtain ⟨more, behind, h⟩ := bind_eq_ok.mp h
      obtain ⟨first, later, hfirst, hlater, rfl⟩ := ih behind
      cases h
      refine ⟨rootLines names.dropLast text ++ first, later, ?_, hlater, by simp⟩
      rw [ignoreLines_cons read decoded, hfirst]
      rfl

theorem patternsOf_eq_ok :
    m.patternsOf lines = .ok patterns ↔
      ∃ read, lines.mapM m.ofLine = .ok read ∧ patterns = read.filterMap id := by
  rw [patternsOf, bind_eq_ok]
  refine exists_congr fun read => and_congr_right fun _ => ?_
  exact ⟨fun h => (Except.ok.inj h).symm, fun h => congrArg Except.ok h.symm⟩

theorem patternsOf_append (h : m.patternsOf (lines ++ lines') = .ok patterns) :
    ∃ first later, m.patternsOf lines = .ok first ∧ m.patternsOf lines' = .ok later ∧
      patterns = first ++ later := by
  obtain ⟨read, each, rfl⟩ := patternsOf_eq_ok.mp h
  rw [List.mapM_append] at each
  obtain ⟨first, hfirst, each⟩ := bind_eq_ok.mp each
  obtain ⟨later, hlater, each⟩ := bind_eq_ok.mp each
  cases each
  exact ⟨_, _, patternsOf_eq_ok.mpr ⟨first, hfirst, rfl⟩, patternsOf_eq_ok.mpr ⟨later, hlater, rfl⟩,
    List.filterMap_append⟩

theorem Reads.append (h : Reads m t root (files ++ files') patterns) :
    ∃ first later, Reads m t root files first ∧ Reads m t root files' later ∧
      patterns = first ++ later := by
  obtain ⟨lines, read, shaped⟩ := h
  obtain ⟨first, later, hfirst, hlater, rfl⟩ := ignoreLines_append read
  obtain ⟨ps, qs, hps, hqs, rfl⟩ := patternsOf_append shaped
  exact ⟨ps, qs, ⟨first, hfirst, hps⟩, ⟨later, hlater, hqs⟩, rfl⟩

/-! ## The order of ignore files -/

theorem textsLe_append (front as bs : List String) :
    textsLe (front ++ as) (front ++ bs) = textsLe as bs := by
  induction front with
  | nil => rfl
  | cons a front ih => rw [List.cons_append, List.cons_append, textsLe, if_pos rfl, ih]

/-- Of two members of an ordered list, the one that does not come behind the other is in front. -/
theorem exists_split_of_ordered {l : List (List String)} {a b : List String}
    (ordered : l.Pairwise fun x y => textsLe x y = true) (ha : a ∈ l) (hb : b ∈ l)
    (apart : textsLe b a = false) :
    ∃ first between last, l = first ++ ([a] ++ (between ++ ([b] ++ last))) := by
  obtain ⟨first, rest, rfl⟩ := List.append_of_mem ha
  obtain ⟨-, behind, across⟩ := List.pairwise_append.mp ordered
  rcases List.mem_append.mp hb with earlier | later
  · have before := across b earlier a List.mem_cons_self
    rw [apart] at before
    cases before
  rcases List.mem_cons.mp later with rfl | later
  · have same := textsLe_total b b
    simp [apart] at same
  · obtain ⟨between, last, rfl⟩ := List.append_of_mem later
    exact ⟨first, between, last, rfl⟩

theorem ordered_ignoreFiles (entries : List (List String × Entry)) :
    (ignoreFiles entries).Pairwise fun x y => textsLe x y = true :=
  List.pairwise_mergeSort textsLe_trans textsLe_total _

theorem mem_ignoreFiles {entries : List (List String × Entry)} {directory : List String}
    {entry : Entry} (there : (directory ++ [ignoreFileName], entry) ∈ entries) :
    directory ++ [ignoreFileName] ∈ ignoreFiles entries := by
  rw [ignoreFiles, List.mem_mergeSort, List.mem_eraseDups, List.mem_flatMap]
  refine ⟨_, List.mem_map_of_mem there, List.mem_filter.mpr ⟨List.mem_map.mpr ?_, by simp⟩⟩
  have whole : directory.length + 1 = (directory ++ [ignoreFileName]).length := by simp
  exact ⟨directory.length, List.mem_range.mpr (by simp), by rw [whole, List.take_length]⟩

/-! ## What overrides -/

/-- Behind weaker patterns stand stronger ones. Wherever one of these matches a path as closely as
any of the weaker ones, the weaker ones do not count. -/
def Overrides (m : IgnoreMatcher) (patterns weaker stronger : List IgnorePattern) : Prop :=
  ∃ first between last,
    patterns = first ++ weaker ++ (between ++ stronger ++ last) ∧
    ∀ path, ∀ q ∈ stronger, 0 < q.closeness path →
      (∀ p ∈ weaker, p.closeness path ≤ q.closeness path) →
      m.ignoresPath patterns path = m.ignoresPath (first ++ (between ++ stronger ++ last)) path

theorem Reads.unique {ps qs : List IgnorePattern} (h : Reads m t root files ps)
    (h' : Reads m t root files qs) : ps = qs := by
  obtain ⟨lines, read, shaped⟩ := h
  obtain ⟨lines', read', shaped'⟩ := h'
  obtain rfl : lines = lines' := Except.ok.inj (read.symm.trans read')
  exact Except.ok.inj (shaped.symm.trans shaped')

theorem Reads.of_mem (h : Reads m t root files patterns) {names : List String}
    (hn : names ∈ files) : ∃ own, Reads m t root [names] own := by
  obtain ⟨first, last, rfl⟩ := List.append_of_mem hn
  obtain ⟨_, _, -, behind, -⟩ := h.append
  rw [← List.singleton_append] at behind
  obtain ⟨own, _, there, -, -⟩ := behind.append
  exact ⟨own, there⟩

/-- The patterns of one file in front of another one in the order of places are overridden. -/
theorem exists_overrides (layered : m.IsLayered) {a b : List String}
    (read : filterOf m t root = .ok patterns) (ha : a ∈ ignoreFiles (entriesOf t root))
    (hb : b ∈ ignoreFiles (entriesOf t root))
    (apart : textsLe b a = false) :
    ∃ weaker stronger, Reads m t root [a] weaker ∧ Reads m t root [b] stronger ∧
      Overrides m patterns weaker stronger := by
  obtain ⟨first, between, last, order⟩ :=
    exists_split_of_ordered (ordered_ignoreFiles _) ha hb apart
  have whole := filterOf_eq_ok.mp read
  rw [order] at whole
  obtain ⟨before, _, -, from_first, rfl⟩ := whole.append
  obtain ⟨weaker, _, upper, behind_first, rfl⟩ := from_first.append
  obtain ⟨middle, _, -, from_second, rfl⟩ := behind_first.append
  obtain ⟨stronger, after, lower, -, rfl⟩ := from_second.append
  refine ⟨weaker, stronger, upper, lower, before, middle, after, by simp, ?_⟩
  intro path q hq _ outmatched
  have later : q ∈ middle ++ stronger ++ after := by simp [hq]
  have settled : m.ignoresPath (before ++ weaker ++ (middle ++ stronger ++ after)) path =
      m.ignoresPath (before ++ (middle ++ stronger ++ after)) path :=
    ignoresPath_of_outmatched layered later outmatched
  simpa using settled

/-- The patterns in the ignore file of a directory below another one override those in the file of
the upper directory if the name that leads down comes after that of ignore files. If it comes
before, the patterns of the upper directory override those of the lower one. -/
theorem ignore_files_override (layered : m.IsLayered) {directory rest : List String}
    {name : String} {upper lower : Entry} (read : filterOf m t root = .ok patterns)
    (above : (directory ++ [ignoreFileName], upper) ∈ entriesOf t root)
    (below : (directory ++ name :: rest ++ [ignoreFileName], lower) ∈ entriesOf t root) :
    ∃ outer inner, Reads m t root [directory ++ [ignoreFileName]] outer ∧
      Reads m t root [directory ++ name :: rest ++ [ignoreFileName]] inner ∧
      (ignoreFileName < name → Overrides m patterns outer inner) ∧
      (name < ignoreFileName → Overrides m patterns inner outer) := by
  have ha := mem_ignoreFiles above
  have hb := mem_ignoreFiles below
  have whole := filterOf_eq_ok.mp read
  obtain ⟨outer, houter⟩ := whole.of_mem ha
  obtain ⟨inner, hinner⟩ := whole.of_mem hb
  refine ⟨outer, inner, houter, hinner, fun after => ?_, fun before => ?_⟩
  · have apart : textsLe (directory ++ name :: rest ++ [ignoreFileName])
        (directory ++ [ignoreFileName]) = false := by
      have other : name ≠ ignoreFileName := fun same => String.lt_irrefl _ (same ▸ after)
      rw [List.append_assoc, textsLe_append, List.cons_append, textsLe, if_neg other]
      exact decide_eq_false (String.lt_asymm after)
    obtain ⟨_, _, hweaker, hstronger, overrides⟩ := exists_overrides layered read ha hb apart
    rwa [houter.unique hweaker, hinner.unique hstronger]
  · have apart : textsLe (directory ++ [ignoreFileName])
        (directory ++ name :: rest ++ [ignoreFileName]) = false := by
      have other : ignoreFileName ≠ name := fun same => String.lt_irrefl _ (same ▸ before)
      rw [List.append_assoc, textsLe_append, List.cons_append, textsLe, if_neg other]
      exact decide_eq_false (String.lt_asymm before)
    obtain ⟨_, _, hweaker, hstronger, overrides⟩ := exists_overrides layered read hb ha apart
    rwa [houter.unique hstronger, hinner.unique hweaker]

def projectOf (files : List (List String × String)) : FileTree where
  entries := files.map fun (names, text) => (names, .file (Text.Utf8.encode text.toList))

def projectRoot : Path := ⟨"/", []⟩

/-- A project whose modules are ignored, except one in `src`. -/
def srcProject : FileTree :=
  projectOf [([ignoreFileName], "*.py"), (["src", ignoreFileName], "!keep.py")]

theorem reads_srcProject :
    ∃ patterns, Reads gitignore srcProject projectRoot
      (ignoreFiles (entriesOf srcProject projectRoot)) patterns := by
  have order : ignoreFiles (entriesOf srcProject projectRoot) =
      [[ignoreFileName], ["src", ignoreFileName]] := List.mergeSort_of_pairwise (by decide)
  have lines : ignoreLines srcProject projectRoot [[ignoreFileName], ["src", ignoreFileName]] =
      .ok ["*.py", "!/src/**/keep.py"] := by
    rw [ignoreLines_cons rfl (Document.textOf_encode (Json.Parser.plain_of_all (by decide))),
      ignoreLines_cons rfl (Document.textOf_encode (Json.Parser.plain_of_all (by decide)))]
    rfl
  rw [order]
  exact ⟨_, _, lines, rfl⟩

/-- In `src`, what the root ignores is taken back. -/
theorem ignore_files_override_src :
    ∃ patterns upper lower,
      (gitignore.IsLayered ∧ filterOf gitignore srcProject projectRoot = .ok patterns ∧
        ([] ++ [ignoreFileName], upper) ∈ entriesOf srcProject projectRoot ∧
        ([] ++ "src" :: [] ++ [ignoreFileName], lower) ∈ entriesOf srcProject projectRoot ∧
        ignoreFileName < "src") ∧
      ∃ outer inner, Reads gitignore srcProject projectRoot [[ignoreFileName]] outer ∧
        Reads gitignore srcProject projectRoot [["src", ignoreFileName]] inner ∧
        Overrides gitignore patterns outer inner := by
  obtain ⟨patterns, read⟩ := reads_srcProject
  have accepted := filterOf_eq_ok.mpr read
  have after : ignoreFileName < "src" := by decide
  have above : ([] ++ [ignoreFileName], _) ∈ entriesOf srcProject projectRoot := .head _
  have below : ([] ++ "src" :: [] ++ [ignoreFileName], _) ∈ entriesOf srcProject projectRoot :=
    .tail _ (.head _)
  obtain ⟨outer, inner, houter, hinner, overrides, -⟩ :=
    ignore_files_override isLayered_gitignore accepted above below
  exact ⟨patterns, _, _, ⟨isLayered_gitignore, accepted, above, below, after⟩, outer, inner,
    houter, hinner, overrides after⟩

/-- A project whose modules are ignored, except one in `.github`. -/
def githubProject : FileTree :=
  projectOf [([".github", ignoreFileName], "!keep.py"), ([ignoreFileName], "*.py")]

/-- What the file in `.github` takes back, the one at the root ignores all the same. -/
theorem root_overrides_github :
    ∃ patterns inner, filterOf gitignore githubProject projectRoot = .ok patterns ∧
      Reads gitignore githubProject projectRoot [[".github", ignoreFileName]] inner ∧
      (∃ p ∈ inner, p.ignores = false ∧ p.closeness ".github/keep.py".toList = closest) ∧
      keepsModule gitignore patterns [".github", "keep.py"] = false := by
  have order : ignoreFiles (entriesOf githubProject projectRoot) =
      [[".github", ignoreFileName], [ignoreFileName]] := List.mergeSort_of_pairwise (by decide)
  have below : ignoreLines githubProject projectRoot [[".github", ignoreFileName]] =
      .ok ["!/.github/**/keep.py"] := by
    rw [ignoreLines_cons rfl (Document.textOf_encode (Json.Parser.plain_of_all (by decide)))]
    rfl
  have lines : ignoreLines githubProject projectRoot
      [[".github", ignoreFileName], [ignoreFileName]] = .ok ["!/.github/**/keep.py", "*.py"] := by
    rw [ignoreLines_cons rfl (Document.textOf_encode (Json.Parser.plain_of_all (by decide))),
      ignoreLines_cons rfl (Document.textOf_encode (Json.Parser.plain_of_all (by decide)))]
    rfl
  have read : ∃ patterns, Reads gitignore githubProject projectRoot
      (ignoreFiles (entriesOf githubProject projectRoot)) patterns ∧
      keepsModule gitignore patterns [".github", "keep.py"] = false := by
    rw [order]
    exact ⟨_, ⟨_, lines, rfl⟩, by decide⟩
  obtain ⟨patterns, read, left_out⟩ := read
  refine ⟨patterns, _, filterOf_eq_ok.mpr read, ⟨_, below, rfl⟩, ?_, left_out⟩
  exact ⟨_, .head _, rfl, by decide⟩

end Project

end TacticalDesign
