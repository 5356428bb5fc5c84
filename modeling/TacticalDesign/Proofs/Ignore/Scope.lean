import Mathlib.Data.List.TakeWhile
import TacticalDesign.Proofs.Ignore.Gitignore
/-!
# Ignore files below the root

What a line of an ignore file decides in its directory, the line that is put in its place decides at
the root, and it decides nothing outside of the directory. This is so for directories whose names
stand for themselves in a pattern, whatever library reads the lines as their format says. Lines
whose first mark stands behind a backslash are not put behind the directory.
-/

namespace TacticalDesign

namespace IgnoreLine

open Text

/-! ## Patterns that are put behind a directory -/

/-- What of a pattern stands behind a directory. -/
def relative (pattern : List Char) : List Char :=
  if '/' ∈ body pattern then pattern.dropWhile (· = '/') else ['*', '*'] ++ '/' :: pattern

theorem toList_anchorBelow (directory pattern : String) :
    (anchorBelow directory pattern).toList =
      '/' :: (directory.toList ++ '/' :: relative pattern.toList) := by
  by_cases inner : '/' ∈ body pattern.toList
  · have kept : (body pattern.toList).contains '/' = true := List.contains_iff_mem.mpr inner
    rw [anchorBelow, relative, if_pos inner, ← body, if_pos kept]
    simp
  · have bare : ¬(body pattern.toList).contains '/' = true := fun h =>
      inner (List.contains_iff_mem.mp h)
    rw [anchorBelow, relative, if_neg inner, ← body, if_neg bare]
    simp

theorem relative_slash {rest : List Char} (h : IsRegular ('/' :: rest))
    (inner : '/' ∈ body ('/' :: rest)) : relative ('/' :: rest) = rest := by
  have single : rest.head? ≠ some '/' := by
    intro doubled
    obtain ⟨more, rfl⟩ := List.head?_eq_some_iff.mp doubled
    exact h.not_doubled inner ⟨more, rfl⟩
  rw [relative, if_pos inner, List.dropWhile_cons, if_pos (by simp)]
  cases rest with
  | nil => rfl
  | cons c more =>
      have other : c ≠ '/' := fun same => single (by rw [same]; rfl)
      rw [List.dropWhile_cons, if_neg (by simpa using other)]

/-! ## Lines -/

/-- A line that is put behind a directory with its meaning: it has none, or it has a regular
pattern. -/
def IsMovable (line : String) : Prop :=
  (line.toList = [] ∨ line.toList.head? = some '#') ∨
    (isScopeFree line = false ∧ IsRegular (cutMark line.toList).2)

def IsEscaped (line : String) : Prop :=
  ['\x5c', '!'] <+: line.toList ∨ ['\x5c', '#'] <+: line.toList

theorem toList_rootRelativePattern {line directory : String} (named : directory ≠ "")
    (bound : isScopeFree line = false) :
    (rootRelativePattern line directory).toList =
      markOf (cutMark line.toList).1 ++
        '/' :: (directory.toList ++ '/' :: relative (cutMark line.toList).2) := by
  have moved : ¬(directory.isEmpty || isScopeFree line) = true := by
    simpa [bound] using named
  rw [rootRelativePattern, if_neg moved]
  split
  · rename_i rest marked
    have cut : cutMark ('!' :: rest) = (false, rest) := rfl
    simp only [String.toList_append, toList_anchorBelow, String.toList_ofList, marked, cut]
    rfl
  · rename_i bare
    have unmarked : line.toList.head? ≠ some '!' := fun mark =>
      (List.head?_eq_some_iff.mp mark).elim bare
    rw [toList_anchorBelow, cutMark, if_neg unmarked]
    rfl

theorem not_comment {line : String} (bound : isScopeFree line = false) :
    line.toList.head? ≠ some '#' := by
  intro comment
  obtain ⟨rest, text⟩ := List.head?_eq_some_iff.mp comment
  have kept : (trimStart line.toList).head? = some '#' := by
    rw [trimStart, text, List.dropWhile_cons, if_neg (by decide)]
    rfl
  simp [isScopeFree, kept] at bound

theorem isSpoken_cutMark {cs : List Char} (spoken : cs.head? ≠ some '#') :
    IsSpoken (cutMark cs).1 (cutMark cs).2 := by
  intro unmarked
  have whole := markOf_cutMark cs
  rw [unmarked] at whole
  refine ⟨?_, head?_cutMark unmarked⟩
  rwa [show (cutMark cs).2 = cs from whole]

/-! ## Directories -/

theorem exists_slashed_append (names : List (List Char)) (cs : List Char) :
    ∃ rest, slashed names ++ '/' :: cs = '/' :: rest := by
  cases names with
  | nil => exact ⟨cs, rfl⟩
  | cons name names => exact ⟨_, by rw [slashed_cons, List.cons_append]⟩

/-- Names of a directory below the root that stand for themselves in a pattern. -/
structure IsPlainDirectory (names : List String) : Prop where
  below_root : names ≠ []
  plain : ∀ name ∈ names, IsName name.toList

theorem slashed_pathText {names : List String} (below_root : names ≠ []) :
    '/' :: (Project.pathText names).toList = slashed (names.map String.toList) := by
  have joined (ns : List (List Char)) (filled : ns ≠ []) :
      '/' :: ['/'].intercalate ns = slashed ns := by
    induction ns with
    | nil => exact absurd rfl filled
    | cons name rest ih =>
        cases rest with
        | nil => simp [slashed, List.intercalate]
        | cons next more =>
            have behind := ih (List.cons_ne_nil next more)
            rw [List.intercalate_cons_cons, slashed, List.flatMap_cons, ← slashed, ← behind]
            simp
  rw [Project.pathText, String.toList_intercalate]
  exact joined _ (by simpa using below_root)

theorem IsPlainDirectory.pathText_ne {names : List String} (h : IsPlainDirectory names) :
    Project.pathText names ≠ "" := by
  intro empty
  have front := slashed_pathText h.below_root
  obtain ⟨name, rest, rfl⟩ := List.exists_cons_of_ne_nil h.below_root
  have named := (h.plain name List.mem_cons_self).named
  rw [empty, List.map_cons, slashed_cons] at front
  simp [named] at front

theorem relative_bare {pattern : List Char} (inner : '/' ∈ body pattern)
    (front : pattern.head? ≠ some '/') : relative pattern = pattern := by
  rw [relative, if_pos inner]
  cases pattern with
  | nil => rfl
  | cons c rest =>
      have other : c ≠ '/' := fun slash => front (by rw [slash]; rfl)
      rw [List.dropWhile_cons, if_neg (by simpa using other)]

theorem isScopeFree_of_silent {line : String}
    (silent : line.toList = [] ∨ line.toList.head? = some '#') : isScopeFree line = true := by
  by_contra bound
  rcases silent with empty | comment
  · simp [isScopeFree, empty] at bound
  · exact not_comment (Bool.eq_false_iff.mpr bound) comment

theorem rootRelativePattern_scopeFree {line : String} (free : isScopeFree line = true)
    (directory : String) : rootRelativePattern line directory = line := by
  rw [rootRelativePattern, if_pos (by rw [free, Bool.or_true])]

end IgnoreLine

/-! ## What a line decides where it is put -/

namespace IgnoreMatcher

open IgnoreLine

section Laws

variable {m : IgnoreMatcher} (laws : m.ReadsLines) (ignores : Bool)

include laws

/-- Behind the names of a directory an anchored pattern says of what is below the directory what it
says alone. -/
theorem tells_behind {names : List (List Char)} (plain : ∀ name ∈ names, IsName name)
    {rest path : List Char} (filled : trimmed rest ≠ []) (deep : ¬IsStars (trimmed ('/' :: rest)))
    (proper : IsPath path) {there : List Char}
    (place : '/' :: there = slashed names ++ '/' :: path) :
    m.tells ignores (slashed names ++ '/' :: rest) there = m.tells ignores ('/' :: rest) path := by
  induction names generalizing there with
  | nil =>
      obtain rfl : there = path := (List.cons.inj place).2
      rfl
  | cons name names ih =>
      obtain ⟨plain_first, plain_later⟩ := List.forall_mem_cons.mp plain
      rw [slashed_cons, List.cons_append, List.append_assoc] at place ⊢
      obtain rfl := (List.cons.inj place).2
      cases names with
      | nil => exact laws.below ignores name rest path plain_first filled deep proper
      | cons next more =>
          obtain ⟨plain_next, -⟩ := List.forall_mem_cons.mp plain_later
          obtain ⟨tail, cut⟩ := exists_slashed_append more rest
          obtain ⟨below, place_below⟩ := exists_slashed_append (next :: more) path
          have behind := ih plain_later place_below.symm
          rw [place_below]
          rw [slashed_cons, List.cons_append, List.append_assoc, cut] at behind ⊢
          exact (laws.below_name ignores name next tail below plain_first plain_next).trans behind

theorem prefix_of_tells {name : List Char} {names : List (List Char)}
    (plain : ∀ n ∈ name :: names, IsName n) {rest there : List Char} {taken : Bool}
    (h : m.tells ignores (slashed (name :: names) ++ '/' :: rest) there = some (some taken)) :
    slashed (name :: names) ++ ['/'] <+: '/' :: there := by
  induction names generalizing name there with
  | nil =>
      rw [← slashed_one] at h
      have within := laws.outside ignores name rest there taken (plain name List.mem_cons_self) h
      rwa [slashed_cons, slashed, List.flatMap_nil, List.append_nil, List.cons_append,
        List.prefix_cons_inj]
  | cons next more ih =>
      obtain ⟨plain_first, plain_later⟩ := List.forall_mem_cons.mp plain
      obtain ⟨plain_next, -⟩ := List.forall_mem_cons.mp plain_later
      obtain ⟨tail, cut⟩ := exists_slashed_append more rest
      rw [slashed_cons, List.cons_append, List.append_assoc, slashed_cons next, List.cons_append,
        List.append_assoc, cut] at h
      obtain ⟨below, rfl⟩ :=
        laws.outside ignores name (next ++ '/' :: tail) there taken plain_first h
      rw [List.append_assoc, List.singleton_append,
        laws.below_name ignores name next tail below plain_first plain_next, ← cut,
        ← List.append_assoc, ← List.cons_append, ← slashed_cons] at h
      rw [slashed_cons, List.cons_append, List.append_assoc, List.append_assoc,
        List.singleton_append, List.prefix_cons_inj, List.prefix_append_right_inj]
      exact ih plain_later h

theorem tells_relative {pattern : List Char} (regular : IsRegular pattern)
    (spoken : IsSpoken ignores pattern) {path : List Char} (proper : IsPath path) :
    m.tells ignores ('/' :: relative pattern) path = m.tells ignores pattern path ∧
      trimmed (relative pattern) ≠ [] ∧ ¬IsStars (trimmed ('/' :: relative pattern)) := by
  by_cases inner : '/' ∈ body pattern
  · by_cases front : pattern.head? = some '/'
    · obtain ⟨rest, rfl⟩ := List.head?_eq_some_iff.mp front
      rw [relative_slash regular inner]
      refine ⟨rfl, fun blank => ?_, regular.deep⟩
      exact regular.not_directory inner List.not_mem_nil (by rw [trimmed_slash, blank]; rfl)
    · have kept : relative pattern = pattern := relative_bare inner front
      rw [kept, trimmed_slash]
      exact ⟨laws.anchored ignores pattern path regular spoken inner front proper, regular.filled,
        fun stars => regular.deep
          (isStars_of_starsOnly regular.filled (isStars_slash.mp stars).2)⟩
  · have deep : relative pattern = ['*', '*', '/'] ++ pattern := by
      rw [relative, if_neg inner]
      rfl
    have text : trimmed (['*', '*', '/'] ++ pattern) = ['*', '*', '/'] ++ trimmed pattern :=
      trimmed_append ['*', '*'] (by decide) (by decide) pattern
    rw [trimmed_slash, deep, text]
    exact ⟨laws.anywhere ignores pattern path regular spoken inner proper, by simp,
      fun stars => regular.deep (isStars_of_starsOnly regular.filled (isStars_slash.mp stars).2)⟩

/-- What a line decides in a directory, the line in its place decides at the root, and it decides
nothing about what is not in the directory. A line whose first mark stands behind a backslash is
kept, and decides at the root what it decides anywhere. -/
theorem rootRelativePattern_decides {names : List String} (directory : IsPlainDirectory names)
    (line : String) :
    (IsMovable line →
      (∀ path, IsPath path →
        (m.decision (rootRelativePattern line (Project.pathText names))
          ((Project.pathText names).toList ++ '/' :: path)).toOption =
            (m.decision line path).toOption) ∧
      ∀ path ignores,
        m.decision (rootRelativePattern line (Project.pathText names)) path = .ok (some ignores) →
          (Project.pathText names).toList ++ ['/'] <+: path) ∧
    (IsEscaped line → ∀ path,
      m.decision (rootRelativePattern line (Project.pathText names)) path =
        m.decision line path) := by
  constructor
  · rintro (silent | ⟨bound, regular⟩)
    · have unspoken := laws.silent line
      rw [rootRelativePattern_scopeFree (isScopeFree_of_silent silent)]
      refine ⟨fun path _ => by rw [unspoken _ silent, unspoken _ silent], fun path ignores h => ?_⟩
      rw [unspoken path silent] at h
      cases h
    · have front := slashed_pathText directory.below_root
      have plain : ∀ name ∈ names.map String.toList, IsName name := by simpa using directory.plain
      have text := toList_rootRelativePattern directory.pathText_ne bound
      rw [← List.cons_append, front] at text
      have spoken := isSpoken_cutMark (not_comment bound)
      constructor
      · intro path proper
        obtain ⟨alone, filled, deep⟩ :=
          tells_relative laws (cutMark line.toList).1 regular spoken proper
        have place : '/' :: ((Project.pathText names).toList ++ '/' :: path) =
            slashed (names.map String.toList) ++ '/' :: path := by rw [← front]; rfl
        rw [m.toOption_decision text, m.toOption_decision (markOf_cutMark line.toList).symm,
          tells_behind laws _ plain filled deep proper place, alone]
      · intro path ignores h
        have said := m.toOption_decision text path
        rw [h] at said
        obtain ⟨name, more, cut⟩ := List.exists_cons_of_ne_nil directory.below_root
        rw [cut, List.map_cons] at plain said front
        have within := prefix_of_tells laws _ plain said.symm
        rwa [← front, List.cons_append, List.prefix_cons_inj, ← cut] at within
  · intro escaped path
    have free : isScopeFree line = true := by
      rcases escaped with mark | mark <;>
        simp [isScopeFree, Text.startsWith, List.isPrefixOf_iff_prefix.mpr mark]
    rw [rootRelativePattern_scopeFree free]

end Laws

/-- In `a/b`, a line that takes a directory back and an escaped line. -/
theorem rootRelativePattern_decides_nested :
    (gitignore.ReadsLines ∧ IsPlainDirectory ["a", "b"] ∧ IsMovable "!build/" ∧
      IsPath "build/x.py".toList ∧
      gitignore.decision "!build/" "build/x.py".toList = .ok (some false) ∧
      IsEscaped "\x5c#x.py") ∧
    (gitignore.decision (rootRelativePattern "!build/" (Project.pathText ["a", "b"]))
        ((Project.pathText ["a", "b"]).toList ++ '/' :: "build/x.py".toList)).toOption =
      (gitignore.decision "!build/" "build/x.py".toList).toOption ∧
    (Project.pathText ["a", "b"]).toList ++ ['/'] <+: "a/b/build/x.py".toList ∧
    gitignore.decision (rootRelativePattern "\x5c#x.py" (Project.pathText ["a", "b"]))
        "#x.py".toList =
      gitignore.decision "\x5c#x.py" "#x.py".toList := by
  have plain_a : IsName ['a'] := ⟨by decide, by decide, by decide⟩
  have plain_b : IsName ['b'] := ⟨by decide, by decide, by decide⟩
  have directory : IsPlainDirectory ["a", "b"] := ⟨by decide, by simp [plain_a, plain_b]⟩
  have movable : IsMovable "!build/" :=
    .inr ⟨by decide, by decide, by decide, fun _ _ _ => by decide, by decide⟩
  have proper : IsPath "build/x.py".toList := ⟨by decide, by decide, 'b', by decide, by decide⟩
  have escaped : IsEscaped "\x5c#x.py" := .inr (by decide)
  have moved := rootRelativePattern_decides readsLines_gitignore directory "!build/"
  exact ⟨⟨readsLines_gitignore, directory, movable, proper, by decide, escaped⟩,
    (moved.1 movable).1 _ proper, (moved.1 movable).2 _ false (by decide),
    (rootRelativePattern_decides readsLines_gitignore directory "\x5c#x.py").2 escaped _⟩

/-- An escaped line of an ignore file in a directory decides about what is not in the directory. -/
theorem escaped_line_decides_elsewhere :
    gitignore.decision (rootRelativePattern "\x5c#x.py" "d") "e/#x.py".toList = .ok (some true) ∧
      ¬"d/".toList <+: "e/#x.py".toList := by
  decide

end IgnoreMatcher

end TacticalDesign
