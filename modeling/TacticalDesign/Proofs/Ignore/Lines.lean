import Mathlib.Data.List.TakeWhile
import TacticalDesign.Project
/-!
# What lines of ignore files say

A line says of a path that it is ignored, that it is taken back, or nothing. What a library of
ignore patterns has to read in lines, for lines to be moved from a directory to the root, is what
the format of ignore files lays down: a pattern with a slash in front of its end is anchored, any
other one is found at every depth, and the names in front of an anchored pattern are matched one
after another. Blanks, repeated slashes and double stars at the ends of patterns are left aside.
-/

namespace TacticalDesign

/-! ## Lines -/

namespace IgnoreLine

open Text

/-! ### Blanks at the end -/

theorem trimmed_append (before : List Char) {c : Char} (visible : isBlank c = false)
    (plain : c ≠ '\x5c') (after : List Char) :
    trimmed (before ++ c :: after) = before ++ c :: trimmed after := by
  have solid : c ≠ ' ' := by
    rintro rfl
    cases visible
  have marked : endsWith (before ++ c :: after) ['\x5c', ' '] = endsWith after ['\x5c', ' '] := by
    simp only [endsWith, List.isSuffixOf, List.reverse_append, List.reverse_cons,
      List.append_assoc, List.singleton_append]
    rcases after.reverse with _ | ⟨a, _ | ⟨b, more⟩⟩ <;>
      simp [List.isPrefixOf, Ne.symm solid, Ne.symm plain]
  have shortened : trimEnd (before ++ c :: after) = before ++ c :: trimEnd after := by
    simp only [trimEnd, List.reverse_append, List.reverse_cons, List.append_assoc,
      List.singleton_append, List.dropWhile_append, List.dropWhile_cons, visible]
    split <;> simp_all
  rw [trimmed, trimmed, marked, shortened]
  split <;> rfl

theorem trimmed_slash (pattern : List Char) : trimmed ('/' :: pattern) = '/' :: trimmed pattern :=
  trimmed_append [] (by decide) (by decide) pattern

theorem prefix_of_trimmed (line : List Char) : trimmed line <+: line := by
  rw [trimmed]
  split
  · exact List.prefix_refl line
  · rw [trimEnd, ← List.reverse_suffix, List.reverse_reverse]
    exact List.dropWhile_suffix _

theorem head?_of_trimmed {line : List Char} {c : Char} (h : (trimmed line).head? = some c) :
    line.head? = some c := by
  obtain ⟨rest, same⟩ := prefix_of_trimmed line
  rw [← same, List.head?_append, h]
  rfl

/-! ### Marks -/

/-- Whether a line ignores what it matches, and its text behind an exclamation mark. -/
def cutMark (cs : List Char) : Bool × List Char :=
  if cs.head? = some '!' then (false, cs.tail) else (true, cs)

def markOf (ignores : Bool) : List Char := if ignores then [] else ['!']

theorem markOf_cutMark (cs : List Char) : markOf (cutMark cs).1 ++ (cutMark cs).2 = cs := by
  rw [cutMark]
  split
  · rename_i marked
    obtain ⟨rest, rfl⟩ := List.head?_eq_some_iff.mp marked
    rfl
  · rfl

theorem cutMark_append {ignores : Bool} {cs : List Char}
    (bare : ignores = true → cs.head? ≠ some '!') :
    cutMark (markOf ignores ++ cs) = (ignores, cs) := by
  cases ignores with
  | true => exact if_neg (bare rfl)
  | false => rfl

theorem head?_cutMark {cs : List Char} (h : (cutMark cs).1 = true) :
    (cutMark cs).2.head? ≠ some '!' := by
  rw [cutMark] at h ⊢
  split at h
  · cases h
  · rename_i bare
    rwa [if_neg bare]

theorem trimmed_mark (ignores : Bool) (cs : List Char) :
    trimmed (markOf ignores ++ cs) = markOf ignores ++ trimmed cs := by
  cases ignores with
  | true => rfl
  | false => exact trimmed_append [] (by decide) (by decide) cs

/-- Whether a pattern without an exclamation mark in front is no comment, and has no mark of its
own. -/
def IsSpoken (ignores : Bool) (pattern : List Char) : Prop :=
  ignores = true → pattern.head? ≠ some '#' ∧ pattern.head? ≠ some '!'

/-! ### Patterns -/

def body (pattern : List Char) : List Char := (pattern.reverse.dropWhile (· = '/')).reverse

theorem mem_of_mem_body {c : Char} {pattern : List Char} (h : c ∈ body pattern) : c ∈ pattern :=
  List.mem_reverse.mp ((List.dropWhile_sublist _).subset (List.mem_reverse.mp h))

theorem body_append_slash (pattern : List Char) : body (pattern ++ ['/']) = body pattern := by
  simp [body]

theorem slashes_cases {pattern : List Char} (outer : '/' ∉ body pattern) :
    '/' ∉ pattern ∨ (∃ name, '/' ∉ name ∧ pattern = name ++ ['/']) ∨
      ∃ text, pattern = text ++ ['/', '/'] := by
  obtain ⟨k, cut⟩ : ∃ k, pattern = body pattern ++ List.replicate k '/' := by
    let slashes := pattern.reverse.takeWhile (· = '/')
    have all : slashes = List.replicate slashes.length '/' :=
      List.eq_replicate_iff.mpr ⟨rfl, fun c hc => by simpa using List.mem_takeWhile_imp hc⟩
    refine ⟨slashes.length, ?_⟩
    rw [body, ← List.reverse_replicate, ← all, ← List.reverse_append,
      List.takeWhile_append_dropWhile, List.reverse_reverse]
  rcases k with _ | _ | k
  · rw [List.replicate_zero, List.append_nil] at cut
    exact .inl (cut ▸ outer)
  · exact .inr (.inl ⟨body pattern, outer, cut⟩)
  · refine .inr (.inr ⟨body pattern ++ List.replicate k '/', cut.trans ?_⟩)
    rw [List.replicate_succ', List.replicate_succ', List.append_assoc, List.append_assoc]
    rfl

theorem trimmed_append_slash (text : List Char) : trimmed (text ++ ['/']) = text ++ ['/'] :=
  trimmed_append text (by decide) (by decide) []

def starsOnly : List Char → Bool
  | [] => true
  | '*' :: '*' :: '/' :: rest => starsOnly rest
  | _ => false

/-- Whether a pattern asks for directories by double stars alone. -/
def IsStars (pattern : List Char) : Prop :=
  let names := if pattern.head? = some '/' then pattern.tail else pattern
  names ≠ [] ∧ starsOnly names = true

instance (pattern : List Char) : Decidable (IsStars pattern) :=
  inferInstanceAs (Decidable (_ ∧ _))

theorem isStars_slash {pattern : List Char} :
    IsStars ('/' :: pattern) ↔ pattern ≠ [] ∧ starsOnly pattern = true := Iff.rfl

theorem isStars_of_starsOnly {pattern : List Char} (filled : pattern ≠ [])
    (stars : starsOnly pattern = true) : IsStars pattern := by
  have relative : pattern.head? ≠ some '/' := by
    intro slash
    obtain ⟨rest, rfl⟩ := List.head?_eq_some_iff.mp slash
    cases stars
  rw [IsStars, if_neg relative]
  exact ⟨filled, stars⟩

/-- A pattern that means the same behind a directory. -/
structure IsRegular (pattern : List Char) : Prop where
  /-- It is not blank. -/
  filled : trimmed pattern ≠ []
  /-- It starts with two slashes only where it has nothing else. -/
  single : ['/', '/'] <+: pattern → ∀ c ∈ pattern, c = '/'
  /-- No blanks stand behind a name and its slash. -/
  trimmed_directory : ∀ name, '/' ∉ name → trimmed pattern = name ++ ['/'] →
    trimmed pattern = pattern
  /-- It does not ask for directories by double stars alone. -/
  deep : ¬IsStars (trimmed pattern)

namespace IsRegular

variable {pattern : List Char} (h : IsRegular pattern)

include h

theorem not_directory (inner : '/' ∈ body pattern) {name : List Char} (bare : '/' ∉ name) :
    trimmed pattern ≠ name ++ ['/'] := by
  intro same
  have whole : pattern = name ++ ['/'] := (h.trimmed_directory name bare same).symm.trans same
  rw [whole, body_append_slash] at inner
  exact bare (mem_of_mem_body inner)

theorem not_doubled (inner : '/' ∈ body pattern) : ¬['/', '/'] <+: pattern := by
  intro doubled
  have slashes : ∀ c ∈ pattern.reverse, decide (c = '/') = true := fun c hc =>
    decide_eq_true (h.single doubled c (List.mem_reverse.mp hc))
  have none_left : body pattern = [] := by
    rw [body, List.dropWhile_eq_nil_iff.mpr slashes]
    rfl
  rw [none_left] at inner
  cases inner

end IsRegular

/-! ## Names -/

/-- Whether a bracket behind an opening one closes it. A bracket at the front of the set belongs to
the set. -/
def closes : List Char → Bool
  | '!' :: set => set.tail.contains ']'
  | '^' :: set => set.tail.contains ']'
  | set => set.tail.contains ']'

def isLiteral : List Char → Bool
  | [] => true
  | c :: rest => !(['*', '?', '\x5c'].contains c) && !(c = '[' && closes rest) && isLiteral rest

structure IsName (name : List Char) : Prop where
  named : name ≠ []
  bare : '/' ∉ name
  literal : isLiteral name = true

def slashed (names : List (List Char)) : List Char := names.flatMap ('/' :: ·)

theorem slashed_cons (name : List Char) (names : List (List Char)) :
    slashed (name :: names) = '/' :: (name ++ slashed names) := by
  rw [slashed, List.flatMap_cons, List.cons_append, ← slashed]

theorem slashed_one (name cs : List Char) :
    '/' :: (name ++ '/' :: cs) = slashed [name] ++ '/' :: cs := by
  simp [slashed]

theorem slashed_two (name next cs : List Char) :
    '/' :: (name ++ '/' :: (next ++ '/' :: cs)) = slashed [name, next] ++ '/' :: cs := by
  simp [slashed]

/-- A path as a scan gives it: names between slashes, not made of line feeds alone. -/
structure IsPath (path : List Char) : Prop where
  relative : path.head? ≠ some '/'
  named : ¬['/', '/'] <:+: path
  visible : ∃ c ∈ path, c ≠ '\n'

/-- Whether a line feed stands at the end, which a match may leave there. -/
def EndsLine (cs : List Char) : Prop := cs.getLast? = some '\n'

instance (cs : List Char) : Decidable (EndsLine cs) := inferInstanceAs (Decidable (_ = _))

end IgnoreLine

/-! ## Libraries of patterns -/

def IgnorePattern.decides (p : IgnorePattern) (path : List Char) : Option Bool :=
  (p.match? path).map fun _ => p.ignores

namespace IgnoreMatcher

open IgnoreLine

def decision (m : IgnoreMatcher) (line : String) (path : List Char) :
    Except PatternError (Option Bool) :=
  (m.ofLine line).map fun pattern? => pattern?.bind (·.decides path)

def tells (m : IgnoreMatcher) (ignores : Bool) (pattern path : List Char) : Option (Option Bool) :=
  (m.decision (String.ofList (markOf ignores ++ pattern)) path).toOption

theorem toOption_decision (m : IgnoreMatcher) {line : String} {ignores : Bool}
    {pattern : List Char} (text : line.toList = markOf ignores ++ pattern) (path : List Char) :
    (m.decision line path).toOption = m.tells ignores pattern path := by
  rw [tells, ← text, String.ofList_toList]

/-- What the format of ignore files says of single lines. -/
structure ReadsLines (m : IgnoreMatcher) : Prop where
  /-- An empty line or a comment says nothing. -/
  silent : ∀ line path, line.toList = [] ∨ line.toList.head? = some '#' →
    m.decision line path = .ok none
  /-- A pattern with a slash in front of its end is anchored. -/
  anchored : ∀ ignores pattern path, IsRegular pattern → IsSpoken ignores pattern →
    '/' ∈ body pattern → pattern.head? ≠ some '/' → IsPath path →
      m.tells ignores ('/' :: pattern) path = m.tells ignores pattern path
  /-- Any other pattern is found at every depth. -/
  anywhere : ∀ ignores pattern path, IsRegular pattern → IsSpoken ignores pattern →
    '/' ∉ body pattern → IsPath path →
      m.tells ignores (['/', '*', '*', '/'] ++ pattern) path = m.tells ignores pattern path
  /-- Behind a name an anchored pattern matches below the name. -/
  below : ∀ ignores name rest path, IsName name → trimmed rest ≠ [] →
    ¬IsStars (trimmed ('/' :: rest)) → IsPath path →
      m.tells ignores ('/' :: (name ++ '/' :: rest)) (name ++ '/' :: path) =
        m.tells ignores ('/' :: rest) path
  /-- Names are matched one after another, whatever the path. -/
  below_name : ∀ ignores name next rest path, IsName name → IsName next →
    m.tells ignores ('/' :: (name ++ '/' :: (next ++ '/' :: rest))) (name ++ '/' :: path) =
      m.tells ignores ('/' :: (next ++ '/' :: rest)) path
  /-- An anchored pattern that starts with a name matches nothing but what is below the name. -/
  outside : ∀ ignores name rest path taken, IsName name →
    m.tells ignores ('/' :: (name ++ '/' :: rest)) path = some (some taken) →
      name ++ ['/'] <+: path

end IgnoreMatcher

end TacticalDesign
