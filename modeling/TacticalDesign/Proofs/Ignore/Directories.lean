import TacticalDesign.Project
import TacticalDesign.Proofs.Except
import TacticalDesign.Proofs.Ignore.Deciding
import TacticalDesign.Proofs.Ignore.Matching
/-!
# Which directories are entered

A directory is looked up twice, by its path and by its path with a slash at the end, and it is left
out if either is ignored. What matches the path matches it with the slash too. So the last pattern
that matches the directory decides about it, unless this pattern takes back directories only or is
outweighed by an earlier one.
-/

namespace TacticalDesign

open IgnoreLine

namespace MatchStep

/-! ## A slash at the end -/

section Slash

variable {cs r : List Char}

theorem mem_remainders {low high : Nat} :
    r ∈ remainders low high cs ↔ ∃ n, low ≤ n ∧ n ≤ high ∧ r = cs.drop n := by
  simp only [remainders, List.mem_map, List.mem_range]
  constructor
  · rintro ⟨k, small, rfl⟩
    exact ⟨high - k, by omega, by omega, rfl⟩
  · rintro ⟨n, above, below, rfl⟩
    exact ⟨high - n, by omega, by rw [Nat.sub_sub_self below]⟩

theorem mem_behindSlashes :
    r ∈ behindSlashes cs ↔
      ∃ i, i < (cs.takeWhile (· ≠ '\n')).length ∧ 0 < i ∧ cs[i]? = some '/' ∧
        r = cs.drop (i + 1) := by
  simp only [behindSlashes, List.mem_map, List.mem_filter, List.mem_reverse, List.mem_range,
    decide_eq_true_eq]
  constructor
  · rintro ⟨i, ⟨inside, behind, slash⟩, rfl⟩
    exact ⟨i, inside, behind, slash, rfl⟩
  · rintro ⟨i, inside, behind, slash, rfl⟩
    exact ⟨i, ⟨inside, behind, slash⟩, rfl⟩

theorem length_takeWhile_append (keep : Char → Bool) (cs more : List Char) :
    (cs.takeWhile keep).length ≤ ((cs ++ more).takeWhile keep).length := by
  rw [List.takeWhile_append]
  split
  · rename_i whole
    simp [whole]
  · exact Nat.le_refl _

theorem mem_remainders_append {low : Nat} {keep : Char → Bool} {more : List Char}
    (h : r ∈ remainders low (cs.takeWhile keep).length cs) :
    r ++ more ∈ remainders low ((cs ++ more).takeWhile keep).length (cs ++ more) := by
  obtain ⟨n, above, below, rfl⟩ := mem_remainders.mp h
  have inside : n ≤ cs.length := Nat.le_trans below (List.takeWhile_prefix keep).length_le
  have longer := length_takeWhile_append keep cs more
  exact mem_remainders.mpr
    ⟨n, above, Nat.le_trans below longer, (List.drop_append_of_le_length inside).symm⟩

theorem mem_behindSlashes_append {more : List Char} (h : r ∈ behindSlashes cs) :
    r ++ more ∈ behindSlashes (cs ++ more) := by
  obtain ⟨i, inside, behind, slash, rfl⟩ := mem_behindSlashes.mp h
  have within : i < cs.length := (List.getElem?_eq_some_iff.mp slash).1
  have longer := length_takeWhile_append (· ≠ '\n') cs more
  refine mem_behindSlashes.mpr ⟨i, Nat.lt_of_lt_of_le inside longer, behind, ?_, ?_⟩
  · rw [List.getElem?_append_left within, slash]
  · rw [List.drop_append_of_le_length within]

theorem endsLine_of_suffix (suffix : r <:+ cs) (h : EndsLine r) : EndsLine cs := by
  obtain ⟨before, rfl⟩ := suffix
  rw [EndsLine, List.getLast?_append, h]
  rfl

theorem isSome_run_innerNames {rest : List MatchStep} (ran : (run rest cs).isSome = true) :
    (run (.innerNames :: rest) cs).isSome = true := by
  by_cases front : cs.head? = some '/'
  · obtain ⟨below, rfl⟩ := List.head?_eq_some_iff.mp front
    rw [run_innerNames_slash, List.findSome?_isSome_iff]
    exact ⟨'/' :: below, List.mem_append_right _ (List.mem_singleton_self _), ran⟩
  · rwa [run_innerNames_bare front]

theorem isSome_run_nameEnd {rest : List MatchStep} (whole : ¬EndsLine cs)
    (ran : (run (.nameEnd :: rest) cs).isSome = true) :
    (run (.nameEnd :: rest) (cs ++ ['/'])).isSome = true := by
  cases cs with
  | nil => rfl
  | cons c below =>
      rw [run_nameEnd] at ran ⊢
      by_cases slash : c = '/'
      · rw [slash]
        rfl
      · -- without a slash the match ends at the end, and no line feed is left there
        have line_feed : ¬atEnd (c :: below) = true := by
          intro ended
          have same : c :: below = ['\n'] := by simpa [atEnd] using ended
          exact whole (by rw [same]; rfl)
        simp [slash, line_feed] at ran

theorem isSome_run_directoryEnd {rest : List MatchStep} {isMarked : Bool}
    (ran : (run (.directoryEnd isMarked :: rest) cs).isSome = true) :
    (run (.directoryEnd isMarked :: rest) (cs ++ ['/'])).isSome = true := by
  cases cs with
  | nil => cases ran
  | cons c below =>
      rw [run_directoryEnd] at ran ⊢
      rw [List.cons_append, List.head?_cons] at *
      split at ran
      · rename_i slash
        rw [if_pos slash]
        rfl
      · cases ran

theorem isSome_run_slash {steps : List MatchStep} (whole : ¬EndsLine cs)
    (ran : (run steps cs).isSome = true) : (run steps (cs ++ ['/'])).isSome = true := by
  induction steps generalizing cs with
  | nil => cases ran
  | cons s rest ih =>
      have later {r : List Char} (suffix : r <:+ cs) (ran : (run rest r).isSome = true) :
          (run rest (r ++ ['/'])).isSome = true :=
        ih (fun h => whole (endsLine_of_suffix suffix h)) ran
      have among {rs rs' : List (List Char)} (suffixes : ∀ r ∈ rs, r <:+ cs)
          (more : ∀ r ∈ rs, r ++ ['/'] ∈ rs') (ran : (rs.findSome? (run rest)).isSome = true) :
          (rs'.findSome? (run rest)).isSome = true := by
        obtain ⟨r, hr, ran⟩ := List.findSome?_isSome_iff.mp ran
        exact List.findSome?_isSome_iff.mpr ⟨_, more r hr, later (suffixes r hr) ran⟩
      cases s with
      | leadingNames =>
          rw [run_leadingNames] at ran ⊢
          refine among (fun r hr => ?_) (fun r hr => ?_) ran
          · rcases List.mem_append.mp hr with hr | hr
            · exact suffix_of_mem_behindSlashes hr
            · rw [List.mem_singleton.mp hr]
          · rcases List.mem_append.mp hr with hr | hr
            · exact List.mem_append_left _ (mem_behindSlashes_append hr)
            · rw [List.mem_singleton.mp hr]
              exact List.mem_append_right _ (List.mem_singleton_self _)
      | innerNames =>
          by_cases front : cs.head? = some '/'
          · obtain ⟨below, rfl⟩ := List.head?_eq_some_iff.mp front
            rw [List.cons_append]
            rw [run_innerNames_slash] at ran ⊢
            refine among (fun r hr => ?_) (fun r hr => ?_) ran
            · rcases List.mem_append.mp hr with hr | hr
              · exact (suffix_of_mem_remainders hr).trans (List.suffix_cons _ _)
              · rw [List.mem_singleton.mp hr]
            · rcases List.mem_append.mp hr with hr | hr
              · exact List.mem_append_left _ (mem_remainders_append hr)
              · rw [List.mem_singleton.mp hr]
                exact List.mem_append_right _ (List.mem_singleton_self _)
          · rw [run_innerNames_bare front] at ran
            exact isSome_run_innerNames (later (List.suffix_refl cs) ran)
      | slash =>
          obtain ⟨mark, ran⟩ := Option.isSome_iff_exists.mp ran
          obtain ⟨below, rfl, ran⟩ := exists_of_run_slash ran
          rw [List.cons_append, run_slash_cons]
          exact later (List.suffix_cons _ _) (Option.isSome_of_eq_some ran)
      | wholeName =>
          rw [run_wholeName] at ran ⊢
          exact among (fun r hr => suffix_of_mem_remainders hr)
            (fun r hr => mem_remainders_append hr) ran
      | piece p =>
          by_cases any : p = .anyText
          · rw [any, run_anyText] at ran ⊢
            exact among (fun r hr => suffix_of_mem_remainders hr)
              (fun r hr => mem_remainders_append hr) ran
          · cases cs with
            | nil =>
                obtain ⟨mark, ran⟩ := Option.isSome_iff_exists.mp ran
                obtain ⟨c, below, nothing, -⟩ := exists_of_run_piece any ran
                cases nothing
            | cons c below =>
                rw [List.cons_append]
                rw [run_piece any] at ran ⊢
                dsimp only at ran ⊢
                split at ran
                · rename_i accepted
                  rw [if_pos accepted]
                  exact later (List.suffix_cons _ _) ran
                · cases ran
      | nameEnd => exact isSome_run_nameEnd whole ran
      | directoryEnd isMarked => exact isSome_run_directoryEnd ran

end Slash

end MatchStep

open MatchStep IgnorePattern

theorem isSome_match_slash {path : List Char} (whole : ¬EndsLine path) {shape : PatternShape}
    (matched : (shape.match? path).isSome = true) :
    (shape.match? (path ++ ['/'])).isSome = true := by
  cases shape with
  | everything =>
      rw [PatternShape.match?] at matched ⊢
      split at matched
      · rename_i visible
        have still_visible : (path ++ ['/']).any (· ≠ '\n') = true := by
          rw [List.any_append, visible, Bool.true_or]
        rw [if_pos still_visible]
        rfl
      · cases matched
  | nested isMarked => simp [PatternShape.match?]
  | path segments isDirectory => exact isSome_run_slash whole matched

/-- The patterns of lines that match a path match it as a directory. -/
def IgnoreMatcher.MatchesDirectories (m : IgnoreMatcher) : Prop :=
  ∀ line p path, m.ofLine line = .ok (some p) → ¬EndsLine path → (p.match? path).isSome = true →
    (p.match? (path ++ ['/'])).isSome = true

theorem matchesDirectories_gitignore : IgnoreMatcher.gitignore.MatchesDirectories := by
  intro line p path read whole matched
  rw [IgnoreMatcher.gitignore] at read
  dsimp only at read
  split at read
  · obtain ⟨pattern, -, rfl⟩ := Option.map_eq_some_iff.mp (Except.ok.inj read)
    exact isSome_match_slash whole matched
  · cases read

theorem IgnoreMatcher.exists_line_of_patternsOf {m : IgnoreMatcher} {lines : List String}
    {patterns : List IgnorePattern} (read : m.patternsOf lines = .ok patterns) {p : IgnorePattern}
    (hp : p ∈ patterns) : ∃ line ∈ lines, m.ofLine line = .ok (some p) := by
  obtain ⟨each, each_read, whole⟩ := bind_eq_ok.mp read
  obtain rfl := Except.ok.inj whole
  obtain ⟨pattern?, among, rfl⟩ := List.mem_filterMap.mp hp
  exact exists_of_mem_mapM each_read among

theorem closeness_eq_zero_of_slash {m : IgnoreMatcher} (alike : m.MatchesDirectories)
    {lines : List String} {patterns : List IgnorePattern}
    (read : m.patternsOf lines = .ok patterns) {path : List Char} (whole : ¬EndsLine path)
    {p : IgnorePattern} (hp : p ∈ patterns) (unmatched : p.closeness (path ++ ['/']) = 0) :
    p.closeness path = 0 := by
  obtain ⟨line, -, from_line⟩ := IgnoreMatcher.exists_line_of_patternsOf read hp
  by_contra matched
  have matched_slash := alike line p path from_line whole
    (closeness_pos_iff.mp (Nat.pos_of_ne_zero matched))
  exact absurd unmatched (Nat.ne_of_gt (closeness_pos_iff.mpr matched_slash))

namespace Project

open IgnoreMatcher

/-! ## Looking a directory up twice -/

def barePath (names : List String) : List Char := (pathText names).toList

def directoryPath (names : List String) : List Char := barePath names ++ ['/']

def IsSkipped (names : List String) : Prop := ∃ name ∈ names.getLast?, name ∈ skippedDirectories

instance (names : List String) : Decidable (IsSkipped names) :=
  match h : names.getLast? with
  | none => isFalse fun ⟨_, last, _⟩ => by simp [h] at last
  | some name => decidable_of_iff (name ∈ skippedDirectories) (by simp [IsSkipped, h])

def IsIgnored (patterns : List IgnorePattern) (path : List Char) : Prop :=
  ∃ p, Decides patterns path p ∧ p.ignores = true

section Layered

variable {m : IgnoreMatcher} (layered : m.IsLayered) {names : List String}
  {patterns : List IgnorePattern}

include layered

theorem isIgnored_iff {path : List Char} :
    m.ignoresPath patterns path = true ↔ IsIgnored patterns path :=
  ignoresPath_iff layered

theorem keepsDirectory_eq_false_iff (named : barePath names ≠ []) :
    keepsDirectory m patterns names = false ↔
      IsSkipped names ∨ IsIgnored patterns (barePath names) ∨
        IsIgnored patterns (directoryPath names) := by
  have filled : (pathText names).toList.isEmpty = false := by simpa [barePath] using named
  have skipped : names.getLast?.any (· ∈ skippedDirectories) = true ↔ IsSkipped names := by
    cases h : names.getLast? <;> simp [IsSkipped, h]
  rw [← skipped, ← isIgnored_iff layered, ← isIgnored_iff layered, keepsDirectory, excludes]
  simp only [filled, barePath, directoryPath, Bool.not_false, Bool.true_and]
  cases names.getLast?.any (· ∈ skippedDirectories) <;>
    cases m.ignoresPath patterns (pathText names).toList <;>
      cases m.ignoresPath patterns ((pathText names).toList ++ ['/']) <;> simp

variable (alike : m.MatchesDirectories) {lines : List String}
  (read : m.patternsOf lines = .ok patterns)

include alike read

/-- Where the last match takes back, and matches the directory's path itself, the directory is not
ignored by its path. -/
theorem not_ignoresPath_of_retaken {path : List Char} (whole : ¬EndsLine path) {p : IgnorePattern}
    (last : lastMatch? patterns (path ++ ['/']) = some p) (retakes : p.ignores = false)
    (itself : p.closeness path = closest) : m.ignoresPath patterns path = false := by
  obtain ⟨before, after, rfl, -, unmatched⟩ := lastMatch?_eq_some_iff.mp last
  have alone : ∀ q ∈ after, q.closeness path = 0 := fun q hq =>
    closeness_eq_zero_of_slash alike read whole (by simp [hq]) (unmatched q hq)
  have decides : Decides (before ++ p :: after) path p :=
    ⟨before, after, rfl, itself ▸ by decide, fun q _ => itself ▸ closeness_le_closest path q,
      fun q hq => by rw [alone q hq, itself]; decide⟩
  rw [layered.decided _ _ _ decides, retakes]

/-- A directory is left out if its name is never entered or if it is ignored, by its path or as a
directory. This is up to the last pattern that matches it as a directory if no pattern matches it
more closely, and if the pattern matches its bare path too where it takes the directory back. -/
theorem directory_left_out_iff (named : barePath names ≠ []) :
    (keepsDirectory m patterns names = false ↔
      IsSkipped names ∨ IsIgnored patterns (barePath names) ∨
        IsIgnored patterns (directoryPath names)) ∧
    (¬EndsLine (barePath names) →
      (∀ p ∈ lastMatch? patterns (directoryPath names),
        (∀ q ∈ patterns, q.closeness (directoryPath names) ≤ p.closeness (directoryPath names)) ∧
          (p.ignores = false → p.closeness (barePath names) = closest)) →
      (keepsDirectory m patterns names = false ↔
        IsSkipped names ∨ ∃ p ∈ lastMatch? patterns (directoryPath names), p.ignores = true)) := by
  refine ⟨keepsDirectory_eq_false_iff layered named, fun whole regular => ?_⟩
  rw [keepsDirectory_eq_false_iff layered named]
  refine or_congr_right ?_
  rw [← isIgnored_iff layered, ← isIgnored_iff layered]
  cases last : lastMatch? patterns (directoryPath names) with
  | none =>
      have unmatched := lastMatch?_eq_none_iff.mp last
      have unmatched_bare : ∀ q ∈ patterns, q.closeness (barePath names) = 0 := fun q hq =>
        closeness_eq_zero_of_slash alike read whole hq (unmatched q hq)
      simp [layered.unmatched _ _ unmatched, layered.unmatched _ _ unmatched_bare]
  | some p =>
      obtain ⟨closest_match, itself⟩ := regular p (by rw [last]; rfl)
      rw [layered.decided _ _ _ (decides_of_lastMatch? last closest_match)]
      cases ignores : p.ignores with
      | true => simp [ignores]
      | false =>
          simp [ignores,
            not_ignoresPath_of_retaken layered alike read whole last ignores (itself ignores)]

end Layered

/-- Below `out*`, what `!out_api` takes back is entered. -/
theorem directory_left_out_iff_retaken :
    ∃ patterns, (gitignore.IsLayered ∧ gitignore.MatchesDirectories ∧
        gitignore.patternsOf ["out*", "!out_api"] = .ok patterns ∧
        barePath ["src", "out_api"] ≠ [] ∧ ¬EndsLine (barePath ["src", "out_api"]) ∧
        ∀ p ∈ lastMatch? patterns (directoryPath ["src", "out_api"]),
          (∀ q ∈ patterns, q.closeness (directoryPath ["src", "out_api"]) ≤
              p.closeness (directoryPath ["src", "out_api"])) ∧
            (p.ignores = false → p.closeness (barePath ["src", "out_api"]) = closest)) ∧
      (keepsDirectory gitignore patterns ["src", "out_api"] = false ↔
        IsSkipped ["src", "out_api"] ∨
          ∃ p ∈ lastMatch? patterns (directoryPath ["src", "out_api"]), p.ignores = true) := by
  have read : gitignore.patternsOf ["out*", "!out_api"] = .ok _ := rfl
  refine ⟨_, ⟨isLayered_gitignore, matchesDirectories_gitignore, read, by decide, by decide,
    by decide⟩, ?_⟩
  exact (directory_left_out_iff isLayered_gitignore matchesDirectories_gitignore read
    (by decide)).2 (by decide) (by decide)

/-- Where directories are taken back, they are left out all the same. -/
theorem retaken_directories_left_out :
    (∃ patterns, gitignore.patternsOf ["build", "!build/"] = .ok patterns ∧
      keepsDirectory gitignore patterns ["build"] = false ∧ ¬IsSkipped ["build"] ∧
      (lastMatch? patterns (directoryPath ["build"])).map (·.ignores) = some false) ∧
    ∃ patterns, gitignore.patternsOf ["*", "!*/"] = .ok patterns ∧
      keepsDirectory gitignore patterns ["pkg"] = false ∧ ¬IsSkipped ["pkg"] ∧
      (lastMatch? patterns (directoryPath ["pkg"])).map (·.ignores) = some false :=
  ⟨⟨_, rfl, by decide, by decide, by decide⟩, _, rfl, by decide, by decide, by decide⟩

end Project

end TacticalDesign
