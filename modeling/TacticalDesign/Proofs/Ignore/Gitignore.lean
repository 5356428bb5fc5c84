import TacticalDesign.Proofs.Ignore.Shape
/-!
# Patterns of globs read lines as the format says

A pattern with a slash in front of its end has the same names as with a slash at its front, and any
other pattern has those that it has behind a double star. Where two slashes stand at the end of a
pattern it matches nothing, in one place as in the other.
-/

namespace TacticalDesign

namespace PathPattern

open IgnoreLine MatchStep Text

/-! ## Names at the front -/

theorem normalNames_inner {pattern : List Char} (h : IsRegular pattern)
    (inner : '/' ∈ body pattern) (front : pattern.head? ≠ some '/') :
    normalNames (splitAtChar '/' (trimmed pattern)) =
      collapse (closed (splitAtChar '/' (trimmed pattern))) := by
  obtain ⟨name, more, cut, bare⟩ := List.eq_append_cons_of_mem (mem_of_mem_body inner)
  have named : name ≠ [] := by
    rintro rfl
    exact front (by rw [cut]; rfl)
  have text : trimmed pattern = name ++ '/' :: trimmed more := by
    rw [cut]
    exact trimmed_append name (by decide) (by decide) more
  have later : splitAtChar '/' (trimmed more) ≠ [[]] := fun h' =>
    h.not_directory inner bare (by rw [text, eq_nil_of_splitAtChar h'])
  rw [text, splitAtChar_append, splitAtChar_bare bare]
  exact normalNames_path named (splitAtChar_ne_nil _) later

theorem normalNames_bare {pattern : List Char} (filled : trimmed pattern ≠ [])
    (bare : '/' ∉ pattern) :
    normalNames (splitAtChar '/' (trimmed pattern)) =
        collapse (closed (splitAtChar '/' (doubleStar ++ '/' :: trimmed pattern))) := by
  have cut : splitAtChar '/' (trimmed pattern) = [trimmed pattern] :=
    splitAtChar_bare fun h => bare ((prefix_of_trimmed pattern).subset h)
  rw [splitAtChar_append, cut, normalNames_name filled]
  rfl

theorem normalNames_bare_directory {name : List Char} (named : name ≠ []) (bare : '/' ∉ name) :
    normalNames (splitAtChar '/' (name ++ ['/'])) =
        collapse (closed (splitAtChar '/' (doubleStar ++ '/' :: (name ++ ['/'])))) := by
  have cut : splitAtChar '/' (name ++ ['/']) = [name, []] := by
    rw [splitAtChar_append, splitAtChar_bare bare]
    rfl
  rw [splitAtChar_append doubleStar, cut]
  exact normalNames_directory named

/-! ## Slashes at the end -/

theorem isSome_run_empty {names front : List (List Char)}
    (ended : names = front ++ [[], doubleStar]) {segs : List Segment}
    (read : names.mapM segment? = some segs) (isDirectory : Bool) {path : List Char}
    (proper : IsPath path) :
    (run (ofSegments isDirectory true segs) ('/' :: path)).isSome = false := by
  rw [ended, List.mapM_append] at read
  obtain ⟨first, -, read⟩ := Option.bind_eq_some_iff.mp read
  obtain ⟨last, tail, read⟩ := Option.bind_eq_some_iff.mp read
  obtain rfl : [Segment.glob [], .anyDepth] = last := Option.some.inj tail
  obtain rfl := Option.some.inj read
  refine Option.isSome_eq_false_iff.mpr (Option.isNone_iff_eq_none.mpr ?_)
  by_contra h
  obtain ⟨mark, ran⟩ := Option.ne_none_iff_exists'.mp h
  exact proper.named_below (infix_of_run_empty ran)

/-- Whether names that end in an empty one are a pattern is up to the other names. -/
theorem isSome_mapM_empty (names : List (List Char)) :
    ((collapse (names ++ [[], doubleStar])).mapM segment?).isSome ↔
      ∀ name ∈ names, name ≠ [] → name ≠ doubleStar → (segment? name).isSome := by
  simp only [isSome_mapM, mem_collapse, List.mem_append, List.mem_cons, List.not_mem_nil, or_false]
  constructor
  · intro h name hn _ _
    exact h name (.inl hn)
  · intro h name hn
    by_cases empty : name = []
    · rw [empty]
      rfl
    by_cases stars : name = doubleStar
    · rw [stars]
      rfl
    · exact h name (hn.resolve_right (not_or.mpr ⟨empty, stars⟩)) empty stars

theorem closed_slashes (names : List (List Char)) :
    closed (names ++ [[], []]) = names ++ [[], doubleStar] :=
  closed_append names (List.cons_ne_nil [] [[]])

/-- Two slashes at the end of a pattern leave an empty name at the end of its names. -/
theorem normalNames_slashes (text : List Char) :
    ∃ names, (∀ name, name ≠ [] → (name ∈ names ↔ name ∈ splitAtChar '/' text)) ∧
      normalNames (splitAtChar '/' (text ++ ['/', '/'])) =
        collapse (names ++ [[], doubleStar]) := by
  have cut : splitAtChar '/' (text ++ ['/', '/']) = splitAtChar '/' text ++ [[], []] :=
    splitAtChar_append text ['/']
  rw [cut]
  cases names : splitAtChar '/' text with
  | nil => exact absurd names (splitAtChar_ne_nil text)
  | cons name rest =>
      by_cases first : name = []
      · subst first
        refine ⟨rest, fun n named => by simp [named], ?_⟩
        rw [List.cons_append, normalNames_slash, closed_slashes]
      · refine ⟨name :: rest, fun n _ => Iff.rfl, ?_⟩
        rw [List.cons_append, normalNames_path first (by simp) (by simp [List.append_eq_cons_iff]),
          ← List.cons_append, closed_slashes]

/-- Names of which either both or none are patterns, and which match the same paths behind a
slash. -/
def MatchSame (isDirectory : Bool) (names names' : List (List Char)) : Prop :=
  Option.Rel
    (fun segs segs' => ∀ path, IsPath path →
      (run (ofSegments isDirectory true segs) ('/' :: path)).isSome =
        (run (ofSegments isDirectory true segs') ('/' :: path)).isSome)
    (names.mapM segment?) (names'.mapM segment?)

theorem MatchSame.refl (isDirectory : Bool) (names : List (List Char)) :
    MatchSame isDirectory names names := by
  rw [MatchSame]
  cases names.mapM segment? with
  | none => exact .none
  | some segs => exact .some fun _ _ => rfl

/-- Names with an empty one at their end match nothing, so that only their being patterns counts. -/
theorem MatchSame.of_empty {names names' : List (List Char)} (isDirectory : Bool)
    (same : ∀ name, name ≠ [] → name ≠ doubleStar → (name ∈ names ↔ name ∈ names')) :
    MatchSame isDirectory (collapse (names ++ [[], doubleStar]))
      (collapse (names' ++ [[], doubleStar])) := by
  have alike : ((collapse (names ++ [[], doubleStar])).mapM segment?).isSome =
      ((collapse (names' ++ [[], doubleStar])).mapM segment?).isSome := by
    rw [Bool.eq_iff_iff, isSome_mapM_empty, isSome_mapM_empty]
    refine forall_congr' fun name => ⟨fun h hn empty stars => ?_, fun h hn empty stars => ?_⟩
    · exact h ((same name empty stars).mpr hn) empty stars
    · exact h ((same name empty stars).mp hn) empty stars
  obtain ⟨front, ended⟩ := collapse_empty names
  obtain ⟨front', ended'⟩ := collapse_empty names'
  refine rel_of_isSome alike fun segs segs' read read' path proper => ?_
  rw [isSome_run_empty ended read _ proper, isSome_run_empty ended' read' _ proper]

theorem matchSame_slashes (isDirectory : Bool) (text : List Char) :
    MatchSame isDirectory
      (collapse (closed (splitAtChar '/' (doubleStar ++ '/' :: (text ++ ['/', '/'])))))
      (normalNames (splitAtChar '/' (text ++ ['/', '/']))) := by
  obtain ⟨names, same, normal⟩ := normalNames_slashes text
  have behind : splitAtChar '/' (doubleStar ++ '/' :: (text ++ ['/', '/'])) =
      doubleStar :: splitAtChar '/' text ++ [[], []] := by
    rw [splitAtChar_append doubleStar, splitAtChar_append _ ['/']]
    rfl
  rw [normal, behind, closed_slashes]
  refine .of_empty _ fun n named deep => ?_
  rw [List.mem_cons, same n named]
  exact or_iff_right deep

/-- Behind a double star a pattern without inner slashes matches the paths that it matches alone. -/
theorem matchSame_outer {pattern : List Char} (filled : trimmed pattern ≠ [])
    (solid : trimmed pattern ≠ ['/']) (outer : '/' ∉ body pattern) :
    MatchSame (asksDirectory (trimmed pattern))
      (collapse (closed (splitAtChar '/' (doubleStar ++ '/' :: trimmed pattern))))
      (normalNames (splitAtChar '/' (trimmed pattern))) := by
  rcases slashes_cases outer with bare | ⟨name, bare, rfl⟩ | ⟨text, rfl⟩
  · rw [normalNames_bare filled bare]
    exact .refl _ _
  · rw [trimmed_append_slash] at solid ⊢
    have named : name ≠ [] := by
      rintro rfl
      exact solid rfl
    rw [normalNames_bare_directory named bare]
    exact .refl _ _
  · have whole : trimmed (text ++ ['/', '/']) = text ++ ['/', '/'] := by
      have ended : text ++ ['/', '/'] = text ++ ['/'] ++ ['/'] := by simp
      rw [ended, trimmed_append_slash]
    rw [whole]
    exact matchSame_slashes _ text

/-! ## Texts that match the same paths -/

/-- Two texts of which either both or none are those of patterns, and which match the same paths. -/
def TextsMatchSame (text text' : List Char) : Prop :=
  Option.Rel (fun isMatched isMatched' => ∀ path, IsPath path → isMatched path = isMatched' path)
    (matcher? text) (matcher? text')

theorem textsMatchSame_of_names {text text' : List Char} (filled : text ≠ []) (solid : text ≠ ['/'])
    (deep : ¬IsStars text) (filled' : text' ≠ []) (solid' : text' ≠ ['/']) (deep' : ¬IsStars text')
    (asks : asksDirectory text = asksDirectory text')
    (same : MatchSame (asksDirectory text') (normalNames (splitAtChar '/' text))
      (normalNames (splitAtChar '/' text'))) : TextsMatchSame text text' := by
  have root := matcher?_root filled solid fun asks' stars =>
    deep (isStars_of_normalNames asks' solid stars)
  have root' := matcher?_root filled' solid' fun asks' stars =>
    deep' (isStars_of_normalNames asks' solid' stars)
  rw [asks] at root
  rw [TextsMatchSame]
  rw [MatchSame] at same
  generalize matcher? text = isMatched at root ⊢
  generalize matcher? text' = isMatched' at root' ⊢
  generalize (normalNames (splitAtChar '/' text)).mapM segment? = segs at root same
  generalize (normalNames (splitAtChar '/' text')).mapM segment? = segs' at root' same
  cases same with
  | none =>
      cases root
      cases root'
      exact .none
  | some alike =>
      cases root with
      | some read =>
          cases root' with
          | some read' =>
              exact .some fun path proper =>
                (read path proper).trans ((alike path proper).trans (read' path proper).symm)

theorem tells_eq_of_same {ignores : Bool} {pattern pattern' path path' : List Char}
    (filled : trimmed pattern ≠ []) (spoken : IsSpoken ignores pattern)
    (filled' : trimmed pattern' ≠ []) (spoken' : IsSpoken ignores pattern')
    (same : Option.Rel (fun isMatched isMatched' => isMatched path = isMatched' path')
      (matcher? (trimmed pattern)) (matcher? (trimmed pattern'))) :
    IgnoreMatcher.gitignore.tells ignores pattern path =
      IgnoreMatcher.gitignore.tells ignores pattern' path' := by
  rw [tells_gitignore filled spoken, tells_gitignore filled' spoken']
  generalize matcher? (trimmed pattern) = isMatched at same ⊢
  generalize matcher? (trimmed pattern') = isMatched' at same ⊢
  cases same with
  | none => rfl
  | some alike => simp only [Option.map_some, said, alike]

theorem TextsMatchSame.at_path {text text' path : List Char} (same : TextsMatchSame text text')
    (proper : IsPath path) :
    Option.Rel (fun isMatched isMatched' => isMatched path = isMatched' path) (matcher? text)
      (matcher? text') := by
  rw [TextsMatchSame] at same
  generalize matcher? text = isMatched at same ⊢
  generalize matcher? text' = isMatched' at same ⊢
  cases same with
  | none => exact .none
  | some alike => exact .some (alike path proper)

/-! ## Patterns with a slash in front -/

theorem isSpoken_slash (ignores : Bool) (pattern : List Char) :
    IsSpoken ignores ('/' :: pattern) := fun _ => ⟨by simp, by simp⟩

theorem textsMatchSame_anchored {pattern : List Char} (h : IsRegular pattern)
    (inner : '/' ∈ body pattern) (front : pattern.head? ≠ some '/') :
    TextsMatchSame ('/' :: trimmed pattern) (trimmed pattern) := by
  have relative : (trimmed pattern).head? ≠ some '/' := fun slash => front (head?_of_trimmed slash)
  have deep : ¬IsStars ('/' :: trimmed pattern) := fun stars =>
    h.deep (isStars_of_starsOnly h.filled (isStars_slash.mp stars).2)
  have cut : splitAtChar '/' ('/' :: trimmed pattern) = [[]] ++ splitAtChar '/' (trimmed pattern) :=
    splitAtChar_cons_sep _
  have solid : trimmed pattern ≠ ['/'] := fun same => relative (by rw [same]; rfl)
  refine textsMatchSame_of_names (List.cons_ne_nil _ _) (by simpa using h.filled) deep h.filled
    solid h.deep (asksDirectory_behind _ cut) ?_
  rw [cut, List.singleton_append, normalNames_slash, ← normalNames_inner h inner front]
  exact .refl _ _

theorem textsMatchSame_slash : TextsMatchSame ['/', '*', '*', '/', '/'] ['/'] := by
  have root := matcher?_root (List.cons_ne_nil '/' ['*', '*', '/', '/']) (by decide) (by decide)
  have ended : normalNames (splitAtChar '/' ['/', '*', '*', '/', '/']) =
      [doubleStar] ++ [[], doubleStar] := by decide
  rw [TextsMatchSame]
  generalize matcher? ['/', '*', '*', '/', '/'] = isMatched at root ⊢
  generalize read : (normalNames (splitAtChar '/' ['/', '*', '*', '/', '/'])).mapM segment? = segs
    at root
  cases root with
  | none => cases read
  | some matched =>
      exact .some fun path proper =>
        (matched path proper).trans (isSome_run_empty ended read _ proper)

theorem textsMatchSame_anywhere {pattern : List Char} (h : IsRegular pattern)
    (outer : '/' ∉ body pattern) :
    TextsMatchSame (['/', '*', '*', '/'] ++ trimmed pattern) (trimmed pattern) := by
  by_cases solid : trimmed pattern = ['/']
  · rw [solid]
    exact textsMatchSame_slash
  have deep : ¬IsStars (['/', '*', '*', '/'] ++ trimmed pattern) := fun stars =>
    h.deep (isStars_of_starsOnly h.filled (isStars_slash.mp stars).2)
  have cut : splitAtChar '/' (['/', '*', '*', '/'] ++ trimmed pattern) =
      [[], doubleStar] ++ splitAtChar '/' (trimmed pattern) :=
    splitAtChar_append ['/', '*', '*'] (trimmed pattern)
  have behind : splitAtChar '/' (doubleStar ++ '/' :: trimmed pattern) =
      doubleStar :: splitAtChar '/' (trimmed pattern) := splitAtChar_append doubleStar _
  refine textsMatchSame_of_names (by simp) (by simp) deep h.filled solid h.deep
    (asksDirectory_behind _ cut) ?_
  rw [cut, List.cons_append, normalNames_slash, List.singleton_append, ← behind]
  exact matchSame_outer h.filled solid outer

/-! ## Patterns behind names -/

theorem trimmed_slashed (names : List (List Char)) (rest : List Char) :
    trimmed (slashed names ++ '/' :: rest) = slashed names ++ '/' :: trimmed rest :=
  trimmed_append (slashed names) (by decide) (by decide) rest

/-- Behind a name the text of a pattern matches below the name what it matches alone. -/
theorem matcher?_below {name text path : List Char} (plain : IsName name) (filled : text ≠ [])
    (deep : ¬IsStars ('/' :: text)) (proper : IsPath path) :
    Option.Rel (fun isMatched isMatched' => isMatched (name ++ '/' :: path) = isMatched' path)
      (matcher? (slashed [name] ++ '/' :: text)) (matcher? ('/' :: text)) := by
  have behind := matcher?_behind [name] (by simpa using plain) (by simp) text
  have root := matcher?_root (List.cons_ne_nil '/' text) (by simpa using filled)
    fun asks stars => deep (isStars_of_normalNames asks (by simpa using filled) stars)
  have cut : splitAtChar '/' ('/' :: text) = [[]] ++ splitAtChar '/' text := splitAtChar_cons_sep _
  rw [asksDirectory_behind _ cut, cut, List.singleton_append, normalNames_slash] at root
  generalize matcher? (slashed [name] ++ '/' :: text) = isMatched at behind ⊢
  generalize matcher? ('/' :: text) = isMatched' at root ⊢
  generalize (collapse (closed (splitAtChar '/' text))).mapM segment? = segs at behind root
  cases behind with
  | none =>
      cases root
      exact .none
  | some matched =>
      cases root with
      | some read =>
          refine .some ?_
          rw [matched.2, slashed_one, run_plain [name], read path proper]

theorem matcher?_below_name {name next : List Char} (plain : IsName name) (plain_next : IsName next)
    (text path : List Char) :
    Option.Rel (fun isMatched isMatched' => isMatched (name ++ '/' :: path) = isMatched' path)
      (matcher? (slashed [name, next] ++ '/' :: text))
      (matcher? (slashed [next] ++ '/' :: text)) := by
  have behind := matcher?_behind [name, next] (by simp [plain, plain_next]) (by simp) text
  have behind_next := matcher?_behind [next] (by simpa using plain_next) (by simp) text
  generalize matcher? (slashed [name, next] ++ '/' :: text) = isMatched at behind ⊢
  generalize matcher? (slashed [next] ++ '/' :: text) = isMatched' at behind_next ⊢
  generalize (collapse (closed (splitAtChar '/' text))).mapM segment? = segs at behind behind_next
  cases behind with
  | none =>
      cases behind_next
      exact .none
  | some matched =>
      cases behind_next with
      | some matched_next =>
          refine .some ?_
          rw [matched.2, matched_next.2, slashed_one]
          exact congrArg Option.isSome (run_plain [name] ('/' :: path))

theorem prefix_of_matcher? {name text : List Char} (plain : IsName name) {path : List Char}
    {isMatched : List Char → Bool}
    (read : matcher? (slashed [name] ++ '/' :: text) = some isMatched)
    (matched : isMatched path = true) : name ++ ['/'] <+: path := by
  have behind := matcher?_behind [name] (by simpa using plain) (by simp) text
  rw [read] at behind
  generalize (collapse (closed (splitAtChar '/' text))).mapM segment? = segs at behind
  cases behind with
  | some ran =>
      obtain ⟨filled, ran⟩ := ran
      rw [ran] at matched
      obtain ⟨mark, found⟩ := Option.isSome_iff_exists.mp matched
      obtain ⟨cs, same, found_below⟩ := exists_of_run_plain found
      obtain ⟨below, rfl⟩ := exists_of_run_ofSegments filled found_below
      rw [← slashed_one] at same
      exact ⟨below, by rw [List.append_assoc]; exact (List.cons.inj same).2.symm⟩

end PathPattern

/-! ## Lines -/

open IgnoreLine PathPattern

/-- Patterns of globs read lines as the format says. -/
theorem readsLines_gitignore : IgnoreMatcher.gitignore.ReadsLines where
  silent _ path quiet := decision_silent quiet path
  anchored ignores pattern path regular spoken inner front proper := by
    have same := textsMatchSame_anchored regular inner front
    rw [← trimmed_slash] at same
    exact tells_eq_of_same (by simp [trimmed_slash]) (isSpoken_slash _ _) regular.filled spoken
      (same.at_path proper)
  anywhere ignores pattern path regular spoken outer proper := by
    have text : trimmed (['/', '*', '*', '/'] ++ pattern) =
        ['/', '*', '*', '/'] ++ trimmed pattern :=
      trimmed_append ['/', '*', '*'] (by decide) (by decide) pattern
    have same := textsMatchSame_anywhere regular outer
    rw [← text] at same
    exact tells_eq_of_same (by rw [text]; exact List.cons_ne_nil _ _) (isSpoken_slash _ _)
      regular.filled spoken (same.at_path proper)
  below ignores name rest path plain filled deep proper := by
    rw [trimmed_slash] at deep
    have same := matcher?_below plain filled deep proper
    rw [← trimmed_slashed, ← slashed_one, ← trimmed_slash] at same
    exact tells_eq_of_same (by simp [trimmed_slash]) (isSpoken_slash _ _) (by simp [trimmed_slash])
      (isSpoken_slash _ _) same
  below_name ignores name next rest path plain plain_next := by
    have same := matcher?_below_name plain plain_next (trimmed rest) path
    rw [← trimmed_slashed, ← trimmed_slashed, ← slashed_two, ← slashed_one] at same
    exact tells_eq_of_same (by simp [trimmed_slash]) (isSpoken_slash _ _) (by simp [trimmed_slash])
      (isSpoken_slash _ _) same
  outside ignores name rest path taken plain said_so := by
    have filled : trimmed ('/' :: (name ++ '/' :: rest)) ≠ [] := by simp [trimmed_slash]
    rw [tells_gitignore filled (isSpoken_slash _ _), slashed_one, trimmed_slashed] at said_so
    obtain ⟨isMatched, read, matched⟩ := Option.map_eq_some_iff.mp said_so
    refine prefix_of_matcher? plain read ?_
    by_contra unmatched
    simp [said, unmatched] at matched

end TacticalDesign
