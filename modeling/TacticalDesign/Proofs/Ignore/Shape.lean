import Mathlib.Data.List.Forall2
import TacticalDesign.Proofs.Ignore.Names
/-!
# What a line says of a path

A line says of a path what its pattern matches. Of paths whose names stand between single slashes a
pattern matches what its segments match behind a slash, and behind plain names it matches what its
segments match behind these.
-/

namespace TacticalDesign

section Reading

variable {α β : Type} {f : α → Option β} {l : List α}

theorem mapM_eq_some_iff {r : List β} :
    l.mapM f = some r ↔ List.Forall₂ (fun a b => f a = some b) l r := by
  induction l generalizing r with
  | nil => simp [eq_comm]
  | cons a l ih =>
      rw [List.mapM_cons, List.forall₂_cons_left_iff]
      constructor
      · intro h
        obtain ⟨b, first, h⟩ := Option.bind_eq_some_iff.mp h
        obtain ⟨more, later, h⟩ := Option.bind_eq_some_iff.mp h
        exact ⟨b, more, first, ih.mp later, (Option.some.inj h).symm⟩
      · rintro ⟨b, more, first, later, rfl⟩
        rw [first, ih.mpr later]
        rfl

theorem isSome_mapM : (l.mapM f).isSome ↔ ∀ a ∈ l, (f a).isSome := by
  induction l with
  | nil => simp
  | cons a l ih =>
      rw [List.mapM_cons, List.forall_mem_cons, ← ih]
      cases f a <;> cases l.mapM f <;> simp

theorem rel_of_isSome {r : α → β → Prop} {x : Option α} {y : Option β}
    (alike : x.isSome = y.isSome) (h : ∀ a b, x = some a → y = some b → r a b) :
    Option.Rel r x y := by
  cases x <;> cases y
  · exact .none
  · cases alike
  · cases alike
  · exact .some (h _ _ rfl rfl)

end Reading

namespace PathPattern

open IgnoreLine

/-! ## What a line says -/

def shapeOfNames (isDirectory : Bool) (names : List (List Char)) : Option PatternShape :=
  if names = [] then none
  else if names = [doubleStar] then some (if isDirectory then .nested true else .everything)
  else if names = [doubleStar, ['*']] then some .everything
  else if names = [doubleStar, ['*'], doubleStar] then some (.nested isDirectory)
  else (names.mapM segment?).map (.path · isDirectory)

theorem found_shapeOf (text : List Char) :
    found (shapeOf text) =
      shapeOfNames (asksDirectory text) (normalNames (Text.splitAtChar '/' text)) := by
  have segments_map (names : List (List Char)) (isDirectory : Bool) :
      found (do
        let ss ← segments 0 true false names
        return ss.map (PatternShape.path · isDirectory)) =
        (names.mapM segment?).map (.path · isDirectory) := by
    rw [← found_segments 0 true false, ← found_map]
    cases segments 0 true false names <;> rfl
  simp only [shapeOf, shapeOfNames, asksDirectory, decide_eq_true_eq]
  split
  · rfl
  split
  · rfl
  split
  · rfl
  split
  · rfl
  exact segments_map _ _

def matcher? (text : List Char) : Option (List Char → Bool) :=
  if text = ['/'] then some fun _ => false
  else (found (shapeOf text)).map fun shape path => (shape.match? path).isSome

/-- A line that is no comment has the shape of its text behind the exclamation mark. -/
theorem ofLine_of_spoken {line : String} (filled : trimmed line.toList ≠ [])
    (spoken : (trimmed line.toList).head? ≠ some '#') :
    ofLine line =
      if (cutMark (trimmed line.toList)).2 = ['/'] then .ok none
      else (shapeOf (cutMark (trimmed line.toList)).2).bind fun shape? =>
        shape?.elim (.error (.invalid line)) fun shape =>
          .ok (some ⟨(cutMark (trimmed line.toList)).1, shape⟩) := by
  rw [ofLine]
  dsimp only
  rw [if_neg (not_or.mpr ⟨filled, spoken⟩)]
  split
  · rename_i rest marked
    have cut : cutMark ('!' :: rest) = (false, rest) := rfl
    rw [marked, cut]
    rcases shapeOf rest with e | _ | shape <;> rfl
  · rename_i bare
    have unmarked : (trimmed line.toList).head? ≠ some '!' := fun mark =>
      (List.head?_eq_some_iff.mp mark).elim bare
    rw [cutMark, if_neg unmarked]
    rcases shapeOf (trimmed line.toList) with e | _ | shape <;> rfl

def said (ignores : Bool) (path : List Char) (isMatched : List Char → Bool) : Option Bool :=
  if isMatched path then some ignores else none

theorem tells_gitignore {ignores : Bool} {pattern : List Char} (filled : trimmed pattern ≠ [])
    (spoken : IsSpoken ignores pattern) (path : List Char) :
    IgnoreMatcher.gitignore.tells ignores pattern path =
      (matcher? (trimmed pattern)).map (said ignores path) := by
  have text : trimmed (String.ofList (markOf ignores ++ pattern)).toList =
      markOf ignores ++ trimmed pattern := by
    rw [String.toList_ofList, trimmed_mark]
  have cut : cutMark (markOf ignores ++ trimmed pattern) = (ignores, trimmed pattern) :=
    cutMark_append fun unmarked mark => (spoken unmarked).2 (head?_of_trimmed mark)
  have no_comment : (markOf ignores ++ trimmed pattern).head? ≠ some '#' := by
    cases ignores with
    | true => exact fun comment => (spoken rfl).1 (head?_of_trimmed comment)
    | false => simp [markOf]
  have there : trimmed (String.ofList (markOf ignores ++ pattern)).toList ≠ [] := by
    rw [text]
    exact List.append_ne_nil_of_right_ne_nil _ filled
  have read := ofLine_of_spoken there (by rwa [text])
  rw [text, cut] at read
  rw [IgnoreMatcher.tells, IgnoreMatcher.decision, IgnoreMatcher.gitignore, matcher?]
  dsimp only at read ⊢
  rw [read]
  by_cases solid : trimmed pattern = ['/']
  · rw [if_pos solid, if_pos solid]
    rfl
  · rw [if_neg solid, if_neg solid]
    rcases shapeOf (trimmed pattern) with e | _ | shape
    · rfl
    · rfl
    · cases matched : shape.match? path <;>
        simp [IgnorePattern.decides, toIgnorePattern, said, matched, found, Except.toOption,
          Except.map, Except.bind]

theorem decision_silent {line : String}
    (silent : line.toList = [] ∨ line.toList.head? = some '#') (path : List Char) :
    IgnoreMatcher.gitignore.decision line path = .ok none := by
  have unspoken : trimmed line.toList = [] ∨ (trimmed line.toList).head? = some '#' := by
    rcases silent with empty | comment
    · exact .inl (by rw [empty]; rfl)
    · obtain ⟨rest, text⟩ := List.head?_eq_some_iff.mp comment
      exact .inr (by rw [text, ← List.nil_append ('#' :: rest),
        trimmed_append [] (by decide) (by decide)]; rfl)
  have read : ofLine line = .ok none := by
    rw [ofLine]
    dsimp only
    rw [if_pos unspoken]
    rfl
  rw [IgnoreMatcher.decision, IgnoreMatcher.gitignore]
  dsimp only
  rw [read]
  rfl

end PathPattern

/-! ## Paths -/

namespace IgnoreLine

namespace IsPath

variable {path : List Char} (h : IsPath path)

include h

theorem ne_nil : path ≠ [] := by
  rintro rfl
  obtain ⟨c, hc, -⟩ := h.visible
  cases hc

theorem named_below : ¬['/', '/'] <:+: '/' :: path := by
  intro doubled
  rcases List.infix_cons_iff.mp doubled with front | below
  · obtain ⟨rest, same⟩ := front
    have next : path = '/' :: rest := (List.cons.inj same).2.symm
    exact h.relative (by rw [next]; rfl)
  · exact h.named below

end IsPath

end IgnoreLine

/-! ## Matching behind names -/

namespace PathPattern

open IgnoreLine MatchStep

theorem match?_plain {names : List (List Char)} (filled : names ≠ []) (segs : List Segment)
    (isDirectory : Bool) (path : List Char) :
    (PatternShape.path (names.map plainSegment ++ segs) isDirectory).match? path =
      run (ofSegments isDirectory true (names.map plainSegment ++ segs)) ('/' :: path) := by
  obtain ⟨name, later, cut⟩ := List.exists_cons_of_ne_nil filled
  rw [cut]
  exact run_ofPath (by simp) (by simp [plainSegment]) (by simp [plainSegment])

section Behind

variable {names : List (List Char)} (plain : ∀ name ∈ names, IsName name)

include plain

theorem ne_star {name : List Char} (h : name ∈ names) : name ≠ doubleStar ∧ name ≠ ['*'] := by
  have literal := (plain name h).literal
  constructor <;> rintro rfl <;> revert literal <;> decide

theorem segment?_plain {name : List Char} (h : name ∈ names) :
    segment? name = some (plainSegment name) := by
  obtain ⟨deep, any⟩ := ne_star plain h
  rw [segment?, if_neg deep, if_neg any, Glob.of?_literal (plain name h).literal]
  rfl

theorem mapM_plain (rest : List (List Char)) :
    (names ++ rest).mapM segment? =
      (rest.mapM segment?).map (names.map plainSegment ++ ·) := by
  have front : names.mapM segment? = some (names.map plainSegment) :=
    mapM_eq_some_iff.mpr (List.forall₂_map_right_iff.mpr
      (List.forall₂_same.mpr fun _ => segment?_plain plain))
  rw [List.mapM_append, front]
  cases rest.mapM segment? <;> rfl

theorem shapeOfNames_behind (filled : names ≠ []) (isDirectory : Bool)
    (rest : List (List Char)) :
    shapeOfNames isDirectory (names ++ rest) =
      (rest.mapM segment?).map fun segs => .path (names.map plainSegment ++ segs) isDirectory := by
  have apart (more : List (List Char)) : names ++ rest ≠ doubleStar :: more := by
    intro same
    obtain ⟨name, later, cut⟩ := List.exists_cons_of_ne_nil filled
    rw [cut, List.cons_append] at same
    exact (ne_star plain (cut ▸ List.mem_cons_self)).1 (List.cons.inj same).1
  rw [shapeOfNames, if_neg (List.append_ne_nil_of_left_ne_nil filled rest),
    if_neg (apart _), if_neg (apart _), if_neg (apart _), mapM_plain plain, Option.map_map]
  rfl

end Behind

/-! ## Shapes of their own -/

theorem segment?_eq_anyDepth {name : List Char} (h : segment? name = some .anyDepth) :
    name = doubleStar := by
  rw [segment?] at h
  split at h
  · assumption
  split at h
  · cases h
  · obtain ⟨pieces, -, other⟩ := Option.map_eq_some_iff.mp h
    cases other

theorem head?_behind_name (path : List Char) :
    (path.dropWhile (· ≠ '/')).head? = if '/' ∈ path then some '/' else none := by
  induction path with
  | nil => rfl
  | cons c path ih =>
      by_cases slash : c = '/'
      · simp [slash]
      · simp [slash, Ne.symm slash, ← ih]

theorem isSome_run_names {path : List Char} (proper : IsPath path) {steps : List MatchStep}
    (h : (run steps (path.dropWhile (· ≠ '/'))).isSome) :
    (run (.innerNames :: .slash :: .wholeName :: steps) ('/' :: path)).isSome := by
  have behind : path.drop (path.takeWhile (· ≠ '/')).length = path.dropWhile (· ≠ '/') :=
    calc path.drop (path.takeWhile (· ≠ '/')).length
        = (path.takeWhile (· ≠ '/') ++ path.dropWhile (· ≠ '/')).drop
            (path.takeWhile (· ≠ '/')).length := by rw [List.takeWhile_append_dropWhile]
      _ = path.dropWhile (· ≠ '/') := List.drop_left
  have named : 0 < (path.takeWhile (· ≠ '/')).length := by
    obtain ⟨c, rest, rfl⟩ := List.exists_cons_of_ne_nil proper.ne_nil
    have other : c ≠ '/' := fun same => proper.relative (by rw [same]; rfl)
    simp [other]
  rw [run_innerNames, run_leadingNames, List.findSome?_isSome_iff]
  refine ⟨path, by simp, ?_⟩
  rw [run_wholeName, List.findSome?_isSome_iff]
  refine ⟨_, List.mem_map.mpr ⟨0, List.mem_range.mpr (by omega), rfl⟩, ?_⟩
  rw [Nat.sub_zero, behind]
  exact h

theorem isSome_everything {path : List Char} (proper : IsPath path) :
    (PatternShape.everything.match? path).isSome = true := by
  have visible : path.any (· ≠ '\n') = true := by
    obtain ⟨c, hc, other⟩ := proper.visible
    exact List.any_eq_true.mpr ⟨c, hc, by simpa using other⟩
  rw [PatternShape.match?, if_pos visible]
  rfl

theorem isSome_run_anyName {path : List Char} (proper : IsPath path) (isDirectory : Bool) :
    (run (ofSegments isDirectory true [.anyDepth, .anyName]) ('/' :: path)).isSome = true := by
  have start := head?_behind_name path
  refine isSome_run_names proper (?_ : (run [.nameEnd] _).isSome = true)
  rw [run_nameEnd]
  split at start
  · rw [if_pos start]
    rfl
  · rw [List.head?_eq_none_iff.mp start]
    rfl

theorem isSome_run_nested {path : List Char} (proper : IsPath path) (isDirectory : Bool) :
    (run (ofSegments isDirectory true [.anyDepth, .anyName, .anyDepth]) ('/' :: path)).isSome =
      ((PatternShape.nested isDirectory).match? path).isSome := by
  have start := head?_behind_name path
  by_cases inside : '/' ∈ path
  · rw [if_pos inside] at start
    have ran : (run (ofSegments isDirectory true [.anyDepth, .anyName, .anyDepth])
        ('/' :: path)).isSome = true := by
      refine isSome_run_names proper (?_ : (run [.directoryEnd isDirectory] _).isSome = true)
      rw [run_directoryEnd, if_pos start]
      rfl
    rw [ran]
    simp [PatternShape.match?, inside]
  · have ran : run (ofSegments isDirectory true [.anyDepth, .anyName, .anyDepth])
        ('/' :: path) = none := by
      have split : ofSegments isDirectory true [.anyDepth, .anyName, .anyDepth] =
          .innerNames :: .slash :: [.wholeName, .directoryEnd isDirectory] := rfl
      rw [split, run_innerNames]
      by_contra h
      obtain ⟨mark, ran⟩ := Option.ne_none_iff_exists'.mp h
      have inner : ∀ s ∈ [MatchStep.leadingNames, .wholeName], ¬s.IsEnd := by simp [IsEnd]
      obtain ⟨below, suffix, ended⟩ := exists_suffix_of_run inner ran
      rw [run_directoryEnd] at ended
      split at ended
      · rename_i slash
        exact inside (suffix.subset (List.mem_of_head? slash))
      · cases ended
    rw [ran]
    simp [PatternShape.match?, inside]

/-- What names in their normal form match as a shape, their segments match behind a slash. -/
theorem isSome_match {names : List (List Char)} {isDirectory : Bool} {shape : PatternShape}
    {segs : List Segment} (single : ∀ rest, names ≠ doubleStar :: doubleStar :: rest)
    (deep : isDirectory = true → names ≠ [doubleStar])
    (shaped : shapeOfNames isDirectory names = some shape)
    (read : names.mapM segment? = some segs) {path : List Char} (proper : IsPath path) :
    (shape.match? path).isSome =
      (run (ofSegments isDirectory true segs) ('/' :: path)).isSome := by
  rw [shapeOfNames] at shaped
  split at shaped
  · cases shaped
  rename_i filled
  split at shaped
  · rename_i stars
    subst stars
    have file : ¬isDirectory = true := fun h => deep h rfl
    rw [if_neg file] at shaped
    obtain rfl := Option.some.inj shaped
    obtain rfl : [Segment.anyDepth] = segs := Option.some.inj read
    exact isSome_everything proper
  split at shaped
  · rename_i stars
    subst stars
    obtain rfl := Option.some.inj shaped
    obtain rfl : [Segment.anyDepth, .anyName] = segs := Option.some.inj read
    rw [isSome_everything proper, isSome_run_anyName proper]
  split at shaped
  · rename_i stars
    subst stars
    obtain rfl := Option.some.inj shaped
    obtain rfl : [Segment.anyDepth, .anyName, .anyDepth] = segs := Option.some.inj read
    exact (isSome_run_nested proper isDirectory).symm
  · rename_i stars _ _
    rw [read] at shaped
    obtain rfl := Option.some.inj shaped
    have pairs := mapM_eq_some_iff.mp read
    refine congrArg Option.isSome (run_ofPath ?_ ?_ ?_)
    · rintro rfl
      cases pairs
      exact filled rfl
    · rintro rfl
      obtain _ | ⟨first, _ | _⟩ := pairs
      exact stars (by rw [segment?_eq_anyDepth first])
    · rintro rest rfl
      obtain _ | ⟨first, _ | ⟨second, _⟩⟩ := pairs
      exact single _ (by rw [segment?_eq_anyDepth first, segment?_eq_anyDepth second])

theorem isSome_shapeOfNames {names : List (List Char)} (filled : names ≠ []) (isDirectory : Bool) :
    (shapeOfNames isDirectory names).isSome = (names.mapM segment?).isSome := by
  rw [shapeOfNames, if_neg filled]
  split
  · rename_i stars
    rw [stars]
    rfl
  split
  · rename_i stars
    rw [stars]
    rfl
  split
  · rename_i stars
    rw [stars]
    rfl
  · exact Option.isSome_map

/-- The text of a pattern matches at the root as its segments match behind a slash. -/
theorem matcher?_root {text : List Char} (filled : text ≠ []) (solid : text ≠ ['/'])
    (deep : asksDirectory text = true → normalNames (Text.splitAtChar '/' text) ≠ [doubleStar]) :
    Option.Rel
      (fun isMatched segs => ∀ path, IsPath path →
        isMatched path = (run (ofSegments (asksDirectory text) true segs) ('/' :: path)).isSome)
      (matcher? text) ((normalNames (Text.splitAtChar '/' text)).mapM segment?) := by
  have single (rest : List (List Char)) :
      normalNames (Text.splitAtChar '/' text) ≠ doubleStar :: doubleStar :: rest := collapse_single
  have alike := isSome_shapeOfNames (normalNames_ne_nil filled) (asksDirectory text)
  rw [matcher?, if_neg solid, found_shapeOf]
  refine rel_of_isSome (Option.isSome_map.trans alike) fun _ segs matched read path proper => ?_
  obtain ⟨shape, shaped, rfl⟩ := Option.map_eq_some_iff.mp matched
  exact isSome_match single deep shaped read proper

theorem matcher?_behind (names : List (List Char)) (plain : ∀ name ∈ names, IsName name)
    (filled : names ≠ []) (text : List Char) :
    Option.Rel
      (fun isMatched segs => segs ≠ [] ∧ ∀ path, isMatched path =
        (run (ofSegments (asksDirectory text) true (names.map plainSegment ++ segs))
          ('/' :: path)).isSome)
      (matcher? (slashed names ++ '/' :: text))
      ((collapse (closed (Text.splitAtChar '/' text))).mapM segment?) := by
  have more : Text.splitAtChar '/' text ≠ [] := Text.splitAtChar_ne_nil text
  have split := splitAtChar_slashed (fun name h => (plain name h).bare) text
  have asks : asksDirectory (slashed names ++ '/' :: text) = asksDirectory text :=
    asksDirectory_behind ([] :: names) split
  have normal : normalNames ([] :: (names ++ Text.splitAtChar '/' text)) =
      names ++ collapse (closed (Text.splitAtChar '/' text)) := by
    rw [normalNames_slash, closed_append names more,
      collapse_append fun _ h => (ne_star plain h).1]
  have solid : slashed names ++ '/' :: text ≠ ['/'] := by
    obtain ⟨name, later, rfl⟩ := List.exists_cons_of_ne_nil filled
    simp [slashed_cons]
  rw [matcher?, if_neg solid, found_shapeOf, asks, split, normal, shapeOfNames_behind plain filled]
  cases read : (collapse (closed (Text.splitAtChar '/' text))).mapM segment? with
  | none => exact .none
  | some segs =>
      refine .some ⟨?_, fun path => congrArg Option.isSome (match?_plain filled _ _ path)⟩
      rintro rfl
      have none_named := List.forall₂_nil_right_iff.mp (mapM_eq_some_iff.mp read)
      exact collapse_ne_nil (closed_ne_nil more) none_named

end PathPattern

end TacticalDesign
