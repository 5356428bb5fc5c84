import Mathlib.Data.List.Basic
import Mathlib.Data.List.TakeWhile
import TacticalDesign.Proofs.Ignore.Lines
import TacticalDesign.Proofs.Ignore.Matching
/-!
# The names of a pattern

A pattern is read name by name. Where a name stands in the pattern shows in the text of an error
only, so names behind a directory are read as they are read alone. A pattern is cut at its slashes,
and its names are brought into a normal form. Behind a directory the names of the directory stay as
they are, and so does the form of what follows them.
-/

namespace TacticalDesign

def found {α : Type} (x : Except IgnoreError (Option α)) : Option α := x.toOption.join

section Found

variable {α β : Type}

@[simp]
theorem found_map (f : α → β) (x : Except IgnoreError (Option α)) :
    found (x.map fun o => o.map f) = (found x).map f := by
  cases x <;> rfl

end Found

/-! ## Globs -/

theorem ClassItem.toOption_ofText (place place' : Nat) (cs : List Char) :
    (ofText place cs).toOption = (ofText place' cs).toOption := by
  have toOption_cons (item : ClassItem) (x : Except IgnoreError (List ClassItem)) :
      (do return item :: (← x) : Except IgnoreError (List ClassItem)).toOption =
        x.toOption.map (item :: ·) := by
    cases x <;> rfl
  fun_induction ofText place cs generalizing place' with
  | case1 => rfl
  | case2 place low high rest backward =>
      rw [ofText, if_pos backward]
      rfl
  | case3 place low high rest forward item ih =>
      rw [ofText, if_neg forward, toOption_cons, toOption_cons, ih]
  | case4 place c rest shape ih =>
      rw [ofText.eq_3 _ _ _ shape, toOption_cons, toOption_cons, ih]

namespace Glob

theorem found_pieces (place place' fuel : Nat) (cs : List Char) :
    found (pieces place fuel cs) = found (pieces place' fuel cs) := by
  induction fuel generalizing place place' cs with
  | zero => cases cs <;> rfl
  | succ fuel ih =>
      cases cs with
      | nil => rfl
      | cons c rest =>
          have put (piece : GlobPiece) (rest : List Char) :
              found ((pieces (place + piece.width) fuel rest).map fun more =>
                  more.map (piece :: ·)) =
                found ((pieces (place' + piece.width) fuel rest).map fun more =>
                  more.map (piece :: ·)) := by
            rw [found_map, found_map, ih]
          simp only [pieces]
          split
          · cases rest with
            | nil => rfl
            | cons d rest => exact put (.char d) rest
          split
          · exact put .anyText rest
          split
          · exact put .anyChar rest
          split
          · cases takeSet rest with
            | none => exact put (.char '[') rest
            | some set =>
                obtain ⟨isNegated, body, after⟩ := set
                have items := ClassItem.toOption_ofText (place + if isNegated then 2 else 1)
                  (place' + if isNegated then 2 else 1) body
                dsimp only
                cases here : ClassItem.ofText (place + if isNegated then 2 else 1) body with
                | error e =>
                    rw [here] at items
                    cases there : ClassItem.ofText (place' + if isNegated then 2 else 1) body with
                    | error e' => rfl
                    | ok items' => rw [there] at items; cases items
                | ok set =>
                    rw [here] at items
                    cases there : ClassItem.ofText (place' + if isNegated then 2 else 1) body with
                    | error e' => rw [there] at items; cases items
                    | ok set' =>
                        rw [there] at items
                        obtain rfl : set = set' := Option.some.inj items
                        exact put (.oneOf isNegated set) after
          · exact put (.char c) rest

def of? (name : List Char) : Option (List GlobPiece) := found (ofText 0 name)

theorem found_ofText (place : Nat) (name : List Char) : found (ofText place name) = of? name :=
  found_pieces place 0 _ name

theorem takeBody_eq_none {cs : List Char} (opened : cs.tail.contains ']' = false) :
    takeBody cs = none := by
  cases cs with
  | nil => rfl
  | cons c rest =>
      have none_behind : ']' ∉ rest := by simpa using opened
      have all_in : rest.dropWhile (· ≠ ']') = [] :=
        List.dropWhile_eq_nil_iff.mpr fun d hd => decide_eq_true fun same => none_behind (same ▸ hd)
      simp only [takeBody, all_in]

theorem takeSet_eq_none {cs : List Char} (opened : IgnoreLine.closes cs = false) :
    takeSet cs = none := by
  rw [takeSet.eq_def]
  rw [IgnoreLine.closes.eq_def] at opened
  split <;> simp_all [takeBody_eq_none]

theorem of?_literal {name : List Char} (literal : IgnoreLine.isLiteral name = true) :
    of? name = some (name.map .char) := by
  have pieces_literal (fuel : Nat) (enough : name.length < fuel) :
      found (pieces 0 fuel name) = some (name.map .char) := by
    induction name generalizing fuel with
    | nil => cases fuel <;> rfl
    | cons c rest ih =>
        cases fuel with
        | zero => cases enough
        | succ fuel =>
            simp only [IgnoreLine.isLiteral, Bool.and_eq_true, Bool.not_eq_true'] at literal
            obtain ⟨⟨plain, opened⟩, behind⟩ := literal
            obtain ⟨no_star, no_mark, no_backslash⟩ : c ≠ '*' ∧ c ≠ '?' ∧ c ≠ '\x5c' := by
              simpa using plain
            have later := ih behind fuel (Nat.lt_of_succ_lt_succ enough)
            have put : found ((pieces (0 + GlobPiece.width (.char c)) fuel rest).map fun more =>
                more.map (GlobPiece.char c :: ·)) = some ((c :: rest).map .char) := by
              rw [found_map, found_pieces _ 0, later]
              rfl
            simp only [pieces, if_neg no_star, if_neg no_mark, if_neg no_backslash]
            split
            · rename_i bracket
              have unclosed : IgnoreLine.closes rest = false := by simpa [bracket] using opened
              rw [takeSet_eq_none unclosed]
              exact bracket ▸ put
            · exact put
  exact pieces_literal _ (Nat.lt_succ_self _)

end Glob

/-! ## Segments -/

namespace PathPattern

def segment? (name : List Char) : Option Segment :=
  if name = doubleStar then some .anyDepth
  else if name = ['*'] then some .anyName
  else (Glob.of? name).map .glob

theorem found_segments (place : Nat) (isFirst needsSlash : Bool) (names : List (List Char)) :
    found (segments place isFirst needsSlash names) = names.mapM segment? := by
  induction names generalizing place isFirst needsSlash with
  | nil => rfl
  | cons name rest ih =>
      have behind (s : Segment) :
          found (do
            let more ← segments (place + segmentWidth isFirst needsSlash s) false
              (s ≠ .anyDepth || !isFirst) rest
            return more.map (s :: ·)) = (do return s :: (← rest.mapM segment?)) := by
        rw [← ih (place + segmentWidth isFirst needsSlash s) false (s ≠ .anyDepth || !isFirst)]
        cases segments (place + segmentWidth isFirst needsSlash s) false
          (s ≠ .anyDepth || !isFirst) rest with
        | error e => rfl
        | ok more => cases more <;> rfl
      rw [segments, List.mapM_cons, segment?]
      split
      · exact behind .anyDepth
      split
      · exact behind .anyName
      rw [← Glob.found_ofText (place + if isFirst || needsSlash then 1 else 0)]
      cases Glob.ofText (place + if isFirst || needsSlash then 1 else 0) name with
      | error e => rfl
      | ok pieces =>
          cases pieces with
          | none => rfl
          | some ps => exact behind (.glob ps)

end PathPattern

open Text IgnoreLine

open Text

/-! ## Cutting at slashes -/

theorem slashed_append_slash (names : List (List Char)) (cs : List Char) :
    slashed names ++ '/' :: cs = '/' :: (names.flatMap (· ++ ['/']) ++ cs) := by
  induction names with
  | nil => rfl
  | cons name names ih =>
      rw [slashed] at ih
      simp only [slashed, List.flatMap_cons, List.cons_append, List.append_assoc, ih,
        List.nil_append]

theorem splitAtChar_slashed {names : List (List Char)} (bare : ∀ name ∈ names, '/' ∉ name)
    (cs : List Char) :
    splitAtChar '/' (slashed names ++ '/' :: cs) = [] :: (names ++ splitAtChar '/' cs) := by
  rw [slashed_append_slash, splitAtChar_cons_sep]
  refine congrArg ([] :: ·) ?_
  induction names with
  | nil => rfl
  | cons name names ih =>
      rw [List.flatMap_cons, List.append_assoc, List.append_assoc, List.singleton_append,
        splitAtChar_append, splitAtChar_bare (bare name List.mem_cons_self),
        ih fun n hn => bare n (List.mem_cons_of_mem _ hn)]
      rfl

namespace PathPattern

/-! ## Normal names -/

theorem collapse_cons (name : List Char) (rest : List (List Char)) :
    collapse (name :: rest) =
      if name = doubleStar ∧ (collapse rest).head? = some doubleStar then collapse rest
      else name :: collapse rest := by
  rw [collapse]
  split
  · rename_i next more tail
    simp only [tail, List.head?_cons, Option.some.injEq]
    split
    · rename_i both
      rw [both.1, both.2]
    · rfl
  · rename_i tail
    simp [tail]

theorem collapse_ne_nil {names : List (List Char)} (h : names ≠ []) : collapse names ≠ [] := by
  cases names with
  | nil => exact absurd rfl h
  | cons name rest =>
      rw [collapse_cons]
      split
      · rename_i both
        intro empty
        rw [empty] at both
        cases both.2
      · simp

theorem mem_collapse {n : List Char} {names : List (List Char)} :
    n ∈ collapse names ↔ n ∈ names := by
  induction names with
  | nil => rfl
  | cons name rest ih =>
      rw [collapse_cons]
      split
      · rename_i both
        have stars : doubleStar ∈ collapse rest := List.mem_of_head? both.2
        rw [List.mem_cons, both.1, ← ih]
        exact ⟨.inr, fun h => h.elim (· ▸ stars) id⟩
      · rw [List.mem_cons, List.mem_cons, ih]

theorem collapse_single {names rest : List (List Char)} :
    collapse names ≠ doubleStar :: doubleStar :: rest := by
  induction names generalizing rest with
  | nil => simp [collapse]
  | cons name more ih =>
      rw [collapse_cons]
      split
      · exact ih
      · rename_i apart
        intro same
        obtain ⟨front, tail⟩ := List.cons.inj same
        exact apart ⟨front, by rw [tail]; rfl⟩

theorem collapse_append {front : List (List Char)} (plain : ∀ name ∈ front, name ≠ doubleStar)
    (rest : List (List Char)) : collapse (front ++ rest) = front ++ collapse rest := by
  induction front with
  | nil => rfl
  | cons name front ih =>
      rw [List.cons_append, collapse_cons, if_neg fun both => plain name List.mem_cons_self both.1,
        ih fun n hn => plain n (List.mem_cons_of_mem _ hn), List.cons_append]

theorem collapse_empty (names : List (List Char)) :
    ∃ front, collapse (names ++ [[], doubleStar]) = front ++ [[], doubleStar] := by
  induction names with
  | nil => exact ⟨[], rfl⟩
  | cons name names ih =>
      obtain ⟨front, tail⟩ := ih
      rw [List.cons_append, collapse_cons, tail]
      split
      · exact ⟨front, rfl⟩
      · exact ⟨name :: front, rfl⟩

def closed (names : List (List Char)) : List (List Char) :=
  match names.getLast? with
  | some [] => names.dropLast ++ [doubleStar]
  | _ => names

theorem closed_append (front : List (List Char)) {rest : List (List Char)} (filled : rest ≠ []) :
    closed (front ++ rest) = front ++ closed rest := by
  rw [closed, closed, List.getLast?_append, List.getLast?_eq_some_getLast filled, Option.some_or,
    List.dropLast_append_of_ne_nil filled]
  split <;> simp

theorem closed_ne_nil {names : List (List Char)} (filled : names ≠ []) : closed names ≠ [] := by
  rw [closed]
  split
  · simp
  · exact filled

theorem normalNames_slash (names : List (List Char)) :
    normalNames ([] :: names) = collapse (closed names) := rfl

theorem normalNames_path {name : List Char} {rest : List (List Char)} (named : name ≠ [])
    (more : rest ≠ []) (inner : rest ≠ [[]]) :
    normalNames (name :: rest) = collapse (closed (name :: rest)) := by
  cases name with
  | nil => exact absurd rfl named
  | cons c cs =>
      rcases rest with _ | ⟨_ | ⟨d, ds⟩, _ | ⟨n, ns⟩⟩
      · exact absurd rfl more
      · exact absurd rfl inner
      all_goals rfl

theorem normalNames_name {name : List Char} (named : name ≠ []) :
    normalNames [name] = collapse (closed [doubleStar, name]) := by
  cases name with
  | nil => exact absurd rfl named
  | cons c cs =>
      by_cases stars : c :: cs = doubleStar
      · rw [stars]
        rfl
      · simp only [normalNames, stars, if_false]
        rfl

theorem normalNames_directory {name : List Char} (named : name ≠ []) :
    normalNames [name, []] = collapse (closed [doubleStar, name, []]) := by
  cases name with
  | nil => exact absurd rfl named
  | cons c cs =>
      by_cases stars : c :: cs = doubleStar
      · rw [stars]
        rfl
      · simp only [normalNames, stars, if_false]
        rfl

theorem normalNames_ne_nil {text : List Char} (filled : text ≠ []) :
    normalNames (splitAtChar '/' text) ≠ [] := by
  have some_name {names : List (List Char)} (h : names ≠ []) : collapse (closed names) ≠ [] :=
    collapse_ne_nil (closed_ne_nil h)
  have named : splitAtChar '/' text ≠ [[]] := fun h => filled (eq_nil_of_splitAtChar h)
  cases cut : splitAtChar '/' text with
  | nil => exact absurd cut (splitAtChar_ne_nil text)
  | cons name rest =>
      rw [cut] at named
      by_cases first : name = []
      · subst first
        exact some_name fun h => named (h ▸ rfl)
      by_cases last : rest = []
      · rw [last, normalNames_name first]
        exact some_name (List.cons_ne_nil _ _)
      by_cases slash : rest = [[]]
      · rw [slash, normalNames_directory first]
        exact some_name (List.cons_ne_nil _ _)
      · rw [normalNames_path first last slash]
        exact some_name (List.cons_ne_nil _ _)

/-! ## Double stars alone -/

def asksDirectory (text : List Char) : Bool := (splitAtChar '/' text).getLast? = some []

theorem asksDirectory_behind (front : List (List Char)) {text text' : List Char}
    (cut : splitAtChar '/' text = front ++ splitAtChar '/' text') :
    asksDirectory text = asksDirectory text' := by
  rw [asksDirectory, cut, asksDirectory, List.getLast?_append,
    List.getLast?_eq_some_getLast (splitAtChar_ne_nil text'), Option.some_or]

theorem starsOnly_of_closed {text : List Char} (asks : asksDirectory text = true)
    (stars : ∀ name ∈ closed (splitAtChar '/' text), name = doubleStar) :
    starsOnly text = true := by
  induction size : text.length using Nat.strong_induction_on generalizing text with
  | _ n ih =>
      by_cases slash : '/' ∈ text
      · obtain ⟨name, more, rfl, bare⟩ := List.eq_append_cons_of_mem slash
        have cut : splitAtChar '/' (name ++ '/' :: more) = [name] ++ splitAtChar '/' more := by
          rw [splitAtChar_append, splitAtChar_bare bare]
        rw [cut, closed_append [name] (splitAtChar_ne_nil more), List.singleton_append] at stars
        obtain ⟨rfl, behind⟩ := List.forall_mem_cons.mp stars
        rw [asksDirectory_behind [doubleStar] cut] at asks
        have shorter : more.length < n := by
          rw [← size]
          simp
          omega
        have rest_stars : starsOnly more = true := ih more.length shorter asks behind rfl
        exact rest_stars
      · have empty : text = [] := by
          rw [asksDirectory, splitAtChar_bare slash] at asks
          simpa using asks
        rw [empty]
        rfl

theorem isStars_of_normalNames {text : List Char} (asks : asksDirectory text = true)
    (solid : text ≠ ['/']) (stars : normalNames (splitAtChar '/' text) = [doubleStar]) :
    IsStars text := by
  have all_stars {names : List (List Char)} (h : collapse (closed names) = [doubleStar]) :
      ∀ name ∈ closed names, name = doubleStar := fun name hn =>
    List.mem_singleton.mp (h ▸ mem_collapse.mpr hn)
  cases text with
  | nil => cases stars
  | cons c rest =>
      by_cases slash : c = '/'
      · subst slash
        rw [splitAtChar_cons_sep, normalNames_slash] at stars
        rw [asksDirectory_behind [[]] (splitAtChar_cons_sep rest)] at asks
        refine isStars_slash.mpr ⟨?_, starsOnly_of_closed asks (all_stars stars)⟩
        rintro rfl
        exact solid rfl
      refine isStars_of_starsOnly (List.cons_ne_nil c rest) (starsOnly_of_closed asks ?_)
      have pieces : splitAtChar '/' rest ≠ [] := splitAtChar_ne_nil rest
      obtain ⟨first, more, cut⟩ := List.exists_cons_of_ne_nil pieces
      rw [asksDirectory] at asks
      rw [splitAtChar_cons slash, cut, List.modifyHead_cons] at asks stars ⊢
      have named : c :: first ≠ [] := List.cons_ne_nil c first
      by_cases alone : more = []
      · simp [alone] at asks
      by_cases directory : more = [[]]
      · rw [directory] at stars ⊢
        rw [normalNames_directory named] at stars
        have behind : closed [doubleStar, c :: first, []] = doubleStar :: closed [c :: first, []] :=
          rfl
        exact fun name hn => all_stars stars name (behind ▸ List.mem_cons_of_mem _ hn)
      · rw [normalNames_path named alone directory] at stars
        exact all_stars stars

end PathPattern

end TacticalDesign
