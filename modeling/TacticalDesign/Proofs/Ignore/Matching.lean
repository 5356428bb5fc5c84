import Mathlib.Data.List.Infix
import TacticalDesign.Ignore.Matching
import TacticalDesign.Proofs.Ignore.Lines
/-!
# Matching with a slash in front

A pattern matches a path as its segments match the path with a slash in front, each segment behind a
slash. So a pattern that starts with plain names matches what lies below a directory as the rest of
it matches a path, and nothing else.
-/

namespace TacticalDesign

theorem findSome?_congr {α β : Type} {f g : α → Option β} {l : List α}
    (same : ∀ a ∈ l, f a = g a) : l.findSome? f = l.findSome? g := by
  induction l with
  | nil => rfl
  | cons a l ih =>
      rw [List.findSome?_cons, List.findSome?_cons, same a List.mem_cons_self,
        ih fun b hb => same b (List.mem_cons_of_mem a hb)]

theorem findSome?_filter {α β : Type} (keep : α → Bool) (f : α → Option β) (l : List α) :
    (l.filter keep).findSome? f = l.findSome? fun a => if keep a then f a else none := by
  induction l with
  | nil => rfl
  | cons a l ih => cases kept : keep a <;> simp [List.findSome?_cons, kept, ih]

namespace MatchStep

open IgnoreLine

/-! ## Steps of names -/

section Steps

variable {rest : List MatchStep} {m : MatchMark}

theorem run_leadingNames (cs : List Char) :
    run (.leadingNames :: rest) cs = (behindSlashes cs ++ [cs]).findSome? (run rest) := rfl

theorem run_innerNames_slash (below : List Char) :
    run (.innerNames :: rest) ('/' :: below) =
      (remainders 1 (below.takeWhile (· ≠ '\n')).length below ++ ['/' :: below]).findSome?
        (run rest) := rfl

theorem run_innerNames_bare {cs : List Char} (bare : cs.head? ≠ some '/') :
    run (.innerNames :: rest) cs = run rest cs := by
  have alone : run (.innerNames :: rest) cs = [cs].findSome? (run rest) := by
    cases cs with
    | nil => rfl
    | cons c below =>
        show (_ ++ [c :: below]).findSome? (run rest) = _
        split
        · rename_i front
          exact absurd (congrArg List.head? front) bare
        · rfl
  rw [alone, List.findSome?_singleton]

theorem run_slash_cons (cs : List Char) : run (.slash :: rest) ('/' :: cs) = run rest cs := rfl

theorem run_slash (cs : List Char) :
    run (.slash :: rest) cs =
      match cs with
      | '/' :: below => run rest below
      | _ => none := rfl

theorem run_wholeName (cs : List Char) :
    run (.wholeName :: rest) cs =
      (remainders 1 (cs.takeWhile (· ≠ '/')).length cs).findSome? (run rest) := rfl

theorem run_anyText (cs : List Char) :
    run (.piece .anyText :: rest) cs =
      (remainders 0 (cs.takeWhile (· ≠ '/')).length cs).findSome? (run rest) := rfl

theorem run_piece {p : GlobPiece} (single : p ≠ .anyText) (cs : List Char) :
    run (.piece p :: rest) cs =
      match cs with
      | c :: below => if p.accepts c then run rest below else none
      | [] => none := by
  cases p with
  | anyText => exact absurd rfl single
  | _ => rfl

theorem run_nameEnd (cs : List Char) :
    run (.nameEnd :: rest) cs =
      if cs.head? = some '/' then some .directory else if atEnd cs then some .itself else none :=
  rfl

theorem run_directoryEnd (isMarked : Bool) (cs : List Char) :
    run (.directoryEnd isMarked :: rest) cs =
      if cs.head? = some '/' then some (if isMarked then .directory else .itself) else none := rfl

def ofChar (c : Char) : MatchStep := .piece (.char c)

theorem run_ofChar (c : Char) (cs : List Char) :
    run (ofChar c :: rest) cs =
      match cs with
      | d :: below => if d = c then run rest below else none
      | [] => none := by
  cases cs with
  | nil => rfl
  | cons d below =>
      show (if decide (d = c) = true then run rest below else none) = _
      simp only [decide_eq_true_eq]

theorem run_chars (text cs : List Char) :
    run (text.map ofChar ++ rest) (text ++ cs) = run rest cs := by
  induction text with
  | nil => rfl
  | cons c text ih =>
      rw [List.map_cons, List.cons_append, List.cons_append, run_ofChar]
      simp only [if_pos, ih]

theorem exists_of_run_chars {text q : List Char} (h : run (text.map ofChar ++ rest) q = some m) :
    ∃ cs, q = text ++ cs ∧ run rest cs = some m := by
  induction text generalizing q with
  | nil => exact ⟨q, rfl, h⟩
  | cons c text ih =>
      rw [List.map_cons, List.cons_append, run_ofChar] at h
      cases q with
      | nil => cases h
      | cons d below =>
          dsimp only at h
          split at h
          · rename_i same
            obtain ⟨cs, rfl, ran⟩ := ih h
            exact ⟨cs, by rw [same]; rfl, ran⟩
          · cases h

theorem exists_of_run_piece {p : GlobPiece} (single : p ≠ .anyText) {q : List Char}
    (h : run (.piece p :: rest) q = some m) : ∃ c cs, q = c :: cs ∧ run rest cs = some m := by
  rw [run_piece single] at h
  cases q with
  | nil => cases h
  | cons c below =>
      dsimp only at h
      split at h
      · exact ⟨c, below, rfl, h⟩
      · cases h

theorem exists_of_run_slash {q : List Char} (h : run (.slash :: rest) q = some m) :
    ∃ cs, q = '/' :: cs ∧ run rest cs = some m := by
  rw [run_slash] at h
  split at h
  · exact ⟨_, rfl, h⟩
  · cases h

def IsEnd : MatchStep → Prop
  | nameEnd => True
  | directoryEnd _ => True
  | _ => False

theorem suffix_of_mem_remainders {low high : Nat} {cs r : List Char}
    (h : r ∈ remainders low high cs) : r <:+ cs := by
  obtain ⟨k, -, rfl⟩ := List.mem_map.mp h
  exact List.drop_suffix _ _

theorem suffix_of_mem_behindSlashes {cs r : List Char} (h : r ∈ behindSlashes cs) : r <:+ cs := by
  obtain ⟨k, -, rfl⟩ := List.mem_map.mp h
  exact List.drop_suffix _ _

/-- Steps that do not end a match leave a part of the path to the steps behind them. -/
theorem exists_suffix_of_run {steps : List MatchStep} (inner : ∀ s ∈ steps, ¬s.IsEnd)
    {cs : List Char} (h : run (steps ++ rest) cs = some m) :
    ∃ r, r <:+ cs ∧ run rest r = some m := by
  induction steps generalizing cs with
  | nil => exact ⟨cs, List.suffix_refl cs, h⟩
  | cons s steps ih =>
      have later {r : List Char} (suffix : r <:+ cs) (ran : run (steps ++ rest) r = some m) :
          ∃ r, r <:+ cs ∧ run rest r = some m := by
        obtain ⟨r', short, ran'⟩ := ih (fun s hs => inner s (List.mem_cons_of_mem _ hs)) ran
        exact ⟨r', short.trans suffix, ran'⟩
      have among {rs : List (List Char)} (suffixes : ∀ r ∈ rs, r <:+ cs)
          (ran : rs.findSome? (run (steps ++ rest)) = some m) :
          ∃ r, r <:+ cs ∧ run rest r = some m := by
        obtain ⟨r, hr, ran⟩ := List.exists_of_findSome?_eq_some ran
        exact later (suffixes r hr) ran
      rw [List.cons_append] at h
      cases s with
      | leadingNames =>
          rw [run_leadingNames] at h
          refine among (fun r hr => ?_) h
          rcases List.mem_append.mp hr with hr | hr
          · exact suffix_of_mem_behindSlashes hr
          · obtain rfl := List.mem_singleton.mp hr
            exact List.suffix_refl _
      | innerNames =>
          by_cases front : cs.head? = some '/'
          · obtain ⟨below, rfl⟩ := List.head?_eq_some_iff.mp front
            rw [run_innerNames_slash] at h
            refine among (fun r hr => ?_) h
            rcases List.mem_append.mp hr with hr | hr
            · exact (suffix_of_mem_remainders hr).trans (List.suffix_cons _ _)
            · obtain rfl := List.mem_singleton.mp hr
              exact List.suffix_refl _
          · rw [run_innerNames_bare front] at h
            exact later (List.suffix_refl _) h
      | slash =>
          obtain ⟨below, rfl, ran⟩ := exists_of_run_slash h
          exact later (List.suffix_cons _ _) ran
      | wholeName =>
          rw [run_wholeName] at h
          exact among (fun r hr => suffix_of_mem_remainders hr) h
      | piece p =>
          by_cases any : p = .anyText
          · rw [any, run_anyText] at h
            exact among (fun r hr => suffix_of_mem_remainders hr) h
          · obtain ⟨c, below, rfl, ran⟩ := exists_of_run_piece any h
            exact later (List.suffix_cons _ _) ran
      | nameEnd => exact absurd trivial (inner _ List.mem_cons_self)
      | directoryEnd b => exact absurd trivial (inner _ List.mem_cons_self)

end Steps

/-! ## A slash in front -/

section Segments

variable {b : Bool} {segs : List Segment} {p : List Char}

theorem ofSegments_anyDepth (b slash : Bool) (filled : segs ≠ []) :
    ofSegments b slash (.anyDepth :: segs) = .innerNames :: ofSegments b true segs := by
  cases segs with
  | nil => exact absurd rfl filled
  | cons s rest => rfl

theorem ofSegments_glob (b : Bool) (pieces : List GlobPiece) (segs : List Segment) :
    ofSegments b true (.glob pieces :: segs) =
      .slash :: (pieces.map .piece ++ ofSegments b true segs) := rfl

theorem ofSegments_slash (b : Bool) {s : Segment} (deep : s ≠ .anyDepth) (segs : List Segment) :
    ofSegments b true (s :: segs) = .slash :: ofSegments b false (s :: segs) := by
  cases s with
  | anyDepth => exact absurd rfl deep
  | anyName => rfl
  | glob pieces => rfl

/-- The places of a line from its end to its second character, and from its last to its first. -/
theorem reverse_range_succ (n : Nat) :
    (List.range (n + 1)).reverse = ((List.range n).map fun k => n - k) ++ [0] := by
  induction n with
  | zero => rfl
  | succ n ih =>
      rw [List.range_succ, List.reverse_append, List.reverse_singleton, List.singleton_append, ih,
        List.range_succ_eq_map, List.map_cons, List.map_map, List.cons_append]
      congr 2
      refine List.map_congr_left fun k _ => ?_
      simp only [Function.comp_apply]
      omega

theorem getElem?_line_ne (cs : List Char) :
    cs[(cs.takeWhile (· ≠ '\n')).length]? ≠ some '/' := by
  induction cs with
  | nil => simp
  | cons c cs ih =>
      by_cases line_feed : c = '\n'
      · simp [line_feed]
      · simpa [line_feed] using ih

/-- Names in front of a path are the names in front of a further one, whether a slash is put in
front of both or of none. -/
theorem run_innerNames (steps : List MatchStep) (p : List Char) :
    run (.innerNames :: .slash :: steps) ('/' :: p) = run (.leadingNames :: steps) p := by
  let n := (p.takeWhile (· ≠ '\n')).length
  have at_place (i : Nat) : run (.slash :: steps) (p.drop i) =
      if p[i]? = some '/' then run steps (p.drop (i + 1)) else none := by
    rw [run_slash, ← List.head?_drop, ← List.tail_drop]
    cases p.drop i with
    | nil => rfl
    | cons c below =>
        by_cases slash : c = '/'
        · simp [slash]
        · simp [slash]
  -- What is found at the places from the last to the second one.
  let later (i : Nat) : Option MatchMark := if 0 < i then run (.slash :: steps) (p.drop i) else none
  have inner : (remainders 1 n p).findSome? (run (.slash :: steps)) =
      (List.range (n + 1)).reverse.findSome? later := by
    have none_first : [0].findSome? later = none := rfl
    rw [reverse_range_succ, List.findSome?_append, none_first, Option.or_none, remainders,
      Nat.add_sub_cancel, List.findSome?_map, List.findSome?_map]
    refine findSome?_congr fun k hk => ?_
    have behind : 0 < n - k := Nat.sub_pos_of_lt (List.mem_range.mp hk)
    simp only [Function.comp_apply, later, if_pos behind]
  have leading : (behindSlashes p).findSome? (run steps) =
      (List.range (n + 1)).reverse.findSome? later := by
    have none_last : later n = none := by
      have no_slash : p[n]? ≠ some '/' := getElem?_line_ne p
      simp only [later, at_place, if_neg no_slash, ite_self]
    rw [List.range_succ, List.reverse_append, List.reverse_singleton, List.singleton_append,
      List.findSome?_cons, none_last, behindSlashes, List.findSome?_map, findSome?_filter]
    refine findSome?_congr fun i _ => ?_
    simp only [Function.comp_apply, later, at_place]
    by_cases first : 0 < i <;> by_cases slash : p[i]? = some '/' <;> simp [first, slash]
  rw [run_innerNames_slash, run_leadingNames, List.findSome?_append, List.findSome?_append, inner,
    leading]
  rfl

/-- A pattern matches a path as its segments match it with a slash in front. -/
theorem run_ofPath (filled : segs ≠ []) (deep : segs ≠ [.anyDepth])
    (single : ∀ rest, segs ≠ .anyDepth :: .anyDepth :: rest) :
    run (ofPath b segs) p = run (ofSegments b true segs) ('/' :: p) := by
  cases segs with
  | nil => exact absurd rfl filled
  | cons s rest =>
      by_cases any : s = .anyDepth
      · subst any
        cases rest with
        | nil => exact absurd rfl deep
        | cons t rest =>
            have next : t ≠ .anyDepth := fun same => single rest (same ▸ rfl)
            rw [ofSegments_anyDepth b true (List.cons_ne_nil t rest), ofSegments_slash b next,
              run_innerNames]
            rfl
      · have front : ofPath b (s :: rest) = ofSegments b false (s :: rest) := by
          cases s with
          | anyDepth => exact absurd rfl any
          | _ => rfl
        rw [front, ofSegments_slash b any, run_slash_cons]

theorem exists_of_run_ofSegments (filled : segs ≠ []) {cs : List Char} {m : MatchMark}
    (h : run (ofSegments b true segs) cs = some m) : ∃ below, cs = '/' :: below := by
  refine List.head?_eq_some_iff.mp (?_ : cs.head? = some '/')
  induction segs with
  | nil => exact absurd rfl filled
  | cons s rest ih =>
      by_cases any : s = .anyDepth
      · subst any
        cases rest with
        | nil =>
            by_contra bare
            change run [.directoryEnd b] cs = some m at h
            rw [run_directoryEnd, if_neg bare] at h
            cases h
        | cons t rest =>
            by_contra bare
            rw [ofSegments_anyDepth b true (List.cons_ne_nil t rest), run_innerNames_bare bare] at h
            exact bare (ih (by simp) h)
      · rw [ofSegments_slash b any] at h
        obtain ⟨below, rfl, -⟩ := exists_of_run_slash h
        rfl

/-! ## Plain names -/

def plainSegment (name : List Char) : Segment := .glob (name.map .char)

theorem ofSegments_plain (b : Bool) (name : List Char) (segs : List Segment) :
    ofSegments b true (plainSegment name :: segs) =
      .slash :: (name.map ofChar ++ ofSegments b true segs) := by
  rw [plainSegment, ofSegments_glob, List.map_map]
  rfl

theorem run_plain (names : List (List Char)) (cs : List Char) :
    run (ofSegments b true (names.map plainSegment ++ segs)) (slashed names ++ cs) =
      run (ofSegments b true segs) cs := by
  induction names with
  | nil => rfl
  | cons name names ih =>
      rw [List.map_cons, List.cons_append, ofSegments_plain, slashed, List.flatMap_cons,
        List.cons_append, List.cons_append, run_slash_cons, List.append_assoc, run_chars]
      exact ih

theorem exists_of_run_plain {names : List (List Char)} {q : List Char} {m : MatchMark}
    (h : run (ofSegments b true (names.map plainSegment ++ segs)) q = some m) :
    ∃ cs, q = slashed names ++ cs ∧ run (ofSegments b true segs) cs = some m := by
  induction names generalizing q with
  | nil => exact ⟨q, rfl, h⟩
  | cons name names ih =>
      rw [List.map_cons, List.cons_append, ofSegments_plain] at h
      obtain ⟨below, rfl, behind_slash⟩ := exists_of_run_slash h
      obtain ⟨cs, rfl, behind_name⟩ := exists_of_run_chars behind_slash
      obtain ⟨cs', rfl, ran⟩ := ih behind_name
      exact ⟨cs', by simp [slashed], ran⟩

/-! ## Empty names -/

theorem exists_ofSegments_empty (b : Bool) (segs : List Segment) :
    ∃ steps, (∀ s ∈ steps, ¬s.IsEnd) ∧
      ofSegments b true (segs ++ [.glob [], .anyDepth]) = steps ++ [.slash, .directoryEnd b] := by
  induction segs with
  | nil => exact ⟨[], by simp, rfl⟩
  | cons s rest ih =>
      obtain ⟨steps, inner, behind⟩ := ih
      cases s with
      | anyDepth =>
          refine ⟨.innerNames :: steps, by simpa [IsEnd] using inner, ?_⟩
          rw [List.cons_append, List.cons_append, ← behind, ofSegments_anyDepth b true (by simp)]
      | anyName =>
          refine ⟨.slash :: .wholeName :: steps, by simpa [IsEnd] using inner, ?_⟩
          rw [List.cons_append, List.cons_append, List.cons_append, ← behind]
          rfl
      | glob pieces =>
          refine ⟨.slash :: (pieces.map .piece ++ steps), ?_, ?_⟩
          · intro s hs
            rcases List.mem_cons.mp hs with rfl | hs
            · exact id
            · rcases List.mem_append.mp hs with hs | hs
              · obtain ⟨p, -, rfl⟩ := List.mem_map.mp hs
                exact id
              · exact inner s hs
          · rw [List.cons_append, List.cons_append, List.append_assoc, ← behind, ofSegments_glob]

theorem infix_of_run_empty {cs : List Char} {m : MatchMark}
    (h : run (ofSegments b true (segs ++ [.glob [], .anyDepth])) cs = some m) :
    ['/', '/'] <:+: cs := by
  obtain ⟨steps, inner, split⟩ := exists_ofSegments_empty b segs
  rw [split] at h
  obtain ⟨r, suffix, ran⟩ := exists_suffix_of_run inner h
  obtain ⟨below, rfl, ended⟩ := exists_of_run_slash ran
  have next : below.head? = some '/' := by
    by_contra bare
    rw [run_directoryEnd, if_neg bare] at ended
    cases ended
  obtain ⟨rest, rfl⟩ := List.head?_eq_some_iff.mp next
  exact List.IsInfix.trans (⟨[], rest, rfl⟩ : ['/', '/'] <:+: '/' :: '/' :: rest) suffix.isInfix

end Segments

end MatchStep

end TacticalDesign
