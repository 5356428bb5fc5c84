import TacticalDesign.Ignore.Matching
/-!
# Which pattern decides

Whether patterns ignore a path is up to one of them: no pattern matches the path more closely, and
no later one as closely. Patterns that match less closely than a later one, or as closely, do not
count. This holds of every library of ignore patterns in which the deciding pattern has its way, and
of patterns of globs it is proved.
-/

namespace TacticalDesign

namespace IgnorePattern

variable {path : List Char}

/-- How closely a pattern matches a path; zero where it does not match. -/
def closeness (path : List Char) (p : IgnorePattern) : Nat :=
  (p.match? path).elim 0 MatchMark.weight

def closest : Nat := MatchMark.itself.weight

theorem closeness_eq_zero_iff {p : IgnorePattern} :
    p.closeness path = 0 ↔ p.match? path = none := by
  rw [closeness]
  rcases p.match? path with _ | _ | _ <;> simp [MatchMark.weight]

theorem closeness_pos_iff {p : IgnorePattern} :
    0 < p.closeness path ↔ (p.match? path).isSome = true := by
  rw [Nat.pos_iff_ne_zero, ne_eq, closeness_eq_zero_iff, Option.isSome_iff_ne_none]

theorem closeness_le_closest (path : List Char) (p : IgnorePattern) :
    p.closeness path ≤ closest := by
  rw [closeness]
  rcases p.match? path with _ | _ | _ <;> decide

/-- A pattern decides about a path: it matches, no pattern matches more closely, and no later one as
closely. -/
def Decides (patterns : List IgnorePattern) (path : List Char) (p : IgnorePattern) : Prop :=
  ∃ before after, patterns = before ++ p :: after ∧ 0 < p.closeness path ∧
    (∀ q ∈ before, q.closeness path ≤ p.closeness path) ∧
    ∀ q ∈ after, q.closeness path < p.closeness path

def lastMatch? (patterns : List IgnorePattern) (path : List Char) : Option IgnorePattern :=
  (patterns.filter fun p => 0 < p.closeness path).getLast?

end IgnorePattern

open IgnorePattern

section

variable {path : List Char} {patterns : List IgnorePattern} {p : IgnorePattern}

theorem IgnorePattern.Decides.mem (h : Decides patterns path p) : p ∈ patterns := by
  obtain ⟨before, after, rfl, -⟩ := h
  exact List.mem_append_right _ List.mem_cons_self

theorem IgnorePattern.Decides.closeness_le (h : Decides patterns path p) {q : IgnorePattern}
    (hq : q ∈ patterns) : q.closeness path ≤ p.closeness path := by
  obtain ⟨before, after, rfl, -, earlier, later⟩ := h
  rcases List.mem_append.mp hq with hq | hq
  · exact earlier q hq
  · rcases List.mem_cons.mp hq with rfl | hq
    · exact Nat.le_refl _
    · exact Nat.le_of_lt (later q hq)

theorem exists_decides (matched : ∃ q ∈ patterns, 0 < q.closeness path) :
    ∃ p, Decides patterns path p := by
  induction patterns with
  | nil =>
      obtain ⟨q, hq, -⟩ := matched
      cases hq
  | cons a rest ih =>
      by_cases later : ∃ q ∈ rest, 0 < q.closeness path
      · obtain ⟨p, decides⟩ := ih later
        by_cases closer : a.closeness path ≤ p.closeness path
        · obtain ⟨before, after, rfl, positive, earlier, behind⟩ := decides
          exact ⟨p, a :: before, after, rfl, positive,
            List.forall_mem_cons.mpr ⟨closer, earlier⟩, behind⟩
        · have less : ∀ q ∈ rest, q.closeness path < a.closeness path := fun q hq =>
            Nat.lt_of_le_of_lt (decides.closeness_le hq) (Nat.lt_of_not_le closer)
          exact ⟨a, [], rest, rfl, Nat.zero_lt_of_lt (Nat.lt_of_not_le closer), by simp, less⟩
      · have alone : ∀ q ∈ rest, q.closeness path = 0 := fun q hq =>
          Nat.eq_zero_of_not_pos fun positive => later ⟨q, hq, positive⟩
        obtain ⟨q, hq, positive⟩ := matched
        rcases List.mem_cons.mp hq with rfl | hq
        · exact ⟨q, [], rest, rfl, positive, by simp, fun r hr => (alone r hr).symm ▸ positive⟩
        · exact absurd ⟨q, hq, positive⟩ later

/-! ## The last match -/

theorem lastMatch?_eq_some_iff :
    lastMatch? patterns path = some p ↔
      ∃ before after, patterns = before ++ p :: after ∧ 0 < p.closeness path ∧
        ∀ q ∈ after, q.closeness path = 0 := by
  rw [lastMatch?, List.getLast?_eq_some_iff]
  constructor
  · rintro ⟨kept, split⟩
    obtain ⟨before, rest, rfl, -, last⟩ := List.filter_eq_append_iff.mp split
    obtain ⟨between, after, rfl, -, matched, unmatched⟩ := List.filter_eq_cons_iff.mp last
    refine ⟨before ++ between, after, by simp, of_decide_eq_true matched, fun q hq => ?_⟩
    simpa using List.filter_eq_nil_iff.mp unmatched q hq
  · rintro ⟨before, after, rfl, matched, unmatched⟩
    refine ⟨before.filter fun q => 0 < q.closeness path, ?_⟩
    have none_behind : after.filter (fun q => 0 < q.closeness path) = [] :=
      List.filter_eq_nil_iff.mpr fun q hq => by simp [unmatched q hq]
    rw [List.filter_append, List.filter_cons_of_pos (by simpa using matched), none_behind]

theorem lastMatch?_eq_none_iff :
    lastMatch? patterns path = none ↔ ∀ q ∈ patterns, q.closeness path = 0 := by
  rw [lastMatch?, List.getLast?_eq_none_iff, List.filter_eq_nil_iff]
  simp

theorem decides_of_lastMatch? (last : lastMatch? patterns path = some p)
    (closest : ∀ q ∈ patterns, q.closeness path ≤ p.closeness path) :
    Decides patterns path p := by
  obtain ⟨before, after, rfl, matched, unmatched⟩ := lastMatch?_eq_some_iff.mp last
  refine ⟨before, after, rfl, matched, fun q hq => closest q (List.mem_append_left _ hq), ?_⟩
  exact fun q hq => (unmatched q hq).symm ▸ matched

/-! ## Patterns that do not count -/

theorem decides_append (as bs : List IgnorePattern) :
    Decides (as ++ bs) path p ↔
      (Decides as path p ∧ ∀ q ∈ bs, q.closeness path < p.closeness path) ∨
        (Decides bs path p ∧ ∀ q ∈ as, q.closeness path ≤ p.closeness path) := by
  constructor
  · rintro ⟨before, after, split, matched, earlier, later⟩
    rcases List.append_eq_append_iff.mp split with ⟨more, rfl, rfl⟩ | ⟨more, rfl, tail⟩
    · obtain ⟨first, second⟩ := List.forall_mem_append.mp earlier
      exact .inr ⟨⟨more, after, rfl, matched, second, later⟩, first⟩
    · cases more with
      | nil => exact .inr ⟨⟨[], after, tail.symm, matched, by simp, later⟩, by simpa using earlier⟩
      | cons a more =>
          obtain ⟨rfl, rfl⟩ := List.cons.inj tail
          obtain ⟨first, second⟩ := List.forall_mem_append.mp later
          exact .inl ⟨⟨before, more, rfl, matched, earlier, first⟩, second⟩
  · rintro (⟨⟨before, after, rfl, matched, earlier, later⟩, behind⟩ |
      ⟨⟨before, after, rfl, matched, earlier, later⟩, front⟩)
    · exact ⟨before, after ++ bs, by simp, matched, earlier,
        List.forall_mem_append.mpr ⟨later, behind⟩⟩
    · exact ⟨as ++ before, after, by simp, matched, List.forall_mem_append.mpr ⟨front, earlier⟩,
        later⟩

/-- Where a later pattern matches as closely as any of the weak ones, these do not decide. -/
theorem decides_of_outmatched {before weak after : List IgnorePattern} {q : IgnorePattern}
    (later : q ∈ after) (outmatched : ∀ w ∈ weak, w.closeness path ≤ q.closeness path) :
    Decides (before ++ weak ++ after) path p ↔ Decides (before ++ after) path p := by
  rw [decides_append (before ++ weak) after, decides_append before after]
  refine or_congr (and_congr_left fun behind => ?_) (and_congr_right fun decides => ?_)
  · have less : ∀ w ∈ weak, w.closeness path < p.closeness path := fun w hw =>
      Nat.lt_of_le_of_lt (outmatched w hw) (behind q later)
    rw [decides_append]
    constructor
    · rintro (⟨first, -⟩ | ⟨second, -⟩)
      · exact first
      · exact absurd (less p second.mem) (Nat.lt_irrefl _)
    · exact fun first => .inl ⟨first, less⟩
  · rw [List.forall_mem_append]
    exact and_iff_left fun w hw => Nat.le_trans (outmatched w hw) (decides.closeness_le later)

end

/-! ## Libraries in which one pattern decides -/

/-- The deciding pattern has its way, and without a match nothing is ignored. -/
structure IgnoreMatcher.IsLayered (m : IgnoreMatcher) : Prop where
  decided : ∀ patterns path p, Decides patterns path p → m.ignoresPath patterns path = p.ignores
  unmatched : ∀ patterns path, (∀ q ∈ patterns, q.closeness path = 0) →
    m.ignoresPath patterns path = false

section Layered

variable {m : IgnoreMatcher} (layered : m.IsLayered) {path : List Char}
  {patterns : List IgnorePattern}

include layered

theorem ignoresPath_iff :
    m.ignoresPath patterns path = true ↔ ∃ p, Decides patterns path p ∧ p.ignores = true := by
  constructor
  · intro ignored
    by_cases matched : ∃ q ∈ patterns, 0 < q.closeness path
    · obtain ⟨p, decides⟩ := exists_decides matched
      exact ⟨p, decides, (layered.decided _ _ _ decides).symm.trans ignored⟩
    · have unmatched : ∀ q ∈ patterns, q.closeness path = 0 := fun q hq =>
        Nat.eq_zero_of_not_pos fun positive => matched ⟨q, hq, positive⟩
      rw [layered.unmatched _ _ unmatched] at ignored
      cases ignored
  · rintro ⟨p, decides, ignores⟩
    exact (layered.decided _ _ _ decides).trans ignores

theorem ignoresPath_of_outmatched {before weak after : List IgnorePattern} {q : IgnorePattern}
    (later : q ∈ after) (outmatched : ∀ p ∈ weak, p.closeness path ≤ q.closeness path) :
    m.ignoresPath (before ++ weak ++ after) path = m.ignoresPath (before ++ after) path := by
  rw [Bool.eq_iff_iff, ignoresPath_iff layered, ignoresPath_iff layered]
  exact exists_congr fun p => and_congr_left fun _ => decides_of_outmatched later outmatched

end Layered

/-! ## Patterns of globs -/

section Gitignore

variable {path : List Char} {patterns : List IgnorePattern} {p : IgnorePattern}

namespace IgnoreDecision

theorem add_of_closer {d : IgnoreDecision} (matched : 0 < p.closeness path)
    (closer : d.weight ≤ p.closeness path) : d.add path p = ⟨p.ignores, p.closeness path⟩ := by
  rw [closeness] at matched closer ⊢
  rw [add]
  cases found : p.match? path with
  | none =>
      rw [found] at matched
      exact absurd matched (Nat.lt_irrefl 0)
  | some mark =>
      rw [found] at closer
      exact if_pos closer

theorem add_of_less {d : IgnoreDecision} (less : p.closeness path < d.weight) :
    d.add path p = d := by
  rw [closeness] at less
  rw [add]
  cases found : p.match? path with
  | none => rfl
  | some mark =>
      rw [found] at less
      exact if_neg (Nat.not_le_of_lt less)

theorem add_of_unmatched {d : IgnoreDecision} (unmatched : p.closeness path = 0) :
    d.add path p = d := by
  rw [add, closeness_eq_zero_iff.mp unmatched]

theorem weight_add_le {d : IgnoreDecision} {n : Nat} (light : d.weight ≤ n)
    (below : p.closeness path ≤ n) : (d.add path p).weight ≤ n := by
  by_cases matched : 0 < p.closeness path
  · by_cases closer : d.weight ≤ p.closeness path
    · rwa [add_of_closer matched closer]
    · rwa [add_of_less (Nat.lt_of_not_le closer)]
  · rwa [add_of_unmatched (Nat.eq_zero_of_not_pos matched)]

theorem foldl_of_less {d : IgnoreDecision} (less : ∀ q ∈ patterns, q.closeness path < d.weight) :
    patterns.foldl (add path) d = d := by
  induction patterns with
  | nil => rfl
  | cons q rest ih =>
      obtain ⟨first, later⟩ := List.forall_mem_cons.mp less
      rw [List.foldl_cons, add_of_less first, ih later]

theorem foldl_of_unmatched {d : IgnoreDecision}
    (unmatched : ∀ q ∈ patterns, q.closeness path = 0) : patterns.foldl (add path) d = d := by
  induction patterns with
  | nil => rfl
  | cons q rest ih =>
      obtain ⟨first, later⟩ := List.forall_mem_cons.mp unmatched
      rw [List.foldl_cons, add_of_unmatched first, ih later]

theorem weight_foldl_le {d : IgnoreDecision} {n : Nat} (light : d.weight ≤ n)
    (below : ∀ q ∈ patterns, q.closeness path ≤ n) : (patterns.foldl (add path) d).weight ≤ n := by
  induction patterns generalizing d with
  | nil => exact light
  | cons q rest ih =>
      obtain ⟨first, later⟩ := List.forall_mem_cons.mp below
      exact ih (weight_add_le light first) later

end IgnoreDecision

theorem IgnorePattern.Decides.foldl (h : Decides patterns path p) :
    patterns.foldl (IgnoreDecision.add path) {} = ⟨p.ignores, p.closeness path⟩ := by
  obtain ⟨before, after, rfl, matched, earlier, later⟩ := h
  have light := IgnoreDecision.weight_foldl_le (d := {}) (Nat.zero_le _) earlier
  rw [List.foldl_append, List.foldl_cons, IgnoreDecision.add_of_closer matched light]
  exact IgnoreDecision.foldl_of_less later

theorem isLayered_gitignore : IgnoreMatcher.gitignore.IsLayered where
  decided patterns path p decides := by
    have whole := decides.foldl
    exact congrArg IgnoreDecision.ignored whole
  unmatched patterns path unmatched := by
    have nothing := IgnoreDecision.foldl_of_unmatched (d := {}) unmatched
    exact congrArg IgnoreDecision.ignored nothing

end Gitignore

end TacticalDesign
