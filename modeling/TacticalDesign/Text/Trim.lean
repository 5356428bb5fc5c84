import TacticalDesign.Text.CharClass
/-!
# Trimming, lines, and pieces of a text
-/

namespace TacticalDesign.Text

def trimStart (s : List Char) : List Char := s.dropWhile isBlank

def trimEnd (s : List Char) : List Char := (s.reverse.dropWhile isBlank).reverse

def trim (s : String) : String := String.ofList (trimEnd (trimStart s.toList))

def isBlankText (s : String) : Bool := s.toList.all isBlank

def isLineEnd (c : Char) : Bool :=
  let n := c.toNat
  (10 ≤ n && n ≤ 13) || (28 ≤ n && n ≤ 30) || n = 0x85 || n = 0x2028 || n = 0x2029

/-- The lines of a text without their ends; a carriage return and a line feed end one line
together, and an end at the very end opens no further line. -/
def splitLines (s : String) : List String :=
  (go [] s.toList).map String.ofList
where
  go (line : List Char) : List Char → List (List Char)
    | [] => if line.isEmpty then [] else [line.reverse]
    | '\r' :: '\n' :: rest => line.reverse :: go [] rest
    | c :: rest => if isLineEnd c then line.reverse :: go [] rest else go (c :: line) rest

def unifyLineEnds : List Char → List Char
  | [] => []
  | '\r' :: '\n' :: rest => '\n' :: unifyLineEnds rest
  | '\r' :: rest => '\n' :: unifyLineEnds rest
  | c :: rest => c :: unifyLineEnds rest

/-- The part behind the last place where `sep` stands; the whole text if it stands nowhere. -/
def afterLast (sep : Char) (s : List Char) : List Char :=
  (s.reverse.takeWhile (· ≠ sep)).reverse

theorem afterLast_append {sep : Char} {front last : List Char} (bare : sep ∉ last)
    (ends : front = [] ∨ ∃ before, front = before ++ [sep]) :
    afterLast sep (front ++ last) = last := by
  have whole : ∀ c ∈ last.reverse, decide (c ≠ sep) = true := fun c hc =>
    decide_eq_true fun same => bare (same ▸ List.mem_reverse.mp hc)
  rw [afterLast, List.reverse_append, List.takeWhile_append_of_pos whole]
  rcases ends with rfl | ⟨before, rfl⟩
  · simp
  · simp [List.reverse_append]

theorem afterLast_of_not_mem {sep : Char} {s : List Char} (bare : sep ∉ s) :
    afterLast sep s = s :=
  afterLast_append bare (.inl rfl)

theorem afterLast_cons (sep c : Char) (s : List Char) :
    afterLast sep (c :: s) =
      if sep ∈ s then afterLast sep s else if c = sep then s else c :: s := by
  split
  · rename_i within
    obtain ⟨behind, front, split, bare⟩ :=
      List.eq_append_cons_of_mem (List.mem_reverse.mpr within)
    have parts : s = (front.reverse ++ [sep]) ++ behind.reverse := by
      rw [← List.reverse_reverse s, split]
      simp
    have bare' : sep ∉ behind.reverse := fun h => bare (List.mem_reverse.mp h)
    rw [parts, afterLast_append bare' (.inr ⟨front.reverse, rfl⟩), ← List.cons_append]
    exact afterLast_append bare' (.inr ⟨c :: front.reverse, rfl⟩)
  · rename_i bare
    split
    · rename_i here
      subst here
      exact @afterLast_append c [c] s bare (.inr ⟨[], rfl⟩)
    · rename_i other
      refine afterLast_of_not_mem fun within => ?_
      rcases List.mem_cons.mp within with same | within
      · exact other same.symm
      · exact bare within

theorem mem_of_mem_afterLast {sep c : Char} {s : List Char} (h : c ∈ afterLast sep s) : c ∈ s :=
  List.mem_reverse.mp ((List.takeWhile_sublist _).subset (List.mem_reverse.mp h))

/-- The part before the first place where `sep` stands; the whole text if it stands nowhere. -/
def beforeFirst (sep : Char) (s : List Char) : List Char := s.takeWhile (· ≠ sep)

def startsWith (s part : List Char) : Bool := part.isPrefixOf s

def endsWith (s part : List Char) : Bool := part.isSuffixOf s

def isInfix (part : List Char) : List Char → Bool
  | [] => part.isEmpty
  | c :: rest => part.isPrefixOf (c :: rest) || isInfix part rest

end TacticalDesign.Text
