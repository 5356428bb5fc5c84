import TacticalDesign.Proofs.Except
import TacticalDesign.Proofs.Number.Numerals
import TacticalDesign.Source.Declarations
/-!
# The name in front of an expression

The text of an expression starts with the dotted name that stands leftmost in its tree, unless
something else comes first: a literal, a bracket, an operator in front or a keyword. Behind the name
the text ends or goes on with a blank, a bracket or a colon, and where nothing stands in front of
it, it does not start like a mark of annotations.
-/

namespace TacticalDesign.Source

open Text

/-! ## The name in front -/

def Expr.dotted? : Expr → Option String
  | .name id => some id
  | .member value part => value.dotted?.map (· ++ "." ++ part)
  | _ => none

mutual

/-- The dotted name that the text of an expression starts with at a place of a level, at least that
of an annotation. -/
def Expr.front? (level : Precedence) : Expr → Option String
  | .name id => some id
  | .member value part =>
    match value.dotted? with
    | some dotted => some (dotted ++ "." ++ part)
    | none => value.front? Precedence.atom
  | .subscript value _ => value.front? Precedence.atom
  | .call function _ _ => function.front? Precedence.atom
  | .slice lower _ _ => optionalFront? Precedence.test lower
  | .binary op left _ => if op.level < level then none else left.front? op.leftLevel
  | .boolean op values => if op.level < level then none else firstFront? (op.level + 1) values
  | .comparison left _ =>
    if Precedence.comparison < level then none else left.front? (Precedence.comparison + 1)
  | .conditional body _ _ =>
    if Precedence.test < level then none else body.front? (Precedence.test + 1)
  | _ => none

def firstFront? (level : Precedence) : List Expr → Option String
  | [] => none
  | e :: _ => e.front? level

def optionalFront? (level : Precedence) : Option Expr → Option String
  | none => none
  | some e => e.front? level

end

/-- The text between brackets: a tuple that is not empty needs no parentheses there. -/
def indexText : Expr → Written
  | .tuple (item :: items) => do
    let item ← item.write false Precedence.test
    let items ← writeItems false items
    return tupleText (item :: items)
  | index => index.text

/-! ## What a text starts with -/

def Breaks (rest : List Char) : Prop := ∀ c ∈ rest.head?, c ∈ [' ', '(', '[', ':']

/-- A text that starts with no mark, by its first character or as `False` does. -/
def Unmarked (text : List Char) : Prop :=
  (∀ c ∈ text.head?, c ∉ ['C', 'F', 't']) ∨ ['F', 'a'] <+: text

/-- A text starts with the name in front, if there is one, and may have to be longer than it. It has
to where a member of an expression is no dotted name: behind the whole text a dot follows, which
must not go on with the name. -/
def Fronted (front : Option String) (longer : Prop) (text : List Char) : Prop :=
  match front with
  | some name => ∃ rest, text = name.toList ++ rest ∧ Breaks rest ∧ (longer → rest ≠ [])
  | none => Unmarked text

theorem head?_append_cases {α : Type} {P : α → Prop} {l r : List α} (hl : ∀ a ∈ l.head?, P a)
    (hr : ∀ a ∈ r.head?, P a) : ∀ a ∈ (l ++ r).head?, P a := by
  cases l with
  | nil => exact hr
  | cons a l => exact hl

theorem Breaks.unmarked {rest : List Char} (h : Breaks rest) : Unmarked rest := by
  refine Or.inl fun c hc => ?_
  have all : ∀ d ∈ [' ', '(', '[', ':'], d ∉ ['C', 'F', 't'] := by simp
  exact all c (h c hc)

theorem Unmarked.append {text rest : List Char} (ht : Unmarked text) (hr : Unmarked rest) :
    Unmarked (text ++ rest) := by
  rcases ht with ht | ht
  · cases text with
    | nil => exact hr
    | cons c text => exact Or.inl ht
  · exact Or.inr (ht.trans (List.prefix_append text rest))

theorem Fronted.imp {front : Option String} {longer longer' : Prop} {text : List Char}
    (h : Fronted front longer text) (needed : longer' → longer) : Fronted front longer' text := by
  cases front with
  | none => exact h
  | some name =>
      obtain ⟨rest, split, breaks, more⟩ := h
      exact ⟨rest, split, breaks, fun l => more (needed l)⟩

theorem Fronted.append {front : Option String} {longer longer' : Prop} {text rest : List Char}
    (h : Fronted front longer text) (breaks : Breaks rest) (more : longer' → rest ≠ []) :
    Fronted front longer' (text ++ rest) := by
  cases front with
  | none => exact Unmarked.append h breaks.unmarked
  | some name =>
      obtain ⟨between, rfl, between_breaks, -⟩ := h
      refine ⟨between ++ rest, List.append_assoc .., head?_append_cases between_breaks breaks,
        fun l => ?_⟩
      exact List.append_ne_nil_of_right_ne_nil _ (more l)

theorem Fronted.append_longer {front : Option String} {longer : Prop} {text rest : List Char}
    (h : Fronted front True text) (unmarked : Unmarked rest) :
    Fronted front longer (text ++ rest) := by
  cases front with
  | none => exact Unmarked.append h unmarked
  | some name =>
      obtain ⟨between, rfl, breaks, more⟩ := h
      have nonempty := more trivial
      refine ⟨between ++ rest, List.append_assoc .., ?_, fun _ =>
        List.append_ne_nil_of_left_ne_nil nonempty _⟩
      rwa [Breaks, List.head?_append_of_ne_nil _ nonempty]

/-! ### Literals -/

theorem digit_unmarked {c : Char} (digit : Number.isDigit c = true) : c ∉ ['C', 'F', 't'] := by
  have others : ∀ d ∈ ['C', 'F', 't'], Number.isDigit d = false := by simp [Number.isDigit]
  exact fun hc => ne_of_isDigit digit (others c hc) rfl

theorem digits_unmarked {ds rest : List Char} (digits : AreDigits ds) :
    ∀ c ∈ (ds ++ rest).head?, c ∉ ['C', 'F', 't'] := by
  intro c hc
  rw [List.head?_append_of_ne_nil _ digits.nonempty] at hc
  exact digit_unmarked (digits.digits c (List.mem_of_mem_head? hc))

theorem finiteText_unmarked (x : Float) :
    ∀ c ∈ (finiteText x).toList.head?, c ∉ ['C', 'F', 't'] := by
  unfold finiteText
  split
  · simp
  · cases finite : Number.Parts.ofFloat x with
    | nan =>
        simp [Number.floatText, finite]
    | infinite negative =>
        cases negative <;> simp [Number.floatText, finite]
    | finite negative mantissa exponent =>
        obtain ⟨n, proper, -, written, -⟩ := Number.floatText_numeral finite
        rw [written, Numeral.chars]
        split
        · simp
        · exact digits_unmarked proper.whole.toAreDigits

theorem imaginaryText_unmarked (x : Float) :
    ∀ c ∈ (imaginaryText x).toList.head?, c ∉ ['C', 'F', 't'] := by
  have whole := finiteText_unmarked x
  have behind : ∀ c ∈ ['j'].head?, c ∉ ['C', 'F', 't'] := by simp
  simp only [imaginaryText, String.toList_ofList]
  split
  · -- what is left without the fraction is a front of the whole text
    refine head?_append_cases (fun c hc => whole c ?_) behind
    obtain ⟨rest, split⟩ :=
      (List.dropLast_prefix _).trans (List.dropLast_prefix (finiteText x).toList)
    exact split ▸ List.mem_head?_append_of_mem_head? hc
  · exact head?_append_cases whole behind

theorem quoted_unmarked (s : String) : ∀ c ∈ (quoted s).toList.head?, c ∉ ['C', 'F', 't'] := by
  simp only [quoted, quoteFor, String.toList_ofList]
  split <;> simp [singleQuote, doubleQuote]

theorem Literal.unmarked {v : Literal} {t : String} (h : v.write false = .ok t) :
    Unmarked t.toList := by
  cases v with
  | none =>
      cases h
      exact Or.inl (by simp)
  | bool b =>
      cases h
      cases b with
      | false => exact Or.inr (by simp)
      | true => exact Or.inl (by simp)
  | ellipsis =>
      cases h
      exact Or.inl (by simp)
  | int n =>
      simp only [Literal.write] at h
      split at h
      · cases h
      · cases h
        rw [Number.natText, String.toList_ofList, ← List.append_nil (Nat.toDigits 10 n)]
        exact Or.inl (digits_unmarked (Number.areDigits_toDigits n))
  | float x =>
      cases h
      exact Or.inl (finiteText_unmarked x)
  | imaginary x =>
      cases h
      exact Or.inl (imaginaryText_unmarked x)
  | text s marked =>
      cases h
      cases marked with
      | false => exact Or.inl (quoted_unmarked s)
      | true => exact Or.inl (by simp)
  | bytes bs =>
      cases h
      rw [quotedBytes, String.toList_ofList]
      exact Or.inl (by simp)

/-! ### Expressions -/

theorem Expr.write_dotted {e : Expr} {dotted : String} {inField : Bool} {level : Precedence}
    (h : e.dotted? = some dotted) : e.write inField level = .ok dotted := by
  cases e with
  | name id =>
      cases h
      rw [Expr.write]
  | member value part =>
      rw [dotted?] at h
      obtain ⟨front, hfront, rfl⟩ := Option.map_eq_some_iff.mp h
      rw [Expr.write, write_dotted hfront]
      · simp [bind, Except.bind, pure, Except.pure]
      · rintro v rfl
        cases hfront
  | _ => cases h

/-- Between a whole number and the name of its member stands a blank. -/
theorem Expr.write_member {value : Expr} {part text : String} {level : Precedence}
    (h : (Expr.member value part).write false level = .ok text) :
    ∃ front gap, value.write false Precedence.atom = .ok front ∧ (gap = [] ∨ gap = [' ']) ∧
      text.toList = front.toList ++ (gap ++ '.' :: part.toList) := by
  by_cases literal : ∃ v, value = .literal v
  · obtain ⟨v, rfl⟩ := literal
    rw [Expr.write] at h
    obtain ⟨front, written, h⟩ := bind_eq_ok.mp h
    cases h
    cases v.isWhole
    · exact ⟨front, [], written, .inl rfl, by simp⟩
    · exact ⟨front, [' '], written, .inr rfl, by simp⟩
  · rw [Expr.write] at h
    · obtain ⟨front, written, h⟩ := bind_eq_ok.mp h
      cases h
      exact ⟨front, [], written, .inl rfl, by simp⟩
    · exact fun v same => literal ⟨v, same⟩

theorem Expr.write_subscript (value index : Expr) (level : Precedence) :
    (Expr.subscript value index).write false level = do
      let text ← value.write false Precedence.atom
      return text ++ "[" ++ (← indexText index) ++ "]" := by
  cases index with
  | tuple items =>
      cases items with
      | nil =>
          rw [Expr.write]
          · rfl
          · exact nofun
      | cons item items =>
          rw [Expr.write, indexText]
          simp
  | _ =>
      rw [Expr.write]
      · rfl
      · exact nofun

theorem BinaryOp.test_le_leftLevel (op : BinaryOp) : Precedence.test ≤ op.leftLevel := by
  cases op <;> decide

theorem BooleanOp.text_breaks (op : BooleanOp) (rest : List Char) :
    Breaks (op.text.toList ++ rest) := by
  cases op <;> simp [Breaks, BooleanOp.text]

theorem CompareOp.text_breaks (op : CompareOp) (rest : List Char) :
    Breaks (op.text.toList ++ rest) := by
  cases op <;> simp [Breaks, CompareOp.text]

theorem fronted_parenthesizeIf {front : Option String} {longer : Prop} {p : Prop} [Decidable p]
    {text : String} (h : ¬p → Fronted front longer text.toList) :
    Fronted (if p then none else front) longer (parenthesizeIf p text).toList := by
  by_cases enclosed : p
  · rw [if_pos enclosed, parenthesizeIf, if_pos (decide_eq_true enclosed)]
    exact Or.inl (by simp)
  · rw [if_neg enclosed, parenthesizeIf, if_neg (by simpa using enclosed)]
    exact h enclosed

theorem unmarked_parenthesizeIf {p : Prop} [Decidable p] {text : String}
    (h : ¬p → Unmarked text.toList) : Unmarked (parenthesizeIf p text).toList := by
  have fronted : Fronted (if p then none else none) True (parenthesizeIf p text).toList :=
    fronted_parenthesizeIf h
  rwa [ite_self] at fronted

theorem breaks_comparisons {rest : List Comparison} {text : String}
    (h : writeComparisons false rest = .ok text) : Breaks text.toList := by
  cases rest with
  | nil =>
      rw [writeComparisons] at h
      cases h
      simp [Breaks]
  | cons c rest =>
      obtain ⟨op, right⟩ := c
      rw [writeComparisons] at h
      obtain ⟨first, -, h⟩ := bind_eq_ok.mp h
      obtain ⟨later, -, h⟩ := bind_eq_ok.mp h
      cases h
      rw [String.toList_append, String.toList_append, List.append_assoc]
      exact op.text_breaks _

/-- Whether the text of an expression starts with a sign or a word of its own: a quote, a bracket,
an operator or a keyword. Tuples, yields and assignments have parentheses around them. -/
def Expr.opens : Expr → Bool
  | .name _ | .member _ _ | .subscript _ _ | .slice _ _ _ | .call _ _ _ => false
  | .binary _ _ _ | .boolean _ _ | .comparison _ _ | .conditional _ _ _ => false
  | _ => true

theorem parenthesized_unmarked {level inner : Precedence} {text : String} (tight : inner < level) :
    Unmarked (parenthesizeIf (inner < level) text).toList :=
  unmarked_parenthesizeIf fun loose => absurd tight loose

theorem Expr.opens_unmarked {e : Expr} {level : Precedence} {text : String} (opens : e.opens)
    (low : Precedence.test ≤ level) (h : e.write false level = .ok text) :
    Unmarked text.toList := by
  cases e with
  | literal v =>
      rw [Expr.write] at h
      exact Literal.unmarked h
  | interpolated pieces =>
      rw [Expr.write] at h
      obtain ⟨parts, -, h⟩ := bind_eq_ok.mp h
      rw [if_neg Bool.false_ne_true] at h
      cases h
      exact Or.inl (by simp)
  | unary op operand =>
      rw [Expr.write] at h
      obtain ⟨inner, -, h⟩ := bind_eq_ok.mp h
      cases h
      exact unmarked_parenthesizeIf fun _ => by cases op <;> exact Or.inl (by simp [UnaryOp.text])
  | lambda parameters body =>
      rw [Expr.write] at h
      obtain ⟨texts, -, h⟩ := bind_eq_ok.mp h
      obtain ⟨bodyText, -, h⟩ := bind_eq_ok.mp h
      cases h
      exact unmarked_parenthesizeIf fun _ => Or.inl (by simp)
  | tuple items =>
      rw [Expr.write] at h
      obtain ⟨texts, -, h⟩ := bind_eq_ok.mp h
      cases h
      have tight : Precedence.tuple < level := lt_of_lt_of_le (by decide) low
      rw [decide_eq_true tight, Bool.or_true, parenthesizeIf, if_pos rfl]
      exact Or.inl (by simp)
  | starred value | list items | set items | dict entries =>
      rw [Expr.write] at h
      obtain ⟨inner, -, h⟩ := bind_eq_ok.mp h
      cases h
      exact Or.inl (by simp [braced])
  | comprehension kind element clauses =>
      rw [Expr.write] at h
      obtain ⟨inner, -, h⟩ := bind_eq_ok.mp h
      obtain ⟨clauseText, -, h⟩ := bind_eq_ok.mp h
      cases h
      cases kind <;> exact Or.inl (by simp [braced])
  | dictComprehension key value clauses =>
      rw [Expr.write] at h
      obtain ⟨keyText, -, h⟩ := bind_eq_ok.mp h
      obtain ⟨valueText, -, h⟩ := bind_eq_ok.mp h
      obtain ⟨clauseText, -, h⟩ := bind_eq_ok.mp h
      cases h
      exact Or.inl (by simp [braced])
  | await value =>
      rw [Expr.write] at h
      obtain ⟨inner, -, h⟩ := bind_eq_ok.mp h
      cases h
      exact unmarked_parenthesizeIf fun _ => Or.inl (by simp)
  | yield value | yieldFrom value =>
      rw [Expr.write] at h
      obtain ⟨inner, -, h⟩ := bind_eq_ok.mp h
      cases h
      exact parenthesized_unmarked (lt_of_lt_of_le (by decide) low)
  | named target value =>
      rw [Expr.write] at h
      obtain ⟨targetText, -, h⟩ := bind_eq_ok.mp h
      obtain ⟨valueText, -, h⟩ := bind_eq_ok.mp h
      cases h
      exact parenthesized_unmarked (lt_of_lt_of_le (by decide) low)
  | _ => cases opens

mutual

/-- The text of an expression starts with the name in front of it. The induction goes down the left
side of the tree, to the operand that is written first at its own level. -/
theorem Expr.write_fronted (e : Expr) {level : Precedence} {text : String}
    (low : Precedence.test ≤ level) (h : e.write false level = .ok text) :
    Fronted (e.front? level) (level = Precedence.atom ∧ e.dotted? = none) text.toList := by
  cases e with
  | name id =>
      rw [Expr.write] at h
      cases h
      exact ⟨[], by simp, by simp [Breaks], by simp [Expr.dotted?]⟩
  | member value part =>
      rw [Expr.front?]
      cases dotted : value.dotted? with
      | some front =>
          have whole : (Expr.member value part).dotted? = some (front ++ "." ++ part) := by
            rw [Expr.dotted?, dotted, Option.map_some]
          rw [Expr.write_dotted whole] at h
          cases h
          exact ⟨[], by simp, by simp [Breaks], by simp [whole]⟩
      | none =>
          -- the value is longer than the name in front of it, so the dot does not touch the name
          obtain ⟨front, gap, written, gaps, split⟩ := Expr.write_member h
          have fronted := Expr.write_fronted value (by decide) written
          rw [split]
          refine Fronted.append_longer (by simpa [dotted] using fronted) ?_
          rcases gaps with rfl | rfl <;> exact Or.inl (by simp)
  | subscript value index =>
      rw [Expr.write_subscript] at h
      obtain ⟨front, written, h⟩ := bind_eq_ok.mp h
      obtain ⟨inner, -, h⟩ := bind_eq_ok.mp h
      cases h
      simp only [Expr.front?, String.toList_append, List.append_assoc]
      have fronted := Expr.write_fronted value (by decide) written
      exact fronted.append (by simp [Breaks]) (by simp)
  | slice lower upper step =>
      rw [Expr.write] at h
      obtain ⟨front, written, h⟩ := bind_eq_ok.mp h
      obtain ⟨upperText, -, h⟩ := bind_eq_ok.mp h
      obtain ⟨stepText, -, h⟩ := bind_eq_ok.mp h
      cases h
      simp only [Expr.front?, String.toList_append, List.append_assoc]
      have fronted := optional_fronted lower written
      exact fronted.append (by simp [Breaks]) (by simp)
  | call function arguments keywords =>
      rw [Expr.write] at h
      obtain ⟨front, written, h⟩ := bind_eq_ok.mp h
      obtain ⟨argumentTexts, -, h⟩ := bind_eq_ok.mp h
      obtain ⟨keywordTexts, -, h⟩ := bind_eq_ok.mp h
      cases h
      simp only [Expr.front?, String.toList_append, List.append_assoc]
      have fronted := Expr.write_fronted function (by decide) written
      exact fronted.append (by simp [Breaks]) (by simp)
  | binary op left right =>
      rw [Expr.write] at h
      obtain ⟨front, written, h⟩ := bind_eq_ok.mp h
      obtain ⟨rightText, -, h⟩ := bind_eq_ok.mp h
      cases h
      have fronted := Expr.write_fronted left op.test_le_leftLevel written
      refine fronted_parenthesizeIf fun _ => ?_
      simp only [String.toList_append, List.append_assoc]
      exact fronted.append (by simp [Breaks]) (by simp)
  | boolean op values =>
      rw [Expr.write] at h
      obtain ⟨texts, written, h⟩ := bind_eq_ok.mp h
      cases h
      refine fronted_parenthesizeIf fun loose => ?_
      -- one operand alone may be a bare name, but not in the place of an atom
      refine (first_fronted op values written).imp fun tight => loose ?_
      rw [tight.1]
      cases op <;> decide
  | comparison left rest =>
      rw [Expr.write] at h
      obtain ⟨front, written, h⟩ := bind_eq_ok.mp h
      obtain ⟨restText, compared, h⟩ := bind_eq_ok.mp h
      cases h
      have fronted := Expr.write_fronted left (by decide) written
      refine fronted_parenthesizeIf fun loose => ?_
      rw [String.toList_append]
      refine fronted.append (breaks_comparisons compared) fun tight => ?_
      exact absurd (by rw [tight.1]; decide) loose
  | conditional body test orElse =>
      rw [Expr.write] at h
      obtain ⟨front, written, h⟩ := bind_eq_ok.mp h
      obtain ⟨testText, -, h⟩ := bind_eq_ok.mp h
      obtain ⟨elseText, -, h⟩ := bind_eq_ok.mp h
      cases h
      have fronted := Expr.write_fronted body (by decide) written
      refine fronted_parenthesizeIf fun _ => ?_
      simp only [String.toList_append, List.append_assoc]
      exact fronted.append (by simp [Breaks]) (by simp)
  | _ => exact Expr.opens_unmarked rfl low h

theorem first_fronted (op : BooleanOp) (es : List Expr) {texts : List String}
    (h : writeRising false (op.level + 1) es = .ok texts) :
    Fronted (firstFront? (op.level + 1) es) False (op.text.intercalate texts).toList := by
  cases es with
  | nil =>
      rw [writeRising] at h
      cases h
      exact Or.inl (by simp)
  | cons e es =>
      rw [writeRising] at h
      obtain ⟨first, written, h⟩ := bind_eq_ok.mp h
      obtain ⟨later, -, h⟩ := bind_eq_ok.mp h
      cases h
      have level : min Precedence.atom (op.level + 1) = op.level + 1 := by cases op <;> rfl
      rw [level] at written
      have fronted := Expr.write_fronted e (by cases op <;> decide) written
      rw [firstFront?]
      cases later with
      | nil =>
          rw [String.intercalate_singleton]
          exact fronted.imp nofun
      | cons second later =>
          rw [String.intercalate_cons_cons, String.toList_append, String.toList_append,
            List.append_assoc]
          exact fronted.append (op.text_breaks _) nofun

theorem optional_fronted (e : Option Expr) {text : String}
    (h : writeOptional false "" Precedence.test e = .ok text) :
    Fronted (optionalFront? Precedence.test e) False text.toList := by
  cases e with
  | none =>
      rw [writeOptional] at h
      cases h
      exact Or.inl (by simp)
  | some e =>
      rw [writeOptional] at h
      obtain ⟨front, written, h⟩ := bind_eq_ok.mp h
      cases h
      rw [String.empty_append]
      exact (Expr.write_fronted e (by decide) written).imp nofun

end

end TacticalDesign.Source
