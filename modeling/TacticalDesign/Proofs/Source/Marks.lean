import TacticalDesign.Proofs.Source.Front
/-!
# Marks of annotations

An annotation is read by its text, and a mark is found where the text starts with its name. That is
where the name in front of the tree starts with it, which is more than the marks themselves.
-/

namespace TacticalDesign.Source

open Text

/-! ## Marks in the tree -/

/-- Whether the name in front of an annotation starts like a mark. -/
def Expr.leads (mark : String) (e : Expr) : Bool :=
  (e.front? Precedence.test).any (startsWithMark mark)

def Expr.isMarkName (mark : String) : Expr → Bool
  | .name id => id = mark
  | .member (.name qualifier) part => qualifier = "typing" && part = mark
  | _ => false

def Expr.isMark (mark : String) : Expr → Bool
  | .subscript value _ => value.isMarkName mark
  | e => e.isMarkName mark

def Expr.inside? (mark : String) : Expr → Option Expr
  | .subscript value index => if value.isMarkName mark then some index else none
  | _ => none

/-! ## Marks in the text -/

def markWords : List String := ["ClassVar", "typing.ClassVar", "Final", "typing.Final"]

theorem Unmarked.not_prefix {text : List Char} {word : String} (known : word ∈ markWords)
    (h : Unmarked text) : ¬word.toList <+: text := by
  rintro ⟨rest, rfl⟩
  simp only [markWords, List.mem_cons, List.not_mem_nil, or_false] at known
  rcases known with rfl | rfl | rfl | rfl <;> simp [Unmarked] at h

theorem prefix_of_append {word name rest : List Char} (stop : ∀ c ∈ rest.head?, c ∉ word)
    (h : word <+: name ++ rest) : word <+: name := by
  rcases List.prefix_or_prefix_of_prefix h (List.prefix_append name rest) with short | long
  · exact short
  · obtain ⟨more, rfl⟩ := long
    cases more with
    | nil => simp
    | cons c more =>
        obtain ⟨later, rfl⟩ := (List.prefix_append_right_inj name).mp h
        exact absurd (by simp) (stop c rfl)

theorem Fronted.prefix_iff {front : Option String} {longer : Prop} {text : List Char}
    {word : String} (known : word ∈ markWords) (h : Fronted front longer text) :
    word.toList <+: text ↔ ∃ name, front = some name ∧ word.toList <+: name.toList := by
  cases front with
  | none => simpa using h.not_prefix known
  | some name =>
      obtain ⟨rest, rfl, breaks, -⟩ := h
      have apart : ∀ w ∈ markWords, ∀ c ∈ [' ', '(', '[', ':'], c ∉ w.toList := by simp [markWords]
      simp only [Option.some.injEq, exists_eq_left']
      refine ⟨prefix_of_append fun c hc => apart word known c (breaks c hc), fun starts => ?_⟩
      exact starts.trans (List.prefix_append _ _)

theorem startsWith_iff {text : String} {word : String} :
    startsWith text.toList word.toList = true ↔ word.toList <+: text.toList :=
  List.isPrefixOf_iff_prefix

theorem startsWithMark_iff {mark text : String} :
    startsWithMark mark text = true ↔
      mark.toList <+: text.toList ∨ ("typing." ++ mark).toList <+: text.toList := by
  simp only [startsWithMark, Bool.or_eq_true, startsWith_iff]

theorem Expr.startsWithMark_text {e : Expr} {text mark : String}
    (known : mark ∈ ["ClassVar", "Final"]) (h : e.text = .ok text) :
    startsWithMark mark text = e.leads mark := by
  have fronted := e.write_fronted le_rfl h
  have words : mark ∈ markWords ∧ "typing." ++ mark ∈ markWords := by
    have all : ∀ m ∈ ["ClassVar", "Final"], m ∈ markWords ∧ "typing." ++ m ∈ markWords := by decide
    exact all mark known
  rw [Bool.eq_iff_iff, leads, Option.any_eq_true]
  simp only [startsWithMark_iff, fronted.prefix_iff words.1, fronted.prefix_iff words.2]
  constructor
  · rintro (⟨name, front, starts⟩ | ⟨name, front, starts⟩)
    · exact ⟨name, front, .inl starts⟩
    · exact ⟨name, front, .inr starts⟩
  · rintro ⟨name, front, starts | starts⟩
    · exact .inl ⟨name, front, starts⟩
    · exact .inr ⟨name, front, starts⟩

theorem Expr.dotted?_of_isMarkName {e : Expr} {mark : String} (h : e.isMarkName mark) :
    e.dotted? = some mark ∨ e.dotted? = some ("typing." ++ mark) := by
  unfold isMarkName at h
  split at h
  · exact .inl (by rw [dotted?, of_decide_eq_true h])
  · simp only [Bool.and_eq_true, decide_eq_true_eq] at h
    obtain ⟨rfl, rfl⟩ := h
    exact .inr rfl
  · cases h

def Expr.declaredText (e : Expr) : Written :=
  match e.inside? "Final" with
  | some inner => indexText inner
  | none => e.text

theorem withoutFinal_of_find {lead inner : String}
    (found : ["typing.Final[", "Final["].find?
      (fun l => startsWith (lead ++ inner ++ "]").toList l.toList) = some lead) :
    withoutFinal (lead ++ inner ++ "]") = inner := by
  have split : (lead ++ inner ++ "]").toList = lead.toList ++ (inner.toList ++ [']']) := by simp
  have closed : endsWith (lead ++ inner ++ "]").toList [']'] = true := by
    rw [split, ← List.append_assoc, endsWith, List.isSuffixOf_iff_suffix]
    exact List.suffix_append _ _
  simp only [withoutFinal, found, closed, if_true]
  rw [split, List.drop_left' String.length_toList, List.dropLast_concat, String.ofList_toList]

theorem withoutFinal_inside {lead inner : String} (known : lead = "Final" ∨ lead = "typing.Final") :
    withoutFinal (lead ++ "[" ++ inner ++ "]") = inner := by
  refine withoutFinal_of_find ?_
  rcases known with rfl | rfl <;> simp [startsWith]

theorem withoutFinal_whole {text : String}
    (h : ∀ lead ∈ ["typing.Final[", "Final["], ¬lead.toList <+: text.toList) :
    withoutFinal text = text := by
  have missing : ["typing.Final[", "Final["].find?
      (fun lead => startsWith text.toList lead.toList) = none :=
    List.find?_eq_none.mpr fun lead hl => by simpa [startsWith_iff] using h lead hl
  simp only [withoutFinal, missing]

theorem withoutFinal_of_unmarked {text : String} (h : startsWithMark "Final" text = false) :
    withoutFinal text = text := by
  have parts : ∀ lead ∈ ["typing.Final[", "Final["],
      "Final".toList <+: lead.toList ∨ ("typing." ++ "Final").toList <+: lead.toList := by decide
  refine withoutFinal_whole fun lead hl starts => ?_
  refine Bool.eq_false_iff.mp h (startsWithMark_iff.mpr ?_)
  exact (parts lead hl).imp (·.trans starts) (·.trans starts)

theorem Expr.declaredText_inside {value inner : Expr} {text : String}
    (named : value.isMarkName "Final") (h : (Expr.subscript value inner).text = .ok text) :
    indexText inner = .ok (withoutFinal text) := by
  rw [Expr.text, write_subscript] at h
  obtain ⟨front, written, h⟩ := bind_eq_ok.mp h
  obtain ⟨innerText, inside, h⟩ := bind_eq_ok.mp h
  cases h
  have known : front = "Final" ∨ front = "typing.Final" := by
    rcases dotted?_of_isMarkName named with dotted | dotted
    all_goals
      rw [write_dotted dotted] at written
      cases written
    · exact .inl rfl
    · exact .inr rfl
  rw [withoutFinal_inside known, inside]

theorem Expr.inside?_eq_some {e inner : Expr} {mark : String} :
    e.inside? mark = some inner ↔ ∃ value, e = .subscript value inner ∧ value.isMarkName mark := by
  cases e with
  | subscript value index =>
      by_cases named : value.isMarkName mark = true <;> simp [inside?, named]
  | _ => simp [inside?]

theorem Expr.isMarkName_of_isMark {e : Expr} {mark : String} (h : e.isMark mark)
    (bare : e.inside? mark = none) : e.isMarkName mark := by
  cases e with
  | subscript value index =>
      have inside : (subscript value index).inside? mark = some index :=
        inside?_eq_some.mpr ⟨value, rfl, h⟩
      cases bare.symm.trans inside
  | _ => exact h

theorem Expr.withoutFinal_of_isMarkName {e : Expr} {text : String} (named : e.isMarkName "Final")
    (h : e.text = .ok text) : withoutFinal text = text := by
  rcases dotted?_of_isMarkName named with dotted | dotted
  all_goals
    rw [Expr.text, write_dotted dotted] at h
    cases h
    exact withoutFinal_whole (by decide)

/-- Where only marks look like marks, a type is declared by the text inside of `Final`. -/
theorem Expr.declaredText_eq {e : Expr} {text : String} (h : e.text = .ok text)
    (plain : e.leads "Final" = true → e.isMark "Final" = true) :
    e.declaredText = .ok (withoutFinal text) := by
  unfold declaredText
  cases within : e.inside? "Final" with
  | some inner =>
      obtain ⟨value, rfl, named⟩ := inside?_eq_some.mp within
      exact declaredText_inside named h
  | none =>
      cases leading : e.leads "Final" with
      | false =>
          rw [← startsWithMark_text (by decide) h] at leading
          rw [withoutFinal_of_unmarked leading]
          exact h
      | true =>
          have named := isMarkName_of_isMark (plain leading) within
          rw [withoutFinal_of_isMarkName named h]
          exact h

theorem Expr.front?_of_dotted {e : Expr} {dotted : String} {level : Precedence}
    (h : e.dotted? = some dotted) : e.front? level = some dotted := by
  cases e with
  | name id => exact h
  | member value part =>
      obtain ⟨front, found, rfl⟩ := Option.map_eq_some_iff.mp h
      rw [front?, found]
  | _ => cases h

theorem Expr.any_front?_of_isMarkName {e : Expr} {mark : String} {level : Precedence}
    (h : e.isMarkName mark) : (e.front? level).any (startsWithMark mark) = true := by
  rcases dotted?_of_isMarkName h with dotted | dotted
  · rw [front?_of_dotted dotted, Option.any_some, startsWithMark_iff]
    exact .inl List.prefix_rfl
  · rw [front?_of_dotted dotted, Option.any_some, startsWithMark_iff]
    exact .inr List.prefix_rfl

theorem Expr.leads_of_isMark {e : Expr} {mark : String} (h : e.isMark mark) : e.leads mark := by
  cases e with
  | subscript value index =>
      rw [leads, front?]
      exact any_front?_of_isMarkName h
  | _ => exact any_front?_of_isMarkName h

/-- A union that begins with a mark looks like one and is none. -/
example (e : Expr) :
    (Expr.binary .bitOr (.subscript (.name "Final") (.name "int")) e).leads "Final" = true ∧
      (Expr.binary .bitOr (.subscript (.name "Final") (.name "int")) e).isMark "Final" = false :=
  ⟨rfl, rfl⟩

end TacticalDesign.Source
