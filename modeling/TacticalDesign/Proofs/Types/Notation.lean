import Mathlib.Data.List.TakeWhile
import TacticalDesign.Proofs.Order
import TacticalDesign.TypeReference
/-!
# The notation of types

Types are written as dotted names, with type arguments in square or angle brackets, with array
suffixes, and as unions. Reading the text of a type finds its names in their order, each of them
whole, and an array suffix where the type has one.
-/

namespace TacticalDesign

open Text

/-! ## Names -/

def isAsciiNameChar (c : Char) : Bool := isAsciiLetter c || isAsciiDigit c || c = '_'

structure AsciiName where
  first : Char
  rest : List Char
  first_starts : (isAsciiLetter first || first = '_') = true
  rest_named : ∀ c ∈ rest, isAsciiNameChar c = true

structure DottedName where
  qualifiers : List AsciiName
  last : AsciiName

inductive TypeNotation where
  | named (name : DottedName)
  /-- A type with arguments, of which there is at least one. -/
  | applied (head : DottedName) (isAngled : Bool) (argument : TypeNotation)
      (more : List TypeNotation)
  | array (item : TypeNotation)
  | union (left right : TypeNotation)

namespace AsciiName

def chars (n : AsciiName) : List Char := n.first :: n.rest

end AsciiName

namespace DottedName

def chars (n : DottedName) : List Char :=
  n.qualifiers.flatMap (fun q => q.chars ++ ['.']) ++ n.last.chars

def text (n : DottedName) : String := String.ofList n.chars

def simple (n : DottedName) : String := String.ofList (n.last.chars.map lowerAscii)

def isCollection (n : DottedName) : Bool := n.simple ∈ collectionTypes

def isOther (n : DottedName) : Bool :=
  !n.isCollection && !(n.simple ∈ wrapperTypes) && !(n.simple ∈ primitiveTypes)

end DottedName

namespace TypeNotation

def opening (isAngled : Bool) : Char := if isAngled then '<' else '['

def closing (isAngled : Bool) : Char := if isAngled then '>' else ']'

mutual

def chars : TypeNotation → List Char
  | named n => n.chars
  | applied head isAngled argument more =>
    head.chars ++ opening isAngled :: (argument.chars ++ moreChars more ++ [closing isAngled])
  | array item => item.chars ++ ['[', ']']
  | union left right => left.chars ++ ' ' :: '|' :: ' ' :: right.chars

def moreChars : List TypeNotation → List Char
  | [] => []
  | t :: rest => ',' :: ' ' :: (t.chars ++ moreChars rest)

end

def text (t : TypeNotation) : String := String.ofList t.chars

mutual

def names : TypeNotation → List DottedName
  | named n => [n]
  | applied head _ argument more => head :: (argument.names ++ moreNames more)
  | array item => item.names
  | union left right => left.names ++ right.names

def moreNames : List TypeNotation → List DottedName
  | [] => []
  | t :: rest => t.names ++ moreNames rest

end

mutual

def hasArray : TypeNotation → Bool
  | named _ => false
  | applied _ _ argument more => argument.hasArray || moreHaveArray more
  | array _ => true
  | union left right => left.hasArray || right.hasArray

def moreHaveArray : List TypeNotation → Bool
  | [] => false
  | t :: rest => t.hasArray || moreHaveArray rest

end

end TypeNotation

/-! ## Characters of names -/

theorem toNat_of_isAsciiNameChar {c : Char} (h : isAsciiNameChar c = true) : c.toNat < 128 := by
  simp only [isAsciiNameChar, isAsciiLetter, isAsciiUpper, isAsciiLower, isAsciiDigit,
    Bool.or_eq_true, Bool.and_eq_true, decide_eq_true_eq] at h
  rcases h with ((⟨-, h⟩ | ⟨-, h⟩) | ⟨-, h⟩) | rfl
  · exact lt_of_le_of_lt h (by decide)
  · exact lt_of_le_of_lt h (by decide)
  · exact lt_of_le_of_lt h (by decide)
  · decide

namespace TypeText

theorem isPart_of_isAsciiNameChar {c : Char} (h : isAsciiNameChar c = true) : isPart c = true := by
  have ascii := toNat_of_isAsciiNameChar h
  simp only [isAsciiNameChar, Bool.or_eq_true, decide_eq_true_eq] at h
  simp only [isPart, isWordChar, isAlphanumeric, ascii, if_true, Bool.or_eq_true,
    decide_eq_true_eq]
  tauto

theorem isPart_of_isStart {c : Char} (h : isStart c = true) : isPart c = true := by
  apply isPart_of_isAsciiNameChar
  simp only [isStart, Bool.or_eq_true, decide_eq_true_eq] at h
  simp only [isAsciiNameChar, Bool.or_eq_true, decide_eq_true_eq]
  tauto

end TypeText

namespace Text

theorem lowerAfter_of_ascii {cs : List Char} (ascii : ∀ c ∈ cs, c.toNat < 128)
    (before : List Char) : lowerAfter before cs = cs.map lowerAscii := by
  induction cs generalizing before with
  | nil => rfl
  | cons c cs ih =>
      obtain ⟨here, behind⟩ := List.forall_mem_cons.mp ascii
      rw [lowerAfter, ih behind, List.map_cons]
      -- the two capitals with a lowercase of their own are beyond ASCII
      split
      · rename_i dotted
        exact absurd (dotted ▸ here) (by decide)
      · split
        · rename_i sigma
          exact absurd (sigma ▸ here) (by decide)
        · rw [lowerChar, if_pos here, lowerAscii, List.singleton_append]

end Text

namespace AsciiName

theorem named (n : AsciiName) : ∀ c ∈ n.chars, isAsciiNameChar c = true := by
  intro c hc
  rcases List.mem_cons.mp hc with rfl | hc
  · have starts := n.first_starts
    simp only [Bool.or_eq_true, decide_eq_true_eq] at starts
    simp only [isAsciiNameChar, Bool.or_eq_true, decide_eq_true_eq]
    tauto
  · exact n.rest_named c hc

theorem undotted (n : AsciiName) : '.' ∉ n.chars := fun h => absurd (n.named '.' h) (by decide)

end AsciiName

namespace DottedName

/-- The characters of a dotted name: one that starts an identifier, then some that may follow. -/
theorem exists_chars (n : DottedName) :
    ∃ c cs, n.chars = c :: cs ∧ TypeText.isStart c = true ∧ ∀ d ∈ cs, TypeText.isPart d = true := by
  have parts : ∀ d ∈ n.chars, TypeText.isPart d = true := by
    intro d hd
    rcases List.mem_append.mp hd with hd | hd
    · obtain ⟨q, -, hd⟩ := List.mem_flatMap.mp hd
      rcases List.mem_append.mp hd with hd | hd
      · exact TypeText.isPart_of_isAsciiNameChar (q.named d hd)
      · obtain rfl := List.mem_singleton.mp hd
        decide
    · exact TypeText.isPart_of_isAsciiNameChar (n.last.named d hd)
  obtain ⟨q, cs, split⟩ : ∃ (q : AsciiName) (cs : List Char), n.chars = q.first :: cs := by
    obtain ⟨qualifiers, last⟩ := n
    cases qualifiers with
    | nil => exact ⟨last, last.rest, rfl⟩
    | cons q rest => exact ⟨q, _, rfl⟩
  refine ⟨q.first, cs, split, q.first_starts, fun d hd => parts d ?_⟩
  rw [split]
  exact List.mem_cons_of_mem _ hd

theorem lowerSimple_text (n : DottedName) : TypeText.lowerSimple n.text = n.simple := by
  have ends : n.qualifiers.flatMap (fun q => q.chars ++ ['.']) = [] ∨
      ∃ before, n.qualifiers.flatMap (fun q => q.chars ++ ['.']) = before ++ ['.'] := by
    rcases List.eq_nil_or_concat' n.qualifiers with none | ⟨front, q, some⟩
    · exact .inl (by rw [none]; rfl)
    · refine .inr ⟨front.flatMap (fun q => q.chars ++ ['.']) ++ q.chars, ?_⟩
      simp [some]
  have ascii : ∀ c ∈ n.last.chars, c.toNat < 128 := fun c hc =>
    toNat_of_isAsciiNameChar (n.last.named c hc)
  rw [TypeText.lowerSimple, SymbolGraph.simpleName, text, String.toList_ofList, chars,
    afterLast_append n.last.undotted ends, lower, String.toList_ofList,
    lowerAfter_of_ascii ascii, simple]

theorem isOrdinary_text (n : DottedName) : TypeText.isOrdinary n.text = n.isOther := by
  rw [TypeText.isOrdinary, lowerSimple_text]
  rfl

end DottedName

/-! ## Reading names -/

namespace TypeText

/-- What stands behind an identifier and does not belong to it. -/
def Stops (rest : List Char) : Prop := ∀ c ∈ rest.head?, isPart c = false

theorem stops_cons {c : Char} (h : isPart c = false) (rest : List Char) : Stops (c :: rest) := by
  intro d hd
  obtain rfl : c = d := Option.some.inj hd
  exact h

theorem scan_start (c : Char) (rest : List Char) :
    scan [] (c :: rest) = if isStart c then scan [c] rest else scan [] rest := rfl

theorem scan_reading {current : List Char} (reading : current ≠ []) (c : Char)
    (rest : List Char) :
    scan current (c :: rest) =
      if isPart c then scan (c :: current) rest else current.reverse :: scan [] rest := by
  obtain ⟨d, ds, rfl⟩ := List.exists_cons_of_ne_nil reading
  rfl

theorem scan_delimiter {c : Char} (h : isPart c = false) (rest : List Char) :
    scan [] (c :: rest) = scan [] rest := by
  have noStart : isStart c = false := by
    cases start : isStart c with
    | false => rfl
    | true => exact absurd (isPart_of_isStart start) (by simp [h])
  rw [scan_start, noStart]
  rfl

theorem scan_parts {parts : List Char} (all : ∀ c ∈ parts, isPart c = true)
    {current : List Char} (reading : current ≠ []) (rest : List Char) :
    scan current (parts ++ rest) = scan (parts.reverse ++ current) rest := by
  induction parts generalizing current with
  | nil => rfl
  | cons c parts ih =>
      obtain ⟨here, behind⟩ := List.forall_mem_cons.mp all
      rw [List.cons_append, scan_reading reading, here, List.reverse_cons, List.append_assoc]
      exact ih behind (List.cons_ne_nil c current)

theorem scan_stop {rest : List Char} (stop : Stops rest) {current : List Char}
    (reading : current ≠ []) : scan current rest = current.reverse :: scan [] rest := by
  cases rest with
  | nil =>
      obtain ⟨d, ds, rfl⟩ := List.exists_cons_of_ne_nil reading
      rfl
  | cons c rest =>
      have other : isPart c = false := stop c rfl
      rw [scan_reading reading, other, scan_delimiter other]
      rfl

theorem scan_name (n : DottedName) {rest : List Char} (stop : Stops rest) :
    scan [] (n.chars ++ rest) = n.chars :: scan [] rest := by
  obtain ⟨c, cs, split, start, parts⟩ := n.exists_chars
  have first : scan [] (c :: (cs ++ rest)) = scan [c] (cs ++ rest) := by
    rw [scan_start, start]
    rfl
  rw [split, List.cons_append, first, scan_parts parts (List.cons_ne_nil c []),
    scan_stop stop (by simp)]
  simp

end TypeText

namespace TypeNotation

open TypeText

section Behind

variable (rest : List Char)

theorem chars_applied (head : DottedName) (isAngled : Bool) (argument : TypeNotation)
    (more : List TypeNotation) :
    (applied head isAngled argument more).chars ++ rest =
      head.chars ++ opening isAngled :: (argument.chars ++
        (moreChars more ++ closing isAngled :: rest)) := by
  show (head.chars ++ opening isAngled :: (argument.chars ++ moreChars more ++
    [closing isAngled])) ++ rest = _
  simp

theorem chars_array (item : TypeNotation) :
    (array item).chars ++ rest = item.chars ++ '[' :: ']' :: rest :=
  List.append_assoc item.chars ['[', ']'] rest

theorem chars_union (left right : TypeNotation) :
    (union left right).chars ++ rest =
      left.chars ++ ' ' :: '|' :: ' ' :: (right.chars ++ rest) :=
  List.append_assoc left.chars (' ' :: '|' :: ' ' :: right.chars) rest

theorem moreChars_cons (t : TypeNotation) (ts : List TypeNotation) :
    moreChars (t :: ts) ++ rest = ',' :: ' ' :: (t.chars ++ (moreChars ts ++ rest)) := by
  show (',' :: ' ' :: (t.chars ++ moreChars ts)) ++ rest = _
  simp

end Behind

theorem isPart_opening (isAngled : Bool) : isPart (opening isAngled) = false := by
  cases isAngled <;> decide

theorem isPart_closing (isAngled : Bool) : isPart (closing isAngled) = false := by
  cases isAngled <;> decide

theorem stops_moreChars (ts : List TypeNotation) {rest : List Char} (stop : Stops rest) :
    Stops (moreChars ts ++ rest) := by
  cases ts with
  | nil => exact stop
  | cons t ts => exact stops_cons (by decide) _

mutual

theorem scan_chars (t : TypeNotation) {rest : List Char} (stop : Stops rest) :
    scan [] (t.chars ++ rest) = t.names.map (·.chars) ++ scan [] rest := by
  cases t with
  | named n => exact scan_name n stop
  | applied head isAngled argument more =>
      have close := isPart_closing isAngled
      rw [chars_applied, scan_name head (stops_cons (isPart_opening isAngled) _),
        scan_delimiter (isPart_opening isAngled),
        scan_chars argument (stops_moreChars more (stops_cons close rest)),
        scan_moreChars more (stops_cons close rest), scan_delimiter close, names]
      simp
  | array item =>
      rw [chars_array, scan_chars item (stops_cons (by decide) _), scan_delimiter (by decide),
        scan_delimiter (by decide), names]
  | union left right =>
      rw [chars_union, scan_chars left (stops_cons (by decide) _), scan_delimiter (by decide),
        scan_delimiter (by decide), scan_delimiter (by decide), scan_chars right stop, names]
      simp

theorem scan_moreChars (ts : List TypeNotation) {rest : List Char} (stop : Stops rest) :
    scan [] (moreChars ts ++ rest) = (moreNames ts).map (·.chars) ++ scan [] rest := by
  cases ts with
  | nil => rfl
  | cons t ts =>
      rw [moreChars_cons, scan_delimiter (by decide), scan_delimiter (by decide),
        scan_chars t (stops_moreChars ts stop), scan_moreChars ts stop, moreNames]
      simp

end

theorem identifiers_text (t : TypeNotation) :
    identifiers t.text = t.names.map (·.text) := by
  have whole : scan [] (t.chars ++ []) = t.names.map (·.chars) ++ scan [] [] := scan_chars t nofun
  have nothing : scan [] [] = [] := rfl
  rw [List.append_nil, nothing, List.append_nil] at whole
  rw [identifiers, text, String.toList_ofList, whole, List.map_map]
  rfl

/-! ## Reading array suffixes -/

theorem isInfix_cons (part : List Char) (c : Char) (rest : List Char) :
    isInfix part (c :: rest) = (part.isPrefixOf (c :: rest) || isInfix part rest) := rfl

theorem isInfix_skip (cs : List Char) (other : ∀ c ∈ cs, c ≠ '[') (rest : List Char) :
    isInfix ['[', ']'] (cs ++ rest) = isInfix ['[', ']'] rest := by
  induction cs with
  | nil => rfl
  | cons c cs ih =>
      obtain ⟨here, behind⟩ := List.forall_mem_cons.mp other
      rw [List.cons_append, isInfix_cons, ih behind]
      simp [Ne.symm here]

theorem isInfix_open {rest : List Char} (filled : ∀ c ∈ rest.head?, c ≠ ']') :
    isInfix ['[', ']'] ('[' :: rest) = isInfix ['[', ']'] rest := by
  rw [isInfix_cons]
  cases rest with
  | nil => rfl
  | cons c rest => simp [Ne.symm (filled c rfl)]

theorem name_unbracketed (n : DottedName) : ∀ c ∈ n.chars, c ≠ '[' := by
  rintro c hc rfl
  obtain ⟨d, ds, split, start, parts⟩ := n.exists_chars
  rw [split] at hc
  rcases List.mem_cons.mp hc with rfl | hc
  · exact absurd start (by decide)
  · exact absurd (parts _ hc) (by decide)

theorem head_chars (t : TypeNotation) (rest : List Char) :
    ∃ c cs, t.chars ++ rest = c :: cs ∧ isStart c = true := by
  cases t with
  | named n =>
      obtain ⟨c, cs, split, start, -⟩ := n.exists_chars
      exact ⟨c, cs ++ rest, by rw [chars, split]; rfl, start⟩
  | applied head isAngled argument more =>
      obtain ⟨c, cs, split, start, -⟩ := head.exists_chars
      rw [chars_applied, split]
      exact ⟨c, _, rfl, start⟩
  | array item =>
      rw [chars_array]
      exact head_chars item _
  | union left right =>
      rw [chars_union]
      exact head_chars left _

theorem isInfix_bracketed (t : TypeNotation) (rest : List Char) :
    isInfix ['[', ']'] ('[' :: (t.chars ++ rest)) = isInfix ['[', ']'] (t.chars ++ rest) := by
  obtain ⟨c, cs, split, start⟩ := head_chars t rest
  rw [split]
  apply isInfix_open
  rintro d hd rfl
  obtain rfl : c = ']' := Option.some.inj hd
  exact absurd start (by decide)

mutual

theorem isInfix_chars (t : TypeNotation) (rest : List Char) :
    isInfix ['[', ']'] (t.chars ++ rest) = (t.hasArray || isInfix ['[', ']'] rest) := by
  cases t with
  | named n => exact isInfix_skip _ (name_unbracketed n) rest
  | applied head isAngled argument more =>
      have opened : isInfix ['[', ']'] (opening isAngled :: (argument.chars ++
          (moreChars more ++ closing isAngled :: rest))) =
          isInfix ['[', ']'] (argument.chars ++ (moreChars more ++ closing isAngled :: rest)) := by
        cases isAngled with
        | true => exact isInfix_skip ['<'] (by simp) _
        | false => exact isInfix_bracketed argument _
      have closed : isInfix ['[', ']'] (closing isAngled :: rest) = isInfix ['[', ']'] rest :=
        isInfix_skip [closing isAngled] (by cases isAngled <;> simp [closing]) rest
      rw [chars_applied, isInfix_skip _ (name_unbracketed head), opened, isInfix_chars argument,
        isInfix_moreChars more, closed, hasArray, Bool.or_assoc]
  | array item =>
      rw [chars_array, isInfix_chars item, isInfix_cons, hasArray]
      simp
  | union left right =>
      have between : isInfix ['[', ']'] ([' ', '|', ' '] ++ (right.chars ++ rest)) =
          isInfix ['[', ']'] (right.chars ++ rest) := isInfix_skip _ (by simp) _
      rw [chars_union, isInfix_chars left, hasArray, Bool.or_assoc, ← isInfix_chars right,
        ← between]
      rfl

theorem isInfix_moreChars (ts : List TypeNotation) (rest : List Char) :
    isInfix ['[', ']'] (moreChars ts ++ rest) =
      (moreHaveArray ts || isInfix ['[', ']'] rest) := by
  cases ts with
  | nil => rfl
  | cons t ts =>
      have lead : isInfix ['[', ']'] ([',', ' '] ++ (t.chars ++ (moreChars ts ++ rest))) =
          isInfix ['[', ']'] (t.chars ++ (moreChars ts ++ rest)) := isInfix_skip _ (by simp) _
      rw [moreChars_cons, moreHaveArray, Bool.or_assoc, ← isInfix_moreChars ts,
        ← isInfix_chars t, ← lead]
      rfl

end

theorem hasArraySuffix_text (t : TypeNotation) : hasArraySuffix t.text = t.hasArray := by
  have whole := isInfix_chars t []
  rw [List.append_nil] at whole
  rw [hasArraySuffix, text, String.toList_ofList, whole]
  exact Bool.or_false _

end TypeNotation

/-! ## What the text of a type mentions -/

theorem TypeNotation.any_collection (t : TypeNotation) :
    (TypeText.identifiers t.text).any (fun i => TypeText.lowerSimple i ∈ collectionTypes) =
      t.names.any (·.isCollection) := by
  have same : (fun i => decide (TypeText.lowerSimple i ∈ collectionTypes)) ∘ DottedName.text =
      DottedName.isCollection := by
    funext n
    rw [Function.comp_apply, n.lowerSimple_text, DottedName.isCollection]
  rw [t.identifiers_text, List.any_map, same]

theorem TypeNotation.ordinary_names (t : TypeNotation) :
    (TypeText.identifiers t.text).filter TypeText.isOrdinary =
      (t.names.filter (·.isOther)).map (·.text) := by
  have same : TypeText.isOrdinary ∘ DottedName.text = DottedName.isOther := by
    funext n
    rw [Function.comp_apply, n.isOrdinary_text]
  rw [t.identifiers_text, List.filter_map, same]

/-- The text of a type mentions each of its names that is no collection, wrapper or primitive once,
in the order of first appearance, and it means many where the type has an array suffix or names a
collection. -/
theorem TypeReference.of_notation (t : TypeNotation) :
    (TypeReference.of (some t.text)).names =
        ((t.names.filter (·.isOther)).map (·.text)).eraseDups ∧
      (TypeReference.of (some t.text)).cardinality =
        if t.hasArray = true ∨ ∃ n ∈ t.names, n.isCollection = true then .many else .one := by
  constructor
  · rw [of, ofText, t.ordinary_names, firstOccurrences_eq_eraseDups]
  · have same : (t.hasArray || t.names.any (·.isCollection)) = true ↔
        t.hasArray = true ∨ ∃ n ∈ t.names, n.isCollection = true := by
      rw [Bool.or_eq_true, List.any_eq_true]
    simp only [of, ofText, t.hasArraySuffix_text, t.any_collection, same]

/-- A qualified name, a map of unions, and an array of generic types. -/
example :
    TypeReference.of (some "dict[str, shop.Order | None]") = ⟨["shop.Order"], .many⟩ ∧
      TypeReference.of (some "Optional<Money>") = ⟨["Money"], .one⟩ ∧
      TypeReference.of (some "Box<Item>[]") = ⟨["Box", "Item"], .many⟩ := by
  decide

end TacticalDesign
