import Mathlib.Data.List.Induction
import Mathlib.Data.List.Nodup
import Mathlib.Data.String.Basic
import TacticalDesign.Ordering
/-!
# Sorting by a key, and repeats

Sorting by a text with `textLe` puts items in ascending order, strictly so when no text repeats.
Sorting by any key leaves those with one key in their order. Lists of texts are ordered by
`textsLe`. `firstOccurrences` keeps the members of a list, and `dropRepeats` drops no more the
second time.
-/

namespace TacticalDesign

theorem textLe_iff {a b : String} : textLe a b = true ↔ a ≤ b := by
  simp [textLe]

theorem textLe_trans (a b c : String) (hab : textLe a b = true) (hbc : textLe b c = true) :
    textLe a c = true :=
  textLe_iff.mpr (String.le_trans (textLe_iff.mp hab) (textLe_iff.mp hbc))

theorem textLe_total (a b : String) : (textLe a b || textLe b a) = true := by
  rw [Bool.or_eq_true, textLe_iff, textLe_iff]
  exact String.le_total a b

theorem lt_of_textLe_of_ne {a b : String} (h : textLe a b = true) (hne : a ≠ b) : a < b := by
  refine String.not_le.mp fun hba => hne ?_
  exact String.le_antisymm (textLe_iff.mp h) hba

theorem lt_or_lt_of_ne {a b : String} (h : a ≠ b) : a < b ∨ b < a := by
  rcases String.le_total a b with hab | hba
  · exact Or.inl (lt_of_textLe_of_ne (textLe_iff.mpr hab) h)
  · exact Or.inr (lt_of_textLe_of_ne (textLe_iff.mpr hba) (Ne.symm h))

theorem nodup_of_ascend {α : Type} (key : α → String) {items : List α}
    (ascend : items.Pairwise fun a b => key a < key b) : items.Nodup := by
  refine ascend.imp ?_
  intro a b h e
  exact String.lt_irrefl (key a) (e ▸ h)

theorem sorted_mergeSort_key {α : Type} (key : α → String) (items : List α) :
    (items.mergeSort fun a b => textLe (key a) (key b)).Pairwise
      fun a b => textLe (key a) (key b) = true :=
  List.pairwise_mergeSort (fun a b c => textLe_trans (key a) (key b) (key c))
    (fun a b => textLe_total (key a) (key b)) items

theorem ascend_mergeSort {α : Type} (key : α → String) {items : List α}
    (distinct : (items.map key).Nodup) :
    (items.mergeSort fun a b => textLe (key a) (key b)).Pairwise fun a b => key a < key b := by
  have sorted := sorted_mergeSort_key key items
  have nodup : ((items.mergeSort fun a b => textLe (key a) (key b)).map key).Nodup :=
    ((List.mergeSort_perm items _).map key).nodup_iff.mpr distinct
  refine (sorted.and (List.pairwise_map.mp nodup)).imp ?_
  intro a b h
  exact lt_of_textLe_of_ne h.1 h.2

theorem eq_of_ascend {α : Type} (key : α → String) {a b : List α}
    (ha : a.Pairwise fun x y => key x < key y) (hb : b.Pairwise fun x y => key x < key y)
    (same : ∀ x, x ∈ a ↔ x ∈ b) : a = b := by
  apply List.Perm.eq_of_pairwise _ ha hb
  · exact (List.perm_ext_iff_of_nodup (nodup_of_ascend key ha) (nodup_of_ascend key hb)).mpr same
  · intro x y _ _ h k
    exact absurd k (String.lt_asymm h)

theorem mergeSort_eq_of_perm {α : Type} (key : α → String) {items items' : List α}
    (perm : items'.Perm items) (distinct : (items.map key).Nodup) :
    (items'.mergeSort fun a b => textLe (key a) (key b)) =
      items.mergeSort fun a b => textLe (key a) (key b) := by
  have distinct' : (items'.map key).Nodup := (perm.map key).nodup_iff.mpr distinct
  apply eq_of_ascend key (ascend_mergeSort key distinct') (ascend_mergeSort key distinct)
  intro a
  rw [List.mem_mergeSort, List.mem_mergeSort, perm.mem_iff]

theorem filter_key_eq_singleton {α : Type} (key : α → String) {items : List α}
    (distinct : (items.map key).Nodup) {a : α} (ha : a ∈ items) :
    items.filter (fun b => key b = key a) = [a] := by
  induction items with
  | nil => cases ha
  | cons b rest ih =>
      obtain ⟨fresh, distinct'⟩ := List.nodup_cons.mp (List.map_cons ▸ distinct)
      rcases List.mem_cons.mp ha with rfl | hr
      · have others : rest.filter (fun b => key b = key a) = [] := by
          refine List.filter_eq_nil_iff.mpr fun b hb => ?_
          simp only [decide_eq_true_eq]
          exact fun e => fresh (e ▸ List.mem_map_of_mem hb)
        rw [List.filter_cons_of_pos (by simp), others]
      · have hne : key b ≠ key a := fun e => fresh (e ▸ List.mem_map_of_mem hr)
        rw [List.filter_cons_of_neg (by simpa using hne), ih distinct' hr]

theorem find?_key_iff {α κ : Type} [BEq κ] [LawfulBEq κ] (key : α → κ) {items : List α}
    (distinct : (items.map key).Nodup) {k : κ} {a : α} :
    items.find? (key · == k) = some a ↔ a ∈ items ∧ key a = k := by
  constructor
  · intro h
    exact ⟨List.mem_of_find?_eq_some h, by simpa using List.find?_some h⟩
  · rintro ⟨ha, rfl⟩
    obtain ⟨b, hb⟩ := Option.isSome_iff_exists.mp
      (List.find?_isSome (p := (key · == key a)).mpr ⟨a, ha, by simp⟩)
    have same : key b = key a := by simpa using List.find?_some hb
    rw [hb, List.inj_on_of_nodup_map distinct (List.mem_of_find?_eq_some hb) ha same]

/-! ## Sorting by a key keeps the order of what has one key -/

section Stable

variable {α β κ : Type} [LinearOrder κ] (key : α → κ) {a b : List α}

theorem sorted_mergeSort (items : List α) :
    (items.mergeSort fun x y => decide (key x ≤ key y)).Pairwise fun x y => key x ≤ key y := by
  refine (List.pairwise_mergeSort ?_ ?_ items).imp of_decide_eq_true
  · intro x y z hxy hyz
    exact decide_eq_true ((of_decide_eq_true hxy).trans (of_decide_eq_true hyz))
  · intro x y
    simpa using le_total (key x) (key y)

theorem filter_mergeSort (items : List α) (k : κ) :
    (items.mergeSort fun x y => decide (key x ≤ key y)).filter (key · = k) =
      items.filter (key · = k) := by
  have alike : ∀ x ∈ items.filter (key · = k), key x = k :=
    fun x hx => of_decide_eq_true (List.mem_filter.mp hx).2
  have level : (items.filter (key · = k)).Pairwise fun x y => decide (key x ≤ key y) = true := by
    apply List.pairwise_of_forall_mem_list
    intro x hx y hy
    rw [alike x hx, alike y hy]
    exact decide_eq_true le_rfl
  have inside := (List.sublist_mergeSort
    (fun x y z hxy hyz => decide_eq_true ((of_decide_eq_true hxy).trans (of_decide_eq_true hyz)))
    (fun x y => by simpa using le_total (key x) (key y)) level
    List.filter_sublist).filter (key · = k)
  rw [List.filter_eq_self.mpr fun x hx => decide_eq_true (alike x hx)] at inside
  have length := ((List.mergeSort_perm items fun x y => decide (key x ≤ key y)).filter
    (key · = k)).length_eq
  exact (inside.eq_of_length length.symm).symm

theorem eq_of_sorted (ha : a.Pairwise fun x y => key x ≤ key y)
    (hb : b.Pairwise fun x y => key x ≤ key y)
    (same : ∀ k, a.filter (key · = k) = b.filter (key · = k)) : a = b := by
  induction a generalizing b with
  | nil =>
      cases b with
      | nil => rfl
      | cons y ys =>
          have none_there := same (key y)
          simp at none_there
  | cons x xs ih =>
      have there : x ∈ b := by
        have found := same (key x) ▸ List.mem_filter.mpr ⟨List.mem_cons_self, by simp⟩
        exact List.mem_of_mem_filter found
      cases b with
      | nil => cases there
      | cons y ys =>
          have there' : y ∈ x :: xs := by
            have found := (same (key y)).symm ▸ List.mem_filter.mpr ⟨List.mem_cons_self, by simp⟩
            exact List.mem_of_mem_filter found
          -- Both lists begin with a least key.
          have least : key x = key y := by
            apply le_antisymm
            · rcases List.mem_cons.mp there' with rfl | later
              · exact le_rfl
              · exact (List.pairwise_cons.mp ha).1 y later
            · rcases List.mem_cons.mp there with rfl | later
              · exact le_rfl
              · exact (List.pairwise_cons.mp hb).1 x later
          have first := same (key x)
          rw [List.filter_cons_of_pos (by simp), List.filter_cons_of_pos (by simp [least])] at first
          obtain ⟨rfl, -⟩ := List.cons.inj first
          congr 1
          apply ih ha.tail hb.tail
          intro k
          have rest := same k
          rw [List.filter_cons, List.filter_cons] at rest
          split at rest
          · exact (List.cons.inj rest).2
          · exact rest

/-- Items are the same once they are sorted by a text when those of each text come in the same
order. -/
theorem mergeSort_eq_iff (key : α → String) :
    (a.mergeSort fun x y => textLe (key x) (key y)) =
        (b.mergeSort fun x y => textLe (key x) (key y)) ↔
      ∀ k, a.filter (key · = k) = b.filter (key · = k) := by
  constructor
  · intro same k
    have same' : (a.mergeSort fun x y => decide (key x ≤ key y)) =
        b.mergeSort fun x y => decide (key x ≤ key y) := same
    rw [← filter_mergeSort, same', filter_mergeSort]
  · intro same
    apply eq_of_sorted key (sorted_mergeSort key a) (sorted_mergeSort key b)
    intro k
    exact (filter_mergeSort key a k).trans ((same k).trans (filter_mergeSort key b k).symm)

/-- What is taken from sorted items, under their keys, is what is taken from all, sorted. -/
theorem mergeSort_flatMap {key' : β → κ} {f : α → List β}
    (keeps : ∀ x, ∀ y ∈ f x, key' y = key x) (items : List α) :
    ((items.flatMap f).mergeSort fun x y => decide (key' x ≤ key' y)) =
      (items.mergeSort fun x y => decide (key x ≤ key y)).flatMap f := by
  have taken : ∀ (l : List α) (k : κ),
      (l.flatMap f).filter (key' · = k) = (l.filter (key · = k)).flatMap f := by
    intro l k
    induction l with
    | nil => rfl
    | cons x rest ih =>
        rw [List.flatMap_cons, List.filter_append, ih, List.filter_cons]
        split
        · rename_i here
          rw [List.flatMap_cons, List.filter_eq_self.mpr]
          intro y hy
          rw [keeps x y hy]
          exact here
        · rename_i elsewhere
          rw [List.filter_eq_nil_iff.mpr, List.nil_append]
          intro y hy
          rw [keeps x y hy]
          exact elsewhere
  have sorted : ((items.mergeSort fun x y => decide (key x ≤ key y)).flatMap f).Pairwise
      fun x y => key' x ≤ key' y := by
    rw [List.pairwise_flatMap]
    constructor
    · intro x _
      apply List.pairwise_of_forall_mem_list
      intro y hy z hz
      rw [keeps x y hy, keeps x z hz]
    · refine (sorted_mergeSort key items).imp fun {x x'} le y hy z hz => ?_
      rwa [keeps x y hy, keeps x' z hz]
  apply eq_of_sorted key' (sorted_mergeSort key' _) sorted
  intro k
  rw [filter_mergeSort, taken, taken, filter_mergeSort]

end Stable

/-! ## One order behind another -/

def byText {α : Type} (key : α → String) (le : α → α → Bool) (a b : α) : Bool :=
  if key a = key b then le a b else textLe (key a) (key b)

section

variable {α : Type} {key : α → String} {le : α → α → Bool}

theorem byText_iff {a b : α} :
    byText key le a b = true ↔ key a < key b ∨ key a = key b ∧ le a b = true := by
  unfold byText
  split
  · rename_i same
    simp [same]
  · rename_i apart
    rw [textLe_iff]
    constructor
    · exact fun h => Or.inl (lt_of_textLe_of_ne (textLe_iff.mpr h) apart)
    · rintro (h | h)
      · exact String.not_lt.mp (String.lt_asymm h)
      · exact absurd h.1 apart

theorem byText_trans (trans : ∀ a b c, le a b = true → le b c = true → le a c = true) (a b c : α)
    (hab : byText key le a b = true) (hbc : byText key le b c = true) :
    byText key le a c = true := by
  rw [byText_iff] at *
  rcases hab with hab | ⟨eab, lab⟩ <;> rcases hbc with hbc | ⟨ebc, lbc⟩
  · exact Or.inl (String.lt_trans hab hbc)
  · exact Or.inl (ebc ▸ hab)
  · exact Or.inl (eab ▸ hbc)
  · exact Or.inr ⟨eab.trans ebc, trans a b c lab lbc⟩

theorem byText_total (total : ∀ a b, (le a b || le b a) = true) (a b : α) :
    (byText key le a b || byText key le b a) = true := by
  rw [Bool.or_eq_true, byText_iff, byText_iff]
  by_cases e : key a = key b
  · rcases Bool.or_eq_true_iff.mp (total a b) with h | h
    · exact Or.inl (Or.inr ⟨e, h⟩)
    · exact Or.inr (Or.inr ⟨e.symm, h⟩)
  · rcases lt_or_lt_of_ne e with h | h
    · exact Or.inl (Or.inl h)
    · exact Or.inr (Or.inl h)

end

/-! ## Lists of texts -/

theorem textsLe_total (as bs : List String) : (textsLe as bs || textsLe bs as) = true := by
  induction as generalizing bs with
  | nil => simp [textsLe]
  | cons a as ih =>
      cases bs with
      | nil => simp [textsLe]
      | cons b bs =>
          by_cases same : a = b
          · simpa [textsLe, same] using ih bs
          · have apart := lt_or_lt_of_ne same
            simpa [textsLe, same, Ne.symm same] using apart

theorem textsLe_trans (as bs cs : List String) (hab : textsLe as bs = true)
    (hbc : textsLe bs cs = true) : textsLe as cs = true := by
  induction as generalizing bs cs with
  | nil => rfl
  | cons a as ih =>
      cases bs with
      | nil => simp [textsLe] at hab
      | cons b bs =>
          cases cs with
          | nil => simp [textsLe] at hbc
          | cons c cs =>
              rw [textsLe] at hab hbc ⊢
              by_cases first : a = b
              · subst first
                rw [if_pos rfl] at hab
                by_cases second : a = c
                · rw [if_pos second] at hbc ⊢
                  exact ih bs cs hab hbc
                · rw [if_neg second] at hbc ⊢
                  exact hbc
              · rw [if_neg first, decide_eq_true_eq] at hab
                by_cases second : b = c
                · subst second
                  rw [if_neg first]
                  exact decide_eq_true hab
                · rw [if_neg second, decide_eq_true_eq] at hbc
                  have lt := String.lt_trans hab hbc
                  have apart : a ≠ c := fun e => String.lt_irrefl c (e ▸ lt)
                  rw [if_neg apart]
                  exact decide_eq_true lt

theorem textsLe_antisymm {as bs : List String} (hab : textsLe as bs = true)
    (hba : textsLe bs as = true) : as = bs := by
  induction as generalizing bs with
  | nil =>
      cases bs with
      | nil => rfl
      | cons b bs => simp [textsLe] at hba
  | cons a as ih =>
      cases bs with
      | nil => simp [textsLe] at hab
      | cons b bs =>
          by_cases same : a = b
          · subst same
            rw [textsLe, if_pos rfl] at hab hba
            rw [ih hab hba]
          · rw [textsLe, if_neg same, decide_eq_true_eq] at hab
            rw [textsLe, if_neg (Ne.symm same), decide_eq_true_eq] at hba
            exact absurd hba (String.lt_asymm hab)

/-! ## Repeats -/

theorem dropRepeats_sublist {α : Type} [DecidableEq α] (items : List α) :
    (dropRepeats items).Sublist items := by
  fun_induction dropRepeats items with
  | case1 => exact .slnil
  | case2 a => exact .refl _
  | case3 a rest ih => exact ih.trans (List.sublist_cons_self a _)
  | case4 a b rest h ih => exact ih.cons_cons a

/-- No item is left twice of items in order, where only equal items stand before each other. -/
theorem nodup_dropRepeats {α : Type} [DecidableEq α] {le : α → α → Prop} {items : List α}
    (sorted : items.Pairwise le)
    (antisymm : ∀ a ∈ items, ∀ b ∈ items, le a b → le b a → a = b) : (dropRepeats items).Nodup := by
  fun_induction dropRepeats items with
  | case1 => exact List.nodup_nil
  | case2 a => exact List.nodup_singleton a
  | case3 a rest ih =>
      refine ih sorted.tail fun x hx y hy => ?_
      exact antisymm x (List.mem_cons_of_mem a hx) y (List.mem_cons_of_mem a hy)
  | case4 a b rest apart ih =>
      obtain ⟨first, later⟩ := List.pairwise_cons.mp sorted
      have kept : (dropRepeats (b :: rest)).Nodup := by
        refine ih later fun x hx y hy => ?_
        exact antisymm x (List.mem_cons_of_mem a hx) y (List.mem_cons_of_mem a hy)
      refine List.nodup_cons.mpr ⟨fun again => ?_, kept⟩
      have later_again := mem_dropRepeats.mp again
      rcases List.mem_cons.mp later_again with same | behind
      · exact apart same
      · -- The item that differs from `a` stands both behind it and before it.
        have before : le b a := (List.pairwise_cons.mp later).1 a behind
        exact apart (antisymm a List.mem_cons_self b
          (List.mem_cons_of_mem a List.mem_cons_self) (first b List.mem_cons_self) before)

theorem ascend_dropRepeats {items : List String} (sorted : items.Pairwise (· ≤ ·)) :
    (dropRepeats items).Pairwise (· < ·) := by
  fun_induction dropRepeats items with
  | case1 => exact List.Pairwise.nil
  | case2 a => exact List.pairwise_singleton _ a
  | case3 a rest ih => exact ih sorted.tail
  | case4 a b rest apart ih =>
      obtain ⟨first, later⟩ := List.pairwise_cons.mp sorted
      have least : ∀ x ∈ dropRepeats (b :: rest), b ≤ x := by
        intro x hx
        rcases List.mem_cons.mp (mem_dropRepeats.mp hx) with rfl | hr
        · exact String.le_refl x
        · exact (List.pairwise_cons.mp later).1 x hr
      have below : a < b :=
        lt_of_textLe_of_ne (textLe_iff.mpr (first b List.mem_cons_self)) apart
      apply List.Pairwise.cons _ (ih later)
      intro x hx
      exact Std.lt_of_lt_of_le below (least x hx)

theorem ascend_textSet (items : List String) : (textSet items).Pairwise (· < ·) := by
  apply ascend_dropRepeats
  apply (List.pairwise_mergeSort textLe_trans textLe_total items).imp
  exact textLe_iff.mp

theorem textSet_congr {a b : List String} (same : ∀ x, x ∈ a ↔ x ∈ b) : textSet a = textSet b := by
  apply eq_of_ascend id (ascend_textSet a) (ascend_textSet b)
  intro x
  rw [mem_textSet, mem_textSet]
  exact same x

theorem head?_dropRepeats {α : Type} [DecidableEq α] (items : List α) :
    (dropRepeats items).head? = items.head? := by
  fun_induction dropRepeats items with
  | case1 => rfl
  | case2 a => rfl
  | case3 a rest ih => exact ih
  | case4 a b rest h ih => rfl

theorem dropRepeats_dropRepeats {α : Type} [DecidableEq α] (items : List α) :
    dropRepeats (dropRepeats items) = dropRepeats items := by
  fun_induction dropRepeats items with
  | case1 => rfl
  | case2 a => rfl
  | case3 a rest ih => exact ih
  | case4 a b rest h ih =>
      have head := head?_dropRepeats (b :: rest)
      cases hd : dropRepeats (b :: rest) with
      | nil => rfl
      | cons c more =>
          rw [hd] at head ih
          obtain rfl : c = b := Option.some.inj head
          rw [dropRepeats, if_neg h, ih]

private theorem mem_foldl_firstOccurrences {α : Type} [DecidableEq α] {x : α}
    (items seen : List α) :
    x ∈ items.foldl (fun seen a => if a ∈ seen then seen else seen ++ [a]) seen ↔
      x ∈ seen ∨ x ∈ items := by
  induction items generalizing seen with
  | nil => simp
  | cons a rest ih =>
      rw [List.foldl_cons, ih]
      split
      · rename_i h
        constructor
        · exact fun hx => hx.imp_right (List.mem_cons_of_mem a)
        · rintro (hx | hx)
          · exact Or.inl hx
          · exact (List.mem_cons.mp hx).imp_left fun e : x = a => e ▸ h
      · simp [or_assoc]

private theorem nodup_foldl_firstOccurrences {α : Type} [DecidableEq α] (items : List α)
    {seen : List α} (distinct : seen.Nodup) :
    (items.foldl (fun seen a => if a ∈ seen then seen else seen ++ [a]) seen).Nodup := by
  induction items generalizing seen with
  | nil => exact distinct
  | cons a rest ih =>
      rw [List.foldl_cons]
      split
      · exact ih distinct
      · rename_i fresh
        have longer := distinct.concat fresh
        rw [List.concat_eq_append] at longer
        exact ih longer

theorem nodup_firstOccurrences {α : Type} [DecidableEq α] (items : List α) :
    (firstOccurrences items).Nodup :=
  nodup_foldl_firstOccurrences items List.nodup_nil

theorem mem_firstOccurrences {α : Type} [DecidableEq α] {x : α} {items : List α} :
    x ∈ firstOccurrences items ↔ x ∈ items := by
  simp [firstOccurrences, mem_foldl_firstOccurrences]

theorem firstOccurrences_eq_eraseDups {α : Type} [DecidableEq α] (items : List α) :
    firstOccurrences items = items.eraseDups := by
  induction items using List.reverseRecOn with
  | nil => rfl
  | append_singleton items a ih =>
      have last : firstOccurrences (items ++ [a]) =
          if a ∈ firstOccurrences items then firstOccurrences items
          else firstOccurrences items ++ [a] := by
        rw [firstOccurrences, List.foldl_append]
        rfl
      rw [last, ih, List.eraseDups_append]
      by_cases known : a ∈ items <;> simp [List.removeAll, List.eraseDups_cons, known]

end TacticalDesign
