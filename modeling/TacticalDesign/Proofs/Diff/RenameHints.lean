import Mathlib.Data.String.Basic
import TacticalDesign.Proofs.Diff.Records
import TacticalDesign.Proofs.Graph.Lookup
import TacticalDesign.Proofs.Number.FloatOrder
import TacticalDesign.RenameHint
/-!
# Rename hints match symbols

The pairs of a removed and an added symbol that are alike enough are gone through from the most
alike to the least, and a pair becomes a hint unless one of its symbols is in a hint already. So no
symbol is in two hints, and a pair that is passed over has a symbol in a hint that comes before it.
-/

namespace TacticalDesign

namespace RenameHint

variable {ratio : NameRatio} {threshold : Float} {records : List ChangeRecord}
  {old new g : SymbolGraph}
  {kind : ChangeKind} {symbols : List Symbol} {h k : RenameHint} {hints taken : List RenameHint}

/-! ## The symbols of changes -/

theorem changedSymbols_ok (inside : ∀ r ∈ records, r.kind = kind → r.symbolId ∈ g.ids) :
    ∃ symbols, changedSymbols g kind records = .ok symbols := by
  induction records with
  | nil => exact ⟨[], rfl⟩
  | cons r rest ih =>
      obtain ⟨symbols, h⟩ := ih fun q hq => inside q (List.mem_cons_of_mem r hq)
      by_cases hk : r.kind = kind
      · obtain ⟨s, hs⟩ := Option.isSome_iff_exists.mp
          (SymbolGraph.get?_isSome (inside r List.mem_cons_self hk))
        exact ⟨s :: symbols, by simp only [changedSymbols, if_pos hk, hs, h]⟩
      · exact ⟨symbols, by simp only [changedSymbols, if_neg hk, h]⟩

theorem mem_changedSymbols (looked : changedSymbols g kind records = .ok symbols) {s : Symbol} :
    s ∈ symbols ↔ ∃ r ∈ records, r.kind = kind ∧ g.get? r.symbolId = some s := by
  induction records generalizing symbols with
  | nil =>
      cases looked
      simp
  | cons r rest ih =>
      rw [changedSymbols] at looked
      split at looked
      · rename_i same
        split at looked
        · cases looked
        · rename_i t found
          split at looked
          · cases looked
          · rename_i later looked'
            cases looked
            have first : s = t ↔ r.kind = kind ∧ g.get? r.symbolId = some s := by
              rw [found, Option.some_inj, eq_comm (a := t)]
              exact (and_iff_right same).symm
            rw [List.mem_cons, ih looked', first]
            simp only [List.mem_cons, or_and_right, exists_or, exists_eq_left]
      · rename_i other
        simp only [ih looked, List.mem_cons, or_and_right, exists_or, exists_eq_left, other,
          false_and, false_or]

theorem ofChanges_ok (ratio : NameRatio) (threshold : Float)
    (removed : ∀ r ∈ records, r.kind = .removed → r.symbolId ∈ old.ids)
    (added : ∀ r ∈ records, r.kind = .added → r.symbolId ∈ new.ids) :
    ∃ gone fresh, changedSymbols old .removed records = .ok gone ∧
      changedSymbols new .added records = .ok fresh ∧
      ofChanges ratio threshold records old new = .ok (suggest ratio threshold gone fresh) := by
  obtain ⟨gone, hgone⟩ := changedSymbols_ok removed
  obtain ⟨fresh, hfresh⟩ := changedSymbols_ok added
  exact ⟨gone, fresh, hgone, hfresh, by simp only [ofChanges, hgone, hfresh]⟩

def Clashes (k h : RenameHint) : Prop := k.removedId = h.removedId ∨ k.addedId = h.addedId

/-- Pairs go by similarity, the highest first, then by the removed and then by the added id. -/
def Before (k h : RenameHint) : Prop :=
  h.similarity < k.similarity ∨ (k.similarity == h.similarity) = true ∧
    (k.removedId < h.removedId ∨ k.removedId = h.removedId ∧ k.addedId < h.addedId)

def IsNumber (h : RenameHint) : Prop := ∃ r, Number.standing h.similarity = some r

theorem isNumber_of_reaches (reached : reaches threshold h = true) : IsNumber h :=
  Number.exists_standing_of_le (of_decide_eq_true reached)

def key (h : RenameHint) : (ℤ ×ₗ ℤ ×ₗ ℤ)ᵒᵈ ×ₗ String ×ₗ String :=
  toLex (OrderDual.toDual ((Number.standing h.similarity).getD (toLex (0, toLex (0, 0)))),
    toLex (h.removedId, h.addedId))

theorem precedes_iff (hk : IsNumber k) (hh : IsNumber h) :
    k.precedes h = true ↔ k.key ≤ h.key := by
  obtain ⟨r, hr⟩ := hk
  obtain ⟨s, hs⟩ := hh
  have same : (k.similarity == h.similarity) = true ↔ r = s := Number.beq_iff_standing hr hs
  have above : h.similarity < k.similarity ↔ s < r := Number.lt_iff_standing hs hr
  rw [precedes, key, key, hr, hs, Option.getD_some, Option.getD_some, Prod.Lex.toLex_le_toLex,
    OrderDual.toDual_lt_toDual, OrderDual.toDual_inj, Prod.Lex.toLex_le_toLex]
  split
  · rename_i equal
    obtain rfl := same.mp equal
    simp only [lt_irrefl, true_and, false_or]
    split
    · rename_i removed
      simp only [removed, lt_irrefl, true_and, false_or, textLe_iff]
    · rename_i removed
      simp only [removed, false_and, or_false, textLe_iff, lt_iff_le_and_ne, ne_eq,
        not_false_eq_true, and_true]
  · rename_i differ
    have apart : r ≠ s := fun e => differ (same.mpr e)
    simp only [apart, false_and, or_false, decide_eq_true_eq, above]

theorem before_of_key_lt (hk : IsNumber k) (hh : IsNumber h) (lt : k.key < h.key) :
    k.Before h := by
  obtain ⟨r, hr⟩ := hk
  obtain ⟨s, hs⟩ := hh
  rw [key, key, hr, hs, Option.getD_some, Option.getD_some, Prod.Lex.toLex_lt_toLex,
    OrderDual.toDual_lt_toDual, OrderDual.toDual_inj, Prod.Lex.toLex_lt_toLex] at lt
  rcases lt with above | ⟨equal, ids⟩
  · exact Or.inl ((Number.lt_iff_standing hs hr).mpr above)
  · exact Or.inr ⟨(Number.beq_iff_standing hr hs).mpr equal, ids⟩

theorem sorted_mergeSort (numbers : ∀ h ∈ hints, IsNumber h) :
    (hints.mergeSort precedes).Pairwise fun k h => k.key ≤ h.key := by
  let byKey : RenameHint → RenameHint → Bool := fun k h => decide (k.key ≤ h.key)
  have agree : ∀ k ∈ hints, ∀ h ∈ hints, k.precedes h = byKey (id k) (id h) := by
    intro k hk h hh
    rw [Bool.eq_iff_iff, precedes_iff (numbers k hk) (numbers h hh)]
    exact decide_eq_true_iff.symm
  have same := List.map_mergeSort agree
  rw [List.map_id, List.map_id] at same
  rw [same]
  refine (List.pairwise_mergeSort ?_ ?_ hints).imp of_decide_eq_true
  · intro a b c hab hbc
    exact decide_eq_true ((of_decide_eq_true hab).trans (of_decide_eq_true hbc))
  · intro a b
    rw [Bool.or_eq_true, decide_eq_true_eq, decide_eq_true_eq]
    exact le_total a.key b.key

/-! ## Taking pairs that are free -/

theorem takeFree_sublist (taken hints : List RenameHint) :
    (takeFree taken hints).Sublist hints := by
  fun_induction takeFree taken hints with
  | case1 => exact .slnil
  | case2 taken h rest clash ih => exact ih.trans (List.sublist_cons_self h rest)
  | case3 taken h rest free ih => exact ih.cons_cons h

theorem any_clashes_iff : (taken.any fun t => t.removedId = h.removedId || t.addedId = h.addedId) =
    true ↔ ∃ t ∈ taken, t.Clashes h := by
  simp only [List.any_eq_true, Bool.or_eq_true, decide_eq_true_eq, Clashes]

theorem not_clashes_of_mem_takeFree (hh : h ∈ takeFree taken hints) :
    ∀ t ∈ taken, ¬t.Clashes h := by
  fun_induction takeFree taken hints with
  | case1 => cases hh
  | case2 taken g rest clash ih => exact ih hh
  | case3 taken g rest free ih =>
      rcases List.mem_cons.mp hh with rfl | later
      · exact fun t ht clashes => free (any_clashes_iff.mpr ⟨t, ht, clashes⟩)
      · exact fun t ht => ih later t (List.mem_cons_of_mem g ht)

theorem pairwise_takeFree (taken hints : List RenameHint) :
    (takeFree taken hints).Pairwise fun k h => ¬k.Clashes h := by
  fun_induction takeFree taken hints with
  | case1 => exact List.Pairwise.nil
  | case2 taken h rest clash ih => exact ih
  | case3 taken h rest free ih =>
      exact List.Pairwise.cons (fun k hk => not_clashes_of_mem_takeFree hk h List.mem_cons_self) ih

/-- A pair that is passed over clashes with one that was taken before, or with one in front of it
that is taken. -/
theorem exists_clashes_of_passed {R : RenameHint → RenameHint → Prop} (sorted : hints.Pairwise R)
    (hh : h ∈ hints) (passed : h ∉ takeFree taken hints) :
    ∃ k, k.Clashes h ∧ (k ∈ taken ∨ k ∈ takeFree taken hints ∧ R k h) := by
  fun_induction takeFree taken hints with
  | case1 => cases hh
  | case2 taken g rest clash ih =>
      rcases List.mem_cons.mp hh with rfl | later
      · obtain ⟨t, ht, clashes⟩ := any_clashes_iff.mp clash
        exact ⟨t, clashes, Or.inl ht⟩
      · exact ih sorted.tail later passed
  | case3 taken g rest free ih =>
      rw [List.mem_cons, not_or] at passed
      have later := (List.mem_cons.mp hh).resolve_left passed.1
      obtain ⟨k, clashes, old | new⟩ := ih sorted.tail later passed.2
      · rcases List.mem_cons.mp old with rfl | older
        · exact ⟨k, clashes, Or.inr ⟨List.mem_cons_self, List.rel_of_pairwise_cons sorted later⟩⟩
        · exact ⟨k, clashes, Or.inl older⟩
      · exact ⟨k, clashes, Or.inr ⟨List.mem_cons_of_mem g new.1, new.2⟩⟩

/-! ## Hints -/

structure AlikePair (ratio : NameRatio) (threshold : Float) (records : List ChangeRecord)
    (old new : SymbolGraph) (h : RenameHint) : Prop where
  removed : ∃ r ∈ records, r.kind = .removed ∧ r.symbolId = h.removedId
  added : ∃ r ∈ records, r.kind = .added ∧ r.symbolId = h.addedId
  likeness : ∃ s ∈ old.get? h.removedId, ∃ t ∈ new.get? h.addedId,
    h.likeness = Likeness.ofSymbols ratio s t
  reached : threshold ≤ h.similarity

/-- Hints that match pairs of symbols: each symbol is in one hint at most, and where a pair is no
hint one of its symbols is in a hint that comes before it. -/
structure StableMatching (IsPair : RenameHint → Prop) (hints : List RenameHint) : Prop where
  pairs : ∀ h ∈ hints, IsPair h
  ascend : hints.Pairwise fun h k => h.removedId < k.removedId
  distinct : hints.Pairwise fun h k => h.addedId ≠ k.addedId
  apart : ∀ h ∈ hints, ∀ k ∈ hints, h.removedId ≠ k.addedId
  stable : ∀ h, IsPair h → h ∉ hints → ∃ k ∈ hints, k.Clashes h ∧ k.Before h

theorem stable_suggest {IsPair : RenameHint → Prop} {gone fresh : List Symbol}
    (mem_pairs : ∀ h, h ∈ (pairs ratio gone fresh).filter (reaches threshold) ↔ IsPair h)
    (unique : ∀ h k, IsPair h → IsPair k → h.removedId = k.removedId →
      h.addedId = k.addedId → h = k)
    (apart : ∀ h k, IsPair h → IsPair k → h.removedId ≠ k.addedId) :
    StableMatching IsPair (suggest ratio threshold gone fresh) := by
  let ordered := ((pairs ratio gone fresh).filter (reaches threshold)).mergeSort precedes
  have numbers : ∀ h ∈ (pairs ratio gone fresh).filter (reaches threshold), IsNumber h :=
    fun h hh => isNumber_of_reaches (List.mem_filter.mp hh).2
  have sorted : ordered.Pairwise fun k h => k.key ≤ h.key := sorted_mergeSort numbers
  have mem_ordered : ∀ h, h ∈ ordered ↔ IsPair h := fun h =>
    List.mem_mergeSort.trans (mem_pairs h)
  have free : (takeFree [] ordered).Pairwise fun k h => ¬k.Clashes h := pairwise_takeFree [] ordered
  have perm : (suggest ratio threshold gone fresh).Perm (takeFree [] ordered) :=
    List.mergeSort_perm _ _
  have pair : ∀ h ∈ suggest ratio threshold gone fresh, IsPair h := fun h hh =>
    (mem_ordered h).mp ((takeFree_sublist [] ordered).subset (perm.mem_iff.mp hh))
  refine ⟨pair, ?_, ?_, fun h hh k hk => apart h k (pair h hh) (pair k hk), fun h hh passed => ?_⟩
  · refine ascend_mergeSort (·.removedId) (List.pairwise_map.mpr (free.imp ?_))
    exact fun apart same => apart (Or.inl same)
  · have distinct : (takeFree [] ordered).Pairwise fun h k => h.addedId ≠ k.addedId :=
      free.imp fun apart same => apart (Or.inr same)
    exact (perm.pairwise_iff fun apart => Ne.symm apart).mpr distinct
  · obtain ⟨k, clashes, none_taken | ⟨hk, le⟩⟩ := exists_clashes_of_passed sorted
      ((mem_ordered h).mpr hh) fun kept => passed (perm.mem_iff.mpr kept)
    · cases none_taken
    · have hint : k ∈ suggest ratio threshold gone fresh := perm.mem_iff.mpr hk
      refine ⟨k, hint, clashes, before_of_key_lt ?_ ?_ (lt_of_le_of_ne le fun same => ?_)⟩
      · exact numbers k ((mem_pairs k).mpr (pair k hint))
      · exact numbers h ((mem_pairs h).mpr hh)
      · -- The ids of a pair are part of what it is sorted by.
        have ids := congrArg (fun x => ofLex (ofLex x).2) same
        have equal := unique k h (pair k hint) hh (congrArg Prod.fst ids) (congrArg Prod.snd ids)
        exact passed (equal ▸ hint)

namespace AlikePair

theorem mem_pairs_iff {gone fresh : List Symbol}
    (removed : changedSymbols old .removed records = .ok gone)
    (added : changedSymbols new .added records = .ok fresh) :
    h ∈ (pairs ratio gone fresh).filter (reaches threshold) ↔
      AlikePair ratio threshold records old new h := by
  simp only [List.mem_filter, pairs, List.mem_flatMap, List.mem_map, mem_changedSymbols removed,
    mem_changedSymbols added, reaches, decide_eq_true_eq, SymbolGraph.get?_iff]
  constructor
  · rintro ⟨⟨s, ⟨r, hr, kind, hs, hsr⟩, t, ⟨q, hq, kind', ht, htq⟩, rfl⟩, reached⟩
    refine ⟨⟨r, hr, kind, hsr.symm⟩, ⟨q, hq, kind', htq.symm⟩, ⟨s, ?_, t, ?_, rfl⟩, reached⟩
    · exact SymbolGraph.get?_iff.mpr ⟨hs, rfl⟩
    · exact SymbolGraph.get?_iff.mpr ⟨ht, rfl⟩
  · rintro ⟨⟨r, hr, kind, hrs⟩, ⟨q, hq, kind', hqt⟩, ⟨s, hs, t, ht, likeness⟩, reached⟩
    obtain ⟨ins, ids⟩ := SymbolGraph.get?_iff.mp hs
    obtain ⟨int, idt⟩ := SymbolGraph.get?_iff.mp ht
    refine ⟨⟨s, ⟨r, hr, kind, ins, ids.trans hrs.symm⟩, t,
      ⟨q, hq, kind', int, idt.trans hqt.symm⟩, ?_⟩, reached⟩
    rw [ids, idt, ← likeness]

theorem eq_of_ids (hh : AlikePair ratio threshold records old new h)
    (hk : AlikePair ratio threshold records old new k) (removed : h.removedId = k.removedId)
    (added : h.addedId = k.addedId) : h = k := by
  obtain ⟨s, hs, t, ht, e⟩ := hh.likeness
  obtain ⟨s', hs', t', ht', e'⟩ := hk.likeness
  rw [removed] at hs
  rw [added] at ht
  obtain rfl := Option.mem_unique hs hs'
  obtain rfl := Option.mem_unique ht ht'
  cases h
  cases k
  simp_all only

end AlikePair

end RenameHint

open RenameHint

/-- The hints for the records of a comparison match symbols that were removed with symbols that
were added. -/
theorem Comparison.stable_hints {c : Comparison} (fit : ¬c.aliases.Misfit c.old c.new)
    (ratio : NameRatio) (threshold : Float) (prior current : List Classification) :
    ∃ hints, ofChanges ratio threshold (c.records prior current) c.old c.new = .ok hints ∧
      StableMatching (AlikePair ratio threshold (c.records prior current) c.old c.new) hints := by
  have conserved : c.Conserved prior current (c.records prior current) := conserved_records fit
  have removed : ∀ r ∈ c.records prior current, r.kind = .removed →
      r.symbolId ∈ c.old.ids ∧ r.symbolId ∉ c.new.ids := by
    intro r hr kind
    obtain ⟨o, ho, unmatched, -, rfl⟩ := conserved.removed_only r hr kind
    have self : c.target o.id = o.id := Aliases.target_eq_self fit unmatched
    exact ⟨SymbolGraph.mem_ids_of_mem ho, fun there => unmatched (self.symm ▸ there)⟩
  have added : ∀ r ∈ c.records prior current, r.kind = .added → r.symbolId ∈ c.new.ids := by
    intro r hr kind
    obtain ⟨t, ht, -, rfl⟩ := conserved.added_only r hr kind
    exact SymbolGraph.mem_ids_of_mem ht
  obtain ⟨gone, fresh, hgone, hfresh, hinted⟩ :=
    ofChanges_ok ratio threshold (fun r hr kind => (removed r hr kind).1) added
  refine ⟨_, hinted, stable_suggest (fun h => AlikePair.mem_pairs_iff hgone hfresh)
    (fun h k => AlikePair.eq_of_ids) fun h k hh hk same => ?_⟩
  obtain ⟨r, hr, kind, hrh⟩ := hh.removed
  obtain ⟨q, hq, kind', hqk⟩ := hk.added
  -- What was removed is not in the graph, and what was added is.
  apply (removed r hr kind).2
  rw [hrh, same, ← hqk]
  exact added q hq kind'

namespace Baseline

variable {b : Baseline} {graph : SymbolGraph} {current : List Classification} {aliases : Aliases}
  {skippedPaths : List String} {records : List ChangeRecord}

theorem fit_of_changes (compared : b.changes graph current aliases skippedPaths = .ok records) :
    ¬aliases.Misfit b.graph graph ∧
      records = Comparison.records ⟨b.graph, graph, aliases, skippedPaths⟩ b.classifications
        current := by
  unfold changes at compared
  split at compared
  · cases compared
  · unfold comparison at compared
    cases check : aliases.check b.graph graph with
    | error e =>
        rw [check] at compared
        cases compared
    | ok _ =>
        rw [check] at compared
        cases compared
        exact ⟨Aliases.check_ok_iff.mp check, rfl⟩

/-- For the changes from a baseline there are hints, and they match symbols that were removed with
symbols that were added. -/
theorem hints_stable (compared : b.changes graph current aliases skippedPaths = .ok records)
    (ratio : NameRatio) (threshold : Float) :
    ∃ hints, ofChanges ratio threshold records b.graph graph = .ok hints ∧
      StableMatching (AlikePair ratio threshold records b.graph graph) hints := by
  obtain ⟨fit, rfl⟩ := fit_of_changes compared
  exact Comparison.stable_hints fit ratio threshold b.classifications current

def cart (path : String) : Symbol :=
  { id := symbolId path "Cart", name := "Cart", qualifiedName := "Cart", nameSpace := "",
    kind := .classType, originPath := path, language := "java" }

def onlyCart (path : String) : SymbolGraph where
  symbols := [cart path]
  relationships := []
  symbols_ascend := List.pairwise_singleton _ _
  edges_inside := by simp

def ofCart : Baseline where
  schemaVersion := some "1.0"
  registryVersion := "r"
  registryFingerprint := "f"
  graph := onlyCart "a.java"
  classifications := []

def movedCart : RenameHint := ⟨"a.java::Cart", "b.java::Cart", 10000⟩

theorem likeness_cart :
    Likeness.ofSymbols Likeness.indelRatio (cart "a.java") (cart "b.java") = 10000 := by
  have members : ∀ path, Likeness.memberNames (cart path) = [] := fun _ => by
    simp [Likeness.memberNames, cart, textSet, sortTexts, dropRepeats]
  have overlap : Likeness.memberOverlap (cart "a.java") (cart "b.java") = 1 := by
    simp [Likeness.memberOverlap, members, textSet, sortTexts, dropRepeats]
  rw [Likeness.ofSymbols, overlap]
  decide +kernel

/-- Where a class has moved to another file, the hint says so. -/
theorem hints_stable_moved_class :
    ∃ records, ofCart.changes (onlyCart "b.java") [] [] [] = .ok records ∧
      let ratio := Likeness.indelRatio
      ∃ hints, ofChanges ratio 0.75 records (onlyCart "a.java") (onlyCart "b.java") = .ok hints ∧
        StableMatching (AlikePair ratio 0.75 records (onlyCart "a.java") (onlyCart "b.java"))
          hints ∧
        movedCart ∈ hints := by
  have fit := Aliases.not_misfit_nil (onlyCart "a.java") (onlyCart "b.java")
  have readable : HasCurrentMajor ofCart.schemaVersion := ⟨"1.0", rfl, by decide, by decide⟩
  obtain ⟨compared, -⟩ := changes_of_fit (b := ofCart) readable fit [] []
  obtain ⟨hints, hinted, stable⟩ := hints_stable compared Likeness.indelRatio 0.75
  refine ⟨_, compared, hints, hinted, stable, ?_⟩
  have conserved : Comparison.Conserved ⟨onlyCart "a.java", onlyCart "b.java", [], []⟩ [] [] _ :=
    Comparison.conserved_records fit
  have removed := (conserved.removed (cart "a.java") (List.mem_singleton_self _) (by decide)
    List.not_mem_nil).2
  have added := conserved.added (cart "b.java") (List.mem_singleton_self _) (by decide)
  have there : ∀ path, (onlyCart path).get? (cart path).id = some (cart path) := fun path =>
    SymbolGraph.get?_iff.mpr ⟨List.mem_singleton_self _, rfl⟩
  have alike : AlikePair Likeness.indelRatio 0.75 _ (onlyCart "a.java") (onlyCart "b.java")
      movedCart :=
    ⟨⟨_, List.mem_of_mem_filter (removed ▸ List.mem_singleton_self _), rfl, rfl⟩,
      ⟨_, List.mem_of_mem_filter (added ▸ List.mem_singleton_self _), rfl, rfl⟩,
      ⟨_, there "a.java", _, there "b.java", likeness_cart.symm⟩, by decide +kernel⟩
  by_contra missing
  obtain ⟨k, hk, -, -⟩ := stable.stable movedCart alike missing
  -- There is no other class on either side.
  have pair := stable.pairs k hk
  obtain ⟨s, hs, t, ht, -⟩ := pair.likeness
  obtain ⟨ins, ids⟩ := SymbolGraph.get?_iff.mp hs
  obtain ⟨int, idt⟩ := SymbolGraph.get?_iff.mp ht
  obtain rfl := List.mem_singleton.mp ins
  obtain rfl := List.mem_singleton.mp int
  exact missing (pair.eq_of_ids alike ids.symm idt.symm ▸ hk)

end Baseline

end TacticalDesign
