import TacticalDesign.Proofs.Diff.RenameHints
/-!
# A tighter threshold

The pairs that reach a tighter threshold come before all others, so they are gone through before
any other pair can take a symbol. The hints at the tighter threshold are the hints at the looser one
that reach it.
-/

namespace TacticalDesign

/-- Where items that pass come before items that do not, they are what the list begins with. -/
theorem filter_append_of_pairwise {α : Type} {p : α → Bool} {items : List α}
    (first : items.Pairwise fun a b => p b = true → p a = true) :
    items.filter p ++ items.filter (fun a => !p a) = items := by
  induction items with
  | nil => rfl
  | cons a rest ih =>
      obtain ⟨before, later⟩ := List.pairwise_cons.mp first
      cases passes : p a with
      | true =>
          rw [List.filter_cons_of_pos passes, List.filter_cons_of_neg (by simp [passes]),
            List.cons_append, ih later]
      | false =>
          have none_passes : rest.filter p = [] := by
            refine List.filter_eq_nil_iff.mpr fun b hb passes' => ?_
            rw [before b hb passes'] at passes
            cases passes
          rw [List.filter_cons_of_neg (by simp [passes]),
            List.filter_cons_of_pos (by simp [passes]), none_passes, List.nil_append,
            List.filter_eq_self.mpr]
          intro b hb
          simpa using List.filter_eq_nil_iff.mp none_passes b hb

namespace RenameHint

variable {ratio : NameRatio} {t t' : Float} {gone fresh : List Symbol}
  {hints taken : List RenameHint}
  {h k : RenameHint}

theorem reaches_of_le (tighter : t ≤ t') (reached : reaches t' h = true) : reaches t h = true :=
  decide_eq_true (Number.floatLe_trans tighter (of_decide_eq_true reached))

theorem filter_reaches (tighter : t ≤ t') (hints : List RenameHint) :
    (hints.filter (reaches t)).filter (reaches t') = hints.filter (reaches t') := by
  rw [List.filter_filter]
  refine List.filter_congr fun h _ => ?_
  rw [Bool.and_eq_left_iff_imp]
  exact reaches_of_le tighter

theorem similarity_le_of_key_le (hk : IsNumber k) (hh : IsNumber h) (le : k.key ≤ h.key) :
    h.similarity ≤ k.similarity := by
  obtain ⟨r, hr⟩ := hk
  obtain ⟨s, hs⟩ := hh
  rw [key, key, hr, hs, Option.getD_some, Option.getD_some, Prod.Lex.toLex_le_toLex,
    OrderDual.toDual_lt_toDual, OrderDual.toDual_inj] at le
  refine Number.le_iff_standing.mpr ⟨s, r, hs, hr, ?_⟩
  rcases le with above | ⟨equal, -⟩
  · exact above.le
  · exact equal.ge

theorem takeFree_append (taken front rest : List RenameHint) :
    takeFree taken (front ++ rest) =
      takeFree taken front ++ takeFree ((takeFree taken front).reverse ++ taken) rest := by
  fun_induction takeFree taken front with
  | case1 taken => rfl
  | case2 taken h front clash ih => rw [List.cons_append, takeFree, if_pos clash, ih]
  | case3 taken h front free ih =>
      rw [List.cons_append, takeFree, if_neg free, ih, List.cons_append, List.reverse_cons,
        List.append_assoc, List.singleton_append]

/-- The pairs in order that reach the tighter threshold, where no two pairs have the same ids. -/
theorem ordered_filter (reached : ∀ h ∈ hints, reaches t h = true)
    (unique : ∀ h ∈ hints, ∀ k ∈ hints, h.removedId = k.removedId → h.addedId = k.addedId → h = k) :
    (hints.mergeSort precedes).filter (reaches t') =
      (hints.filter (reaches t')).mergeSort precedes := by
  have numbers : ∀ h ∈ hints, IsNumber h := fun h hh => isNumber_of_reaches (reached h hh)
  have numbers' : ∀ h ∈ hints.filter (reaches t'), IsNumber h :=
    fun h hh => numbers h (List.mem_of_mem_filter hh)
  refine List.Perm.eq_of_pairwise ?_ ((sorted_mergeSort numbers).filter _)
    (sorted_mergeSort numbers') ?_
  · intro h k hh hk le ge
    have ids := congrArg (fun x => ofLex (ofLex x).2) (le_antisymm le ge)
    refine unique h (List.mem_mergeSort.mp (List.mem_of_mem_filter hh)) k ?_
      (congrArg Prod.fst ids) (congrArg Prod.snd ids)
    exact List.mem_of_mem_filter (List.mem_mergeSort.mp hk)
  · exact ((List.mergeSort_perm hints _).filter _).trans (List.mergeSort_perm _ _).symm

/-- What is taken at the tighter threshold is what of the pairs taken at the looser one reaches
it: no other pair has come before it. -/
theorem takeFree_filter (sorted : hints.Pairwise fun k h => k.key ≤ h.key)
    (numbers : ∀ h ∈ hints, IsNumber h) :
    (takeFree [] hints).filter (reaches t') = takeFree [] (hints.filter (reaches t')) := by
  have first : hints.Pairwise fun k h => reaches t' h = true → reaches t' k = true := by
    refine sorted.imp_of_mem fun {k h} hk hh le reached => ?_
    have similar := similarity_le_of_key_le (numbers k hk) (numbers h hh) le
    exact decide_eq_true (Number.floatLe_trans (of_decide_eq_true reached) similar)
  let front := hints.filter (reaches t')
  let rest := hints.filter fun h => !reaches t' h
  have parts : front ++ rest = hints := filter_append_of_pairwise first
  have all_reach : ∀ h ∈ takeFree [] front, reaches t' h = true :=
    fun h hh => List.of_mem_filter ((takeFree_sublist [] front).subset hh)
  have none_reaches : ∀ taken, ∀ h ∈ takeFree taken rest, ¬reaches t' h = true := by
    intro taken h hh
    simpa using List.of_mem_filter ((takeFree_sublist taken rest).subset hh)
  calc (takeFree [] hints).filter (reaches t')
      = (takeFree [] (front ++ rest)).filter (reaches t') := by rw [parts]
    _ = takeFree [] front := by
        rw [takeFree_append, List.filter_append, List.filter_eq_self.mpr all_reach,
          List.filter_eq_nil_iff.mpr (none_reaches _), List.append_nil]

theorem suggest_filter (tighter : t ≤ t')
    (unique : ∀ h ∈ (pairs ratio gone fresh).filter (reaches t),
      ∀ k ∈ (pairs ratio gone fresh).filter (reaches t),
        h.removedId = k.removedId → h.addedId = k.addedId → h = k) :
    suggest ratio t' gone fresh = (suggest ratio t gone fresh).filter (reaches t') := by
  let alike := (pairs ratio gone fresh).filter (reaches t)
  have reached : ∀ h ∈ alike, reaches t h = true := fun h hh => List.of_mem_filter hh
  have numbers : ∀ h ∈ alike.mergeSort precedes, IsNumber h := fun h hh =>
    isNumber_of_reaches (reached h (List.mem_mergeSort.mp hh))
  have sorted := sorted_mergeSort fun h hh => isNumber_of_reaches (reached h hh)
  have fewer : (takeFree [] (alike.mergeSort precedes)).filter (reaches t') =
      takeFree [] (((pairs ratio gone fresh).filter (reaches t')).mergeSort precedes) := by
    rw [takeFree_filter sorted numbers, ordered_filter reached unique,
      filter_reaches tighter]
  have distinct : ((takeFree [] (alike.mergeSort precedes)).map (·.removedId)).Nodup :=
    List.pairwise_map.mpr ((pairwise_takeFree [] _).imp fun apart same => apart (Or.inl same))
  have distinct' := distinct.sublist
    ((List.filter_sublist (p := reaches t')).map RenameHint.removedId)
  -- In the order of their removed ids there is only one way to list them.
  unfold suggest
  rw [← fewer]
  refine eq_of_ascend RenameHint.removedId (ascend_mergeSort RenameHint.removedId distinct')
    ((ascend_mergeSort RenameHint.removedId distinct).filter _) fun h => ?_
  rw [List.mem_mergeSort, List.mem_filter, List.mem_filter, List.mem_mergeSort]

theorem eq_of_mem_suggest (hh : h ∈ suggest ratio t gone fresh)
    (hk : k ∈ suggest ratio t gone fresh) (same : h.removedId = k.removedId) : h = k := by
  by_contra apart
  have free := pairwise_takeFree []
    (((pairs ratio gone fresh).filter (reaches t)).mergeSort precedes)
  have symm : Std.Symm fun h k : RenameHint => ¬h.Clashes k :=
    ⟨fun h k apart clash => apart (clash.imp Eq.symm Eq.symm)⟩
  exact free.forall (List.mem_mergeSort.mp hh) (List.mem_mergeSort.mp hk) apart (Or.inl same)

/-- A tighter threshold suggests those of the hints that reach it and no others, or ends with the
same missing symbol; so it pairs a removed symbol with the added one that the looser threshold
pairs it with. -/
theorem tighter_threshold (ratio : NameRatio) (records : List ChangeRecord) (old new : SymbolGraph)
    (tighter : t ≤ t') :
    ofChanges ratio t' records old new =
        (ofChanges ratio t records old new).map (List.filter (reaches t')) ∧
      ∀ hints hints', ofChanges ratio t records old new = .ok hints →
        ofChanges ratio t' records old new = .ok hints' → ∀ h ∈ hints', h ∈ hints ∧
          ∀ k ∈ hints, k.removedId = h.removedId → k.addedId = h.addedId := by
  cases removed : changedSymbols old .removed records with
  | error id => simp [ofChanges, removed, Except.map]
  | ok gone =>
      cases added : changedSymbols new .added records with
      | error id => simp [ofChanges, removed, added, Except.map]
      | ok fresh =>
          have pair : ∀ {h}, h ∈ (pairs ratio gone fresh).filter (reaches t) →
              AlikePair ratio t records old new h := (AlikePair.mem_pairs_iff removed added).mp
          have fewer :
              suggest ratio t' gone fresh = (suggest ratio t gone fresh).filter (reaches t') :=
            suggest_filter tighter fun h hh k hk => AlikePair.eq_of_ids (pair hh) (pair hk)
          simp only [ofChanges, removed, added, Except.map, fewer, Except.ok.injEq, true_and]
          rintro _ _ rfl rfl h hh
          have looser := List.mem_of_mem_filter hh
          exact ⟨looser, fun k hk same => congrArg addedId (eq_of_mem_suggest hk looser same)⟩

/-! ## Two classes that moved -/

def plainClass (path name : String) : Symbol :=
  { id := symbolId path name, name, qualifiedName := name, nameSpace := "", kind := .classType,
    originPath := path, language := "java" }

theorem likeness_plainClass (ratio : NameRatio) (path path' name name' : String) :
    Likeness.ofSymbols ratio (plainClass path name) (plainClass path' name') =
      match Number.Parts.ofFloat ((ratio name name' + 1) / 2) with
      | .finite _ m q => Number.scaleRound m q 4
      | _ => 0 := by
  have members : ∀ path name, Likeness.memberNames (plainClass path name) = [] := fun _ _ => by
    simp [Likeness.memberNames, plainClass, textSet, sortTexts, dropRepeats]
  have overlap : Likeness.memberOverlap (plainClass path name) (plainClass path' name') = 1 := by
    simp [Likeness.memberOverlap, members, textSet, sortTexts, dropRepeats]
  rw [Likeness.ofSymbols, overlap]
  rfl

def shopBefore : SymbolGraph where
  symbols := [plainClass "a.java" "Cart", plainClass "a.java" "Order"]
  relationships := []
  symbols_ascend := by decide
  edges_inside := by simp

def shopAfter : SymbolGraph where
  symbols := [plainClass "b.java" "Border", plainClass "b.java" "Cart"]
  relationships := []
  symbols_ascend := by decide
  edges_inside := by simp

def shopChanges : List ChangeRecord :=
  [{ symbolId := "a.java::Cart", kind := .removed },
    { symbolId := "a.java::Order", kind := .removed },
    { symbolId := "b.java::Border", kind := .added },
    { symbolId := "b.java::Cart", kind := .added }]

def cartHint : RenameHint := ⟨"a.java::Cart", "b.java::Cart", 10000⟩

def orderHint : RenameHint := ⟨"a.java::Order", "b.java::Border", 8636⟩

theorem shop_hints :
    ofChanges Likeness.indelRatio 0.75 shopChanges shopBefore shopAfter =
      .ok [cartHint, orderHint] := by
  have alike : (pairs Likeness.indelRatio shopBefore.symbols
      shopAfter.symbols).filter (reaches 0.75) = [cartHint, orderHint] := by
    simp only [pairs, shopBefore, shopAfter, List.flatMap_cons, List.map_cons, likeness_plainClass,
      List.map_nil, List.flatMap_nil]
    decide +kernel
  have in_order : [cartHint, orderHint].mergeSort precedes = [cartHint, orderHint] :=
    List.mergeSort_of_pairwise (by decide +kernel)
  have taken : takeFree [] [cartHint, orderHint] = [cartHint, orderHint] := by decide
  have suggested : suggest Likeness.indelRatio 0.75 shopBefore.symbols shopAfter.symbols =
      [cartHint, orderHint] := by
    rw [suggest, alike, in_order, taken]
    exact List.mergeSort_of_pairwise (by decide)
  exact congrArg Except.ok suggested

/-- At a tighter threshold only the hint at the cart is left. -/
theorem tighter_threshold_shop :
    (0.75 : Float) ≤ 0.9 ∧
      ofChanges Likeness.indelRatio 0.75 shopChanges shopBefore shopAfter =
        .ok [cartHint, orderHint] ∧
      ofChanges Likeness.indelRatio 0.9 shopChanges shopBefore shopAfter = .ok [cartHint] := by
  have tighter : (0.75 : Float) ≤ 0.9 := by decide +kernel
  obtain ⟨fewer, -⟩ :=
    tighter_threshold Likeness.indelRatio shopChanges shopBefore shopAfter tighter
  have reached : [cartHint, orderHint].filter (reaches 0.9) = [cartHint] := by decide +kernel
  rw [shop_hints, Except.map, reached] at fewer
  exact ⟨tighter, shop_hints, fewer⟩

end RenameHint

end TacticalDesign
