import Mathlib.Data.List.Forall2
/-!
# Steps that may fail

A chain of steps gives a result when each of its steps does.
-/

namespace TacticalDesign

theorem bind_eq_ok {ε α β : Type} {x : Except ε α} {f : α → Except ε β} {b : β} :
    x >>= f = .ok b ↔ ∃ a, x = .ok a ∧ f a = .ok b := by
  constructor
  · intro h
    cases x with
    | error e => cases h
    | ok a => exact ⟨a, rfl, h⟩
  · rintro ⟨a, rfl, h⟩
    exact h

theorem bind_eq_error {ε α β : Type} {x : Except ε α} {f : α → Except ε β} {e : ε} :
    x >>= f = .error e ↔ x = .error e ∨ ∃ a, x = .ok a ∧ f a = .error e := by
  constructor
  · intro h
    cases x with
    | error e' =>
        cases h
        exact .inl rfl
    | ok a => exact .inr ⟨a, rfl, h⟩
  · rintro (rfl | ⟨a, rfl, h⟩)
    · rfl
    · exact h

theorem map_eq_ok_iff {ε α β : Type} {x : Except ε α} {f : α → β} {b : β} :
    x.map f = .ok b ↔ ∃ a, x = .ok a ∧ f a = b := by
  constructor
  · intro h
    cases x with
    | error e => cases h
    | ok a => exact ⟨a, rfl, Except.ok.inj h⟩
  · rintro ⟨a, rfl, rfl⟩
    rfl

theorem ite_bind_eq_ok {ε α β : Type} {p : Prop} [Decidable p] {x y : Except ε α}
    {f : α → Except ε β} {b : β} :
    (if p then x >>= f else y >>= f) = .ok b ↔ ∃ a, (if p then x else y) = .ok a ∧ f a = .ok b := by
  rw [← bind_eq_ok]
  split <;> rfl

theorem if_some_eq_none {ε : Type} {p : Prop} [Decidable p] {e : ε} {later : Option ε} :
    (if p then some e else later) = none ↔ ¬p ∧ later = none := by
  by_cases h : p <;> simp [h]

section Items

variable {ε α β γ : Type} {f f' : α → Except ε β} {l : List α} {r : List β}

theorem mapM_cons_eq_ok {a : α} :
    (a :: l).mapM f = .ok r ↔ ∃ b bs, f a = .ok b ∧ l.mapM f = .ok bs ∧ b :: bs = r := by
  rw [List.mapM_cons, bind_eq_ok]
  constructor
  · rintro ⟨b, hb, h⟩
    obtain ⟨bs, hbs, h⟩ := bind_eq_ok.mp h
    cases h
    exact ⟨b, bs, hb, hbs, rfl⟩
  · rintro ⟨b, bs, hb, hbs, rfl⟩
    exact ⟨b, hb, bind_eq_ok.mpr ⟨bs, hbs, rfl⟩⟩

theorem mapM_ok {read : β → Except ε γ} {write : α → β} {back : α → γ}
    (h : ∀ a ∈ l, read (write a) = .ok (back a)) :
    (l.map write).mapM read = .ok (l.map back) := by
  induction l with
  | nil => rfl
  | cons a rest ih =>
      have later := ih fun b hb => h b (List.mem_cons_of_mem a hb)
      exact mapM_cons_eq_ok.mpr ⟨_, _, h a List.mem_cons_self, later, rfl⟩

theorem mapM_error_split {e : ε} (h : l.mapM f = .error e) :
    ∃ before a after, l = before ++ a :: after ∧ (∀ b ∈ before, ∃ c, f b = .ok c) ∧
      f a = .error e := by
  induction l with
  | nil => cases h
  | cons a rest ih =>
      rw [List.mapM_cons] at h
      rcases bind_eq_error.mp h with failed | ⟨b, fine, h⟩
      · exact ⟨[], a, rest, rfl, by simp, failed⟩
      · rcases bind_eq_error.mp h with failed | ⟨bs, -, h⟩
        · obtain ⟨before, c, after, split, before_fine, failed⟩ := ih failed
          refine ⟨a :: before, c, after, by rw [split]; rfl, ?_, failed⟩
          exact List.forall_mem_cons.mpr ⟨⟨b, fine⟩, before_fine⟩
        · cases h

theorem exists_of_mapM_error {e : ε} (h : l.mapM f = .error e) : ∃ a ∈ l, f a = .error e := by
  obtain ⟨before, a, after, split, -, failed⟩ := mapM_error_split h
  exact ⟨a, split ▸ List.mem_append_right _ List.mem_cons_self, failed⟩

theorem forall₂_of_mapM (h : l.mapM f = .ok r) : List.Forall₂ (fun a b => f a = .ok b) l r := by
  induction l generalizing r with
  | nil =>
      cases h
      exact .nil
  | cons a rest ih =>
      obtain ⟨first, later, hfirst, hlater, rfl⟩ := mapM_cons_eq_ok.mp h
      exact .cons hfirst (ih hlater)

theorem mapM_eq_ok_iff : l.mapM f = .ok r ↔ List.Forall₂ (fun a b => f a = .ok b) l r := by
  refine ⟨forall₂_of_mapM, fun each => ?_⟩
  induction each with
  | nil => rfl
  | cons first _ ih => exact mapM_cons_eq_ok.mpr ⟨_, _, first, ih, rfl⟩

theorem exists_mapM_iff : (∃ r, l.mapM f = .ok r) ↔ ∀ a ∈ l, ∃ b, f a = .ok b := by
  constructor
  · rintro ⟨r, h⟩
    induction l generalizing r with
    | nil => simp
    | cons a rest ih =>
        obtain ⟨first, later, hfirst, hlater, -⟩ := mapM_cons_eq_ok.mp h
        exact List.forall_mem_cons.mpr ⟨⟨first, hfirst⟩, ih later hlater⟩
  · intro each
    cases h : l.mapM f with
    | ok r => exact ⟨r, rfl⟩
    | error e =>
        obtain ⟨a, ha, failed⟩ := exists_of_mapM_error h
        obtain ⟨b, fine⟩ := each a ha
        cases fine.symm.trans failed

theorem exists_of_mem_mapM (h : l.mapM f = .ok r) {b : β} (hb : b ∈ r) : ∃ a ∈ l, f a = .ok b := by
  induction l generalizing r with
  | nil =>
      cases h
      cases hb
  | cons a rest ih =>
      obtain ⟨first, later, hfirst, hlater, rfl⟩ := mapM_cons_eq_ok.mp h
      rcases List.mem_cons.mp hb with rfl | hb
      · exact ⟨a, List.mem_cons_self, hfirst⟩
      · obtain ⟨a', ha', ha'b⟩ := ih hlater hb
        exact ⟨a', List.mem_cons_of_mem a ha', ha'b⟩

/-- Where each result has the mark of its item, the results have those of the items in order. -/
theorem map_of_mapM {mark : α → γ} {mark' : β → γ}
    (keeps : ∀ {a b}, f a = .ok b → mark' b = mark a) (h : l.mapM f = .ok r) :
    r.map mark' = l.map mark := by
  induction l generalizing r with
  | nil =>
      cases h
      rfl
  | cons a rest ih =>
      obtain ⟨first, later, hfirst, hlater, rfl⟩ := mapM_cons_eq_ok.mp h
      rw [List.map_cons, List.map_cons, keeps hfirst, ih hlater]

/-- What comes of some of the items is some of what comes of all of them. -/
theorem mapM_filter {keep : α → Bool} {keep' : β → Bool}
    (same : ∀ a ∈ l, keep a = true → f' a = f a)
    (keeps : ∀ {a b}, f a = .ok b → keep' b = keep a) (h : l.mapM f = .ok r) :
    (l.filter keep).mapM f' = .ok (r.filter keep') := by
  induction l generalizing r with
  | nil =>
      cases h
      rfl
  | cons a rest ih =>
      obtain ⟨first, later, hfirst, hlater, rfl⟩ := mapM_cons_eq_ok.mp h
      have behind := ih (fun b hb => same b (List.mem_cons_of_mem a hb)) hlater
      have about := keeps hfirst
      cases kept : keep a with
      | true =>
          rw [List.filter_cons_of_pos kept, List.filter_cons_of_pos (about.trans kept)]
          have here := (same a List.mem_cons_self kept).trans hfirst
          exact mapM_cons_eq_ok.mpr ⟨first, _, here, behind, rfl⟩
      | false =>
          rw [List.filter_cons_of_neg (by simp [kept]),
            List.filter_cons_of_neg (by simp [about, kept])]
          exact behind

end Items

end TacticalDesign
