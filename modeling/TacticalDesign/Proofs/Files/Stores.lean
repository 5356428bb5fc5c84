import TacticalDesign.Proofs.Files.Places
/-!
# Stores in a tree

A store that lasts is opened in its place, and what stands there alone decides what it holds.
Keeping it changes no other place.
-/

namespace TacticalDesign.FileTree

variable {t t' : FileTree} {p : Path} {place : List String} {found : OpenStore}

def storeIn? : Option Entry → Option StoreFile
  | none => some .empty
  | some .directory => none
  | some (.store content) => some content
  | some (.file []) => some .empty
  | some (.file _) => some .foreign

def Lasts (p : Path) : Prop := p.text ≠ transientStore

instance (p : Path) : Decidable (Lasts p) := inferInstanceAs (Decidable (_ ≠ _))

theorem openStore_of_transient (transient : ¬Lasts p) :
    t.openStore p = .ok (some ⟨none, .empty⟩) := by
  rw [openStore, if_pos (not_not.mp transient)]

theorem openStore_of_located (lasts : Lasts p) (located : t.locate p = .ok place) :
    t.openStore p = .ok ((storeIn? (t.entry? place)).map fun content => ⟨some place, content⟩) := by
  rw [openStore, if_neg lasts, located]
  dsimp only
  rcases t.entry? place with _ | _ | (_ | _) | _ <;> rfl

theorem openStore_eq_some (lasts : Lasts p) (opened : t.openStore p = .ok (some found)) :
    t.locate p = .ok (t.placeOf p) ∧ found.place = some (t.placeOf p) ∧
      storeIn? (t.entry? (t.placeOf p)) = some found.content := by
  cases located : t.locate p with
  | error e =>
      rw [openStore, if_neg lasts, located] at opened
      cases e <;> cases opened
  | ok place =>
      obtain ⟨rfl, -⟩ := locate_ok located
      rw [openStore_of_located lasts located] at opened
      obtain ⟨content, there, rfl⟩ := Option.map_eq_some_iff.mp (Except.ok.inj opened)
      exact ⟨rfl, rfl, there⟩

theorem isDirectory_of_storeIn? {content : StoreFile}
    (there : storeIn? (t.entry? place) = some content) : t.isDirectory place = false := by
  rw [← Bool.not_eq_true, ← entry?_eq_directory_iff]
  intro directory
  rw [directory] at there
  cases there

/-! ## Keeping a store -/

theorem ChangesAt.refl (place : List String) (t : FileTree) : ChangesAt place t t :=
  ⟨extends_self t, fun _ _ => Or.inl rfl⟩

/-- What is kept of a store stands in its place, and nothing is new anywhere else. -/
theorem keepStore_changes {content : StoreFile} (located : t.locate p = .ok place)
    (there : storeIn? (t.entry? place) = some content) (kept : StoreFile) :
    ChangesAt place t (t.keepStore (some place) kept) ∧
      ∀ x ≠ place, FileTree.entry? (t.keepStore (some place) kept) x = t.entry? x := by
  have free := isDirectory_of_storeIn? there
  have above := isDirectory_above located
  cases kept with
  | foreign => exact ⟨.refl place t, fun x _ => rfl⟩
  | tables tables =>
      exact ⟨changesAt_put free above _, fun x differ => entry?_put_of_ne above _ differ⟩

theorem storeIn?_keepStore {content kept : StoreFile}
    (there : storeIn? (t.entry? place) = some content)
    (same : kept = .foreign → content = .foreign) :
    storeIn? (FileTree.entry? (t.keepStore (some place) kept) place) = some kept := by
  cases kept with
  | foreign =>
      obtain rfl := same rfl
      exact there
  | tables tables =>
      have free := isDirectory_of_storeIn? there
      show storeIn? (FileTree.entry? (t.put place (.store (.tables tables))) place) = _
      rw [ entry?_put free (.store (.tables tables)) nofun]
      rfl

theorem keepStore_of_transient (transient : ¬Lasts p) (opened : t.openStore p = .ok (some found))
    (kept : StoreFile) : t.keepStore found.place kept = t := by
  rw [openStore_of_transient transient] at opened
  obtain rfl := Option.some.inj (Except.ok.inj opened)
  cases kept <;> rfl

theorem openStore_keepStore {kept : StoreFile} (lasts : Lasts p)
    (opened : t.openStore p = .ok (some found))
    (same : kept = .foreign → found.content = .foreign) :
    FileTree.openStore (t.keepStore found.place kept) p = .ok (some ⟨found.place, kept⟩) := by
  obtain ⟨located, place, there⟩ := openStore_eq_some lasts opened
  rw [place]
  obtain ⟨changes, -⟩ := keepStore_changes located there kept
  rw [openStore_of_located lasts (changes.locate_eq located), storeIn?_keepStore there same]
  rfl

end TacticalDesign.FileTree
