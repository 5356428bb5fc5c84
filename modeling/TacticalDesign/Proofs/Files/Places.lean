import TacticalDesign.Proofs.Files.Written
/-!
# What a write leaves alone

A path names its place by its names alone, so a path keeps its place while directories come and
files change. A file that is written changes its own place; anywhere else it at most makes
directories where nothing was.
-/

namespace TacticalDesign.FileTree

variable {t t' : FileTree} {place q x first last : List String} {p : Path}

/-! ## Places -/

/-- The place that a path names, whether or not a way leads there. -/
def placeOf (t : FileTree) (p : Path) : List String := p.names.foldl goTo (t.start p)

theorem step_ok {name : String} {next : List String} (h : t.step place name = .ok next) :
    t.isDirectory place = true ∧ next = goTo place name := by
  unfold step at h
  split at h
  · rename_i directory
    refine ⟨directory, ?_⟩
    unfold goTo
    split at h
    · rename_i up
      rw [if_pos up]
      exact (Except.ok.inj h).symm
    · rename_i down
      split at h
      · cases h
      · rw [if_neg down]
        exact (Except.ok.inj h).symm
  · split at h <;> cases h

theorem follow_ok {names : List String} (h : t.follow first names = .ok last) :
    last = names.foldl goTo first := by
  induction names generalizing first with
  | nil => exact (Except.ok.inj h).symm
  | cons name rest ih =>
      rw [follow, List.foldlM_cons] at h
      obtain ⟨next, stepped, onward⟩ := bind_eq_ok.mp h
      rw [List.foldl_cons, ← (step_ok stepped).2]
      exact ih onward

theorem locate_ok (h : t.locate p = .ok place) :
    place = t.placeOf p ∧ t.follow (t.start p) p.names = .ok place := by
  unfold locate at h
  split at h
  · cases h
  · split at h
    · rename_i found followed
      obtain rfl := Except.ok.inj h
      exact ⟨follow_ok followed, followed⟩
    · cases h

/-! ## Directories above -/

theorem isDirectory_of_prefix (h : t.isDirectory q = true) (above : x <+: q) :
    t.isDirectory x = true := by
  rw [isDirectory_iff] at h ⊢
  rcases h with home | ⟨e, he, differ, below⟩ | he
  · exact Or.inl (above.trans home)
  · refine Or.inr (Or.inl ⟨e, he, ?_, above.trans below⟩)
    rintro rfl
    exact differ (below.eq_of_length_le above.length_le).symm
  · by_cases same : x = q
    · exact Or.inr (Or.inr (same ▸ he))
    · exact Or.inr (Or.inl ⟨_, he, fun e => same e.symm, above⟩)

theorem isDirectory_dropLast (h : t.isDirectory q = true) : t.isDirectory q.dropLast = true :=
  isDirectory_of_prefix h q.dropLast_prefix

theorem isDirectory_of_step {name : String} {next : List String}
    (h : t.step place name = .ok next) : t.isDirectory next.dropLast = true := by
  obtain ⟨directory, rfl⟩ := step_ok h
  unfold goTo
  split
  · exact isDirectory_dropLast (isDirectory_dropLast directory)
  · rw [List.dropLast_concat]
    exact directory

theorem isDirectory_of_follow {names : List String} (start : t.isDirectory first.dropLast = true)
    (h : t.follow first names = .ok last) : t.isDirectory last.dropLast = true := by
  induction names generalizing first with
  | nil =>
      obtain rfl := Except.ok.inj h
      exact start
  | cons name rest ih =>
      rw [follow, List.foldlM_cons] at h
      obtain ⟨next, stepped, onward⟩ := bind_eq_ok.mp h
      exact ih (isDirectory_of_step stepped) onward

theorem isDirectory_start (t : FileTree) (p : Path) : t.isDirectory (t.start p) = true := by
  refine isDirectory_iff.mpr (Or.inl ?_)
  unfold start
  split
  · exact List.nil_prefix
  · exact List.prefix_refl _

theorem isDirectory_above (h : t.locate p = .ok place) : t.isDirectory place.dropLast = true :=
  isDirectory_of_follow (isDirectory_dropLast (t.isDirectory_start p)) (locate_ok h).2

/-! ## Putting an entry beside others -/

section

variable (above : t.isDirectory q.dropLast = true) (entry : Entry) (differ : x ≠ q)
include above differ

theorem isDirectory_put_of_ne :
    (t.put q entry).isDirectory x = true ↔ t.isDirectory x = true := by
  constructor
  · intro h
    rcases isDirectory_iff.mp h with home | ⟨e, he, other, below⟩ | he
    · exact isDirectory_iff.mpr (Or.inl home)
    · rcases List.mem_append.mp he with he | he
      · exact isDirectory_iff.mpr (Or.inr (Or.inl ⟨e, (List.mem_filter.mp he).1, other, below⟩))
      · -- a directory that leads to the new entry was one before
        obtain rfl := List.mem_singleton.mp he
        have strict : x.length < q.length := by
          refine lt_of_le_of_ne below.length_le fun same => differ ?_
          exact below.eq_of_length same
        refine isDirectory_of_prefix above ?_
        rw [List.prefix_iff_eq_take] at below ⊢
        rw [below, List.dropLast_eq_take, List.take_take]
        congr 1
        simp only [List.length_take]
        omega
    · rcases List.mem_append.mp he with he | he
      · exact isDirectory_iff.mpr (Or.inr (Or.inr (List.mem_filter.mp he).1))
      · exact absurd (Prod.mk.inj (List.mem_singleton.mp he)).1 differ
  · intro h
    rcases isDirectory_iff.mp h with home | ⟨e, he, other, below⟩ | he
    · exact isDirectory_iff.mpr (Or.inl home)
    · by_cases same : e.1 = q
      · exact isDirectory_iff.mpr (Or.inr (Or.inl ⟨(q, entry),
          List.mem_append_right _ List.mem_cons_self, same ▸ other, same ▸ below⟩))
      · exact isDirectory_iff.mpr (Or.inr (Or.inl ⟨e, List.mem_append_left _
          (List.mem_filter.mpr ⟨he, by simpa using same⟩), other, below⟩))
    · exact isDirectory_iff.mpr (Or.inr (Or.inr (List.mem_append_left _
        (List.mem_filter.mpr ⟨he, by simpa using differ⟩))))

theorem entry?_put_of_ne : FileTree.entry? (t.put q entry) x = t.entry? x := by
  have directory := isDirectory_put_of_ne above entry differ
  have found : (t.put q entry).entries.find? (·.1 = x) = t.entries.find? (·.1 = x) := by
    have none_new : [(q, entry)].find? (·.1 = x) = none := by
      simpa using differ.symm
    rw [put, List.find?_append, none_new, Option.or_none, List.find?_filter]
    congr 1
    funext e
    by_cases same : e.1 = x
    · simp [same, differ]
    · simp [same]
  unfold entry?
  rw [found]
  by_cases h : t.isDirectory x = true
  · rw [if_pos h, if_pos (directory.mpr h)]
  · rw [if_neg h, if_neg fun h' => h (directory.mp h')]

end

/-! ## Changes -/

/-- Whatever stood in a place is still there, and a directory is all that may be new. -/
def KeepsAt (x : List String) (t t' : FileTree) : Prop :=
  t'.entry? x = t.entry? x ∨ t.entry? x = none ∧ t'.entry? x = some .directory

/-- Directories stay, and every place but one keeps what it has. -/
structure ChangesAt (q : List String) (t t' : FileTree) : Prop where
  larger : t.Extends t'
  keeps : ∀ x ≠ q, KeepsAt x t t'

structure AddsDirectories (t t' : FileTree) : Prop where
  larger : t.Extends t'
  keeps : ∀ x, KeepsAt x t t'

theorem entry?_directory_of_extends (larger : t.Extends t') (h : t.entry? x = some .directory) :
    t'.entry? x = some .directory :=
  entry?_eq_directory_iff.mpr (larger.2 x (entry?_eq_directory_iff.mp h))

theorem KeepsAt.trans {t'' : FileTree} (h : KeepsAt x t t') (h' : KeepsAt x t' t'')
    (larger : t'.Extends t'') : KeepsAt x t t'' := by
  rcases h with same | ⟨nothing, directory⟩
  · rcases h' with same' | ⟨nothing', directory'⟩
    · exact Or.inl (same'.trans same)
    · exact Or.inr ⟨same ▸ nothing', directory'⟩
  · exact Or.inr ⟨nothing, entry?_directory_of_extends larger directory⟩

theorem AddsDirectories.refl (t : FileTree) : AddsDirectories t t :=
  ⟨extends_self t, fun _ => Or.inl rfl⟩

theorem AddsDirectories.trans {t'' : FileTree} (h : AddsDirectories t t')
    (h' : AddsDirectories t' t'') : AddsDirectories t t'' :=
  ⟨h.larger.trans h'.larger, fun x => (h.keeps x).trans (h'.keeps x) h'.larger⟩

theorem AddsDirectories.changesAt {t'' : FileTree} (h : AddsDirectories t t')
    (h' : ChangesAt q t' t'') : ChangesAt q t t'' :=
  ⟨h.larger.trans h'.larger, fun x differ => (h.keeps x).trans (h'.keeps x differ) h'.larger⟩

theorem changesAt_put (free : t.isDirectory q = false) (above : t.isDirectory q.dropLast = true)
    (entry : Entry) : ChangesAt q t (t.put q entry) :=
  ⟨extends_put free entry, fun _ differ => Or.inl (entry?_put_of_ne above entry differ)⟩

theorem addsDirectories_put (nothing : t.entry? q = none)
    (above : t.isDirectory q.dropLast = true) : AddsDirectories t (t.put q .directory) := by
  have free : t.isDirectory q = false := by
    rw [← Bool.not_eq_true, ← entry?_eq_directory_iff, nothing]
    exact nofun
  refine ⟨extends_put free .directory, fun x => ?_⟩
  by_cases same : x = q
  · subst same
    refine Or.inr ⟨nothing, entry?_eq_directory_iff.mpr (isDirectory_iff.mpr ?_)⟩
    exact Or.inr (Or.inr (List.mem_append_right _ List.mem_cons_self))
  · exact (changesAt_put free above .directory).keeps x same

theorem addsDirectories_makeDirectories {path : String} {names : List String}
    (made : t.makeDirectories path place names = .ok t') : AddsDirectories t t' := by
  induction names generalizing t place with
  | nil =>
      obtain rfl := Except.ok.inj made
      exact .refl t
  | cons name rest ih =>
      rw [makeDirectories] at made
      split at made
      · cases made
      rename_i next stepped
      split at made
      · rename_i nothing
        exact (addsDirectories_put nothing (isDirectory_of_step stepped)).trans (ih made)
      · exact ih made
      · cases made

theorem addsDirectories_makeDirectory (made : t.makeDirectory p = .ok t') :
    AddsDirectories t t' := by
  unfold makeDirectory at made
  split at made
  · cases made
  · exact addsDirectories_makeDirectories made

theorem placeOf_of_home (home : t'.home = t.home) {p : Path} : t'.placeOf p = t.placeOf p := by
  rw [placeOf, placeOf, start, start, home]

theorem changesAt_writeFile {bytes : List UInt8} (written : t.writeFile p bytes = .ok t') :
    ChangesAt (t.placeOf p) t t' := by
  rw [writeFile] at written
  obtain ⟨prepared, made, written⟩ := bind_eq_ok.mp written
  have directories := addsDirectories_makeDirectory made
  obtain ⟨place, located, free, rfl⟩ := write_eq_ok written
  obtain ⟨rfl, -⟩ := locate_ok located
  rw [placeOf_of_home directories.larger.1] at located free ⊢
  exact directories.changesAt (changesAt_put free (isDirectory_above located) _)

/-! ## Reading elsewhere -/

namespace ChangesAt

variable (h : ChangesAt q t t')
include h

theorem placeOf_eq (p : Path) : t'.placeOf p = t.placeOf p := placeOf_of_home h.larger.1

theorem locate_eq (located : t.locate p = .ok place) : t'.locate p = .ok place := by
  have followed := follow_of_extends h.larger (locate_ok located).2
  unfold locate at located ⊢
  split at located
  · cases located
  · have start : t'.start p = t.start p := by rw [FileTree.start, FileTree.start, h.larger.1]
    simp only [start, followed]

theorem entry?_eq {e : Entry} (differ : x ≠ q) (there : t.entry? x = some e) :
    t'.entry? x = some e := by
  rcases h.keeps x differ with same | ⟨nothing, -⟩
  · rw [same, there]
  · rw [nothing] at there
    cases there

theorem read_eq {bytes : List UInt8} (differ : t.placeOf p ≠ q) (held : t.read p = .ok bytes) :
    t'.read p = .ok bytes := by
  unfold read at held ⊢
  split at held
  · cases held
  rename_i place located
  obtain ⟨rfl, -⟩ := locate_ok located
  simp only [h.locate_eq located]
  split at held
  · cases held
  · cases held
  · rename_i found
    rw [h.entry?_eq differ found]
    exact held
  · cases held

end ChangesAt

def fileAt? (t : FileTree) (p : Path) : Option Entry :=
  match t.entry? (t.placeOf p) with
  | some .directory => none
  | found => found

theorem ChangesAt.fileAt?_eq (h : ChangesAt q t t') (differ : t.placeOf p ≠ q) :
    t'.fileAt? p = t.fileAt? p := by
  unfold fileAt?
  rw [h.placeOf_eq p]
  rcases h.keeps _ differ with same | ⟨nothing, directory⟩
  · rw [same]
  · rw [nothing, directory]

end TacticalDesign.FileTree
