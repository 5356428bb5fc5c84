import TacticalDesign.Document
import TacticalDesign.FileTree
import TacticalDesign.Proofs.Except
import TacticalDesign.Proofs.Json.RoundTrip
import TacticalDesign.Proofs.Text.Encoding
/-!
# What was written is read

A file that was written holds the bytes that were written into it, and the bytes of a document are
read as the document that its text stands for.
-/

namespace TacticalDesign

/-! ## Texts and bytes -/

theorem Text.unifyLineEnds_of_not_mem {s : List Char} (h : '\r' ∉ s) : unifyLineEnds s = s := by
  induction s with
  | nil => rfl
  | cons c rest ih =>
      rw [List.mem_cons, not_or] at h
      rw [unifyLineEnds, ih h.2]
      · exact fun _ e _ => h.1 e.symm
      · exact fun e => h.1 e.symm

theorem Document.textOf_encode {s : List Char} (plain : ∀ c ∈ s, Json.Parser.IsPlain c) :
    textOf (Text.Utf8.encode s) = .ok s := by
  have no_return : '\r' ∉ s := fun h => absurd (plain _ h) (by decide)
  simp only [textOf, Text.Utf8.decode_encode, Text.unifyLineEnds_of_not_mem no_return]

theorem Document.parse_encode {v : Json} (readable : v.IsReadable) :
    parse (Text.Utf8.encode v.indentedText.toList) = .ok v.reread := by
  simp only [parse, textOf_encode (Json.plain_indentedText readable),
    Json.parse_indentedText readable]

/-! ## Files -/

namespace FileTree

theorem isDirectory_iff {t : FileTree} {place : List String} :
    t.isDirectory place = true ↔ place <+: t.home ∨ (∃ e ∈ t.entries, e.1 ≠ place ∧ place <+: e.1) ∨
      (place, Entry.directory) ∈ t.entries := by
  simp only [isDirectory, Bool.or_eq_true, List.isPrefixOf_iff_prefix, List.any_eq_true]
  refine or_congr_right ⟨?_, ?_⟩
  · rintro ⟨⟨other, entry⟩, he, holds⟩
    dsimp only at holds
    split at holds
    · rename_i same
      cases entry with
      | directory => exact Or.inr (same ▸ he)
      | file bytes => cases holds
      | store content => cases holds
    · rename_i differ
      exact Or.inl ⟨_, he, differ, List.isPrefixOf_iff_prefix.mp holds⟩
  · rintro (⟨⟨other, entry⟩, he, differ, below⟩ | he)
    · refine ⟨_, he, ?_⟩
      dsimp only
      rw [if_neg differ]
      exact List.isPrefixOf_iff_prefix.mpr below
    · refine ⟨_, he, ?_⟩
      dsimp only
      rw [if_pos rfl]

theorem entry?_eq_directory_iff {t : FileTree} {place : List String} :
    t.entry? place = some .directory ↔ t.isDirectory place = true := by
  constructor
  · intro there
    by_contra free
    rw [ entry?, if_neg free] at there
    obtain ⟨⟨other, entry⟩, found, rfl⟩ := Option.map_eq_some_iff.mp there
    have same : other = place := by simpa using List.find?_some found
    have member := List.mem_of_find?_eq_some found
    exact free (isDirectory_iff.mpr (Or.inr (Or.inr (same ▸ member))))
  · exact fun directory => if_pos directory

section

variable {t : FileTree} {place : List String} (free : t.isDirectory place = false)
include free

theorem isDirectory_put (entry : Entry) {other : List String} (h : t.isDirectory other = true) :
    (t.put place entry).isDirectory other = true := by
  rw [isDirectory_iff] at h ⊢
  have kept : ∀ e ∈ t.entries, e.1 ≠ place → e ∈ (t.put place entry).entries :=
    fun e he differ => List.mem_append_left _ (List.mem_filter.mpr ⟨he, by simpa using differ⟩)
  rcases h with home | ⟨e, he, differ, below⟩ | he
  · exact Or.inl home
  · by_cases same : e.1 = place
    · exact Or.inr (Or.inl ⟨(place, entry), List.mem_append_right _ List.mem_cons_self,
        same ▸ differ, same ▸ below⟩)
    · exact Or.inr (Or.inl ⟨e, kept e he same, differ, below⟩)
  · refine Or.inr (Or.inr (kept _ he fun same => ?_))
    rw [← Bool.not_eq_true, isDirectory_iff] at free
    exact free (Or.inr (Or.inr (same ▸ he)))

theorem entry?_put (entry : Entry) (lasts : entry ≠ .directory) :
    entry? (t.put place entry) place = some entry := by
  have no_directory : (t.put place entry).isDirectory place = false := by
    rw [← Bool.not_eq_true, isDirectory_iff] at free ⊢
    rintro (home | ⟨e, he, differ, below⟩ | he)
    · exact free (Or.inl home)
    · rcases List.mem_append.mp he with he | he
      · exact free (Or.inr (Or.inl ⟨e, (List.mem_filter.mp he).1, differ, below⟩))
      · exact differ (List.mem_singleton.mp he ▸ rfl)
    · rcases List.mem_append.mp he with he | he
      · simpa using (List.mem_filter.mp he).2
      · exact lasts (Prod.mk.inj (List.mem_singleton.mp he)).2.symm
  have others : (t.entries.filter (·.1 ≠ place)).find? (·.1 = place) = none := by
    simp
  rw [ entry?, no_directory, if_neg Bool.false_ne_true, put, List.find?_append, others]
  simp

end

def Extends (t t' : FileTree) : Prop :=
  t'.home = t.home ∧ ∀ place, t.isDirectory place = true → t'.isDirectory place = true

theorem extends_self (t : FileTree) : t.Extends t := ⟨rfl, fun _ => id⟩

theorem Extends.trans {t₁ t₂ t₃ : FileTree} (h : t₁.Extends t₂) (h' : t₂.Extends t₃) :
    t₁.Extends t₃ :=
  ⟨h'.1.trans h.1, fun place directory => h'.2 place (h.2 place directory)⟩

theorem extends_put {t : FileTree} {place : List String} (free : t.isDirectory place = false)
    (entry : Entry) : t.Extends (t.put place entry) :=
  ⟨rfl, fun _ => isDirectory_put free entry⟩

theorem step_of_extends {t t' : FileTree} (larger : t.Extends t') {place next : List String}
    {name : String} (stepped : t.step place name = .ok next) : t'.step place name = .ok next := by
  unfold step at stepped ⊢
  split at stepped
  · rename_i directory
    rw [if_pos (larger.2 place directory)]
    exact stepped
  · split at stepped <;> cases stepped

theorem follow_of_extends {t t' : FileTree} (larger : t.Extends t') {names : List String}
    {first last : List String} (h : t.follow first names = .ok last) :
    t'.follow first names = .ok last := by
  induction names generalizing first with
  | nil => exact h
  | cons name rest ih =>
      rw [follow, List.foldlM_cons] at h ⊢
      obtain ⟨next, stepped, onward⟩ := bind_eq_ok.mp h
      rw [step_of_extends larger stepped]
      exact ih onward

theorem locate_put {t : FileTree} {place : List String} (free : t.isDirectory place = false)
    (entry : Entry) {p : Path} (located : t.locate p = .ok place) :
    (t.put place entry).locate p = .ok place := by
  unfold locate at located ⊢
  split at located
  · cases located
  · split at located
    · rename_i last followed
      obtain rfl := Except.ok.inj located
      have followed' := follow_of_extends (extends_put free entry) followed
      have start : (t.put last entry).start p = t.start p := rfl
      simp only [start, followed']
    · cases located

theorem write_eq_ok {t t' : FileTree} {p : Path} {bytes : List UInt8}
    (written : t.write p bytes = .ok t') :
    ∃ place, t.locate p = .ok place ∧ t.isDirectory place = false ∧
      t' = t.put place (.file bytes) := by
  unfold write at written
  split at written
  · cases written
  · rename_i place located
    split at written
    · cases written
    · rename_i free
      exact ⟨place, located, by simpa using free, (Except.ok.inj written).symm⟩

theorem read_of_write {t t' : FileTree} {p : Path} {bytes : List UInt8}
    (written : t.write p bytes = .ok t') : t'.read p = .ok bytes := by
  obtain ⟨place, located, free, rfl⟩ := write_eq_ok written
  rw [read, locate_put free (.file bytes) located]
  simp only [entry?_put free (.file bytes) nofun]

theorem read_of_writeFile {t t' : FileTree} {p : Path} {bytes : List UInt8}
    (written : t.writeFile p bytes = .ok t') : t'.read p = .ok bytes := by
  rw [writeFile] at written
  obtain ⟨prepared, -, written⟩ := bind_eq_ok.mp written
  exact read_of_write written

theorem writeFile_empty {p : Path} {place : List String} (usable : unusable? p.parent = none)
    (no_names : p.parent.names = []) (located : locate {} p = .ok place)
    (free : isDirectory {} place = false) (bytes : List UInt8) :
    writeFile {} p bytes = .ok (put {} place (.file bytes)) := by
  have prepared : makeDirectory {} p.parent = .ok {} := by
    simp only [makeDirectory, usable, no_names, makeDirectories]
  simp only [writeFile, prepared, bind, Except.bind, write, located, free]
  rfl

/-! ## Writing again -/

theorem put_put (t : FileTree) (place : List String) (first second : Entry) :
    (t.put place first).put place second = t.put place second := by
  have none_there : ((t.entries.filter (·.1 ≠ place)) ++ [(place, first)]).filter (·.1 ≠ place) =
      t.entries.filter (·.1 ≠ place) := by
    rw [List.filter_append, List.filter_filter]
    simp
  simp only [put, none_there]

theorem makeDirectories_again {path : String} {names : List String} {t t₁ : FileTree}
    {place : List String} (made : t.makeDirectories path place names = .ok t₁) :
    t.Extends t₁ ∧ ∀ t₂, t₁.Extends t₂ → t₂.makeDirectories path place names = .ok t₂ := by
  induction names generalizing t place with
  | nil =>
      obtain rfl := Except.ok.inj made
      exact ⟨extends_self t, fun _ _ => rfl⟩
  | cons name rest ih =>
      rw [makeDirectories] at made
      split at made
      · cases made
      rename_i next stepped
      -- Wherever the way goes on from a larger tree, the next directory is there and is kept.
      have onward : ∀ larger : FileTree, t.Extends larger → larger.isDirectory next = true →
          larger.makeDirectories path next rest = .ok t₁ →
            t.Extends t₁ ∧ ∀ t₂, t₁.Extends t₂ →
              t₂.makeDirectories path place (name :: rest) = .ok t₂ := by
        intro larger more directory made
        obtain ⟨grown, again⟩ := ih made
        refine ⟨more.trans grown, fun t₂ later => ?_⟩
        have step₂ : t₂.step place name = .ok next :=
          step_of_extends ((more.trans grown).trans later) stepped
        have there : t₂.entry? next = some .directory :=
          entry?_eq_directory_iff.mpr ((grown.trans later).2 next directory)
        rw [makeDirectories, step₂]
        simp only [there]
        exact again t₂ later
      split at made
      · rename_i nothing
        have free : t.isDirectory next = false := by
          rw [← Bool.not_eq_true, ← entry?_eq_directory_iff, nothing]
          exact nofun
        have directory : (t.put next .directory).isDirectory next = true :=
          isDirectory_iff.mpr (Or.inr (Or.inr (List.mem_append_right _ List.mem_cons_self)))
        exact onward _ (extends_put free .directory) directory made
      · rename_i there
        exact onward t (extends_self t) (entry?_eq_directory_iff.mp there) made
      · cases made

theorem writeFile_again {t t' : FileTree} {p : Path} {bytes : List UInt8}
    (written : t.writeFile p bytes = .ok t') : t'.writeFile p bytes = .ok t' := by
  rw [writeFile] at written
  obtain ⟨prepared, made, written⟩ := bind_eq_ok.mp written
  obtain ⟨place, located, free, rfl⟩ := write_eq_ok written
  have larger := extends_put free (.file bytes)
  have again : (prepared.put place (.file bytes)).makeDirectory p.parent =
      .ok (prepared.put place (.file bytes)) := by
    unfold makeDirectory at made ⊢
    split at made
    · cases made
    · obtain ⟨grown, again⟩ := makeDirectories_again made
      have start : (prepared.put place (.file bytes)).start p.parent = t.start p.parent := by
        rw [FileTree.start, FileTree.start, larger.1, grown.1]
      rw [start]
      exact again _ larger
  have still_free : (prepared.put place (.file bytes)).isDirectory place = false := by
    rw [← Bool.not_eq_true, ← entry?_eq_directory_iff, entry?_put free (.file bytes) nofun]
    exact nofun
  rw [writeFile, again]
  show (prepared.put place (.file bytes)).write p bytes = _
  rw [write, locate_put free (.file bytes) located]
  simp only [still_free, put_put]
  rfl

end FileTree

end TacticalDesign
