import TacticalDesign.Config
import TacticalDesign.Proofs.Except
import TacticalDesign.Proofs.Number.Whole
/-!
# Limits of a configuration

A configuration that is accepted is within its limits, as far as these compare numbers: a float that
is no number breaks none of the checks. Overrides are refused with an error of their own, but for a
whole number beyond the largest float, whose conversion fails first.
-/

namespace TacticalDesign

def Number.isNaN : Number → Bool
  | int _ => false
  | float x => x.isNaN

def Json.isNaN : Json → Bool
  | number n => n.isNaN
  | _ => false

/-! ## Settings -/

namespace Setting

def value (c : ScanConfig) : Setting → Number
  | real _ read => .float (read c)
  | whole _ read => .int (read c)

def put (c : ScanConfig) : Setting → Number → ScanConfig
  | real write _, .float x => write c x
  | whole write _, .int i => write c i
  | _, _ => c

/-- The value that a setting takes from a number: the nearest float, or the whole number that it
is. -/
def taken? : Setting → Number → Option Number
  | real _ _, n => n.toFloat?.map .float
  | whole _ _, n => if n.toFloat?.isNone then none else n.toInt?.map .int

section

variable {write : ScanConfig → Float → ScanConfig} {read : ScanConfig → Float}

theorem taken?_real {n v : Number} (h : (real write read).taken? n = some v) :
    ∃ x, n.toFloat? = some x ∧ v = .float x := by
  obtain ⟨x, converted, rfl⟩ := Option.map_eq_some_iff.mp h
  exact ⟨x, converted, rfl⟩

end

section

variable {write : ScanConfig → Int → ScanConfig} {read : ScanConfig → Int}

theorem taken?_whole {n v : Number} (h : (whole write read).taken? n = some v) :
    ∃ i, n.toInt? = some i ∧ v = .int i := by
  rw [taken?] at h
  split at h
  · cases h
  · obtain ⟨i, whole, rfl⟩ := Option.map_eq_some_iff.mp h
    exact ⟨i, whole, rfl⟩

end

theorem isNaN_of_taken {s : Setting} {n v : Number} (h : s.taken? n = some v) :
    v.isNaN = n.isNaN := by
  cases s with
  | real write read =>
      obtain ⟨x, converted, rfl⟩ := taken?_real h
      cases n with
      | int i => exact Number.isNaN_of_toFloat?_int converted
      | float y => exact congrArg Float.isNaN (Option.some.inj converted).symm
  | whole write read =>
      obtain ⟨i, read_as, rfl⟩ := taken?_whole h
      cases n with
      | int i => rfl
      | float y =>
          cases number : y.isNaN with
          | false => exact number.symm
          | true =>
              rw [Number.toInt?, Number.parts_of_isNaN number] at read_as
              cases read_as

end Setting

theorem setting?_of_mem : ∀ entry ∈ settings, setting? entry.1 = some entry.2 := by
  simp only [settings, List.forall_mem_cons]
  repeat' constructor
  all_goals simp [settings, setting?]

theorem mem_of_setting? {key : String} {s : Setting} (h : setting? key = some s) :
    (key, s) ∈ settings := by
  obtain ⟨⟨k, s'⟩, found, rfl⟩ := Option.map_eq_some_iff.mp h
  have same : k = key := by simpa using List.find?_some found
  exact same ▸ List.mem_of_find?_eq_some found

theorem value_put : ∀ entry ∈ settings, ∀ (c : ScanConfig) (n v : Number),
    entry.2.taken? n = some v → entry.2.value (entry.2.put c v) = v := by
  simp only [settings, List.forall_mem_cons, List.not_mem_nil, false_imp_iff, implies_true,
    and_true]
  repeat' apply And.intro
  all_goals
    intro c n v taken
    first
      | obtain ⟨x, -, rfl⟩ := Setting.taken?_real taken
        rfl
      | obtain ⟨i, -, rfl⟩ := Setting.taken?_whole taken
        rfl

theorem value_put_of_ne : ∀ entry ∈ settings, ∀ other ∈ settings, entry.1 ≠ other.1 →
    ∀ (c : ScanConfig) (v : Number), other.2.value (entry.2.put c v) = other.2.value c := by
  simp only [settings, List.forall_mem_cons, List.not_mem_nil, false_imp_iff, implies_true,
    and_true]
  repeat' apply And.intro
  all_goals
    intro ne c v
    first
      | exact absurd rfl ne
      | cases v <;> rfl

namespace ScanConfig

/-! ## Overrides -/

def Fits (member : String × Json) : Prop :=
  ∃ s n v, setting? member.1 = some s ∧ member.2 = .number n ∧ s.taken? n = some v

variable {c c' : ScanConfig} {key : String} {value : Json} {members : List (String × Json)}

theorem override_ok_iff : c.override key value = .ok c' ↔
    ∃ s n v, setting? key = some s ∧ value = .number n ∧ s.taken? n = some v ∧
      c' = s.put c v := by
  constructor
  · intro h
    unfold override at h
    split at h
    · cases h
    · rename_i write read n known
      split at h
      · cases h
      rename_i x converted
      cases h
      exact ⟨_, n, .float x, known, rfl, congrArg (Option.map Number.float) converted, rfl⟩
    · rename_i write read n known
      split at h
      · cases h
      rename_i fits
      split at h
      · cases h
      rename_i i whole
      cases h
      refine ⟨_, n, .int i, known, rfl, ?_, rfl⟩
      rw [Setting.taken?, if_neg fits, whole]
      rfl
    · cases h
  · rintro ⟨s, n, v, known, rfl, taken, rfl⟩
    cases s with
    | real write read =>
        obtain ⟨x, converted, rfl⟩ := Setting.taken?_real taken
        simp only [override, known, converted, Setting.put]
    | whole write read =>
        obtain ⟨i, whole, rfl⟩ := Setting.taken?_whole taken
        have fits : n.toFloat?.isNone = false := by
          by_contra large
          rw [Setting.taken?, if_pos (by simpa using large)] at taken
          cases taken
        simp only [override, known, fits, whole, Setting.put, Bool.false_eq_true, if_false]

theorem override_tooLarge_iff : c.override key value = .error .tooLarge ↔
    (setting? key).isSome ∧ ∃ i, value = .int i ∧ Number.wholeLimit ≤ i.natAbs := by
  have of_number {n : Number} (large : n.toFloat? = none) :
      ∃ i, Json.number n = .int i ∧ Number.wholeLimit ≤ i.natAbs := by
    cases n with
    | int i => exact ⟨i, rfl, (Number.toFloat?_int_eq_none_iff i).mp large⟩
    | float x => cases large
  constructor
  · intro h
    unfold override at h
    split at h
    · cases h
    · rename_i known
      split at h
      · rename_i large
        exact ⟨known ▸ rfl, of_number large⟩
      · cases h
    · rename_i known
      split at h
      · rename_i large
        exact ⟨known ▸ rfl, of_number (Option.isNone_iff_eq_none.mp large)⟩
      · split at h <;> cases h
    · cases h
  · rintro ⟨known, i, rfl, beyond⟩
    obtain ⟨s, known⟩ := Option.isSome_iff_exists.mp known
    have large := (Number.toFloat?_int_eq_none_iff i).mpr beyond
    cases s <;> simp [override, known, Json.int, large]

def Overflows (member : String × Json) : Prop :=
  (setting? member.1).isSome ∧ ∃ i, member.2 = .int i ∧ Number.wholeLimit ≤ i.natAbs

theorem override_ok_of_fits {member : String × Json} (fits : Fits member) :
    ∃ c', c.override member.1 member.2 = .ok c' := by
  obtain ⟨s, n, v, known, value, taken⟩ := fits
  exact ⟨_, override_ok_iff.mpr ⟨s, n, v, known, value, taken, rfl⟩⟩

theorem overrideAll_ok (h : c.overrideAll members = .ok c') : ∀ m ∈ members, Fits m := by
  induction members generalizing c with
  | nil => simp
  | cons member rest ih =>
      rw [overrideAll] at h
      split at h
      · cases h
      rename_i overridden
      obtain ⟨s, n, v, known, value, taken, -⟩ := override_ok_iff.mp overridden
      exact List.forall_mem_cons.mpr ⟨⟨s, n, v, known, value, taken⟩, ih h⟩

theorem overrideAll_tooLarge_iff : c.overrideAll members = .error .tooLarge ↔
    ∃ before m after, members = before ++ m :: after ∧ (∀ m' ∈ before, Fits m') ∧
      Overflows m := by
  constructor
  · intro h
    induction members generalizing c with
    | nil => cases h
    | cons member rest ih =>
        rw [overrideAll] at h
        split at h
        · rename_i refused
          obtain rfl := Except.error.inj h
          exact ⟨[], member, rest, rfl, by simp, override_tooLarge_iff.mp refused⟩
        · rename_i overridden
          obtain ⟨s, n, v, known, value, taken, -⟩ := override_ok_iff.mp overridden
          obtain ⟨before, m, after, split, fit, overflows⟩ := ih h
          exact ⟨member :: before, m, after, by rw [split]; rfl,
            List.forall_mem_cons.mpr ⟨⟨s, n, v, known, value, taken⟩, fit⟩, overflows⟩
  · rintro ⟨before, m, after, rfl, fit, overflows⟩
    induction before generalizing c with
    | nil => simp only [List.nil_append, overrideAll, override_tooLarge_iff.mpr overflows]
    | cons member rest ih =>
        obtain ⟨first, fit⟩ := List.forall_mem_cons.mp fit
        obtain ⟨c', overridden⟩ := override_ok_of_fits (c := c) first
        simp only [List.cons_append, overrideAll, overridden]
        exact ih fit

theorem value_of_not_mem {entry : String × Setting} (known : entry ∈ settings)
    (h : c.overrideAll members = .ok c') (absent : entry.1 ∉ members.map (·.1)) :
    entry.2.value c' = entry.2.value c := by
  induction members generalizing c with
  | nil =>
      cases h
      rfl
  | cons member rest ih =>
      rw [overrideAll] at h
      split at h
      · cases h
      rename_i overridden
      obtain ⟨s, n, v, key, value, taken, rfl⟩ := override_ok_iff.mp overridden
      obtain ⟨other, absent⟩ := List.ne_and_not_mem_of_not_mem_cons absent
      rw [ih h absent]
      exact value_put_of_ne _ (mem_of_setting? key) entry known other.symm c v

theorem value_of_mem {entry : String × Setting} (known : entry ∈ settings)
    (h : c.overrideAll members = .ok c') (distinct : (members.map (·.1)).Nodup)
    (given : (entry.1, value) ∈ members) :
    ∃ n, value = .number n ∧ entry.2.taken? n = some (entry.2.value c') := by
  induction members generalizing c with
  | nil => cases given
  | cons member rest ih =>
      rw [overrideAll] at h
      split at h
      · cases h
      rename_i overridden
      obtain ⟨absent, distinct⟩ := List.nodup_cons.mp distinct
      rcases List.mem_cons.mp given with rfl | given
      · obtain ⟨s, n, v, key, rfl, taken, rfl⟩ := override_ok_iff.mp overridden
        obtain rfl : entry.2 = s := Option.some.inj ((setting?_of_mem entry known).symm.trans key)
        refine ⟨n, rfl, ?_⟩
        rw [value_of_not_mem known h absent, value_put entry known c n v taken, taken]
      · exact ih h distinct given

/-! ## Limits -/

structure WholeInRange (c : ScanConfig) : Prop where
  maxMethods : 0 ≤ c.godClassMaxMethods
  maxFields : 0 ≤ c.godClassMaxFields
  minVerbs : 1 ≤ c.godClassMinVerbs
  maxEntities : 0 ≤ c.megaAggregateMaxEntities
  minFields : 2 ≤ c.obsessionMinFields
  minSymbols : 2 ≤ c.obsessionMinSymbols
  workers : 1 ≤ c.maxWorkers

/-- A configuration within its limits. No float that is no number is within any of them. -/
structure InRange (c : ScanConfig) : Prop extends c.WholeInRange where
  medium : 0 ≤ c.mediumThreshold
  high : c.mediumThreshold ≤ c.highThreshold
  margin : 0 ≤ c.ambiguityMargin
  timeout : 0 < c.unitTimeout
  poll : 0 < c.pollInterval
  rename : 0 ≤ c.renameThreshold ∧ c.renameThreshold ≤ 1

def AllNumbers (c : ScanConfig) : Prop := ∀ entry ∈ settings, (entry.2.value c).isNaN = false

theorem allNumbers_iff : c.AllNumbers ↔
    c.highThreshold.isNaN = false ∧ c.mediumThreshold.isNaN = false ∧
      c.ambiguityMargin.isNaN = false ∧ c.unitTimeout.isNaN = false ∧
      c.pollInterval.isNaN = false ∧ c.renameThreshold.isNaN = false := by
  simp [AllNumbers, settings, Setting.value, Number.isNaN]

theorem allNumbers_standard : AllNumbers {} := by
  rw [allNumbers_iff]
  decide +kernel

theorem wholeInRange_of_check (passed : c.violation? = none) : c.WholeInRange := by
  simp only [violation?, if_some_eq_none] at passed
  obtain ⟨-, -, -, methods, fields, entities, verbs, minFields, minSymbols, workers, -⟩ := passed
  constructor <;> omega

/-- The checks keep a configuration within its limits exactly where they compare numbers. -/
theorem inRange_iff (passed : c.violation? = none) : c.InRange ↔ c.AllNumbers := by
  rw [allNumbers_iff]
  have zero : (0 : Float).isNaN = false := Number.isNaN_of_isFinite Number.isFinite_zero
  have one : (1 : Float).isNaN = false := Number.isNaN_of_isFinite Number.isFinite_one
  constructor
  · intro h
    exact ⟨(Number.numbers_of_le h.high).2, (Number.numbers_of_le h.medium).2,
      (Number.numbers_of_le h.margin).2, (Number.numbers_of_lt h.timeout).2,
      (Number.numbers_of_lt h.poll).2, (Number.numbers_of_le h.rename.1).2⟩
  · rintro ⟨high, medium, margin, timeout, poll, rename⟩
    have whole := wholeInRange_of_check passed
    simp only [violation?, if_some_eq_none] at passed
    obtain ⟨low₁, low₂, low₃, -, -, -, -, -, -, -, low₄, low₅, outside⟩ := passed
    have inside : ¬c.renameThreshold < 0 ∧ ¬1 < c.renameThreshold := by
      simpa [not_or] using outside.1
    exact {
      whole with
      medium := Number.floatLe_of_numbers medium zero low₁
      high := Number.floatLe_of_numbers high medium low₂
      margin := Number.floatLe_of_numbers margin zero low₃
      timeout := Number.floatLt_of_numbers timeout zero low₄
      poll := Number.floatLt_of_numbers poll zero low₅
      rename := ⟨Number.floatLe_of_numbers rename zero inside.1,
        Number.floatLe_of_numbers one rename inside.2⟩ }

theorem check_of_inRange (h : c.InRange) : c.check = .ok c := by
  have passed : c.violation? = none := by
    simp only [violation?, if_some_eq_none, Bool.or_eq_true, decide_eq_true_eq, not_or]
    have whole := h.toWholeInRange
    exact ⟨Number.not_floatLt_of_le h.medium, Number.not_floatLt_of_le h.high,
      Number.not_floatLt_of_le h.margin, by have := whole.maxMethods; omega,
      by have := whole.maxFields; omega, by have := whole.maxEntities; omega,
      by have := whole.minVerbs; omega, by have := whole.minFields; omega,
      by have := whole.minSymbols; omega, by have := whole.workers; omega,
      Number.not_floatLe_of_lt h.timeout, Number.not_floatLe_of_lt h.poll,
      ⟨Number.not_floatLt_of_le h.rename.1, Number.not_floatLt_of_le h.rename.2⟩, trivial⟩
  simp only [check, passed]

theorem check_ok_iff : c.check = .ok c' ↔ c.violation? = none ∧ c = c' := by
  unfold check
  cases c.violation? <;> simp

theorem check_ne_tooLarge (c : ScanConfig) : c.check ≠ .error .tooLarge := by
  have violated : c.violation? ≠ some .tooLarge := by
    have either {p : Prop} [Decidable p] {a b : Option ConfigError}
        (ha : a ≠ some .tooLarge) (hb : b ≠ some .tooLarge) :
        (if p then a else b) ≠ some .tooLarge := by
      split
      · exact ha
      · exact hb
    unfold violation?
    iterate 13 refine either nofun ?_
    exact nofun
  unfold check
  split
  · rename_i e found
    rintro h
    exact violated (Except.error.inj h ▸ found)
  · exact nofun

theorem known_of_fits (fit : ∀ m ∈ members, Fits m) :
    ∀ m ∈ members, (setting? m.1).isSome := by
  intro m hm
  obtain ⟨s, -, -, known, -⟩ := fit m hm
  rw [known]
  rfl

theorem unknown_isEmpty_iff :
    ((members.map (·.1)).filter fun key => (setting? key).isNone).isEmpty = true ↔
      ∀ m ∈ members, (setting? m.1).isSome := by
  simp [List.filter_eq_nil_iff, Option.isSome_iff_ne_none]

/-- With known keys only, overrides are taken one by one and what comes of them is checked. -/
theorem ofOverrides_of_known (known : ∀ m ∈ members, (setting? m.1).isSome) :
    ofOverrides members = match overrideAll {} members with
      | .error e => .error e
      | .ok c => c.check := by
  have all_known := unknown_isEmpty_iff.mpr known
  cases taken : overrideAll {} members <;> simp only [ofOverrides, if_pos all_known, taken]

theorem known_of_ofOverrides {r : Except ConfigError ScanConfig} (h : ofOverrides members = r)
    (other : ∀ keys, r ≠ .error (.unknownKeys keys)) : ∀ m ∈ members, (setting? m.1).isSome := by
  by_contra unknown
  unfold ofOverrides at h
  rw [if_neg (unknown_isEmpty_iff.not.mpr unknown)] at h
  exact other _ h.symm

theorem ofOverrides_ok (h : ofOverrides members = .ok c) :
    overrideAll {} members = .ok c ∧ c.violation? = none := by
  rw [ofOverrides_of_known (known_of_ofOverrides h fun _ => nofun)] at h
  split at h
  · cases h
  · obtain ⟨passed, rfl⟩ := check_ok_iff.mp h
    exact ⟨‹_›, passed⟩

theorem ofOverrides_tooLarge_iff : ofOverrides members = .error .tooLarge ↔
    (∀ m ∈ members, (setting? m.1).isSome) ∧ overrideAll {} members = .error .tooLarge := by
  constructor
  · intro h
    have known := known_of_ofOverrides h fun _ => nofun
    refine ⟨known, ?_⟩
    rw [ofOverrides_of_known known] at h
    split at h
    · rename_i refused
      rw [refused, h]
    · exact absurd h (check_ne_tooLarge _)
  · rintro ⟨known, refused⟩
    rw [ofOverrides_of_known known, refused]

theorem allNumbers_of_overrideAll (distinct : (members.map (·.1)).Nodup)
    (h : overrideAll {} members = .ok c) :
    c.AllNumbers ↔ ∀ m ∈ members, m.2.isNaN = false := by
  constructor
  · intro numbers m hm
    obtain ⟨s, -, -, known, -⟩ := overrideAll_ok h m hm
    have entry := mem_of_setting? known
    obtain ⟨n, value, taken⟩ := value_of_mem entry h distinct hm
    rw [value]
    exact (Setting.isNaN_of_taken taken).symm.trans (numbers _ entry)
  · intro given entry known
    by_cases overridden : entry.1 ∈ members.map (·.1)
    · obtain ⟨m, hm, same⟩ := List.mem_map.mp overridden
      have there : (entry.1, m.2) ∈ members := same ▸ hm
      obtain ⟨n, value, taken⟩ := value_of_mem known h distinct there
      rw [Setting.isNaN_of_taken taken]
      have number := given m hm
      rwa [value] at number
    · rw [value_of_not_mem known h overridden]
      exact allNumbers_standard entry known

/-- Whatever is overridden by whatever values: a configuration that is accepted is within its limits
exactly if none of the values is the float that is no number, and its whole settings are in any
case. What fits its settings and gives a configuration within its limits is accepted. The one
failure that is no refusal is that of a conversion, at the first value that does not fit where this
is a whole number beyond the largest float. -/
theorem accepted_in_range_or_refused (members : List (String × Json))
    (distinct : (members.map (·.1)).Nodup) :
    (∀ c, ofOverrides members = .ok c →
      c.WholeInRange ∧ (c.InRange ↔ ∀ m ∈ members, m.2.isNaN = false)) ∧
    (∀ c, overrideAll {} members = .ok c → c.InRange → ofOverrides members = .ok c) ∧
    (ofOverrides members = .error .tooLarge ↔
      (∀ m ∈ members, (setting? m.1).isSome) ∧
        ∃ before m after, members = before ++ m :: after ∧ (∀ m' ∈ before, Fits m') ∧
          Overflows m) := by
  refine ⟨fun c accepted => ?_, fun c overridden inside => ?_, ?_⟩
  · obtain ⟨overridden, passed⟩ := ofOverrides_ok accepted
    exact ⟨wholeInRange_of_check passed,
      (inRange_iff passed).trans (allNumbers_of_overrideAll distinct overridden)⟩
  · rw [ofOverrides_of_known (known_of_fits (overrideAll_ok overridden)), overridden]
    exact check_of_inRange inside
  · rw [ofOverrides_tooLarge_iff, overrideAll_tooLarge_iff]

def endless : List (String × Json) :=
  [("max_workers", .int 8), ("unit_timeout_seconds", .float (0 / 0))]

theorem ofOverrides_endless :
    ofOverrides endless = .ok { maxWorkers := 8, unitTimeout := 0 / 0 } := rfl

theorem accepted_in_range_or_refused_endless :
    (endless.map (·.1)).Nodup ∧ ∃ c, ofOverrides endless = .ok c ∧ c.WholeInRange ∧ ¬c.InRange := by
  have distinct : (endless.map (·.1)).Nodup := by decide
  obtain ⟨whole, numbers⟩ := (accepted_in_range_or_refused endless distinct).1 _ ofOverrides_endless
  refine ⟨distinct, _, ofOverrides_endless, whole, fun inside => ?_⟩
  have number := numbers.mp inside ("unit_timeout_seconds", .float (0 / 0)) (by simp [endless])
  exact absurd number (by decide +kernel)

def crowd : Int := 10 ^ 400

theorem wholeLimit_le_crowd : Number.wholeLimit ≤ crowd.natAbs :=
  (Number.toFloat?_int_eq_none_iff crowd).mp (Option.isNone_iff_eq_none.mp (by decide +kernel))

/-- A time limit that is no number is accepted, and a number of workers beyond the largest float is
not refused with an error of the configuration. -/
theorem no_number_accepted :
    (∃ c, ofOverrides [("unit_timeout_seconds", .float (0 / 0))] = .ok c ∧ ¬0 < c.unitTimeout) ∧
      ofOverrides [("max_workers", .int crowd)] = .error .tooLarge := by
  constructor
  · refine ⟨{ unitTimeout := 0 / 0 }, rfl, ?_⟩
    decide +kernel
  · have overflows : Overflows ("max_workers", .int crowd) :=
      ⟨rfl, crowd, rfl, wholeLimit_le_crowd⟩
    refine ofOverrides_tooLarge_iff.mpr ⟨by simpa using overflows.1, ?_⟩
    exact overrideAll_tooLarge_iff.mpr ⟨[], _, [], rfl, by simp, overflows⟩

end ScanConfig

end TacticalDesign
