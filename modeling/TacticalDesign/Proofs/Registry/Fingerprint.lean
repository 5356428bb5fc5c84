import TacticalDesign.Proofs.Json.Numbers
import TacticalDesign.Proofs.Registry.Overrides
import TacticalDesign.Proofs.Scan.Summary
import TacticalDesign.Proofs.Text.Encoding
/-!
# What a fingerprint tells apart

The text behind a fingerprint is the version followed by a block for each rule. A block starts with
a bar, and no block holds another one, so the blocks can be found again from the end of the version
on. A version may hold bars, though: a version that ends in the blocks of rules stands for a shorter
version with these rules in front.
-/

namespace TacticalDesign

/-! ## Blocks behind a delimiter -/

section Blocks

variable {α : Type} {d : α} {a b x y : List α} {as bs : List (List α)}

def StartsWith (d : α) (x : List α) : Prop := ∀ c ∈ x.head?, c = d

theorem startsWith_cons (d : α) (x : List α) : StartsWith d (d :: x) :=
  fun _ hc => (Option.some.inj hc).symm

theorem cut_inj (ha : d ∉ a) (hb : d ∉ b) (hx : StartsWith d x) (hy : StartsWith d y)
    (h : a ++ x = b ++ y) : a = b ∧ x = y := by
  rcases List.append_eq_append_iff.mp h with ⟨c, rfl, rfl⟩ | ⟨c, rfl, rfl⟩
  · cases c with
    | nil => exact ⟨(List.append_nil a).symm, rfl⟩
    | cons e c =>
        obtain rfl := hx e rfl
        exact absurd (List.mem_append_right a List.mem_cons_self) hb
  · cases c with
    | nil => exact ⟨List.append_nil b, rfl⟩
    | cons e c =>
        obtain rfl := hy e rfl
        exact absurd (List.mem_append_right b List.mem_cons_self) ha

def blocks (d : α) (bodies : List (List α)) : List α := bodies.flatMap (d :: ·)

theorem blocks_cons (d : α) (body : List α) (bodies : List (List α)) :
    blocks d (body :: bodies) = d :: (body ++ blocks d bodies) :=
  rfl

theorem startsWith_blocks (d : α) (bodies : List (List α)) : StartsWith d (blocks d bodies) := by
  cases bodies with
  | nil => exact fun c hc => by cases hc
  | cons body bodies => exact startsWith_cons d _

theorem blocks_inj (ha : ∀ a ∈ as, d ∉ a) (hb : ∀ b ∈ bs, d ∉ b)
    (h : blocks d as = blocks d bs) : as = bs := by
  induction as generalizing bs with
  | nil =>
      cases bs with
      | nil => rfl
      | cons b bs => cases h
  | cons a as ih =>
      cases bs with
      | nil => cases h
      | cons b bs =>
          obtain ⟨rfl, rest⟩ := cut_inj (ha a List.mem_cons_self) (hb b List.mem_cons_self)
            (startsWith_blocks d as) (startsWith_blocks d bs) (List.cons.inj h).2
          rw [ih (fun c hc => ha c (List.mem_cons_of_mem a hc))
            (fun c hc => hb c (List.mem_cons_of_mem _ hc)) rest]

theorem split_blocks {front : List α} (ha : ∀ a ∈ as, d ∉ a) (hb : ∀ b ∈ bs, d ∉ b)
    (h : blocks d as = front ++ blocks d bs) :
    ∃ taken, as = taken ++ bs ∧ front = blocks d taken := by
  induction as generalizing front with
  | nil =>
      obtain ⟨rfl, none⟩ := List.append_eq_nil_iff.mp h.symm
      exact ⟨[], blocks_inj ha hb none.symm, rfl⟩
  | cons a as ih =>
      cases front with
      | nil => exact ⟨[], blocks_inj ha hb h, rfl⟩
      | cons c front =>
          obtain ⟨rfl, rest⟩ := List.cons.inj h
          have later := fun e he => ha e (List.mem_cons_of_mem a he)
          rcases List.append_eq_append_iff.mp rest with ⟨more, rfl, inner⟩ | ⟨more, rfl, inner⟩
          · obtain ⟨taken, rfl, rfl⟩ := ih later inner
            exact ⟨a :: taken, rfl, rfl⟩
          · -- a block of the end starts inside the first body, or right behind it
            cases more with
            | nil =>
                have whole : blocks d as = [] ++ blocks d bs := inner.symm
                obtain ⟨taken, rfl, none⟩ := ih later whole
                refine ⟨front :: taken, by simp, ?_⟩
                rw [blocks_cons, ← none, List.append_nil]
            | cons e more =>
                obtain rfl := startsWith_blocks d bs e (inner ▸ rfl)
                exact absurd (List.mem_append_right front List.mem_cons_self)
                  (ha _ List.mem_cons_self)

theorem map_congr_of_map {α β γ : Type} {f : α → β} {g : α → γ} {xs ys : List α}
    (tells : ∀ x ∈ xs, ∀ y ∈ ys, f x = f y → g x = g y) (h : xs.map f = ys.map f) :
    xs.map g = ys.map g := by
  induction xs generalizing ys with
  | nil =>
      obtain rfl := List.map_eq_nil_iff.mp h.symm
      rfl
  | cons x xs ih =>
      cases ys with
      | nil => cases h
      | cons y ys =>
          obtain ⟨head, tail⟩ := List.cons.inj h
          rw [List.map_cons, List.map_cons, tells x List.mem_cons_self y List.mem_cons_self head,
            ih (fun a ha b hb => tells a (List.mem_cons_of_mem x ha) b (List.mem_cons_of_mem y hb))
              tail]

end Blocks

/-! ## Rules as blocks -/

namespace Rule

variable {r q : Rule}

def key (r : Rule) : String × Role × Number := (r.id, r.role, r.weight)

def body (r : Rule) : List Char :=
  r.id.toList ++ ':' :: (r.role.word.toList ++ ':' :: r.weight.text.toList)

theorem toList_ruleText (r : Rule) : (RuleRegistry.ruleText r).toList = '|' :: r.body := by
  simp [RuleRegistry.ruleText, body]

theorem ruleText_congr (h : r.key = q.key) :
    RuleRegistry.ruleText r = RuleRegistry.ruleText q := by
  simp only [key, Prod.mk.injEq] at h
  obtain ⟨id, role, weight⟩ := h
  rw [RuleRegistry.ruleText, RuleRegistry.ruleText, id, role, weight]

theorem not_mem_id {id : String} (form : RuleCandidate.isRuleId id = true) {c : Char}
    (upper : Text.isAsciiUpper c = false) (decimal : Text.isDecimal c = false)
    (mark : c ∉ ['-', '\n']) : c ∉ id.toList := by
  unfold RuleCandidate.isRuleId at form
  split at form
  · rename_i hid
    rw [hid]
    simp only [Bool.and_eq_true, Bool.or_eq_true, beq_iff_eq] at form
    obtain ⟨⟨⟨⟨⟨h₁, h₂⟩, h₃⟩, h₄⟩, h₅⟩, rest⟩ := form
    simp only [List.mem_cons, not_or]
    have other : ∀ d : Char, Text.isAsciiUpper d = true ∨ Text.isDecimal d = true → c ≠ d := by
      rintro d h rfl
      simp [upper, decimal] at h
    refine ⟨other _ (Or.inl h₁), other _ (Or.inl h₂), by simp_all, other _ (Or.inr h₃),
      other _ (Or.inr h₄), other _ (Or.inr h₅), ?_⟩
    rcases rest with rfl | rfl <;> simp_all
  · cases form

theorem not_mem_word {role : Role} (known : role.isKnown = true) :
    '|' ∉ role.word.toList ∧ ':' ∉ role.word.toList := by
  have all : ∀ r ∈ Role.all, '|' ∉ r.word.toList ∧ ':' ∉ r.word.toList := by decide
  exact all role (Role.mem_all_iff.mpr known)

theorem not_mem_weight {n : Number} (finite : n.isFinite = true) : '|' ∉ n.text.toList := by
  obtain ⟨m, proper, written⟩ := Number.text_numeral finite
  rw [written]
  intro h
  rcases Numeral.mem_chars proper h with digit | mark
  · exact absurd digit (by decide)
  · exact absurd mark (by decide)

theorem WellFormed.not_mem_body (h : r.WellFormed) : '|' ∉ r.body := by
  have id : '|' ∉ r.id.toList := not_mem_id h.id (by decide) (by decide) (by decide)
  have word := (not_mem_word h.role).1
  have weight := not_mem_weight h.weight
  simp [body, id, word, weight]

theorem WellFormed.key_eq (hr : r.WellFormed) (hq : q.WellFormed) (h : r.body = q.body) :
    r.key = q.key := by
  have no_colon {s : Rule} (hs : s.WellFormed) : ':' ∉ s.id.toList :=
    not_mem_id hs.id (by decide) (by decide) (by decide)
  obtain ⟨id, rest⟩ := cut_inj (no_colon hr) (no_colon hq) (startsWith_cons _ _)
    (startsWith_cons _ _) h
  obtain ⟨word, rest⟩ := cut_inj (not_mem_word hr.role).2 (not_mem_word hq.role).2
    (startsWith_cons _ _) (startsWith_cons _ _) (List.cons.inj rest).2
  have weight := Number.text_inj hr.weight hq.weight (String.toList_inj.mp (List.cons.inj rest).2)
  have role := Role.ofWord?_word hr.role
  rw [String.toList_inj.mp word, Role.ofWord?_word hq.role] at role
  simp only [key, Prod.mk.injEq]
  exact ⟨String.toList_inj.mp id, (Option.some.inj role).symm, weight⟩

end Rule

/-! ## Fingerprints -/

/-- Two messages with one digest. -/
def Digest.Collide (a b : List UInt8) : Prop := a ≠ b ∧ sha256 a = sha256 b

namespace RuleRegistry

variable {r s : RuleRegistry}

def keys (registry : RuleRegistry) : List (String × Role × Number) := registry.rules.map Rule.key

def message (registry : RuleRegistry) : List UInt8 :=
  Text.Utf8.encode registry.fingerprintText.toList

/-- Whether two registries agree in what their fingerprints are to tell. -/
def Alike (r s : RuleRegistry) : Prop := r.version = s.version ∧ r.keys = s.keys

theorem Alike.symm (h : r.Alike s) : s.Alike r := ⟨h.1.symm, h.2.symm⟩

/-- Whether the version of `s` is the version of `r` with the first rules of `r` behind it, at least
one, and `s` has what is left of the rules. -/
def Swallows (s r : RuleRegistry) : Prop :=
  ∃ taken rest : List Rule, taken ≠ [] ∧ r.rules = taken ++ rest ∧ rest.map Rule.key = s.keys ∧
    s.version = r.version ++ String.join (taken.map ruleText)

theorem toList_fingerprintText (registry : RuleRegistry) :
    registry.fingerprintText.toList =
      registry.version.toList ++ blocks '|' (registry.rules.map Rule.body) := by
  simp only [fingerprintText, String.toList_append, String.toList_join, blocks, List.flatMap_map,
    Rule.toList_ruleText]

theorem map_ruleText_congr {rules rules' : List Rule}
    (h : rules.map Rule.key = rules'.map Rule.key) : rules.map ruleText = rules'.map ruleText :=
  map_congr_of_map (fun _ _ _ _ => Rule.ruleText_congr) h

theorem keys_of_bodies {rules rules' : List Rule} (hr : ∀ r ∈ rules, r.WellFormed)
    (hr' : ∀ r ∈ rules', r.WellFormed) (h : rules.map Rule.body = rules'.map Rule.body) :
    rules.map Rule.key = rules'.map Rule.key :=
  map_congr_of_map (fun r mem q mem' => (hr r mem).key_eq (hr' q mem')) h

theorem swallows_of_front {front : List Char} (hr : ∀ q ∈ r.rules, q.WellFormed)
    (hs : ∀ q ∈ s.rules, q.WellFormed) (version : s.version.toList = r.version.toList ++ front)
    (rules : blocks '|' (r.rules.map Rule.body) = front ++ blocks '|' (s.rules.map Rule.body)) :
    r.Alike s ∨ s.Swallows r := by
  have no_bar {rules : List Rule} (h : ∀ q ∈ rules, q.WellFormed) :
      ∀ b ∈ rules.map Rule.body, '|' ∉ b := by
    intro b hb
    obtain ⟨q, hq, rfl⟩ := List.mem_map.mp hb
    exact (h q hq).not_mem_body
  obtain ⟨bodies, split, rfl⟩ := split_blocks (no_bar hr) (no_bar hs) rules
  obtain ⟨taken, rest, parts, rfl, same⟩ := List.map_eq_append_iff.mp split
  have keys : rest.map Rule.key = s.keys :=
    keys_of_bodies (fun q hq => hr q (parts ▸ List.mem_append_right taken hq)) hs same
  have versions : s.version = r.version ++ String.join (taken.map ruleText) := by
    rw [← String.toList_inj, version, String.toList_append, String.toList_join]
    simp only [blocks, List.flatMap_map, Rule.toList_ruleText]
  cases taken with
  | nil =>
      refine Or.inl ⟨by simpa [String.join] using versions.symm, ?_⟩
      rw [RuleRegistry.keys, parts]
      exact keys
  | cons q taken => exact Or.inr ⟨q :: taken, rest, by simp, parts, keys, versions⟩

/-- The text behind fingerprints tells versions and rules apart, but for rules that are written out
in a version. -/
theorem fingerprintText_eq_iff (hr : ∀ q ∈ r.rules, q.WellFormed)
    (hs : ∀ q ∈ s.rules, q.WellFormed) :
    r.fingerprintText = s.fingerprintText ↔
      r.Alike s ∨ s.Swallows r ∨ r.Swallows s := by
  have same_of_swallows {r s : RuleRegistry} (h : s.Swallows r) :
      r.fingerprintText = s.fingerprintText := by
    obtain ⟨taken, rest, -, parts, keys, version⟩ := h
    rw [fingerprintText, fingerprintText, parts, version, ← map_ruleText_congr keys]
    simp [← String.toList_inj, String.toList_join]
  constructor
  · intro same
    have chars := congrArg String.toList same
    rw [toList_fingerprintText, toList_fingerprintText] at chars
    rcases List.append_eq_append_iff.mp chars with ⟨front, version, rules⟩ | ⟨front, version, rules⟩
    · exact (swallows_of_front hr hs version rules).imp_right Or.inl
    · rcases swallows_of_front hs hr version rules with alike | swallows
      · exact Or.inl alike.symm
      · exact Or.inr (Or.inr swallows)
  · rintro (⟨version, keys⟩ | swallows | swallows)
    · rw [fingerprintText, fingerprintText, version, map_ruleText_congr keys]
    · exact same_of_swallows swallows
    · exact (same_of_swallows swallows).symm

theorem Swallows.bar_mem (h : s.Swallows r) : '|' ∈ s.version.toList := by
  obtain ⟨taken, rest, nonempty, -, -, version⟩ := h
  obtain ⟨q, taken, rfl⟩ := List.exists_cons_of_ne_nil nonempty
  rw [version]
  simp [String.toList_join, Rule.toList_ruleText]

theorem fingerprint_eq_iff (apart : ¬Digest.Collide r.message s.message) :
    r.fingerprint = s.fingerprint ↔ r.fingerprintText = s.fingerprintText := by
  constructor
  · intro same
    by_contra different
    refine apart ⟨fun bytes => different ?_, same⟩
    exact String.toList_inj.mp (Text.Utf8.encode_injective bytes)
  · intro same
    rw [fingerprint, fingerprint, same]

/-- Fingerprints of accepted registries tell versions and rules apart, as long as the digest does
not collide on the two and no version spells out rules of the other registry; and no version
without a bar does that. A baseline that was captured under one registry carries the fingerprint of
another one in this case only. -/
theorem fingerprint_tells_apart (hr : r.Accepted) (hs : s.Accepted)
    (apart : ¬Digest.Collide r.message s.message) :
    (r.fingerprint = s.fingerprint ↔
        r.Alike s ∨ s.Swallows r ∨ r.Swallows s) ∧
      ('|' ∉ r.version.toList → '|' ∉ s.version.toList → r.fingerprint = s.fingerprint →
        r.Alike s) ∧
      (∀ config ratio units earlier aliases cancelled report root,
        ScanEngine.MayReturn ⟨config, r, ratio⟩ units earlier aliases cancelled (.ok report) →
          ((report.capture root).registryFingerprint = s.fingerprint ↔
            r.Alike s ∨ s.Swallows r ∨ r.Swallows s)) := by
  have told : r.fingerprint = s.fingerprint ↔
      r.Alike s ∨ s.Swallows r ∨ r.Swallows s :=
    (fingerprint_eq_iff apart).trans (fingerprintText_eq_iff hr.wellFormed hs.wellFormed)
  refine ⟨told, ?_, ?_⟩
  · intro r_bar s_bar same
    rcases told.mp same with equal | swallows | swallows
    · exact equal
    · exact absurd swallows.bar_mem s_bar
    · exact absurd swallows.bar_mem r_bar
  · intro config ratio units earlier aliases cancelled report root ran
    obtain ⟨-, build, -, reported⟩ := ran.exists_build
    obtain ⟨cs, fs, summary, -, -, rfl⟩ := ScanEngine.report_ok_iff.mp reported
    exact told

/-! ## A version that spells out a rule -/

def steadyRule (id : String) : Rule where
  id
  role := .aggregateRoot
  predicate := fun _ _ => .value (.bool true)
  weight := .int 1
  description := "votes for every symbol"

def twoRules : RuleRegistry := ⟨"v", [steadyRule "AR-001", steadyRule "AR-002"]⟩

def oneRule (version : String) : RuleRegistry := ⟨version, [steadyRule "AR-002"]⟩

def spelledRule : RuleRegistry := oneRule "v|AR-001:aggregate_root:1"

theorem ofCandidates_twoRules :
    ofCandidates (twoRules.rules.map Rule.toCandidate) (.string "v") = .ok twoRules :=
  ofCandidates_of_sorted (by decide) nofun rfl (by decide +kernel)

theorem accepted_twoRules : twoRules.Accepted := .made ofCandidates_twoRules

theorem accepted_oneRule {version : String} (nonempty : version.isEmpty = false) :
    (oneRule version).Accepted := by
  have made : ofCandidates [(steadyRule "AR-002").toCandidate] (.string version) =
      .ok (oneRule version) :=
    ofCandidates_of_sorted nonempty nofun rfl (List.pairwise_singleton _ _)
  exact .made made

/-- Registries with and without a rule have different fingerprints. -/
theorem fingerprint_tells_missing_rule :
    ¬Digest.Collide twoRules.message (oneRule "v").message ∧
      twoRules.fingerprint ≠ (oneRule "v").fingerprint := by
  have apart : ¬Digest.Collide twoRules.message (oneRule "v").message :=
    fun collision => absurd collision.2 (by decide +kernel)
  have told := fingerprint_tells_apart accepted_twoRules (accepted_oneRule (by decide)) apart
  refine ⟨apart, fun same => ?_⟩
  have alike := told.2.1 (by decide) (by decide) same
  exact absurd (congrArg List.length alike.2) (by decide)

/-- A version that spells out a rule takes its place. -/
theorem fingerprint_of_spelledRule :
    twoRules.Accepted ∧ spelledRule.Accepted ∧ twoRules.fingerprint = spelledRule.fingerprint ∧
      twoRules.version ≠ spelledRule.version ∧ twoRules.keys ≠ spelledRule.keys := by
  have texts : twoRules.fingerprintText = spelledRule.fingerprintText := by decide +kernel
  refine ⟨accepted_twoRules, accepted_oneRule (by decide), congrArg Digest.sha256OfText texts,
    by decide, fun same => ?_⟩
  exact absurd (congrArg List.length same) (by decide)

example : spelledRule.fingerprintText =
    "v|AR-001:aggregate_root:1|AR-002:aggregate_root:1" := by
  decide +kernel

end RuleRegistry

end TacticalDesign
