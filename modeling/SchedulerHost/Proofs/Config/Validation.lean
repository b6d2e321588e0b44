import SchedulerHost.Config.Validation
import Mathlib.Logic.Basic

/-!
# Sound configurations

Which configurations are accepted, and which rule is reported of the others.

* `Component.Sound`: what a sound configuration is. `Breaks`: a rule is broken, and what is said
  then. `Rule.Before`: the order of the rules.
* **Stages** (`Reports.append`): what is reported of some rules and of later ones is reported of
  both.
* **Validation** (`Component.validate_exact`): the sound configurations are accepted, and of any
  other the first rule that is broken is reported.
-/

namespace SchedulerHost.Config

/-! ### Rules -/

/-- A configuration all of whose parts are as they should be. -/
structure Component.Sound (c : Component) : Prop where
  profiles : c.profiles ≠ []
  named : ∀ p ∈ c.profiles, p.schedulerName ≠ ""
  distinct : (c.profiles.map (·.schedulerName)).Nodup
  percentage : c.percentageOfNodesToScore.toNat ≤ 100
  bindTimeout : 0 < c.bindTimeoutSeconds.toNat
  initialBackoff : 0 < c.podInitialBackoffSeconds.toNat
  maxBackoff : c.podInitialBackoffSeconds.toNat ≤ c.podMaxBackoffSeconds.toNat
  url : ∀ e ∈ c.extenders, e.urlPrefix ≠ ""
  weight : ∀ e ∈ c.extenders, e.prioritizeVerb.isSome = true → 0 < e.weight.toInt

/-- A rule. Those about profiles and extenders are about one of them, by its place. -/
inductive Rule where
  | someProfile
  | named (index : Nat)
  | distinct (index : Nat)
  | percentage
  | bindTimeout
  | initialBackoff
  | maxBackoff
  | url (index : Nat)
  | weight (index : Nat)
deriving DecidableEq

/-- A rule is broken, and what is said then. -/
def Breaks (c : Component) : Rule → Violation → Prop
  | .someProfile, v => c.profiles = [] ∧ v = .noProfile
  | .named i, v => ∃ p, c.profiles[i]? = some p ∧ p.schedulerName = "" ∧ v = .unnamedProfile
  | .distinct i, v => ∃ p j q, c.profiles[i]? = some p ∧ j < i ∧ c.profiles[j]? = some q ∧
      q.schedulerName = p.schedulerName ∧ v = .duplicateProfile p.schedulerName
  | .percentage, v => 100 < c.percentageOfNodesToScore.toNat ∧
      v = .percentage c.percentageOfNodesToScore
  | .bindTimeout, v => c.bindTimeoutSeconds.toNat = 0 ∧ v = .bindTimeout
  | .initialBackoff, v => c.podInitialBackoffSeconds.toNat = 0 ∧ v = .initialBackoff
  | .maxBackoff, v => c.podMaxBackoffSeconds.toNat < c.podInitialBackoffSeconds.toNat ∧
      v = .maxBackoff c.podMaxBackoffSeconds c.podInitialBackoffSeconds
  | .url i, v => ∃ e, c.extenders[i]? = some e ∧ e.urlPrefix = "" ∧ v = .extenderUrl i
  | .weight i, v => ∃ e, c.extenders[i]? = some e ∧ e.prioritizeVerb.isSome = true ∧
      e.weight.toInt ≤ 0 ∧ v = .extenderWeight i

namespace Rule

/-- The parts of a configuration are looked at one after the other. -/
def stage : Rule → Nat
  | .someProfile => 0
  | .named _ | .distinct _ => 1
  | .percentage => 2
  | .bindTimeout => 3
  | .initialBackoff => 4
  | .maxBackoff => 5
  | .url _ | .weight _ => 6

/-- Within a part, both rules about one profile or extender come before those about the next. -/
def turn : Rule → Nat
  | .named i | .url i => 2 * i
  | .distinct i | .weight i => 2 * i + 1
  | _ => 0

def Before (r s : Rule) : Prop := r.stage < s.stage ∨ (r.stage = s.stage ∧ r.turn < s.turn)

theorem eq_of_not_before {r s : Rule} (h : ¬r.Before s) (h' : ¬s.Before r) : r = s := by
  have stage : r.stage = s.stage := by unfold Before at h h'; omega
  have turn : r.turn = s.turn := by unfold Before at h h'; omega
  cases r <;> cases s <;> simp_all [Rule.stage, Rule.turn] <;> omega

end Rule

/-- Of a rule that is broken one thing only is said. -/
theorem Breaks.unique {c : Component} {rule : Rule} {v v' : Violation} (h : Breaks c rule v)
    (h' : Breaks c rule v') : v = v' := by
  cases rule <;> grind [Breaks]

/-- A configuration is sound when no rule is broken, and only then. -/
theorem Component.sound_iff {c : Component} : c.Sound ↔ ∀ rule v, ¬Breaks c rule v := by
  constructor
  · intro sound rule v broken
    cases rule with
    | someProfile => exact sound.profiles broken.1
    | named i =>
      obtain ⟨p, found, empty, -⟩ := broken
      exact sound.named p (List.mem_of_getElem? found) empty
    | distinct i =>
      obtain ⟨p, j, q, found, earlier, there, same, -⟩ := broken
      obtain ⟨inside, rfl⟩ := List.getElem?_eq_some_iff.1 found
      obtain ⟨inside', rfl⟩ := List.getElem?_eq_some_iff.1 there
      have apart := List.pairwise_iff_getElem.1 sound.distinct j i (by simpa using inside')
        (by simpa using inside) earlier
      simp [same] at apart
    | percentage => exact Nat.not_lt.2 sound.percentage broken.1
    | bindTimeout => exact Nat.ne_of_gt sound.bindTimeout broken.1
    | initialBackoff => exact Nat.ne_of_gt sound.initialBackoff broken.1
    | maxBackoff => exact Nat.not_lt.2 sound.maxBackoff broken.1
    | url i =>
      obtain ⟨e, found, empty, -⟩ := broken
      exact sound.url e (List.mem_of_getElem? found) empty
    | weight i =>
      obtain ⟨e, found, verb, low, -⟩ := broken
      exact Int.not_lt.2 low (sound.weight e (List.mem_of_getElem? found) verb)
  · intro kept
    refine ⟨?_, ?_, ?_, ?_, ?_, ?_, ?_, ?_, ?_⟩
    · exact fun none => kept .someProfile _ ⟨none, rfl⟩
    · intro p there empty
      obtain ⟨i, found⟩ := List.mem_iff_getElem?.1 there
      exact kept (.named i) _ ⟨p, found, empty, rfl⟩
    · rw [List.Nodup, List.pairwise_iff_getElem]
      intro j i inside' inside earlier same
      simp only [List.length_map] at inside inside'
      simp only [List.getElem_map] at same
      exact kept (.distinct i) _ ⟨_, j, _, List.getElem?_eq_getElem inside, earlier,
        List.getElem?_eq_getElem inside', same, rfl⟩
    · exact Nat.not_lt.1 fun above => kept .percentage _ ⟨above, rfl⟩
    · exact Nat.pos_of_ne_zero fun zero => kept .bindTimeout _ ⟨zero, rfl⟩
    · exact Nat.pos_of_ne_zero fun zero => kept .initialBackoff _ ⟨zero, rfl⟩
    · exact Nat.not_lt.1 fun below => kept .maxBackoff _ ⟨below, rfl⟩
    · intro e there empty
      obtain ⟨i, found⟩ := List.mem_iff_getElem?.1 there
      exact kept (.url i) _ ⟨e, found, empty, rfl⟩
    · intro e there verb
      obtain ⟨i, found⟩ := List.mem_iff_getElem?.1 there
      exact Int.not_le.1 fun low => kept (.weight i) _ ⟨e, found, verb, low, rfl⟩

/-! ### What is reported of some rules -/

/-- A list of violations tells which of some rules is the first that is broken. -/
structure Reports (c : Component) (among : Rule → Prop) (l : List Violation) : Prop where
  none : l = [] → ∀ rule v, among rule → ¬Breaks c rule v
  first (v : Violation) (rest : List Violation) : l = v :: rest →
    ∃ rule, among rule ∧ Breaks c rule v ∧
      ∀ other v', among other → other.Before rule → ¬Breaks c other v'

variable {c : Component} {R S : Rule → Prop} {l m : List Violation}

theorem Reports.congr (h : Reports c R l) (same : ∀ rule, S rule ↔ R rule) : Reports c S l := by
  obtain rfl : S = R := funext fun rule => propext (same rule)
  exact h

/-- Of some rules and of later ones the former are reported first. -/
theorem Reports.append (h : Reports c R l) (h' : Reports c S m)
    (order : ∀ r s, R r → S s → r.Before s) : Reports c (fun rule => R rule ∨ S rule) (l ++ m) := by
  constructor
  · intro nothing rule v about
    obtain ⟨rfl, rfl⟩ := List.append_eq_nil_iff.1 nothing
    exact about.elim (h.none rfl rule v) (h'.none rfl rule v)
  · intro v rest reported
    cases l with
    | nil =>
      obtain ⟨rule, about, broken, least⟩ := h'.first v rest reported
      refine ⟨rule, .inr about, broken, ?_⟩
      rintro other v' (early | late) before
      · exact h.none rfl other v' early
      · exact least other v' late before
    | cons v' rest' =>
      obtain ⟨rfl, -⟩ := List.cons.inj reported
      obtain ⟨rule, about, broken, least⟩ := h.first _ _ rfl
      refine ⟨rule, .inl about, broken, ?_⟩
      rintro other v (early | late) before
      · exact least other v early before
      · have after := order rule other about late
        unfold Rule.Before at before after
        omega

/-- The stages are looked at one after the other. -/
theorem Reports.next {n : Nat} (h : Reports c (·.stage ≤ n) l)
    (h' : Reports c (·.stage = n + 1) m) :
    Reports c (·.stage ≤ n + 1) (l ++ m) := by
  refine (h.append h' ?_).congr ?_
  · intro r s early late
    left
    omega
  · intro rule
    omega

/-- A single rule is looked at. -/
theorem reports_violationIf {broken : Prop} [Decidable broken] {rule : Rule} {v : Violation}
    (breaks : broken → Breaks c rule v) (broken_of : ∀ v', Breaks c rule v' → broken) :
    Reports c (· = rule) (violationIf broken v) := by
  unfold violationIf
  constructor
  · rintro nothing other v' rfl breaks'
    simp [broken_of v' breaks'] at nothing
  · intro v' rest reported
    split at reported
    · next there =>
      obtain ⟨rfl, -⟩ := List.cons.inj reported
      refine ⟨rule, rfl, breaks there, ?_⟩
      rintro other v' rfl before
      unfold Rule.Before at before
      omega
    · contradiction

/-- The two rules about a thing at a place come before those about all further things. -/
theorem Reports.then {n : Nat} {first second : Nat → Rule}
    (h : Reports c (fun rule => rule = first n ∨ rule = second n) l)
    (h' : Reports c (fun rule => ∃ i, n + 1 ≤ i ∧ (rule = first i ∨ rule = second i)) m)
    (order : ∀ i, n < i → ∀ r s, (r = first n ∨ r = second n) → (s = first i ∨ s = second i) →
      r.Before s) :
    Reports c (fun rule => ∃ i, n ≤ i ∧ (rule = first i ∨ rule = second i)) (l ++ m) := by
  refine (h.append h' ?_).congr ?_
  · rintro r s here ⟨i, later, there⟩
    exact order i later r s here there
  · intro rule
    constructor
    · rintro ⟨i, later, about⟩
      by_cases here : i = n
      · exact .inl (here ▸ about)
      · exact .inr ⟨i, by omega, about⟩
    · rintro (about | ⟨i, later, about⟩)
      · exact ⟨n, Nat.le_refl n, about⟩
      · exact ⟨i, by omega, about⟩

/-! ### Profiles and extenders -/

/-- A profile without a name is not looked for among the earlier ones. -/
theorem reports_profile {n : Nat} {seen : List String} {p : Profile}
    (found : c.profiles[n]? = some p)
    (earlier : ∀ name, name ∈ seen ↔
      ∃ j q, j < n ∧ c.profiles[j]? = some q ∧ q.schedulerName = name) :
    Reports c (fun rule => rule = .named n ∨ rule = .distinct n)
      (if p.schedulerName = "" then [.unnamedProfile]
        else violationIf (p.schedulerName ∈ seen) (.duplicateProfile p.schedulerName)) := by
  split
  · next empty =>
    constructor
    · intro nothing
      contradiction
    · intro v rest reported
      obtain ⟨rfl, -⟩ := List.cons.inj reported
      refine ⟨.named n, .inl rfl, ⟨p, found, empty, rfl⟩, ?_⟩
      rintro other v' (rfl | rfl) before
      · simp [Rule.Before] at before
      · rcases before with stage | ⟨-, turn⟩
        · exact absurd stage (Nat.lt_irrefl _)
        · change 2 * n + 1 < 2 * n at turn
          omega
  · next given =>
    have nameless : Reports c (· = .named n) [] := by
      refine ⟨?_, fun v rest reported => by cases reported⟩
      rintro - rule v rfl ⟨p', found', empty, -⟩
      rw [found, Option.some.injEq] at found'
      exact given (found' ▸ empty)
    have repeated : Reports c (· = .distinct n)
        (violationIf (p.schedulerName ∈ seen) (.duplicateProfile p.schedulerName)) := by
      apply reports_violationIf
      · intro there
        obtain ⟨j, q, before, there, same⟩ := (earlier _).1 there
        exact ⟨p, j, q, found, before, there, same, rfl⟩
      · rintro v' ⟨p', j, q, found', before, there, same, -⟩
        rw [found, Option.some.injEq] at found'
        exact (earlier _).2 ⟨j, q, before, there, found' ▸ same⟩
    refine nameless.append repeated ?_
    rintro r s rfl rfl
    exact .inr ⟨rfl, Nat.lt_succ_self _⟩

/-- Profiles are looked at one after the other, with the names of the earlier ones in mind. -/
theorem reports_profiles {n : Nat} {seen : List String} {rest : List Profile}
    (remaining : c.profiles.drop n = rest)
    (earlier : ∀ name, name ∈ seen ↔
      ∃ j q, j < n ∧ c.profiles[j]? = some q ∧ q.schedulerName = name) :
    Reports c (fun rule => ∃ i, n ≤ i ∧ (rule = .named i ∨ rule = .distinct i))
      (profileViolations seen rest) := by
  induction rest generalizing n seen with
  | nil =>
    have beyond {i : Nat} (later : n ≤ i) : c.profiles[i]? = none :=
      List.getElem?_eq_none (Nat.le_trans (List.drop_eq_nil_iff.1 remaining) later)
    refine ⟨?_, fun v rest reported => by cases reported⟩
    rintro - rule v ⟨i, later, rfl | rfl⟩
    · rintro ⟨p, found, -⟩
      rw [beyond later] at found
      contradiction
    · rintro ⟨p, j, q, found, -⟩
      rw [beyond later] at found
      contradiction
  | cons p rest ih =>
    have found : c.profiles[n]? = some p := by
      rw [← List.head?_drop, remaining, List.head?_cons]
    have rest' : c.profiles.drop (n + 1) = rest := by
      rw [← List.tail_drop, remaining, List.tail_cons]
    have seen' (name : String) : name ∈ p.schedulerName :: seen ↔
        ∃ j q, j < n + 1 ∧ c.profiles[j]? = some q ∧ q.schedulerName = name := by
      rw [List.mem_cons, earlier]
      constructor
      · rintro (rfl | ⟨j, q, before, there, same⟩)
        · exact ⟨n, p, Nat.lt_succ_self n, found, rfl⟩
        · exact ⟨j, q, Nat.lt_succ_of_lt before, there, same⟩
      · rintro ⟨j, q, before, there, same⟩
        by_cases last : j = n
        · subst last
          rw [found, Option.some.injEq] at there
          exact .inl (there ▸ same.symm)
        · exact .inr ⟨j, q, by omega, there, same⟩
    refine (reports_profile found earlier).then (ih rest' seen') ?_
    rintro i later r s (rfl | rfl) (rfl | rfl) <;> right <;> simp [Rule.stage, Rule.turn] <;> omega

/-- The rules about an extender. -/
theorem reports_extender {n : Nat} {e : Extender} (found : c.extenders[n]? = some e) :
    Reports c (fun rule => rule = .url n ∨ rule = .weight n)
      (violationIf (e.urlPrefix = "") (.extenderUrl n) ++
        violationIf (e.prioritizeVerb.isSome ∧ e.weight ≤ 0) (.extenderWeight n)) := by
  refine Reports.append (reports_violationIf ?_ ?_) (reports_violationIf ?_ ?_) ?_
  · exact fun empty => ⟨e, found, empty, rfl⟩
  · rintro v' ⟨e', found', empty, -⟩
    rw [found, Option.some.injEq] at found'
    exact found' ▸ empty
  · rintro ⟨verb, low⟩
    exact ⟨e, found, verb, Int64.le_iff_toInt_le.1 low, rfl⟩
  · rintro v' ⟨e', found', verb, low, -⟩
    rw [found, Option.some.injEq] at found'
    subst found'
    exact ⟨verb, Int64.le_iff_toInt_le.2 low⟩
  · rintro r s rfl rfl
    exact .inr ⟨rfl, Nat.lt_succ_self _⟩

/-- Extenders are looked at one after the other. -/
theorem reports_extenders {n : Nat} {rest : List Extender}
    (remaining : c.extenders.drop n = rest) :
    Reports c (fun rule => ∃ i, n ≤ i ∧ (rule = .url i ∨ rule = .weight i))
      (extenderViolations n rest) := by
  induction rest generalizing n with
  | nil =>
    have beyond {i : Nat} (later : n ≤ i) : c.extenders[i]? = none :=
      List.getElem?_eq_none (Nat.le_trans (List.drop_eq_nil_iff.1 remaining) later)
    refine ⟨?_, fun v rest reported => by cases reported⟩
    rintro - rule v ⟨i, later, rfl | rfl⟩
    · rintro ⟨e, found, -⟩
      rw [beyond later] at found
      contradiction
    · rintro ⟨e, found, -⟩
      rw [beyond later] at found
      contradiction
  | cons e rest ih =>
    have found : c.extenders[n]? = some e := by
      rw [← List.head?_drop, remaining, List.head?_cons]
    have rest' : c.extenders.drop (n + 1) = rest := by
      rw [← List.tail_drop, remaining, List.tail_cons]
    refine (reports_extender found).then (ih rest') ?_
    rintro i later r s (rfl | rfl) (rfl | rfl) <;> right <;> simp [Rule.stage, Rule.turn] <;> omega

/-! ## Validation -/

/-- A rule that is not about profiles or extenders has a stage of its own. -/
theorem Rule.eq_of_stage {rule other : Rule} (alone : rule.stage ≠ 1 ∧ rule.stage ≠ 6)
    (same : other.stage = rule.stage) : other = rule := by
  cases rule <;> cases other <;> simp_all [stage]

/-- A part with a single rule reports it if it is broken. -/
theorem reports_stage {broken p : Prop} [Decidable broken] (rule : Rule) {v : Violation}
    (alone : rule.stage ≠ 1 ∧ rule.stage ≠ 6) (broken_iff : broken ↔ p)
    (breaks : ∀ v', Breaks c rule v' ↔ p ∧ v' = v) :
    Reports c (·.stage = rule.stage) (violationIf broken v) := by
  refine (reports_violationIf ?_ ?_).congr fun other => ⟨Rule.eq_of_stage alone, ?_⟩
  · exact fun there => (breaks v).2 ⟨broken_iff.1 there, rfl⟩
  · exact fun v' there => broken_iff.2 ((breaks v').1 there).1
  · rintro rfl
    rfl

/-- All rules are looked at in their order. -/
theorem reports_violations (c : Component) : Reports c (·.stage ≤ 6) c.violations := by
  have someProfile : Reports c (·.stage ≤ 0) (violationIf (c.profiles = []) .noProfile) :=
    (reports_stage .someProfile (by decide) Iff.rfl fun _ => Iff.rfl).congr
      fun _ => Nat.le_zero
  have profiles : Reports c (·.stage = 1) (profileViolations [] c.profiles) :=
    (reports_profiles List.drop_zero (by simp)).congr fun rule => by
      cases rule <;> simp [Rule.stage]
  have percentage : Reports c (·.stage = 2) (violationIf (100 < c.percentageOfNodesToScore)
      (.percentage c.percentageOfNodesToScore)) :=
    reports_stage .percentage (by decide) UInt32.lt_iff_toNat_lt fun _ => Iff.rfl
  have bindTimeout : Reports c (·.stage = 3)
      (violationIf (c.bindTimeoutSeconds = 0) .bindTimeout) :=
    reports_stage .bindTimeout (by decide) UInt64.toNat_inj.symm fun _ => Iff.rfl
  have initialBackoff : Reports c (·.stage = 4)
      (violationIf (c.podInitialBackoffSeconds = 0) .initialBackoff) :=
    reports_stage .initialBackoff (by decide) UInt64.toNat_inj.symm fun _ => Iff.rfl
  have maxBackoff : Reports c (·.stage = 5)
      (violationIf (c.podMaxBackoffSeconds < c.podInitialBackoffSeconds)
        (.maxBackoff c.podMaxBackoffSeconds c.podInitialBackoffSeconds)) :=
    reports_stage .maxBackoff (by decide) UInt64.lt_iff_toNat_lt fun _ => Iff.rfl
  have extenders : Reports c (·.stage = 6) (extenderViolations 0 c.extenders) :=
    (reports_extenders List.drop_zero).congr fun rule => by
      cases rule <;> simp [Rule.stage]
  exact (((((someProfile.next profiles).next percentage).next bindTimeout).next
    initialBackoff).next maxBackoff).next extenders

theorem Rule.stage_le (rule : Rule) : rule.stage ≤ 6 := by
  cases rule <;> simp [stage]

/-- A rule is the first that is broken, and this is said then. -/
def BreaksFirst (c : Component) (rule : Rule) (v : Violation) : Prop :=
  Breaks c rule v ∧ ∀ other v', other.Before rule → ¬Breaks c other v'

/-- Only one rule is the first that is broken. -/
theorem BreaksFirst.unique {rule rule' : Rule} {v v' : Violation} (h : BreaksFirst c rule v)
    (h' : BreaksFirst c rule' v') : rule = rule' ∧ v = v' := by
  obtain rfl : rule = rule' := Rule.eq_of_not_before (fun before => h'.2 rule v before h.1)
    fun before => h.2 rule' v' before h'.1
  exact ⟨rfl, h.1.unique h'.1⟩

/-- Either no rule is broken, or the first that is broken is reported. -/
theorem Component.validate_cases (c : Component) :
    (c.validate = .ok () ∧ ∀ rule v, ¬Breaks c rule v) ∨
      ∃ rule v, c.validate = .error v ∧ BreaksFirst c rule v := by
  have reports := reports_violations c
  unfold validate
  cases violations : c.violations with
  | nil => exact .inl ⟨rfl, fun rule v => reports.none violations rule v rule.stage_le⟩
  | cons v rest =>
    obtain ⟨rule, -, broken, least⟩ := reports.first v rest violations
    exact .inr ⟨rule, v, rfl, broken, fun other v' => least other v' other.stage_le⟩

theorem Component.validate_eq_error_iff {v : Violation} :
    c.validate = .error v ↔ ∃ rule, BreaksFirst c rule v := by
  rcases c.validate_cases with ⟨accepted, kept⟩ | ⟨rule, v', refused, first⟩
  · rw [accepted]
    refine iff_of_false (by simp) ?_
    rintro ⟨rule, broken, -⟩
    exact kept rule v broken
  · rw [refused, Except.error.injEq]
    constructor
    · rintro rfl
      exact ⟨rule, first⟩
    · rintro ⟨rule', first'⟩
      exact (first.unique first').2

/-- The place of an extender is quoted in decimal digits. -/
theorem message_eq_of_place (i : Nat) {wording rest : String} (same : wording = "]: " ++ rest) :
    "extenders[" ++ String.ofList (Numeric.digits i) ++ wording =
      "extenders[" ++ toString i ++ "]: " ++ rest := by
  have numeral : String.ofList (Numeric.digits i) = toString i := Nat.repr_eq_ofList_toDigits.symm
  rw [same, numeral]
  simp only [String.append_assoc]

/-- **Validation.** The sound configurations are accepted. Of any other the first rule that is
broken is reported, so a profile without a name is never called a duplicate, and the place of an
extender is named. -/
theorem Component.validate_exact (c : Component) :
    (c.validate = .ok () ↔ c.Sound) ∧
    (∀ v, c.validate = .error v ↔ ∃ rule, BreaksFirst c rule v) ∧
    c.validate ≠ .error (.duplicateProfile "") ∧
    ∀ i v, Breaks c (.url i) v ∨ Breaks c (.weight i) v →
      ∃ rest, v.message = "extenders[" ++ toString i ++ "]: " ++ rest := by
  refine ⟨?_, fun v => validate_eq_error_iff, ?_, ?_⟩
  · rw [sound_iff]
    rcases c.validate_cases with ⟨accepted, kept⟩ | ⟨rule, v, refused, broken, -⟩
    · exact iff_of_true accepted kept
    · rw [refused]
      exact iff_of_false (by simp) fun kept => kept rule v broken
  · rw [Ne, validate_eq_error_iff]
    rintro ⟨rule, broken, least⟩
    cases rule with
    | distinct i =>
      obtain ⟨p, j, q, found, -, -, -, same⟩ := broken
      -- The profile has no name, which is looked at first.
      exact least (.named i) _ (.inr ⟨rfl, Nat.lt_succ_self _⟩)
        ⟨p, found, (Violation.duplicateProfile.inj same).symm, rfl⟩
    | _ => simp [Breaks] at broken
  · rintro i v (⟨e, -, -, rfl⟩ | ⟨e, -, -, -, rfl⟩)
    · exact ⟨"urlPrefix is required", message_eq_of_place i (by decide)⟩
    · exact ⟨"weight must be positive when prioritizeVerb is set",
        message_eq_of_place i (by decide)⟩

example : ({ Component.standard with
    profiles := [⟨"a", []⟩, ⟨"", []⟩, ⟨"", []⟩, ⟨"a", []⟩], bindTimeoutSeconds := 0 }).validate =
      .error .unnamedProfile := by rfl

end SchedulerHost.Config
