import Mathlib.Logic.Basic
import SchedulerHost.Config.Overrides
import SchedulerHost.Error

/-!
# Settings laid over a configuration

Five settings may each replace one part of a configuration. They are looked at in a fixed order, up
to the first whose text does not decode.

* `Tunable`: a part that a setting may replace. `get_put_self`, `get_put_of_ne`: replacing one part
  leaves the others.
* `Gives`, `Fails`: what comes of the text of a setting. `overlay_append`, `overlay_of_fails`: the
  settings before the first that fails are laid over, those after it are not.
* **Overlay** (`Component.applyOverrides_exact`): which parts are replaced and what is reported, and
  that doing it again changes nothing.
-/

namespace SchedulerHost.Config

/-! ### Parts that settings replace -/

/-- A part of a configuration that a setting may replace. -/
inductive Tunable where
  | percentage
  | bindTimeout
  | initialBackoff
  | maxBackoff
  | preemption
deriving DecidableEq

namespace Tunable

/-- The parts, in the order in which their settings are looked at. -/
def all : List Tunable := [percentage, bindTimeout, initialBackoff, maxBackoff, preemption]

def place : Tunable → Nat
  | percentage => 0
  | bindTimeout => 1
  | initialBackoff => 2
  | maxBackoff => 3
  | preemption => 4

def key : Tunable → String
  | percentage => "MULTISCHED_PERCENTAGE_OF_NODES_TO_SCORE"
  | bindTimeout => "MULTISCHED_BIND_TIMEOUT_SECONDS"
  | initialBackoff => "MULTISCHED_POD_INITIAL_BACKOFF_SECONDS"
  | maxBackoff => "MULTISCHED_POD_MAX_BACKOFF_SECONDS"
  | preemption => "MULTISCHED_DISABLE_PREEMPTION"

abbrev type : Tunable → Type
  | percentage => UInt32
  | bindTimeout | initialBackoff | maxBackoff => UInt64
  | preemption => Bool

def decode : (t : Tunable) → Decoder t.type
  | percentage => .uint32
  | bindTimeout | initialBackoff | maxBackoff => .uint64
  | preemption => .bool

def get : (t : Tunable) → Component → t.type
  | percentage, c => c.percentageOfNodesToScore
  | bindTimeout, c => c.bindTimeoutSeconds
  | initialBackoff, c => c.podInitialBackoffSeconds
  | maxBackoff, c => c.podMaxBackoffSeconds
  | preemption, c => c.disablePreemption

def put : (t : Tunable) → t.type → Component → Component
  | percentage, n, c => { c with percentageOfNodesToScore := n }
  | bindTimeout, n, c => { c with bindTimeoutSeconds := n }
  | initialBackoff, n, c => { c with podInitialBackoffSeconds := n }
  | maxBackoff, n, c => { c with podMaxBackoffSeconds := n }
  | preemption, b, c => { c with disablePreemption := b }

theorem get_put_self (t : Tunable) (a : t.type) (c : Component) : t.get (t.put a c) = a := by
  cases t <;> rfl

/-- Replacing a part leaves the others alone. -/
theorem get_put_of_ne {t u : Tunable} (h : u ≠ t) (a : t.type) (c : Component) :
    u.get (t.put a c) = u.get c := by
  cases t <;> cases u <;> first | rfl | exact absurd rfl h

@[simp] theorem profiles_put (t : Tunable) (a : t.type) (c : Component) :
    (t.put a c).profiles = c.profiles := by
  cases t <;> rfl

@[simp] theorem algorithmSource_put (t : Tunable) (a : t.type) (c : Component) :
    (t.put a c).algorithmSource = c.algorithmSource := by
  cases t <;> rfl

@[simp] theorem extenders_put (t : Tunable) (a : t.type) (c : Component) :
    (t.put a c).extenders = c.extenders := by
  cases t <;> rfl

theorem mem_all (t : Tunable) : t ∈ all := by
  cases t <;> decide

/-- The parts before one in the list are those of a smaller place. -/
theorem exists_split (t : Tunable) :
    ∃ before after, all = before ++ t :: after ∧ ∀ u, u ∈ before ↔ u.place < t.place := by
  refine ⟨all.take t.place, all.drop (t.place + 1), ?_, fun u => ?_⟩
  · cases t <;> rfl
  · cases t <;> cases u <;> decide

def override (t : Tunable) : Override := .of t.key t.decode t.put

/-- The overrides are those of the parts, in the order of the parts. -/
theorem overrides_eq : overrides = all.map override := rfl

end Tunable

/-- A configuration has the parts that settings may replace, and three others. -/
theorem Component.eq_of_get {c d : Component} (parts : ∀ t : Tunable, t.get c = t.get d)
    (profiles : c.profiles = d.profiles) (source : c.algorithmSource = d.algorithmSource)
    (extenders : c.extenders = d.extenders) : c = d := by
  have percentage := parts .percentage
  have bindTimeout := parts .bindTimeout
  have initialBackoff := parts .initialBackoff
  have maxBackoff := parts .maxBackoff
  have preemption := parts .preemption
  cases c
  cases d
  simp_all [Tunable.get]

/-! ### What comes of a setting -/

/-- The setting of a part is there and decodes, white space at its ends aside. -/
def Settings.Gives (s : Settings) (t : Tunable) (a : t.type) : Prop :=
  ∃ raw, s.get? t.key = some raw ∧ t.decode (Text.trim raw.toList) = .ok a

/-- The setting of a part is there and does not decode. -/
def Settings.Fails (s : Settings) (t : Tunable) (raw : String) (reason : SettingReason) : Prop :=
  s.get? t.key = some raw ∧ t.decode (Text.trim raw.toList) = .error reason

/-- The setting of a part does not decode, and those before it are absent or do. -/
def Settings.FailsFirst (s : Settings) (t : Tunable) (raw : String) (reason : SettingReason) :
    Prop :=
  s.Fails t raw reason ∧ ∀ u raw' reason', u.place < t.place → ¬s.Fails u raw' reason'

variable {s : Settings} {c c' : Component}

/-- A setting decodes, is absent or fails. -/
theorem Settings.parse_cases (s : Settings) (t : Tunable) :
    (∃ a, s.Gives t a ∧ s.parse t.decode t.key = .ok (some a)) ∨
      (s.get? t.key = none ∧ s.parse t.decode t.key = .ok none) ∨
      ∃ raw reason, s.Fails t raw reason ∧
        s.parse t.decode t.key = .error ⟨t.key, raw, reason⟩ := by
  unfold parse
  cases there : s.get? t.key with
  | none => exact .inr (.inl ⟨rfl, rfl⟩)
  | some raw =>
    cases decoded : t.decode (Text.trim raw.toList) with
    | ok a => exact .inl ⟨a, ⟨raw, there, decoded⟩, by simp only [decoded]⟩
    | error reason => exact .inr (.inr ⟨raw, reason, ⟨there, decoded⟩, by simp only [decoded]⟩)

/-- A setting says one thing only. -/
theorem Settings.Gives.unique {t : Tunable} {a b : t.type} (h : s.Gives t a) (h' : s.Gives t b) :
    a = b := by
  obtain ⟨raw, there, decoded⟩ := h
  obtain ⟨raw', there', decoded'⟩ := h'
  obtain rfl : raw = raw' := by simpa [there] using there'
  simpa [decoded] using decoded'

/-- A setting that decodes does not fail. -/
theorem Settings.Gives.not_fails {t : Tunable} {a : t.type} (h : s.Gives t a) (raw : String)
    (reason : SettingReason) : ¬s.Fails t raw reason := by
  rintro ⟨there', decoded'⟩
  obtain ⟨raw', there, decoded⟩ := h
  obtain rfl : raw' = raw := by simpa [there] using there'
  simp [decoded] at decoded'

/-! ### Laying over -/

/-- Lays the setting of a part over a configuration, if it decodes. -/
def Settings.lay (s : Settings) (c : Component) (t : Tunable) : Component :=
  match s.parse t.decode t.key with
  | .ok (some a) => t.put a c
  | _ => c

theorem Settings.Gives.lay {t : Tunable} {a : t.type} (h : s.Gives t a) :
    s.lay c t = t.put a c := by
  rcases s.parse_cases t with ⟨b, gives, parsed⟩ | ⟨absent, -⟩ | ⟨raw, reason, fails, -⟩
  · rw [Settings.lay, parsed, h.unique gives]
  · obtain ⟨raw, there, -⟩ := h
    simp [absent] at there
  · exact absurd fails (h.not_fails raw reason)

theorem Settings.lay_of_not_gives {t : Tunable} (h : ∀ a, ¬s.Gives t a) : s.lay c t = c := by
  rcases s.parse_cases t with ⟨a, gives, -⟩ | ⟨-, parsed⟩ | ⟨raw, reason, -, parsed⟩
  · exact absurd gives (h a)
  · rw [Settings.lay, parsed]
  · rw [Settings.lay, parsed]

/-- The settings of some parts have been laid over a configuration where they decode, and all else
is as it was. -/
structure Overlaid (s : Settings) (among : Tunable → Prop) (c c' : Component) : Prop where
  laid (t : Tunable) (a : t.type) : among t → s.Gives t a → t.get c' = a
  kept (t : Tunable) : (among t → ∀ a, ¬s.Gives t a) → t.get c' = t.get c
  profiles : c'.profiles = c.profiles
  algorithmSource : c'.algorithmSource = c.algorithmSource
  extenders : c'.extenders = c.extenders

theorem Overlaid.congr {among among' : Tunable → Prop} (h : Overlaid s among c c')
    (same : ∀ t, among t ↔ among' t) : Overlaid s among' c c' := by
  obtain rfl : among = among' := funext fun t => propext (same t)
  exact h

/-- Nothing is laid over. -/
theorem Overlaid.refl (s : Settings) (c : Component) : Overlaid s (fun _ => False) c c :=
  ⟨fun _ _ no _ => no.elim, fun _ _ => rfl, rfl, rfl, rfl⟩

/-- One more setting is laid over. -/
theorem Overlaid.lay {among : Tunable → Prop} (h : Overlaid s among c c') (t : Tunable) :
    Overlaid s (fun u => among u ∨ u = t) c (s.lay c' t) := by
  by_cases gives : ∃ a, s.Gives t a
  · obtain ⟨a, gives⟩ := gives
    rw [gives.lay]
    refine ⟨?_, ?_, ?_, ?_, ?_⟩
    · intro u b there gives'
      by_cases same : u = t
      · subst same
        rw [Tunable.get_put_self]
        exact gives.unique gives'
      · rw [Tunable.get_put_of_ne same]
        exact h.laid u b (there.resolve_right same) gives'
    · intro u none
      have apart : u ≠ t := by
        rintro rfl
        exact none (.inr rfl) a gives
      rw [Tunable.get_put_of_ne apart]
      exact h.kept u fun there => none (.inl there)
    · rw [Tunable.profiles_put, h.profiles]
    · rw [Tunable.algorithmSource_put, h.algorithmSource]
    · rw [Tunable.extenders_put, h.extenders]
  · rw [Settings.lay_of_not_gives (not_exists.1 gives)]
    refine ⟨?_, ?_, h.profiles, h.algorithmSource, h.extenders⟩
    · rintro u b (there | rfl) gives'
      · exact h.laid u b there gives'
      · exact absurd ⟨b, gives'⟩ gives
    · exact fun u none => h.kept u fun there => none (.inl there)

/-- Settings are laid over one after the other. -/
theorem Overlaid.foldl {among : Tunable → Prop} (h : Overlaid s among c c') (ts : List Tunable) :
    Overlaid s (fun u => among u ∨ u ∈ ts) c (ts.foldl s.lay c') := by
  induction ts generalizing among c' with
  | nil => exact h.congr (by simp)
  | cons t ts ih => exact (ih (h.lay t)).congr (by simp [or_assoc])

/-- Settings that are laid over one after the other are laid over at once. -/
theorem overlaid_foldl (s : Settings) (ts : List Tunable) (c : Component) :
    Overlaid s (· ∈ ts) c (ts.foldl s.lay c) :=
  ((Overlaid.refl s c).foldl ts).congr (by simp)

/-- Laying the same settings over once more changes nothing. -/
theorem Overlaid.again {among : Tunable → Prop} {c'' : Component} (h : Overlaid s among c c')
    (h' : Overlaid s among c' c'') : c'' = c' := by
  refine Component.eq_of_get (fun t => ?_) h'.profiles h'.algorithmSource h'.extenders
  by_cases gives : among t ∧ ∃ a, s.Gives t a
  · obtain ⟨there, a, gives⟩ := gives
    rw [h'.laid t a there gives, h.laid t a there gives]
  · exact h'.kept t fun there a gives' => gives ⟨there, a, gives'⟩

/-! ### The order of the settings -/

/-- Settings that do not fail are laid over, and the others follow. -/
theorem overlay_append {before : List Tunable}
    (succeed : ∀ t ∈ before, ∀ raw reason, ¬s.Fails t raw reason) (after : List Tunable)
    (c : Component) :
    overlay s ((before ++ after).map Tunable.override) c =
      overlay s (after.map Tunable.override) (before.foldl s.lay c) := by
  induction before generalizing c with
  | nil => rfl
  | cons t before ih =>
    have step : (t.override).overlay s c = .ok (s.lay c t) := by
      rcases s.parse_cases t with ⟨a, -, parsed⟩ | ⟨-, parsed⟩ | ⟨raw, reason, fails, -⟩
      · simp only [Tunable.override, Override.of, Settings.lay, parsed]
      · simp only [Tunable.override, Override.of, Settings.lay, parsed]
      · exact absurd fails (succeed t List.mem_cons_self raw reason)
    rw [List.cons_append, List.map_cons, overlay_cons s _ _ c _ step,
      ih fun u there => succeed u (List.mem_cons_of_mem _ there)]
    rfl

/-- A setting that fails ends the overlay. -/
theorem overlay_of_fails {t : Tunable} {raw : String} {reason : SettingReason}
    (fails : s.Fails t raw reason) (after : List Tunable) (c : Component) :
    overlay s ((t :: after).map Tunable.override) c = (c, .error ⟨t.key, raw, reason⟩) := by
  rcases s.parse_cases t with ⟨a, gives, -⟩ | ⟨absent, -⟩ | ⟨raw', reason', fails', parsed⟩
  · exact absurd fails (gives.not_fails raw reason)
  · simp [Settings.Fails, absent] at fails
  · obtain ⟨there, decoded⟩ := fails
    obtain ⟨there', decoded'⟩ := fails'
    obtain rfl : raw = raw' := by simpa [there] using there'
    obtain rfl : reason = reason' := by simpa [decoded] using decoded'
    simp only [List.map_cons, overlay, Tunable.override, Override.of, parsed]

/-- Without a fault all settings are laid over. -/
theorem Component.applyOverrides_of_succeed (succeed : ∀ t raw reason, ¬s.Fails t raw reason)
    (c : Component) :
    ∃ c', c.applyOverrides s = (c', .ok ()) ∧ Overlaid s (fun _ => True) c c' := by
  have whole := overlay_append (fun t (_ : t ∈ Tunable.all) => succeed t) [] c
  rw [List.append_nil] at whole
  exact ⟨_, whole, (overlaid_foldl s Tunable.all c).congr fun t => iff_true_intro t.mem_all⟩

/-- The first fault is reported, and the settings before it are laid over. -/
theorem Component.applyOverrides_of_failsFirst {t : Tunable} {raw : String}
    {reason : SettingReason} (first : s.FailsFirst t raw reason) (c : Component) :
    ∃ c', c.applyOverrides s = (c', .error ⟨t.key, raw, reason⟩) ∧
      Overlaid s (·.place < t.place) c c' := by
  obtain ⟨before, after, split, mem_before⟩ := t.exists_split
  have succeed (u : Tunable) (there : u ∈ before) (raw' : String) (reason' : SettingReason) :
      ¬s.Fails u raw' reason' := first.2 u raw' reason' ((mem_before u).1 there)
  refine ⟨before.foldl s.lay c, ?_, (overlaid_foldl s before c).congr mem_before⟩
  rw [applyOverrides, Tunable.overrides_eq, split, overlay_append succeed, overlay_of_fails first.1]

/-- If any setting fails, one is the first. -/
theorem Settings.exists_failsFirst {t : Tunable} {raw : String} {reason : SettingReason}
    (fails : s.Fails t raw reason) : ∃ u raw' reason', s.FailsFirst u raw' reason' := by
  induction place : t.place using Nat.strongRecOn generalizing t raw reason with
  | ind n ih =>
    by_cases earlier : ∃ u raw' reason', u.place < t.place ∧ s.Fails u raw' reason'
    · obtain ⟨u, raw', reason', before, fails'⟩ := earlier
      exact ih u.place (place ▸ before) fails' rfl
    · refine ⟨t, raw, reason, fails, ?_⟩
      exact fun u raw' reason' before fails' => earlier ⟨u, raw', reason', before, fails'⟩

/-- Either nothing fails, or something fails first. -/
theorem Component.applyOverrides_cases (c : Component) (s : Settings) :
    (∃ c', c.applyOverrides s = (c', .ok ()) ∧ (∀ t raw reason, ¬s.Fails t raw reason) ∧
      Overlaid s (fun _ => True) c c') ∨
    ∃ c' t raw reason, c.applyOverrides s = (c', .error ⟨t.key, raw, reason⟩) ∧
      s.FailsFirst t raw reason ∧ Overlaid s (·.place < t.place) c c' := by
  by_cases fails : ∃ t raw reason, s.Fails t raw reason
  · obtain ⟨t, raw, reason, fails⟩ := fails
    obtain ⟨u, raw', reason', first⟩ := s.exists_failsFirst fails
    obtain ⟨c', applied, laid⟩ := applyOverrides_of_failsFirst first c
    exact .inr ⟨c', u, raw', reason', applied, first, laid⟩
  · have succeed (t : Tunable) (raw : String) (reason : SettingReason) : ¬s.Fails t raw reason :=
      fun failing => fails ⟨t, raw, reason, failing⟩
    obtain ⟨c', applied, laid⟩ := applyOverrides_of_succeed succeed c
    exact .inl ⟨c', applied, succeed, laid⟩

/-- Laying the settings over what they left changes nothing, and is reported as before. -/
theorem Component.applyOverrides_again (c : Component) (s : Settings) :
    (c.applyOverrides s).1.applyOverrides s = c.applyOverrides s := by
  rcases c.applyOverrides_cases s with ⟨c', applied, succeed, laid⟩ |
    ⟨c', t, raw, reason, applied, first, laid⟩
  · obtain ⟨c'', applied', laid'⟩ := applyOverrides_of_succeed succeed c'
    rw [applied, applied', laid.again laid']
  · obtain ⟨c'', applied', laid'⟩ := applyOverrides_of_failsFirst first c'
    rw [applied, applied', laid.again laid']

/-! ### Overlay -/

/-- Lays all overrides over a configuration in place, beside the settings they are read from. -/
def Component.overrideInPlace :
    Component × Settings → (Component × Settings) × Except SettingFault Unit
  | (c, s) =>
    let (c', outcome) := c.applyOverrides s
    ((c', s), outcome)

/-- **Overlay.** If every setting that is there decodes, each replaces its part, and nothing else
changes. Otherwise the first that does not decode is reported, with its text as it was given, and
those before it replace their parts. The settings stay as they are, and laying them over once more
comes to the same. -/
theorem Component.applyOverrides_exact (c : Component) (s : Settings) :
    ∃ c' outcome, overrideInPlace (c, s) = ((c', s), outcome) ∧
      (outcome = .ok () ↔ ∀ t raw reason, ¬s.Fails t raw reason) ∧
      (outcome = .ok () → Overlaid s (fun _ => True) c c') ∧
      (∀ t raw reason, s.FailsFirst t raw reason →
        outcome = .error ⟨t.key, raw, reason⟩ ∧ Overlaid s (·.place < t.place) c c' ∧
          (Error.configuration (.setting ⟨t.key, raw, reason⟩)).message =
            "Invalid configuration: " ++ (t.key ++ ": invalid value '" ++ raw ++ "': " ++
              reason.message)) ∧
      (outcome ≠ .ok () → ∃ t raw reason, s.FailsFirst t raw reason) ∧
      overrideInPlace (c', s) = ((c', s), outcome) := by
  have again := c.applyOverrides_again s
  rcases c.applyOverrides_cases s with ⟨c', applied, succeed, laid⟩ |
    ⟨c', t, raw, reason, applied, first, laid⟩
  · rw [applied] at again
    refine ⟨c', .ok (), by rw [overrideInPlace, applied], iff_of_true rfl succeed, fun _ => laid,
      ?_, fun other => absurd rfl other, by rw [overrideInPlace, again]⟩
    exact fun t raw reason first => absurd first.1 (succeed t raw reason)
  · rw [applied] at again
    refine ⟨c', .error ⟨t.key, raw, reason⟩, by rw [overrideInPlace, applied], ?_, nofun, ?_,
      fun _ => ⟨t, raw, reason, first⟩, by rw [overrideInPlace, again]⟩
    · exact iff_of_false nofun fun succeed => succeed t raw reason first.1
    · intro u raw' reason' first'
      obtain ⟨c'', applied', laid'⟩ := applyOverrides_of_failsFirst first' c
      rw [applied, Prod.mk.injEq] at applied'
      obtain ⟨rfl, same⟩ := applied'
      exact ⟨same, laid', rfl⟩

example : (Component.standard.applyOverrides (.ofList
    [("MULTISCHED_DISABLE_PREEMPTION", "yes"), ("MULTISCHED_BIND_TIMEOUT_SECONDS", " +7\n")])).1 =
      { Component.standard with bindTimeoutSeconds := 7 } := by
  decide +kernel

end SchedulerHost.Config
