import SchedulerHost.Config.Component
import SchedulerHost.Numeric.Numeral

/-!
# Validation

The rules a component configuration has to keep. All violations are listed in the order in which
the rules are checked; validation reports the first.

Main statement: `Component.validate_eq_ok_iff`.
-/

namespace SchedulerHost.Config

/-- A rule that is not kept. -/
inductive Violation where
  | noProfile
  | unnamedProfile
  | duplicateProfile (schedulerName : String)
  | percentage (given : UInt32)
  | bindTimeout
  | initialBackoff
  | maxBackoff (max initial : UInt64)
  | extenderUrl (index : Nat)
  | extenderWeight (index : Nat)
deriving DecidableEq

def Violation.message : Violation → String
  | .noProfile => "at least one profile is required"
  | .unnamedProfile => "profiles: schedulerName is required"
  | .duplicateProfile name => "profiles: duplicate schedulerName '" ++ name ++ "'"
  | .percentage given =>
    "percentageOfNodesToScore must be in [0, 100], got " ++
      String.ofList (Numeric.digits given.toNat)
  | .bindTimeout => "bindTimeoutSeconds must be positive"
  | .initialBackoff => "podInitialBackoffSeconds must be positive"
  | .maxBackoff max initial =>
    "podMaxBackoffSeconds (" ++ String.ofList (Numeric.digits max.toNat) ++
      ") must not be less than podInitialBackoffSeconds (" ++
      String.ofList (Numeric.digits initial.toNat) ++ ")"
  | .extenderUrl index =>
    "extenders[" ++ String.ofList (Numeric.digits index) ++ "]: urlPrefix is required"
  | .extenderWeight index =>
    "extenders[" ++ String.ofList (Numeric.digits index) ++
      "]: weight must be positive when prioritizeVerb is set"

def violationIf (broken : Prop) [Decidable broken] (violation : Violation) : List Violation :=
  if broken then [violation] else []

/-- The violations of profiles that follow profiles of the names `seen`. -/
def profileViolations (seen : List String) : List Profile → List Violation
  | [] => []
  | p :: rest =>
    (if p.schedulerName = "" then [.unnamedProfile]
      else violationIf (p.schedulerName ∈ seen) (.duplicateProfile p.schedulerName)) ++
      profileViolations (p.schedulerName :: seen) rest

/-- The violations of extenders, the first of which has the given index. -/
def extenderViolations (index : Nat) : List Extender → List Violation
  | [] => []
  | e :: rest =>
    violationIf (e.urlPrefix = "") (.extenderUrl index) ++
      violationIf (e.prioritizeVerb.isSome ∧ e.weight ≤ 0) (.extenderWeight index) ++
      extenderViolations (index + 1) rest

/-- All violations, in the order of the rules. -/
def Component.violations (c : Component) : List Violation :=
  violationIf (c.profiles = []) .noProfile ++
    profileViolations [] c.profiles ++
    violationIf (100 < c.percentageOfNodesToScore) (.percentage c.percentageOfNodesToScore) ++
    violationIf (c.bindTimeoutSeconds = 0) .bindTimeout ++
    violationIf (c.podInitialBackoffSeconds = 0) .initialBackoff ++
    violationIf (c.podMaxBackoffSeconds < c.podInitialBackoffSeconds)
      (.maxBackoff c.podMaxBackoffSeconds c.podInitialBackoffSeconds) ++
    extenderViolations 0 c.extenders

/-- Accepts a configuration that keeps all rules, and reports the first violation of any other. -/
def Component.validate (c : Component) : Except Violation Unit :=
  match c.violations with
  | [] => .ok ()
  | violation :: _ => .error violation

/-- A component is accepted exactly when nothing about it is unsound. -/
theorem Component.validate_eq_ok_iff {c : Component} : c.validate = .ok () ↔ c.violations = [] := by
  unfold validate
  split <;> simp_all

example : Component.standard.validate = .ok () := by rfl

end SchedulerHost.Config
