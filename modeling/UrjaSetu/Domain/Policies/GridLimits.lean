import UrjaSetu.Domain.Interfaces.Grid

/-!
Grid operating limits and the decision they imply
(`app/domain/policies/grid_limits.py`).

Owns: violations of aggregate metrics, what is left of a verdict, the decision
about a trade, and the reasons that are stored.
-/

namespace UrjaSetu.Domain.Policies.GridLimits

open UrjaSetu.Domain UrjaSetu.Domain.Interfaces.Grid UrjaSetu.Library

/-- The operating envelope of a low-voltage feeder. -/
def DEFAULT_LIMITS : Interfaces.Grid.GridLimits where
  minVoltagePu := Decimal.ofUnits 94 2
  maxVoltagePu := Decimal.ofUnits 106 2
  maxLineLoadingPct := Decimal.ofUnits 100 0
  maxTransformerLoadingPct := Decimal.ofUnits 100 0

/-- The network-wide violation of a metric that is measured and breaches. -/
def violationOf (violationType : GridViolationType) (detail : String)
    (breaches : ℚ → ℚ → Bool) (limit : Decimal) : Option Decimal → List GridViolation
  | none => []
  | some observed =>
      if breaches observed.toRat limit.toRat then
        [⟨violationType, none, observed, limit, some detail⟩]
      else []

/-- Derive violations from normalised metrics. -/
def evaluateMetrics (metrics : GridMetrics) (limits : Interfaces.Grid.GridLimits) :
    List GridViolation :=
  violationOf .underVoltage "network minimum voltage below the operating band"
      (fun observed limit => observed < limit) limits.minVoltagePu metrics.minVoltagePu ++
    violationOf .overVoltage "network maximum voltage above the operating band"
      (fun observed limit => limit < observed) limits.maxVoltagePu metrics.maxVoltagePu ++
    violationOf .lineOverload "line loading above its continuous rating"
      (fun observed limit => limit < observed) limits.maxLineLoadingPct
      metrics.maxLineLoadingPct ++
    violationOf .transformerOverload "transformer loading above its continuous rating"
      (fun observed limit => limit < observed) limits.maxTransformerLoadingPct
      metrics.maxTransformerLoadingPct

/-- Reconcile an engine's verdict with what the twin could support. -/
def resolveStatus (reported : GridValidationStatus) (unratedElements : List UUID) :
    GridValidationStatus :=
  if reported = .safe ∧ unratedElements ≠ [] then .unknown else reported

/-- The status to record, once the trade's own effect is accounted for. -/
def effectiveStatus (status : GridValidationStatus) (causedViolations : List GridViolation) :
    GridValidationStatus :=
  if status = .unknown then .unknown
  else if causedViolations ≠ [] then .unsafe_
  else status

/-- `decide`: turn an engine's finding into a decision about the trade. -/
def decideTrade (status : GridValidationStatus) (causedViolations : List GridViolation) :
    GridValidationDecision :=
  if status.permitsTrade ∧ causedViolations = [] then .accept else .reject

/-- The reason of a validation that could not assess thermal limits. -/
def describeMissingRatings (unratedElements : List UUID) : String :=
  let count := unratedElements.length
  "thermal limits not assessable: " ++ toString count ++ " network " ++
    (if count = 1 then "element has" else "elements have") ++ " no recorded rating"

/-- A short, stable reason for a set of violations. -/
def summarise (violations : List GridViolation) : String :=
  if violations = [] then "within all operating limits"
  else
    "; ".intercalate ((sortBy (fun violation => violation.violationType.value) violations).map
      fun violation => violation.violationType.value ++ " (" ++ violation.observed.str ++
        " vs limit " ++ violation.limit.str ++ ")")

/-! ## What they conclude -/

theorem violationOf_eq_nil_iff {violationType : GridViolationType} {detail : String}
    {breaches : ℚ → ℚ → Bool} {limit : Decimal} {metric : Option Decimal} :
    violationOf violationType detail breaches limit metric = [] ↔
      ∀ observed, metric = some observed → breaches observed.toRat limit.toRat = false := by
  cases metric with
  | none => simp [violationOf]
  | some observed => simp [violationOf]

/-- Metrics have no violation when each that is measured is within its limit. -/
theorem evaluateMetrics_eq_nil_iff {metrics : GridMetrics} {limits : Interfaces.Grid.GridLimits} :
    evaluateMetrics metrics limits = [] ↔
      (∀ observed, metrics.minVoltagePu = some observed →
        limits.minVoltagePu.toRat ≤ observed.toRat) ∧
      (∀ observed, metrics.maxVoltagePu = some observed →
        observed.toRat ≤ limits.maxVoltagePu.toRat) ∧
      (∀ observed, metrics.maxLineLoadingPct = some observed →
        observed.toRat ≤ limits.maxLineLoadingPct.toRat) ∧
      ∀ observed, metrics.maxTransformerLoadingPct = some observed →
        observed.toRat ≤ limits.maxTransformerLoadingPct.toRat := by
  simp only [evaluateMetrics, List.append_eq_nil_iff, violationOf_eq_nil_iff, decide_eq_false_iff_not,
    not_lt, and_assoc]

/-- A run is recorded safe exactly when the engine said so of a network that is
rated throughout and the trade caused nothing. -/
theorem effectiveStatus_safe_iff {reported : GridValidationStatus} {unratedElements : List UUID}
    {causedViolations : List GridViolation} :
    effectiveStatus (resolveStatus reported unratedElements) causedViolations = .safe ↔
      reported = .safe ∧ unratedElements = [] ∧ causedViolations = [] := by
  unfold effectiveStatus resolveStatus
  by_cases caused : causedViolations = []
  · by_cases rated : unratedElements = []
    · cases reported <;> simp [caused, rated]
    · cases reported <;> simp [caused, rated]
  · by_cases rated : unratedElements = []
    · cases reported <;> simp [caused, rated]
    · cases reported <;> simp [caused, rated]

/-- A trade is accepted exactly when its run is recorded safe. -/
theorem decideTrade_accept_iff {reported : GridValidationStatus} {unratedElements : List UUID}
    {causedViolations : List GridViolation} :
    decideTrade (effectiveStatus (resolveStatus reported unratedElements) causedViolations)
        causedViolations = .accept ↔
      effectiveStatus (resolveStatus reported unratedElements) causedViolations = .safe := by
  unfold decideTrade
  constructor
  · intro accepted
    split at accepted
    · rename_i both
      cases status : effectiveStatus (resolveStatus reported unratedElements) causedViolations with
      | safe => rfl
      | unsafe_ => rw [status] at both; cases both.1
      | unknown => rw [status] at both; cases both.1
    · cases accepted
  · intro safe
    rw [safe, if_pos ⟨rfl, (effectiveStatus_safe_iff.mp safe).2.2⟩]

end UrjaSetu.Domain.Policies.GridLimits
