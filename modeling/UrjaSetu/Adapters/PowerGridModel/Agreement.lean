import UrjaSetu.Adapters.PowerGridModel.Clearance

/-!
Whether the power-flow adapter and the shared policy judge a network alike.

The policy compares the worst loading with the limits of the request. The adapter
also compares each loading with 100 %, whatever the limits are, so a limit above
100 % leaves a range that only one of the two objects to.

Owns: when the status, the violations and the policy on the returned metrics
agree.
-/

namespace UrjaSetu.Adapters.PowerGridModel

open UrjaSetu.Domain UrjaSetu.Domain.Interfaces.Grid UrjaSetu.Domain.Policies.GridLimits
open UrjaSetu.Library

/-- No finite reading is beyond the limits of the request. -/
structure WithinLimits (network : NetworkModel) (limits : Interfaces.Grid.GridLimits)
    (edgeIds : Dict UUID ℕ) (output : SolverOutput) : Prop where
  nodes : ∀ row ∈ output.node, ∀ voltage, row.uPu = some voltage → WithinBand limits voltage
  lines : ∀ uuid ∈ ratedLines network, ∀ fraction, LoadingAt edgeIds output.line uuid fraction →
    WithinRating limits.maxLineLoadingPct fraction
  transformers : ∀ uuid ∈ ratedTransformers network, ∀ fraction,
    LoadingAt edgeIds output.transformer uuid fraction →
      WithinRating limits.maxTransformerLoadingPct fraction

/-- No rated element is loaded above 100 %. -/
structure WithinNameplate (network : NetworkModel) (edgeIds : Dict UUID ℕ)
    (output : SolverOutput) : Prop where
  lines : ∀ uuid ∈ ratedLines network, ∀ fraction, LoadingAt edgeIds output.line uuid fraction →
    WithinRating (Decimal.ofUnits 100 0) fraction
  transformers : ∀ uuid ∈ ratedTransformers network, ∀ fraction,
    LoadingAt edgeIds output.transformer uuid fraction →
      WithinRating (Decimal.ofUnits 100 0) fraction

/-- The status is safe, and the violations empty, in exactly the cases in which the
policy finds the metrics within the limits. -/
def Agrees (result : GridValidationResult) (limits : Interfaces.Grid.GridLimits) : Prop :=
  (result.status = .safe ↔ evaluateMetrics result.metrics limits = []) ∧
    (result.violations = [] ↔ evaluateMetrics result.metrics limits = [])

section Extracted

variable {network : NetworkModel} {limits : Interfaces.Grid.GridLimits} {first : ℕ}
  {uuids : List UUID} {output : SolverOutput}

private theorem extracted_withinLimits_iff :
    evaluateMetrics (extractMetrics output network (assignIds first uuids)).1 limits = [] ↔
      WithinLimits network limits (assignIds first uuids) output := by
  have linesWithin := bounded_loadings_iff first uuids output.line (ratedLines_subset network)
    limits.maxLineLoadingPct
  have transformersWithin := bounded_loadings_iff first uuids output.transformer
    (ratedTransformers_subset network) limits.maxTransformerLoadingPct
  rw [evaluateMetrics_eq_nil_iff]
  dsimp only [extractMetrics]
  rw [minVoltage_iff, maxVoltage_iff, largest_loading_iff, largest_loading_iff]
  unfold lineLoadings transformerLoadings
  rw [linesWithin, transformersWithin]
  constructor
  · rintro ⟨above, below, lines, transformers⟩
    exact {
      nodes := fun row member voltage finite =>
        ⟨above row member voltage finite, below row member voltage finite⟩
      lines := lines
      transformers := transformers }
  · intro within
    exact ⟨fun row member voltage finite => (within.nodes row member voltage finite).1,
      fun row member voltage finite => (within.nodes row member voltage finite).2,
      within.lines, within.transformers⟩

private theorem extracted_withinNameplate_iff :
    (extractMetrics output network (assignIds first uuids)).2 = [] ↔
      WithinNameplate network (assignIds first uuids) output := by
  have linesWithin := bounded_loadings_iff first uuids output.line (ratedLines_subset network)
    (Decimal.ofUnits 100 0)
  have transformersWithin := bounded_loadings_iff first uuids output.transformer
    (ratedTransformers_subset network) (Decimal.ofUnits 100 0)
  dsimp only [extractMetrics]
  rw [List.append_eq_nil_iff, overloads_eq_nil_iff, overloads_eq_nil_iff]
  unfold lineLoadings transformerLoadings
  rw [linesWithin, transformersWithin]
  exact ⟨fun within => ⟨within.1, within.2⟩, fun within => ⟨within.lines, within.transformers⟩⟩

end Extracted

/-- Nothing is reported exactly when neither check found anything. -/
theorem mergeViolations_eq_nil_iff {perElement aggregate : List GridViolation} :
    mergeViolations perElement aggregate = [] ↔ perElement = [] ∧ aggregate = [] := by
  unfold mergeViolations
  constructor
  · intro nothing
    obtain ⟨noElement, noneLeft⟩ := List.append_eq_nil_iff.mp nothing
    rw [noElement] at noneLeft
    exact ⟨noElement, by simpa using noneLeft⟩
  · rintro ⟨rfl, rfl⟩
    rfl

section Verdict

variable (version : String) {solve : Solver} {request : GridValidationRequest} {built : Built}
  {output : SolverOutput}

/-- What a result is made of. -/
theorem validate_result
    (datasetBuilds : buildPgmDataset request.network request.combinedInjections = .ok built)
    (solverAnswers : solve built.inputData = .ok output) :
    ∃ result, validate version solve request = .ok result ∧
      result.metrics = (extractMetrics output request.network built.edgeIds).1 ∧
      result.status = determineStatus result.metrics request.limits
        (extractMetrics output request.network built.edgeIds).2 ∧
      result.violations = mergeViolations
        (extractMetrics output request.network built.edgeIds).2
        (evaluateMetrics result.metrics request.limits) := by
  have isSolved : solved solve request request.combinedInjections =
      .ok (extractMetrics output request.network built.edgeIds) := by
    unfold solved
    rw [datasetBuilds, ok_bind, solverAnswers, ok_bind]
    rfl
  unfold validate
  rw [isSolved, ok_bind]
  exact ⟨_, rfl, rfl, rfl, rfl⟩

/-- The adapter and the policy agree exactly when what is within the limits is
within the nameplate too. -/
theorem validate_agrees_iff
    (datasetBuilds : buildPgmDataset request.network request.combinedInjections = .ok built)
    (solverAnswers : solve built.inputData = .ok output) :
    ∃ result, validate version solve request = .ok result ∧
      (Agrees result request.limits ↔
        (WithinLimits request.network request.limits built.edgeIds output →
          WithinNameplate request.network built.edgeIds output)) := by
  obtain ⟨result, returned, metrics, status, violations⟩ :=
    validate_result version datasetBuilds solverAnswers
  have numbering := (buildPgmDataset_ok datasetBuilds).2.1
  have policy : evaluateMetrics result.metrics request.limits = [] ↔
      WithinLimits request.network request.limits built.edgeIds output := by
    rw [metrics, numbering]
    exact extracted_withinLimits_iff
  have nameplate : (extractMetrics output request.network built.edgeIds).2 = [] ↔
      WithinNameplate request.network built.edgeIds output := by
    rw [numbering]
    exact extracted_withinNameplate_iff
  refine ⟨result, returned, ?_⟩
  unfold Agrees
  rw [violations, mergeViolations_eq_nil_iff, status, determineStatus_safe_iff, policy, nameplate]
  tauto

end Verdict

/-! ## Limits above the nameplate -/

/-- The spur with a line limit of 120 %. -/
def generousRequest : GridValidationRequest :=
  { spurRequest with
    limits := { DEFAULT_LIMITS with maxLineLoadingPct := Decimal.ofUnits 120 0 } }

/-- Its line at 110 %. -/
def strainedOutput : SolverOutput where
  node := [⟨1, some 1⟩, ⟨2, some 1⟩]
  line := [⟨3, some (11 / 10)⟩]

theorem validate_agrees_sample : ∃ (built : Built) (result : GridValidationResult),
    validate "1.13" (fun _ => .ok seeingOutput) spurRequest = .ok result ∧
      (Agrees result spurRequest.limits ↔
        (WithinLimits spurRequest.network spurRequest.limits built.edgeIds seeingOutput →
          WithinNameplate spurRequest.network built.edgeIds seeingOutput)) := by
  obtain ⟨built, datasetBuilds⟩ := spur_builds
  exact ⟨built, @validate_agrees_iff "1.13" (fun _ => .ok seeingOutput) spurRequest built
    seeingOutput datasetBuilds rfl⟩

/-- A line at 110 % of a limit of 120 % is unsafe to the adapter and within limits to
the policy. -/
theorem strainedLine_disagrees : ∃ result,
    validate "1.13" (fun _ => .ok strainedOutput) generousRequest = .ok result ∧
      result.status = .unsafe_ ∧ evaluateMetrics result.metrics generousRequest.limits = [] ∧
      ¬ Agrees result generousRequest.limits := by
  obtain ⟨built, datasetBuilds⟩ := spur_builds
  have judged : (validate "1.13" (fun _ => .ok strainedOutput) generousRequest).map
      (fun result => (result.status, evaluateMetrics result.metrics generousRequest.limits)) =
      .ok (.unsafe_, []) := by decide +kernel
  obtain ⟨result, returned, _⟩ := @validate_result "1.13" (fun _ => .ok strainedOutput)
    generousRequest built strainedOutput datasetBuilds rfl
  rw [returned] at judged
  obtain ⟨status, within⟩ := Prod.mk.inj (Except.ok.inj judged)
  refine ⟨result, returned, status, within, ?_⟩
  rintro ⟨safe, _⟩
  rw [status] at safe
  cases safe.mpr within

end UrjaSetu.Adapters.PowerGridModel
