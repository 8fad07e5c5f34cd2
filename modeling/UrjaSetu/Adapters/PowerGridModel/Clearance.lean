import UrjaSetu.Adapters.PowerGridModel

/-!
Which networks the power-flow adapter calls safe
(`app/adapters/grid/power_grid_model_adapter.py`).

Metrics are extremes over the entries that are finite and known, so an entry
that is missing or not finite never counts against a network.

Owns: what clears a network, what breaches its limits, and when a safe verdict
is one about a cleared network.
-/

namespace UrjaSetu.Adapters.PowerGridModel

open UrjaSetu.Domain UrjaSetu.Domain.Interfaces.Grid UrjaSetu.Domain.Policies.GridLimits
open UrjaSetu.Library UrjaSetu.Library.Binary64 UrjaSetu.Library.Rounding

/-! ## Rounded numbers -/

private theorem roundedDecimal_toRat (places : ℕ) (value : ℚ) :
    (roundedDecimal places value).toRat = quantize halfEven places value := by
  have stripped := Decimal.stripZeros_value (places - 1)
    (halfEvenInt (value * 10 ^ places)).natAbs (-(places : ℤ))
  have scale : (10 : ℚ) ^ (-(places : ℤ)) = 1 / 10 ^ places := by
    rw [zpow_neg, zpow_natCast, one_div]
  have magnitude : (if halfEvenInt (value * 10 ^ places) < 0 then (-1 : ℚ) else 1) *
      (halfEvenInt (value * 10 ^ places)).natAbs = halfEvenInt (value * 10 ^ places) := by
    rw [Nat.cast_natAbs]
    split
    · rename_i negative
      rw [abs_of_neg negative, Int.cast_neg]
      ring
    · rename_i nonneg
      rw [abs_of_nonneg (not_lt.mp nonneg), one_mul]
  unfold Decimal.toRat roundedDecimal quantize
  dsimp only [halfEven]
  rw [mul_assoc, stripped, ← mul_assoc, scale, mul_one_div]
  rw [show (if decide (halfEvenInt (value * 10 ^ places) < 0) = true then (-1 : ℚ) else 1) =
    if halfEvenInt (value * 10 ^ places) < 0 then (-1 : ℚ) else 1 by simp only [decide_eq_true_eq]]
  rw [magnitude]

private theorem roundedDecimal_mono (places : ℕ) {lower upper : ℚ} (below : lower ≤ upper) :
    (roundedDecimal places lower).toRat ≤ (roundedDecimal places upper).toRat := by
  rw [roundedDecimal_toRat, roundedDecimal_toRat]
  exact quantize_mono halfEven below

/-! ## Readings -/

/-- The solver's voltage of the node numbered for `uuid`. -/
def VoltageAt (nodeIds : Dict UUID ℕ) (rows : List NodeOutput) (uuid : UUID) (voltage : ℚ) : Prop :=
  ∃ row ∈ rows, nodeIds.get? uuid = some row.id ∧ row.uPu = some voltage

/-- The solver's loading of the edge numbered for `uuid`. -/
def LoadingAt (edgeIds : Dict UUID ℕ) (rows : List EdgeOutput) (uuid : UUID) (fraction : ℚ) :
    Prop :=
  ∃ row ∈ rows, edgeIds.get? uuid = some row.id ∧ row.loading = some fraction

/-- A row is matched to the element it is numbered after. -/
theorem idToUuid_get? {first : ℕ} {uuids elements : List UUID} {id : ℕ} {uuid : UUID} :
    (Dict.ofItems Prod.snd Prod.fst (elements.filterMap fun element =>
        ((assignIds first uuids).get? element).map fun number => (element, number))).get? id =
        some uuid ↔
      uuid ∈ elements ∧ (assignIds first uuids).get? uuid = some id := by
  have entry : ∀ item : UUID × ℕ, item ∈ (elements.filterMap fun element =>
      ((assignIds first uuids).get? element).map fun number => (element, number)) ↔
      item.1 ∈ elements ∧ (assignIds first uuids).get? item.1 = some item.2 := by
    intro item
    simp only [List.mem_filterMap, Option.map_eq_some_iff]
    constructor
    · intro found
      obtain ⟨element, member, number, numbered, same⟩ := found
      rw [← same]
      exact ⟨member, numbered⟩
    · intro found
      exact ⟨item.1, found.1, item.2, found.2, rfl⟩
  constructor
  · intro found
    obtain ⟨item, member, keyEq, valueEq⟩ := Dict.exists_of_get?_ofItems found
    rw [← keyEq, ← valueEq]
    exact (entry item).mp member
  · intro numbered
    have agree : ∀ other ∈ (elements.filterMap fun element =>
        ((assignIds first uuids).get? element).map fun number => (element, number)),
        other.2 = (uuid, id).2 → other.1 = (uuid, id).1 := by
      intro other member same
      have otherNumbered := ((entry other).mp member).2
      rw [same] at otherNumbered
      exact assignIds_injective otherNumbered numbered.2
    exact Dict.get?_ofItems_of_agree agree ((entry (uuid, id)).mpr numbered)

/-- The loadings that are read are the finite ones of rated elements. -/
theorem mem_ratedLoadings {first : ℕ} {uuids elements rated : List UUID} {rows : List EdgeOutput}
    (ratedElements : rated ⊆ elements) {uuid : UUID} {pct : Decimal} :
    (uuid, pct) ∈ ratedLoadings (assignIds first uuids) elements rated rows ↔
      uuid ∈ rated ∧
        ∃ fraction, LoadingAt (assignIds first uuids) rows uuid fraction ∧
          pct = loadingPct fraction := by
  unfold ratedLoadings
  rw [List.mem_filterMap]
  constructor
  · intro found
    obtain ⟨row, member, read⟩ := found
    split at read
    · cases read
    · rename_i element known
      split at read
      · rename_i isRated
        obtain ⟨fraction, finite, same⟩ := Option.map_eq_some_iff.mp read
        cases same
        exact ⟨isRated, fraction, ⟨row, member, (idToUuid_get?.mp known).2, finite⟩, rfl⟩
      · cases read
  · intro found
    obtain ⟨isRated, fraction, ⟨row, member, numbered, finite⟩, same⟩ := found
    refine ⟨row, member, ?_⟩
    rw [idToUuid_get?.mpr ⟨ratedElements isRated, numbered⟩]
    dsimp only
    rw [if_pos isRated, finite, same]
    rfl

/-! ## Verdicts -/

/-- A finite voltage within the band, once it is rounded. -/
def WithinBand (limits : Interfaces.Grid.GridLimits) (voltage : ℚ) : Prop :=
  limits.minVoltagePu.toRat ≤ (roundedDecimal 6 voltage).toRat ∧
    (roundedDecimal 6 voltage).toRat ≤ limits.maxVoltagePu.toRat

/-- A loading within its limit, once it is rounded. -/
def WithinRating (limit : Decimal) (fraction : ℚ) : Prop :=
  (loadingPct fraction).toRat ≤ limit.toRat

/-- Everything that is to be assessed was, and is within limits. -/
structure Cleared (network : NetworkModel) (limits : Interfaces.Grid.GridLimits)
    (nodeIds edgeIds : Dict UUID ℕ) (output : SolverOutput) : Prop where
  nodes : ∀ uuid ∈ network.nodeIds, ∃ voltage,
    VoltageAt nodeIds output.node uuid voltage ∧ WithinBand limits voltage
  lines : ∀ uuid ∈ ratedLines network, ∃ fraction,
    LoadingAt edgeIds output.line uuid fraction ∧ WithinRating limits.maxLineLoadingPct fraction
  transformers : ∀ uuid ∈ ratedTransformers network, ∃ fraction,
    LoadingAt edgeIds output.transformer uuid fraction ∧
      WithinRating limits.maxTransformerLoadingPct fraction

/-- The solver gave a finite reading of everything that is to be assessed. -/
structure Complete (network : NetworkModel) (nodeIds edgeIds : Dict UUID ℕ)
    (output : SolverOutput) : Prop where
  nodes : ∀ uuid ∈ network.nodeIds, ∃ voltage, VoltageAt nodeIds output.node uuid voltage
  lines : ∀ uuid ∈ ratedLines network, ∃ fraction, LoadingAt edgeIds output.line uuid fraction
  transformers : ∀ uuid ∈ ratedTransformers network, ∃ fraction,
    LoadingAt edgeIds output.transformer uuid fraction

/-- No finite reading is out of limits, nor any rated element above 100 %. -/
structure Unbreached (network : NetworkModel) (limits : Interfaces.Grid.GridLimits)
    (edgeIds : Dict UUID ℕ) (output : SolverOutput) : Prop where
  nodes : ∀ row ∈ output.node, ∀ voltage, row.uPu = some voltage → WithinBand limits voltage
  lines : ∀ uuid ∈ ratedLines network, ∀ fraction, LoadingAt edgeIds output.line uuid fraction →
    WithinRating limits.maxLineLoadingPct fraction ∧ WithinRating (Decimal.ofUnits 100 0) fraction
  transformers : ∀ uuid ∈ ratedTransformers network, ∀ fraction,
    LoadingAt edgeIds output.transformer uuid fraction →
      WithinRating limits.maxTransformerLoadingPct fraction ∧
        WithinRating (Decimal.ofUnits 100 0) fraction

theorem ratedLines_subset (network : NetworkModel) :
    ratedLines network ⊆ network.lines.map NetworkLine.lineId :=
  List.map_subset _ (List.filter_subset_self _)

theorem ratedTransformers_subset (network : NetworkModel) :
    ratedTransformers network ⊆ network.transformers.map NetworkTransformer.transformerId :=
  List.map_subset _ (List.filter_subset_self _)

/-- A bound on every loading that is read bounds every rated element's. -/
theorem bounded_loadings_iff (first : ℕ) (uuids : List UUID) (rows : List EdgeOutput)
    {elements rated : List UUID} (ratedElements : rated ⊆ elements) (limit : Decimal) :
    (∀ entry ∈ ratedLoadings (assignIds first uuids) elements rated rows,
        entry.2.toRat ≤ limit.toRat) ↔
      ∀ uuid ∈ rated, ∀ fraction, LoadingAt (assignIds first uuids) rows uuid fraction →
        WithinRating limit fraction := by
  constructor
  · intro every uuid isRated fraction reading
    exact every (uuid, loadingPct fraction)
      ((mem_ratedLoadings ratedElements).mpr ⟨isRated, fraction, reading, rfl⟩)
  · intro every entry member
    obtain ⟨isRated, fraction, reading, same⟩ := (mem_ratedLoadings ratedElements).mp member
    rw [same]
    exact every entry.1 isRated fraction reading

theorem overloads_eq_nil_iff {violationType : GridViolationType} {kind : String}
    {loadings : List (UUID × Decimal)} :
    overloads violationType kind loadings = [] ↔
      ∀ entry ∈ loadings, entry.2.toRat ≤ (Decimal.ofUnits 100 0).toRat := by
  unfold overloads
  rw [List.map_eq_nil_iff, List.filter_eq_nil_iff]
  simp only [decide_eq_true_eq, not_lt]

/-- The metric of a kind is within a limit when every loading of it is. -/
theorem largest_loading_iff {loadings : List (UUID × Decimal)} {limit : Decimal} :
    (∀ observed, largest Decimal.toRat (loadings.map Prod.snd) = some observed →
        observed.toRat ≤ limit.toRat) ↔
      ∀ entry ∈ loadings, entry.2.toRat ≤ limit.toRat := by
  have bound : (∀ observed, largest Decimal.toRat (loadings.map Prod.snd) = some observed →
      observed.toRat ≤ limit.toRat) ↔
      ∀ pct ∈ loadings.map Prod.snd, pct.toRat ≤ limit.toRat :=
    largest_bound_iff fun _ _ below within => below.trans within
  rw [bound, List.forall_mem_map]

/-- The least voltage, rounded, is above a limit when every voltage is. -/
theorem minVoltage_iff {rows : List NodeOutput} {limit : Decimal} :
    (∀ observed, (largest (fun voltage => -voltage) (rows.filterMap NodeOutput.uPu)).map
        (roundedDecimal 6) = some observed → limit.toRat ≤ observed.toRat) ↔
      ∀ row ∈ rows, ∀ voltage, row.uPu = some voltage →
        limit.toRat ≤ (roundedDecimal 6 voltage).toRat := by
  have bound : (∀ best, largest (fun voltage => -voltage) (rows.filterMap NodeOutput.uPu) =
      some best → limit.toRat ≤ (roundedDecimal 6 best).toRat) ↔
      ∀ voltage ∈ rows.filterMap NodeOutput.uPu, limit.toRat ≤ (roundedDecimal 6 voltage).toRat :=
    largest_bound_iff fun _ _ below within =>
      within.trans (roundedDecimal_mono 6 (neg_le_neg_iff.mp below))
  simp only [Option.map_eq_some_iff, forall_exists_index, and_imp, forall_apply_eq_imp_iff₂]
  rw [bound]
  simp only [List.mem_filterMap, forall_exists_index, and_imp]
  exact ⟨fun every row member voltage finite => every voltage row member finite,
    fun every voltage row member finite => every row member voltage finite⟩

/-- The greatest voltage, rounded, is below a limit when every voltage is. -/
theorem maxVoltage_iff {rows : List NodeOutput} {limit : Decimal} :
    (∀ observed, (largest id (rows.filterMap NodeOutput.uPu)).map (roundedDecimal 6) =
        some observed → observed.toRat ≤ limit.toRat) ↔
      ∀ row ∈ rows, ∀ voltage, row.uPu = some voltage →
        (roundedDecimal 6 voltage).toRat ≤ limit.toRat := by
  have bound : (∀ best, largest id (rows.filterMap NodeOutput.uPu) = some best →
      (roundedDecimal 6 best).toRat ≤ limit.toRat) ↔
      ∀ voltage ∈ rows.filterMap NodeOutput.uPu, (roundedDecimal 6 voltage).toRat ≤ limit.toRat :=
    largest_bound_iff fun _ _ below within => (roundedDecimal_mono 6 below).trans within
  simp only [Option.map_eq_some_iff, forall_exists_index, and_imp, forall_apply_eq_imp_iff₂]
  rw [bound]
  simp only [List.mem_filterMap, forall_exists_index, and_imp]
  exact ⟨fun every row member voltage finite => every voltage row member finite,
    fun every voltage row member finite => every row member voltage finite⟩

theorem determineStatus_safe_iff {metrics : GridMetrics} {limits : Interfaces.Grid.GridLimits}
    {perElement : List GridViolation} :
    determineStatus metrics limits perElement = .safe ↔
      perElement = [] ∧ evaluateMetrics metrics limits = [] := by
  unfold determineStatus
  split
  · rename_i breached
    simp [breached]
  · rename_i unbreached
    split
    · rename_i exceeded
      simp [exceeded]
    · rename_i within
      simp [not_not.mp unbreached, not_not.mp within]

/-- A network is called safe exactly when no reading that was given breaches. -/
theorem extracted_safe_iff {network : NetworkModel} {limits : Interfaces.Grid.GridLimits}
    {first : ℕ} {uuids : List UUID} {output : SolverOutput} :
    determineStatus (extractMetrics output network (assignIds first uuids)).1 limits
        (extractMetrics output network (assignIds first uuids)).2 = .safe ↔
      Unbreached network limits (assignIds first uuids) output := by
  have linesWithin := bounded_loadings_iff first uuids output.line (ratedLines_subset network)
  have transformersWithin := bounded_loadings_iff first uuids output.transformer
    (ratedTransformers_subset network)
  rw [determineStatus_safe_iff, evaluateMetrics_eq_nil_iff]
  unfold extractMetrics
  dsimp only
  rw [List.append_eq_nil_iff, overloads_eq_nil_iff, overloads_eq_nil_iff, minVoltage_iff,
    maxVoltage_iff, largest_loading_iff, largest_loading_iff]
  unfold lineLoadings transformerLoadings
  rw [linesWithin, linesWithin, transformersWithin, transformersWithin]
  constructor
  · intro within
    obtain ⟨⟨linesRated, transformersRated⟩, above, below, linesLimited, transformersLimited⟩ :=
      within
    exact {
      nodes := fun row member voltage finite =>
        ⟨above row member voltage finite, below row member voltage finite⟩
      lines := fun uuid rated fraction reading =>
        ⟨linesLimited uuid rated fraction reading, linesRated uuid rated fraction reading⟩
      transformers := fun uuid rated fraction reading =>
        ⟨transformersLimited uuid rated fraction reading,
          transformersRated uuid rated fraction reading⟩ }
  · intro unbreached
    refine ⟨⟨?_, ?_⟩, ?_, ?_, ?_, ?_⟩
    · exact fun uuid rated fraction reading => (unbreached.lines uuid rated fraction reading).2
    · exact fun uuid rated fraction reading =>
        (unbreached.transformers uuid rated fraction reading).2
    · exact fun row member voltage finite => (unbreached.nodes row member voltage finite).1
    · exact fun row member voltage finite => (unbreached.nodes row member voltage finite).2
    · exact fun uuid rated fraction reading => (unbreached.lines uuid rated fraction reading).1
    · exact fun uuid rated fraction reading =>
        (unbreached.transformers uuid rated fraction reading).1

/-- What is complete and unbreached is cleared, and nothing else unbreached is. -/
theorem cleared_iff_complete {network : NetworkModel} {limits : Interfaces.Grid.GridLimits}
    {nodeIds edgeIds : Dict UUID ℕ} {output : SolverOutput}
    (unbreached : Unbreached network limits edgeIds output) :
    Cleared network limits nodeIds edgeIds output ↔ Complete network nodeIds edgeIds output := by
  constructor
  · intro cleared
    exact {
      nodes := fun uuid member => (cleared.nodes uuid member).imp fun _ both => both.1
      lines := fun uuid rated => (cleared.lines uuid rated).imp fun _ both => both.1
      transformers := fun uuid rated => (cleared.transformers uuid rated).imp fun _ both => both.1 }
  · intro complete
    refine ⟨?_, ?_, ?_⟩
    · intro uuid member
      obtain ⟨voltage, row, rowMember, numbered, finite⟩ := complete.nodes uuid member
      exact ⟨voltage, ⟨row, rowMember, numbered, finite⟩,
        unbreached.nodes row rowMember voltage finite⟩
    · intro uuid rated
      obtain ⟨fraction, reading⟩ := complete.lines uuid rated
      exact ⟨fraction, reading, (unbreached.lines uuid rated fraction reading).1⟩
    · intro uuid rated
      obtain ⟨fraction, reading⟩ := complete.transformers uuid rated
      exact ⟨fraction, reading, (unbreached.transformers uuid rated fraction reading).1⟩

section Verdict

variable (version : String) {solve : Solver} {request : GridValidationRequest} {built : Built}
  {output : SolverOutput}

/-- A solver's answer is all a verdict is read from, and a safe one lists no
violation. -/
theorem validate_answered
    (datasetBuilds : buildPgmDataset request.network request.combinedInjections = .ok built)
    (solverAnswers : solve built.inputData = .ok output) :
    ∃ result, validate version solve request = .ok result ∧
      (result.status = .safe ↔ Unbreached request.network request.limits built.edgeIds output) ∧
      (result.status = .safe → result.violations = []) := by
  have isSolved : solved solve request request.combinedInjections =
      .ok (extractMetrics output request.network built.edgeIds) := by
    unfold solved
    rw [datasetBuilds, ok_bind, solverAnswers, ok_bind]
    rfl
  unfold validate
  rw [isSolved, ok_bind]
  refine ⟨_, rfl, ?_, ?_⟩
  · rw [(buildPgmDataset_ok datasetBuilds).2.1]
    exact extracted_safe_iff
  · intro safe
    obtain ⟨noOverload, within⟩ := determineStatus_safe_iff.mp safe
    dsimp only
    rw [noOverload, within]
    rfl

/-- A result is read from a solver's answer to the arrays that were built. -/
theorem validate_ok {result : GridValidationResult}
    (returned : validate version solve request = .ok result) :
    ∃ built output, buildPgmDataset request.network request.combinedInjections = .ok built ∧
      solve built.inputData = .ok output := by
  unfold validate at returned
  obtain ⟨extracted, isSolved, _⟩ := bind_eq_ok.mp returned
  obtain ⟨built, datasetBuilds, isSolved⟩ := bind_eq_ok.mp isSolved
  obtain ⟨output, solverAnswers, _⟩ := bind_eq_ok.mp isSolved
  exact ⟨built, output, datasetBuilds, solverAnswers⟩

/-- A safe verdict is one about a cleared network exactly when the solver's
answer is complete or breaches. -/
theorem validate_cleared_iff
    (datasetBuilds : buildPgmDataset request.network request.combinedInjections = .ok built)
    (solverAnswers : solve built.inputData = .ok output) :
    ∃ result, validate version solve request = .ok result ∧
      ((result.status = .safe →
          Cleared request.network request.limits built.nodeIds built.edgeIds output) ↔
        Complete request.network built.nodeIds built.edgeIds output ∨
          ¬ Unbreached request.network request.limits built.edgeIds output) := by
  obtain ⟨result, returned, safe, _⟩ := validate_answered version datasetBuilds solverAnswers
  refine ⟨result, returned, ?_⟩
  rw [safe]
  constructor
  · intro sound
    by_cases unbreached : Unbreached request.network request.limits built.edgeIds output
    · exact Or.inl ((cleared_iff_complete unbreached).mp (sound unbreached))
    · exact Or.inr unbreached
  · intro condition unbreached
    rcases condition with complete | breached
    · exact (cleared_iff_complete unbreached).mpr complete
    · exact absurd unbreached breached

end Verdict

/-! ## A reading that is missing -/

/-- A connection behind a feeder, over a rated line. -/
def spurRequest : GridValidationRequest where
  network := {
    version := "spur"
    nodes := [
      { nodeId := 1, nodeType := .feeder, nominalVoltageKv := 2 / 5 },
      { nodeId := 2, nodeType := .connectionPoint, nominalVoltageKv := 2 / 5
        parentNodeId := some 1 }]
    lines := [{ lineId := 2, fromNodeId := 1, toNodeId := 2, ratingKw := some 50 }] }
  limits := DEFAULT_LIMITS
  intervalStart := ⟨1709229600000000, 0⟩
  intervalEnd := ⟨1709230500000000, 0⟩

/-- The answer for a connection that is not a number. -/
def blindOutput : SolverOutput where
  node := [⟨1, some 1⟩, ⟨2, none⟩]
  line := [⟨3, none⟩]

/-- The same, with every reading there. -/
def seeingOutput : SolverOutput where
  node := [⟨1, some 1⟩, ⟨2, some (double (98 / 100))⟩]
  line := [⟨3, some (double (1 / 4))⟩]

theorem spur_builds : ∃ built,
    buildPgmDataset spurRequest.network spurRequest.combinedInjections = .ok built := by
  have builds : (buildPgmDataset spurRequest.network spurRequest.combinedInjections).isOk =
      true := by decide +kernel
  cases outcome : buildPgmDataset spurRequest.network spurRequest.combinedInjections with
  | ok built => exact ⟨built, rfl⟩
  | error error => rw [outcome] at builds; cases builds

theorem validate_cleared_sample : ∃ (built : Built) (result : GridValidationResult),
    validate "1.13" (fun _ => .ok seeingOutput) spurRequest = .ok result ∧
      ((result.status = .safe → Cleared spurRequest.network spurRequest.limits built.nodeIds
          built.edgeIds seeingOutput) ↔
        Complete spurRequest.network built.nodeIds built.edgeIds seeingOutput ∨
          ¬ Unbreached spurRequest.network spurRequest.limits built.edgeIds seeingOutput) := by
  obtain ⟨built, datasetBuilds⟩ := spur_builds
  exact ⟨built, @validate_cleared_iff "1.13" (fun _ => .ok seeingOutput) spurRequest built
    seeingOutput datasetBuilds rfl⟩

/-- A connection whose voltage and whose line are not numbers is called safe. -/
theorem blind_answer_safe : ∃ built result,
    buildPgmDataset spurRequest.network spurRequest.combinedInjections = .ok built ∧
      validate "1.13" (fun _ => .ok blindOutput) spurRequest = .ok result ∧
      result.status = .safe ∧
      ¬ Cleared spurRequest.network spurRequest.limits built.nodeIds built.edgeIds blindOutput := by
  obtain ⟨built, datasetBuilds⟩ := spur_builds
  have status : (validate "1.13" (fun _ => .ok blindOutput) spurRequest).map
      GridValidationResult.status = .ok .safe := by decide +kernel
  obtain ⟨result, returned, _⟩ := @validate_answered "1.13" (fun _ => .ok blindOutput) spurRequest
    built blindOutput datasetBuilds rfl
  rw [returned] at status
  refine ⟨built, result, datasetBuilds, returned, Except.ok.inj status, ?_⟩
  intro cleared
  obtain ⟨fraction, ⟨row, member, _, finite⟩, _⟩ := cleared.lines 2 (by decide)
  rw [List.mem_singleton.mp member] at finite
  cases finite

end UrjaSetu.Adapters.PowerGridModel
