import UrjaSetu.Domain.Enums
import UrjaSetu.Library.Calendar
import UrjaSetu.Library.DecimalArithmetic
import UrjaSetu.Library.Dict
import UrjaSetu.Library.Sorting

/-!
The grid validation contract of `app/domain/interfaces/grid.py`.

Powers, limits and metrics are decimals as they are spelled, because reasons and
fingerprints render them. Voltages and ratings of the topology are never
rendered and are their values.

Owns: the network, the injections and how they combine, the limits, requests and
results, and the protocol of an engine.
-/

namespace UrjaSetu.Domain.Interfaces.Grid

open UrjaSetu.Domain UrjaSetu.Library UrjaSetu.Library.Calendar

/-! ## Network topology -/

/-- A bus in the digital twin. -/
structure NetworkNode where
  nodeId : UUID
  nodeType : GridNodeType
  nominalVoltageKv : ℚ
  parentNodeId : Option UUID := none
  feederId : Option String := none
deriving DecidableEq, Repr

/-- A conductor between two nodes; no rating is not a rating of zero. -/
structure NetworkLine where
  lineId : UUID
  fromNodeId : UUID
  toNodeId : UUID
  ratingKw : Option ℚ := none
deriving DecidableEq, Repr

/-- A transformer between two voltage levels. -/
structure NetworkTransformer where
  transformerId : UUID
  fromNodeId : UUID
  toNodeId : UUID
  ratingKw : Option ℚ := none
deriving DecidableEq, Repr

/-- The topology a validation runs against. -/
structure NetworkModel where
  version : String
  nodes : List NetworkNode := []
  lines : List NetworkLine := []
  transformers : List NetworkTransformer := []
deriving DecidableEq, Repr

namespace NetworkModel

variable (network : NetworkModel)

def nodeIds : List UUID := network.nodes.map NetworkNode.nodeId

def isEmpty : Bool := network.nodes.isEmpty

/-- Lines and transformers the twin records no rating for. -/
def unratedElements : List UUID :=
  (network.lines.filter fun line => line.ratingKw.isNone).map NetworkLine.lineId ++
    (network.transformers.filter fun transformer => transformer.ratingKw.isNone).map
      NetworkTransformer.transformerId

end NetworkModel

/-! ## Injections -/

/-- Net power at one node, in kW: positive is generation. -/
structure NodeInjection where
  nodeId : UUID
  activePowerKw : Decimal
deriving DecidableEq, Repr

/-- `interval.total_seconds()`. -/
def totalSeconds (interval : ℤ) : ℚ := Binary64.double (interval / 10 ^ 6)

/-- Convert an energy commitment into an equivalent power injection. The caller
has checked that the interval, in microseconds, is positive. -/
def NodeInjection.fromEnergy (nodeId : UUID) (energyKwh : Decimal) (interval : ℤ) :
    NodeInjection :=
  let hours := (Decimal.ofDouble (totalSeconds interval)).div (Decimal.ofUnits 3600 0)
  ⟨nodeId, energyKwh.div hours⟩

/-! ## Requests -/

/-- The thresholds a network is judged against. -/
structure GridLimits where
  minVoltagePu : Decimal
  maxVoltagePu : Decimal
  maxLineLoadingPct : Decimal
  maxTransformerLoadingPct : Decimal
deriving DecidableEq, Repr

/-- Everything an engine needs to judge a proposed trade. -/
structure GridValidationRequest where
  network : NetworkModel
  limits : GridLimits
  intervalStart : AwareDatetime
  intervalEnd : AwareDatetime
  baselineInjections : List NodeInjection := []
  proposedInjections : List NodeInjection := []
deriving DecidableEq, Repr

/-- Add one injection to the total of its node. -/
def addInjection (totals : Dict UUID Decimal) (injection : NodeInjection) : Dict UUID Decimal :=
  totals.set injection.nodeId
    (((totals.get? injection.nodeId).getD (Decimal.ofUnits 0 0)).add injection.activePowerKw)

/-- Baseline plus proposal, summed per node. -/
def GridValidationRequest.combinedInjections (request : GridValidationRequest) :
    List NodeInjection :=
  let totals := (request.baselineInjections ++ request.proposedInjections).foldl addInjection
    Dict.empty
  (sortBy (fun entry => uuidText entry.1) totals.entries).map fun entry => ⟨entry.1, entry.2⟩

/-! ## Results -/

/-- One breached constraint. -/
structure GridViolation where
  violationType : GridViolationType
  elementId : Option UUID
  observed : Decimal
  limit : Decimal
  detail : Option String := none
deriving DecidableEq, Repr

/-- The normalised numbers every engine reports. -/
structure GridMetrics where
  minVoltagePu : Option Decimal := none
  maxVoltagePu : Option Decimal := none
  maxLineLoadingPct : Option Decimal := none
  maxTransformerLoadingPct : Option Decimal := none
deriving DecidableEq, Repr

/-- What an engine returns. -/
structure GridValidationResult where
  engine : String
  engineVersion : String
  status : GridValidationStatus
  metrics : GridMetrics
  violations : List GridViolation := []
  baselineViolations : List GridViolation := []
deriving DecidableEq, Repr

/-- Violations this trade introduced, compared on type and element. -/
def GridValidationResult.causedViolations (result : GridValidationResult) : List GridViolation :=
  let already := result.baselineViolations.map fun violation =>
    (violation.violationType, violation.elementId)
  result.violations.filter fun violation =>
    (violation.violationType, violation.elementId) ∉ already

/-- What a power-flow implementation provides. `validate` raises by the name of
the exception's class. -/
structure GridEngine where
  name : String
  engineVersion : String
  validate : GridValidationRequest → Except String GridValidationResult

/-! ## Combined injections -/

/-- The injections at one node, added up in order. -/
def totalAt (injections : List NodeInjection) (nodeId : UUID) : Decimal :=
  (injections.filter fun injection => injection.nodeId = nodeId).foldl
    (fun total injection => total.add injection.activePowerKw) (Decimal.ofUnits 0 0)

private theorem totalAt_concat (injections : List NodeInjection) (injection : NodeInjection)
    (nodeId : UUID) : totalAt (injections ++ [injection]) nodeId =
      if injection.nodeId = nodeId then (totalAt injections nodeId).add injection.activePowerKw
      else totalAt injections nodeId := by
  unfold totalAt
  rw [List.filter_append, List.foldl_append, List.filter_singleton]
  by_cases here : injection.nodeId = nodeId
  · simp [here]
  · simp [here]

theorem totalAt_of_absent {injections : List NodeInjection} {nodeId : UUID}
    (absent : nodeId ∉ injections.map NodeInjection.nodeId) :
    totalAt injections nodeId = Decimal.ofUnits 0 0 := by
  have none : (injections.filter fun injection => injection.nodeId = nodeId) = [] := by
    rw [List.filter_eq_nil_iff]
    intro injection member here
    exact absent (List.mem_map.mpr ⟨injection, member, of_decide_eq_true here⟩)
  rw [totalAt, none, List.foldl_nil]

/-- Adding injections one by one leaves the total of each node that has one. -/
theorem get?_addInjections (injections : List NodeInjection) (nodeId : UUID) :
    (injections.foldl addInjection Dict.empty).get? nodeId =
      if nodeId ∈ injections.map NodeInjection.nodeId then some (totalAt injections nodeId)
      else none := by
  induction injections using List.reverseRecOn generalizing nodeId with
  | nil => rfl
  | append_singleton front last inductionHypothesis =>
      have before : ((front.foldl addInjection Dict.empty).get? last.nodeId).getD
          (Decimal.ofUnits 0 0) = totalAt front last.nodeId := by
        by_cases earlier : last.nodeId ∈ front.map NodeInjection.nodeId
        · rw [inductionHypothesis, if_pos earlier, Option.getD_some]
        · rw [inductionHypothesis, if_neg earlier, Option.getD_none, totalAt_of_absent earlier]
      rw [List.foldl_append, List.foldl_cons, List.foldl_nil, addInjection, Dict.get?_set,
        totalAt_concat, before]
      by_cases here : last.nodeId = nodeId
      · simp [here]
      · simp [here, Ne.symm here, inductionHypothesis]

/-- The combined injections are the totals of the nodes that have injections. -/
theorem mem_combinedInjections {request : GridValidationRequest} {injection : NodeInjection} :
    injection ∈ request.combinedInjections ↔
      injection.nodeId ∈ (request.baselineInjections ++ request.proposedInjections).map
          NodeInjection.nodeId ∧
        injection.activePowerKw =
          totalAt (request.baselineInjections ++ request.proposedInjections) injection.nodeId := by
  unfold GridValidationRequest.combinedInjections
  dsimp only
  rw [List.mem_map]
  constructor
  · rintro ⟨⟨nodeId, total⟩, member, rfl⟩
    have held := Dict.mem_entries_iff.mp ((sortBy_perm _ _).mem_iff.mp member)
    rw [get?_addInjections] at held
    split at held
    · rename_i listed
      exact ⟨listed, (Option.some.inj held).symm⟩
    · cases held
  · rintro ⟨listed, isTotal⟩
    refine ⟨(injection.nodeId, injection.activePowerKw), ?_, rfl⟩
    apply (sortBy_perm _ _).mem_iff.mpr
    rw [Dict.mem_entries_iff, get?_addInjections, if_pos listed, isTotal]

/-- One entry for each node. -/
theorem combinedInjections_nodup (request : GridValidationRequest) :
    (request.combinedInjections.map NodeInjection.nodeId).Nodup := by
  unfold GridValidationRequest.combinedInjections
  dsimp only
  rw [List.map_map]
  exact (((sortBy_perm _ _).map _).nodup_iff).mpr (Dict.distinct _)

end UrjaSetu.Domain.Interfaces.Grid
