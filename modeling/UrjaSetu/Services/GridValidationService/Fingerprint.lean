import UrjaSetu.Services.GridValidationService

/-!
What the fingerprint of a validation request says
(`request_fingerprint` of `app/services/grid_validation_service.py`).

The payload holds the version and the node ids of the network, and the limits,
the interval and the total of each node as they are written. It does not hold the
edges, ratings, voltages and parents, and one number is written in many ways.

Owns: which requests have one fingerprint, and the two kinds of pairs on which that
is not the same as being one scenario.
-/

namespace UrjaSetu.Services.GridValidationService

open UrjaSetu.Domain UrjaSetu.Domain.Interfaces.Grid UrjaSetu.Library UrjaSetu.Library.Calendar

/-! ## Lists up to order -/

/-- Sorted, two lists of strings are equal when they hold the same strings. -/
theorem sortBy_id_eq_iff {left right : List String} :
    sortBy id left = sortBy id right ↔ left.Perm right := by
  constructor
  · intro same
    exact (sortBy_perm id left).symm.trans (same ▸ sortBy_perm id right)
  · intro perm
    have sorted : (sortBy id left).Perm (sortBy id right) :=
      (sortBy_perm id left).trans (perm.trans (sortBy_perm id right).symm)
    exact sorted.eq_of_pairwise (fun _ _ _ _ below above => le_antisymm below above)
      (sortBy_pairwise id left) (sortBy_pairwise id right)

private theorem uuidText_length (uuid : UUID) : (uuidText uuid).toList.length = 36 := by
  unfold uuidText uuidChars
  simp [Numerals.hexChars_length]

/-- The text of an injection says its node and how its power is spelled. -/
theorem injectionText_injective : Function.Injective injectionText := by
  intro left right same
  have texts := congrArg String.toList same
  unfold injectionText at texts
  rw [String.toList_append, String.toList_append, String.toList_append, String.toList_append,
    List.append_assoc, List.append_assoc] at texts
  obtain ⟨nodes, rest⟩ := List.append_inj texts (by rw [uuidText_length, uuidText_length])
  have powers := List.append_cancel_left rest
  have nodeIds := uuidText_injective (String.toList_injective nodes)
  have spelled := Decimal.str_injective (String.toList_injective powers)
  cases left
  cases right
  rw [NodeInjection.mk.injEq]
  exact ⟨nodeIds, spelled⟩

private theorem combinedInjections_sorted (request : GridValidationRequest) :
    request.combinedInjections.Pairwise fun earlier later =>
      uuidText earlier.nodeId ≤ uuidText later.nodeId := by
  unfold GridValidationRequest.combinedInjections
  dsimp only
  rw [List.pairwise_map]
  exact sortBy_pairwise _ _

/-- Combined injections that are the same up to order are the same. -/
theorem combinedInjections_eq_of_perm {left right : GridValidationRequest}
    (perm : left.combinedInjections.Perm right.combinedInjections) :
    left.combinedInjections = right.combinedInjections := by
  apply perm.eq_of_pairwise _ (combinedInjections_sorted left) (combinedInjections_sorted right)
  intro earlier later earlierMember laterMember below above
  exact List.inj_on_of_nodup_map (combinedInjections_nodup right) (perm.mem_iff.mp earlierMember)
    laterMember (uuidText_injective (le_antisymm below above))

/-! ## Requests as written -/

/-- All injections of a request. -/
def injectionsOf (request : GridValidationRequest) : List NodeInjection :=
  request.baselineInjections ++ request.proposedInjections

/-- The inputs that are hashed are written alike: the same digits, the same offsets. -/
structure WrittenAlike (left right : GridValidationRequest) : Prop where
  version : left.network.version = right.network.version
  nodes : left.network.nodeIds.Perm right.network.nodeIds
  limits : left.limits = right.limits
  intervalStart : left.intervalStart = right.intervalStart
  intervalEnd : left.intervalEnd = right.intervalEnd
  injected : ∀ nodeId, nodeId ∈ (injectionsOf left).map NodeInjection.nodeId ↔
    nodeId ∈ (injectionsOf right).map NodeInjection.nodeId
  totals : ∀ nodeId, totalAt (injectionsOf left) nodeId = totalAt (injectionsOf right) nodeId

/-! ## Requests as values -/

/-- The networks are the same in what a power flow is computed from. -/
structure SameTopology (left right : GridValidationRequest) : Prop where
  nodes : (left.network.nodes.map fun node =>
      (node.nodeId, node.parentNodeId, node.nominalVoltageKv)).Perm
    (right.network.nodes.map fun node =>
      (node.nodeId, node.parentNodeId, node.nominalVoltageKv))
  lines : left.network.lines.Perm right.network.lines
  transformers : left.network.transformers.Perm right.network.transformers

/-- The limits are equal as numbers. -/
structure EqualLimits (left right : GridValidationRequest) : Prop where
  minVoltagePu : left.limits.minVoltagePu.toRat = right.limits.minVoltagePu.toRat
  maxVoltagePu : left.limits.maxVoltagePu.toRat = right.limits.maxVoltagePu.toRat
  maxLineLoadingPct : left.limits.maxLineLoadingPct.toRat = right.limits.maxLineLoadingPct.toRat
  maxTransformerLoadingPct :
    left.limits.maxTransformerLoadingPct.toRat = right.limits.maxTransformerLoadingPct.toRat

/-- The interval is between the same instants. -/
structure EqualInterval (left right : GridValidationRequest) : Prop where
  intervalStart : left.intervalStart.instant = right.intervalStart.instant
  intervalEnd : left.intervalEnd.instant = right.intervalEnd.instant

/-- A node and the number that is injected there. -/
def injectionValue (injection : NodeInjection) : UUID × ℚ :=
  (injection.nodeId, injection.activePowerKw.toRat)

/-- Everything that determines the engine's outcome is equal. -/
structure SameOutcome (left right : GridValidationRequest) : Prop where
  topology : SameTopology left right
  limits : EqualLimits left right
  interval : EqualInterval left right
  injections : left.combinedInjections.map injectionValue =
    right.combinedInjections.map injectionValue

/-- The requests are equal as values, in any order of nodes, edges and
injections. -/
structure SameScenario (left right : GridValidationRequest) : Prop where
  version : left.network.version = right.network.version
  nodes : left.network.nodes.Perm right.network.nodes
  lines : left.network.lines.Perm right.network.lines
  transformers : left.network.transformers.Perm right.network.transformers
  limits : EqualLimits left right
  interval : EqualInterval left right
  baseline : (left.baselineInjections.map injectionValue).Perm
    (right.baselineInjections.map injectionValue)
  proposed : (left.proposedInjections.map injectionValue).Perm
    (right.proposedInjections.map injectionValue)

/-! ## The kinds of pairs -/

/-- The limits of a request, in the order in which they are hashed. -/
def limitValues (limits : GridLimits) : List Decimal :=
  [limits.minVoltagePu, limits.maxVoltagePu, limits.maxLineLoadingPct,
    limits.maxTransformerLoadingPct]

/-- How a number is written beside its value: its exponent, and the sign of a zero. -/
def spelling (number : Decimal) : ℤ × Bool := (number.exponent, number.negative)

/-- Nothing but a voltage, a parent, a line or a transformer differs. -/
structure OnlyTopologyDiffers (left right : GridValidationRequest) : Prop where
  alike : WrittenAlike left right
  different : ¬ SameTopology left right

/-- One scenario, of which a limit has other decimals, a bound of the interval
another offset, or a node another sum of the same injections. -/
structure Respelled (left right : GridValidationRequest) : Prop where
  scenario : SameScenario left right
  different : (limitValues left.limits).map spelling ≠ (limitValues right.limits).map spelling ∨
    left.intervalStart.utcOffset ≠ right.intervalStart.utcOffset ∨
    left.intervalEnd.utcOffset ≠ right.intervalEnd.utcOffset ∨
    ∃ nodeId, totalAt (injectionsOf left) nodeId ≠ totalAt (injectionsOf right) nodeId

variable {sha256 : String → String} {left right : GridValidationRequest}

private theorem decimal_eq_of_toRat {number other : Decimal} (value : number.toRat = other.toRat)
    (written : spelling number = spelling other) : number = other := by
  obtain ⟨negative, coefficient, exponent⟩ := number
  obtain ⟨_, otherCoefficient, _⟩ := other
  obtain ⟨rfl, rfl⟩ := Prod.mk.inj written
  have unit : (10 : ℚ) ^ exponent ≠ 0 := by positivity
  have sign : (if negative then -1 else 1 : ℚ) ≠ 0 := by split <;> norm_num
  have same : (coefficient : ℚ) = otherCoefficient :=
    mul_left_cancel₀ sign (mul_right_cancel₀ unit value)
  rw [Nat.cast_injective same]

private theorem moment_eq_of_instant {moment other : AwareDatetime}
    (value : moment.instant = other.instant)
    (written : moment.utcOffset = other.utcOffset) : moment = other := by
  obtain ⟨wallClock, utcOffset⟩ := moment
  obtain ⟨otherClock, _⟩ := other
  obtain rfl : utcOffset = _ := written
  have clocks : wallClock = otherClock := sub_left_injective value
  rw [clocks]

/-- Limits that are equal as numbers are the same limits when they have the same
decimals. -/
theorem EqualLimits.limits_eq_iff (equal : EqualLimits left right) :
    left.limits = right.limits ↔
      (limitValues left.limits).map spelling = (limitValues right.limits).map spelling := by
  constructor
  · intro same
    rw [same]
  · intro written
    unfold limitValues at written
    simp only [List.map_cons, List.map_nil, List.cons.injEq, and_true] at written
    obtain ⟨lowest, highest, line, transformer⟩ := written
    replace lowest := decimal_eq_of_toRat equal.minVoltagePu lowest
    replace highest := decimal_eq_of_toRat equal.maxVoltagePu highest
    replace line := decimal_eq_of_toRat equal.maxLineLoadingPct line
    replace transformer := decimal_eq_of_toRat equal.maxTransformerLoadingPct transformer
    cases leftLimits : left.limits
    cases rightLimits : right.limits
    rw [leftLimits, rightLimits] at lowest highest line transformer
    rw [GridLimits.mk.injEq]
    exact ⟨lowest, highest, line, transformer⟩

/-- The combined injections are the totals, in the order of the node ids. -/
theorem combinedInjections_eq_iff : left.combinedInjections = right.combinedInjections ↔
    (∀ nodeId, nodeId ∈ (injectionsOf left).map NodeInjection.nodeId ↔
      nodeId ∈ (injectionsOf right).map NodeInjection.nodeId) ∧
    ∀ nodeId, totalAt (injectionsOf left) nodeId = totalAt (injectionsOf right) nodeId := by
  have member : ∀ (request : GridValidationRequest) (nodeId : UUID),
      nodeId ∈ (injectionsOf request).map NodeInjection.nodeId →
      NodeInjection.mk nodeId (totalAt (injectionsOf request) nodeId) ∈
        request.combinedInjections :=
    fun request nodeId listed => mem_combinedInjections.mpr ⟨listed, rfl⟩
  constructor
  · intro same
    have listed : ∀ nodeId, nodeId ∈ (injectionsOf left).map NodeInjection.nodeId ↔
        nodeId ∈ (injectionsOf right).map NodeInjection.nodeId := by
      intro nodeId
      constructor
      · intro here
        exact (mem_combinedInjections.mp (same ▸ member left nodeId here)).1
      · intro here
        exact (mem_combinedInjections.mp (same ▸ member right nodeId here)).1
    refine ⟨listed, ?_⟩
    intro nodeId
    by_cases here : nodeId ∈ (injectionsOf left).map NodeInjection.nodeId
    · exact (mem_combinedInjections.mp (same ▸ member left nodeId here)).2
    · rw [totalAt_of_absent here, totalAt_of_absent fun there => here ((listed nodeId).mpr there)]
  · intro same
    obtain ⟨listed, totals⟩ := same
    apply combinedInjections_eq_of_perm
    apply (List.perm_ext_iff_of_nodup (combinedInjections_nodup left).of_map
      (combinedInjections_nodup right).of_map).mpr
    intro injection
    rw [mem_combinedInjections, mem_combinedInjections]
    have total := totals injection.nodeId
    unfold injectionsOf at listed total
    rw [listed injection.nodeId, total]

/-- A sorted array of rendered items is the same when the items are. -/
theorem sortedTexts_eq_iff {α : Type} {render : α → String} (injective : Function.Injective render)
    {items others : List α} :
    (sortBy id (items.map render)).map Json.str = (sortBy id (others.map render)).map Json.str ↔
      items.Perm others := by
  have strings : Function.Injective Json.str := fun _ _ same => Json.str.inj same
  rw [(List.map_injective_iff.mpr strings).eq_iff, sortBy_id_eq_iff,
    List.map_perm_map_iff injective]

private theorem fingerprintPayload_eq_iff :
    fingerprintPayload left = fingerprintPayload right ↔ WrittenAlike left right := by
  unfold fingerprintPayload
  simp only [Json.obj.injEq, List.cons.injEq, Prod.mk.injEq, true_and, and_true, Json.arr.injEq,
    Json.str.injEq]
  rw [sortedTexts_eq_iff injectionText_injective, sortedTexts_eq_iff uuidText_injective,
    AwareDatetime.isoformat_injective.eq_iff, AwareDatetime.isoformat_injective.eq_iff]
  simp only [Decimal.str_injective.eq_iff]
  constructor
  · intro same
    obtain ⟨injections, ⟨start, end_⟩, ⟨lowest, highest, line, transformer⟩, version, nodes⟩ := same
    obtain ⟨injected, totals⟩ :=
      combinedInjections_eq_iff.mp (combinedInjections_eq_of_perm injections)
    refine ⟨version, nodes, ?_, start, end_, injected, totals⟩
    cases leftLimits : left.limits
    cases rightLimits : right.limits
    rw [leftLimits, rightLimits] at lowest highest line transformer
    rw [GridLimits.mk.injEq]
    exact ⟨lowest, highest, line, transformer⟩
  · intro alike
    refine ⟨?_, ⟨alike.intervalStart, alike.intervalEnd⟩, ?_, alike.version, alike.nodes⟩
    · rw [combinedInjections_eq_iff.mpr ⟨alike.injected, alike.totals⟩]
    · rw [alike.limits]
      exact ⟨rfl, rfl, rfl, rfl⟩

/-- One fingerprint is one way of writing what is hashed. -/
theorem requestFingerprint_eq_iff (injective : Function.Injective sha256) :
    requestFingerprint sha256 left = requestFingerprint sha256 right ↔ WrittenAlike left right := by
  unfold requestFingerprint
  rw [injective.eq_iff, Json.dumpsAscii_injective.eq_iff, fingerprintPayload_eq_iff]

/-! ## What a fingerprint settles -/

/-- What is written alike is the same in number. -/
theorem WrittenAlike.sameOutcome_iff (alike : WrittenAlike left right) :
    SameOutcome left right ↔ SameTopology left right := by
  constructor
  · exact SameOutcome.topology
  · intro topology
    refine ⟨topology, ?_, ?_, ?_⟩
    · constructor <;> rw [alike.limits]
    · constructor
      · rw [alike.intervalStart]
      · rw [alike.intervalEnd]
    · rw [combinedInjections_eq_iff.mpr ⟨alike.injected, alike.totals⟩]

private theorem SameScenario.injected (scenario : SameScenario left right) (nodeId : UUID) :
    nodeId ∈ (injectionsOf left).map NodeInjection.nodeId ↔
      nodeId ∈ (injectionsOf right).map NodeInjection.nodeId := by
  have values : ((injectionsOf left).map injectionValue).Perm
      ((injectionsOf right).map injectionValue) := by
    unfold injectionsOf
    rw [List.map_append, List.map_append]
    exact scenario.baseline.append scenario.proposed
  have nodeIds := values.map Prod.fst
  rw [List.map_map, List.map_map] at nodeIds
  exact nodeIds.mem_iff

/-- One scenario is written alike when its decimals, its offsets and its sums
are. -/
theorem SameScenario.writtenAlike_iff (scenario : SameScenario left right) :
    WrittenAlike left right ↔
      (limitValues left.limits).map spelling = (limitValues right.limits).map spelling ∧
      left.intervalStart.utcOffset = right.intervalStart.utcOffset ∧
      left.intervalEnd.utcOffset = right.intervalEnd.utcOffset ∧
      ∀ nodeId, totalAt (injectionsOf left) nodeId = totalAt (injectionsOf right) nodeId := by
  constructor
  · intro alike
    exact ⟨scenario.limits.limits_eq_iff.mp alike.limits, congrArg _ alike.intervalStart,
      congrArg _ alike.intervalEnd, alike.totals⟩
  · intro same
    obtain ⟨limits, start, end_, totals⟩ := same
    exact {
      version := scenario.version
      nodes := scenario.nodes.map NetworkNode.nodeId
      limits := scenario.limits.limits_eq_iff.mpr limits
      intervalStart := moment_eq_of_instant scenario.interval.intervalStart start
      intervalEnd := moment_eq_of_instant scenario.interval.intervalEnd end_
      injected := scenario.injected
      totals := totals }

/-- One scenario has one fingerprint, unless it is respelled. -/
theorem SameScenario.writtenAlike_iff_not_respelled (scenario : SameScenario left right) :
    WrittenAlike left right ↔ ¬ Respelled left right := by
  rw [scenario.writtenAlike_iff]
  constructor
  · intro same respelled
    obtain ⟨limits, start, end_, totals⟩ := same
    obtain differs | differs | differs | ⟨nodeId, differs⟩ := respelled.different
    · exact differs limits
    · exact differs start
    · exact differs end_
    · exact differs (totals nodeId)
  · intro one
    refine ⟨?_, ?_, ?_, ?_⟩
    · by_contra differs
      exact one ⟨scenario, .inl differs⟩
    · by_contra differs
      exact one ⟨scenario, .inr (.inl differs)⟩
    · by_contra differs
      exact one ⟨scenario, .inr (.inr (.inl differs))⟩
    · intro nodeId
      by_contra differs
      exact one ⟨scenario, .inr (.inr (.inr ⟨nodeId, differs⟩))⟩

/-- Equal fingerprints stand for equal inputs, and one scenario has one
fingerprint, exactly for the pairs that do not differ in topology alone and are
not one scenario with other decimals, offsets or sums. -/
theorem requestFingerprint_faithful_iff (injective : Function.Injective sha256) :
    ((requestFingerprint sha256 left = requestFingerprint sha256 right → SameOutcome left right) ∧
        (SameScenario left right →
          requestFingerprint sha256 left = requestFingerprint sha256 right)) ↔
      ¬ OnlyTopologyDiffers left right ∧ ¬ Respelled left right := by
  rw [requestFingerprint_eq_iff injective]
  constructor
  · intro faithful
    obtain ⟨settles, stable⟩ := faithful
    constructor
    · intro differs
      exact differs.different (settles differs.alike).topology
    · intro respelled
      exact respelled.scenario.writtenAlike_iff_not_respelled.mp (stable respelled.scenario)
        respelled
  · intro condition
    obtain ⟨topology, written⟩ := condition
    constructor
    · intro alike
      apply alike.sameOutcome_iff.mpr
      by_contra different
      exact topology ⟨alike, different⟩
    · intro scenario
      exact scenario.writtenAlike_iff_not_respelled.mpr written

/-- A connection behind a feeder over a line of this rating, held to this minimum
voltage. -/
def ratedRequest (ratingKw : ℚ) (minVoltagePu : Decimal) : GridValidationRequest where
  network := {
    version := "phase-1-twin"
    nodes := [
      { nodeId := 1, nodeType := .feeder, nominalVoltageKv := 2 / 5 },
      { nodeId := 2, nodeType := .connectionPoint, nominalVoltageKv := 2 / 5
        parentNodeId := some 1 }]
    lines := [{ lineId := 2, fromNodeId := 1, toNodeId := 2, ratingKw := some ratingKw }] }
  limits := { Policies.GridLimits.DEFAULT_LIMITS with minVoltagePu }
  intervalStart := ⟨1709229600000000, 0⟩
  intervalEnd := ⟨1709230500000000, 0⟩

/-- The same request with its nodes listed the other way round. -/
def relisted (request : GridValidationRequest) : GridValidationRequest :=
  { request with network := { request.network with nodes := request.network.nodes.reverse } }

/-- Lines of 50 and 5 kW held to different limits have different fingerprints, and
a request whose nodes are listed the other way round has one. -/
theorem requestFingerprint_faithful_sample :
    ((requestFingerprint id (ratedRequest 50 (Decimal.ofUnits 94 2)) =
          requestFingerprint id (ratedRequest 5 (Decimal.ofUnits 95 2)) →
        SameOutcome (ratedRequest 50 (Decimal.ofUnits 94 2))
          (ratedRequest 5 (Decimal.ofUnits 95 2))) ∧
      requestFingerprint id (ratedRequest 50 (Decimal.ofUnits 94 2)) ≠
        requestFingerprint id (ratedRequest 5 (Decimal.ofUnits 95 2))) ∧
    requestFingerprint id (ratedRequest 50 (Decimal.ofUnits 94 2)) =
      requestFingerprint id (relisted (ratedRequest 50 (Decimal.ofUnits 94 2))) := by
  have apart : (ratedRequest 50 (Decimal.ofUnits 94 2)).limits ≠
      (ratedRequest 5 (Decimal.ofUnits 95 2)).limits := by
    decide
  have scenario : SameScenario (ratedRequest 50 (Decimal.ofUnits 94 2))
      (relisted (ratedRequest 50 (Decimal.ofUnits 94 2))) := {
    version := rfl
    nodes := (List.reverse_perm _).symm
    lines := List.Perm.refl _
    transformers := List.Perm.refl _
    limits := ⟨rfl, rfl, rfl, rfl⟩
    interval := ⟨rfl, rfl⟩
    baseline := List.Perm.refl _
    proposed := List.Perm.refl _ }
  refine ⟨⟨((requestFingerprint_faithful_iff Function.injective_id).mpr ⟨?_, ?_⟩).1, ?_⟩,
    ((requestFingerprint_faithful_iff Function.injective_id).mpr ⟨?_, ?_⟩).2 scenario⟩
  · intro differs
    exact apart differs.alike.limits
  · intro respelled
    exact absurd respelled.scenario.limits.minVoltagePu (by decide +kernel)
  · intro same
    exact apart ((requestFingerprint_eq_iff Function.injective_id).mp same).limits
  · intro differs
    exact differs.different {
      nodes := scenario.nodes.map _
      lines := scenario.lines
      transformers := scenario.transformers }
  · intro respelled
    obtain differs | differs | differs | ⟨nodeId, differs⟩ := respelled.different
    · exact differs rfl
    · exact differs rfl
    · exact differs rfl
    · exact differs rfl

/-- A line of 5 kW has the fingerprint of one of 50 kW, and a minimum of 0.940
another than one of 0.94. -/
theorem fingerprint_misses_rating :
    (requestFingerprint id (ratedRequest 50 (Decimal.ofUnits 94 2)) =
        requestFingerprint id (ratedRequest 5 (Decimal.ofUnits 94 2)) ∧
      ¬ SameOutcome (ratedRequest 50 (Decimal.ofUnits 94 2))
        (ratedRequest 5 (Decimal.ofUnits 94 2))) ∧
    SameScenario (ratedRequest 50 (Decimal.ofUnits 94 2))
        (ratedRequest 50 (Decimal.ofUnits 940 3)) ∧
      requestFingerprint id (ratedRequest 50 (Decimal.ofUnits 94 2)) ≠
        requestFingerprint id (ratedRequest 50 (Decimal.ofUnits 940 3)) := by
  refine ⟨⟨?_, ?_⟩, ?_, ?_⟩
  · exact (requestFingerprint_eq_iff Function.injective_id).mpr
      ⟨rfl, List.Perm.refl _, rfl, rfl, rfl, fun _ => Iff.rfl, fun _ => rfl⟩
  · intro same
    have lines := same.topology.lines.mem_iff.mp (List.mem_singleton.mpr rfl)
    have ratings := congrArg NetworkLine.ratingKw (List.mem_singleton.mp lines)
    exact absurd ratings (by decide)
  · exact {
      version := rfl
      nodes := List.Perm.refl _
      lines := List.Perm.refl _
      transformers := List.Perm.refl _
      limits := ⟨by decide +kernel, rfl, rfl, rfl⟩
      interval := ⟨rfl, rfl⟩
      baseline := List.Perm.refl _
      proposed := List.Perm.refl _ }
  · intro same
    have alike := (requestFingerprint_eq_iff Function.injective_id).mp same
    exact absurd (congrArg GridLimits.minVoltagePu alike.limits) (by decide)

end UrjaSetu.Services.GridValidationService
