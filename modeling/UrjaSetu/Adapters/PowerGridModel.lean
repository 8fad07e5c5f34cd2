import UrjaSetu.Domain.Policies.GridLimits
import UrjaSetu.Library.Exceptions

/-!
The power-flow adapter of `app/adapters/grid/power_grid_model_adapter.py`.

The solver is a parameter: it takes the input arrays and returns the output
arrays, or raises. A floating-point number is the rational it denotes, and an
entry that is not finite is none.

Owns: the input arrays built from a network and its injections, the metrics and
violations read from the output, and the status derived from them.
-/

namespace UrjaSetu.Adapters.PowerGridModel

open UrjaSetu.Domain UrjaSetu.Domain.Interfaces.Grid UrjaSetu.Domain.Policies.GridLimits
open UrjaSetu.Library UrjaSetu.Library.Binary64

/-! ## Physical constants -/

def LINE_R1 : ℚ := double (double (3 / 10) * double (1 / 20))

def LINE_X1 : ℚ := double (double (1 / 10) * double (1 / 20))

/-- `math.sqrt(3)`. -/
def SQRT3 : ℚ := 3900231685776981 / 2 ^ 51

/-- `float(value) * 1000.0`. -/
def thousandfold (value : ℚ) : ℚ := double (double value * 1000)

/-! ## Input arrays -/

structure NodeInput where
  id : ℕ
  uRated : ℚ
deriving DecidableEq, Repr

structure SourceInput where
  id : ℕ
  node : ℕ
  status : ℕ := 1
  uRef : ℚ := 1
  sk : ℚ := 10 ^ 10
  rxRatio : ℚ := double (1 / 10)
  z01Ratio : ℚ := 1
deriving DecidableEq, Repr

structure LineInput where
  id : ℕ
  fromNode : ℕ
  toNode : ℕ
  fromStatus : ℕ := 1
  toStatus : ℕ := 1
  r1 : ℚ := LINE_R1
  x1 : ℚ := LINE_X1
  c1 : ℚ := 0
  tan1 : ℚ := 0
  iN : ℚ
deriving DecidableEq, Repr

structure TransformerInput where
  id : ℕ
  fromNode : ℕ
  toNode : ℕ
  fromStatus : ℕ := 1
  toStatus : ℕ := 1
  u1 : ℚ
  u2 : ℚ
  sn : ℚ
  uk : ℚ := double (6 / 100)
  pk : ℚ
  i0 : ℚ := double (1 / 100)
  p0 : ℚ
  windingFrom : ℕ := 2
  windingTo : ℕ := 2
  clock : ℕ := 12
  tapSide : ℕ := 0
  tapPos : ℤ := 0
  tapMin : ℤ := -2
  tapMax : ℤ := 2
  tapNom : ℤ := 0
  tapSize : ℚ := double (1 / 100)
deriving DecidableEq, Repr

/-- A row of `sym_gen` or of `sym_load`. -/
structure PowerInput where
  id : ℕ
  node : ℕ
  status : ℕ := 1
  type : ℕ := 0
  pSpecified : ℚ
  qSpecified : ℚ := 0
deriving DecidableEq, Repr

/-- The input arrays. The solver is not given an array that is empty. -/
structure Dataset where
  node : List NodeInput
  source : List SourceInput
  line : List LineInput
  transformer : List TransformerInput
  symGen : List PowerInput
  symLoad : List PowerInput
deriving DecidableEq, Repr

/-- The arrays with the identifiers that were given to nodes and edges. -/
structure Built where
  inputData : Dataset
  nodeIds : Dict UUID ℕ
  edgeIds : Dict UUID ℕ

/-- Number `uuids` from `first` on. -/
def assignIds (first : ℕ) (uuids : List UUID) : Dict UUID ℕ :=
  Dict.ofItems Prod.fst Prod.snd (uuids.zipIdx first)

/-- `ids[uuid]`. -/
def lookup (ids : Dict UUID ℕ) (uuid : UUID) : Except String ℕ :=
  match ids.get? uuid with
  | some id => .ok id
  | none => .error "KeyError"

/-- `dividend / divisor` of floats. -/
def divide (dividend divisor : ℚ) : Except String ℚ :=
  if divisor = 0 then .error "ZeroDivisionError" else .ok (double (dividend / divisor))

/-- The nodes without a parent in the network, each of which gets a source. -/
def rootNodes (network : NetworkModel) : Except String (List NetworkNode) :=
  let roots := network.nodes.filter fun node =>
    match node.parentNodeId with
    | none => true
    | some parent => parent ∉ network.nodeIds
  if roots = [] then
    match network.nodes with
    | [] => .error "IndexError"
    | first :: _ => .ok [first]
  else .ok roots

/-- The voltage of a node of the network in volts, or a fallback. -/
def ratedVolts (network : NetworkModel) (nodeId : UUID) (fallback : ℚ) : ℚ :=
  match (Dict.ofItems NetworkNode.nodeId id network.nodes).get? nodeId with
  | some node => thousandfold node.nominalVoltageKv
  | none => fallback

/-- `i_n`: the current at the rating, or a placeholder. -/
def ratedCurrent (network : NetworkModel) (line : NetworkLine) : Except String ℚ :=
  match line.ratingKw with
  | some rating =>
      divide (thousandfold rating) (double (SQRT3 * ratedVolts network line.toNodeId 400))
  | none => .ok 1

def lineInput (network : NetworkModel) (nodeIds edgeIds : Dict UUID ℕ) (line : NetworkLine) :
    Except String LineInput := do
  let iN ← ratedCurrent network line
  let id ← lookup edgeIds line.lineId
  let fromNode ← lookup nodeIds line.fromNodeId
  let toNode ← lookup nodeIds line.toNodeId
  return { id, fromNode, toNode, iN }

def transformerInput (network : NetworkModel) (nodeIds edgeIds : Dict UUID ℕ)
    (transformer : NetworkTransformer) : Except String TransformerInput := do
  let sn := match transformer.ratingKw with
    | some rating => thousandfold rating
    | none => 1
  let id ← lookup edgeIds transformer.transformerId
  let fromNode ← lookup nodeIds transformer.fromNodeId
  let toNode ← lookup nodeIds transformer.toNodeId
  return { id, fromNode, toNode, sn
           u1 := ratedVolts network transformer.fromNodeId 11000
           u2 := ratedVolts network transformer.toNodeId 400
           pk := double (sn * double (6 / 1000))
           p0 := double (sn * double (2 / 1000)) }

/-- The rows of one power array, numbered from `first` on: the injections the
array takes that are at nodes of the network. -/
def powerInputs (nodeIds : Dict UUID ℕ) (first : ℕ) (takes : ℚ → Bool) (watts : ℚ → ℚ)
    (injections : List NodeInjection) : List PowerInput :=
  let placed := injections.filterMap fun injection =>
    if takes injection.activePowerKw.toRat then
      (nodeIds.get? injection.nodeId).map fun node => (node, watts injection.activePowerKw.toRat)
    else none
  (placed.zipIdx first).map fun entry =>
    { id := entry.2, node := entry.1.1, pSpecified := entry.1.2 }

/-- Generation: positive power in watts. -/
def genInputs (nodeIds : Dict UUID ℕ) (first : ℕ) : List NodeInjection → List PowerInput :=
  powerInputs nodeIds first (fun power => 0 < power) thousandfold

/-- Load: the magnitude of what is not positive, in watts. -/
def loadInputs (nodeIds : Dict UUID ℕ) (first : ℕ) : List NodeInjection → List PowerInput :=
  powerInputs nodeIds first (fun power => power ≤ 0) fun power => double (|double power| * 1000)

/-- `_build_pgm_dataset`. -/
def buildPgmDataset (network : NetworkModel) (injections : List NodeInjection)
    (idOffset : ℕ := 0) : Except String Built := do
  let edges := network.lines.map NetworkLine.lineId ++
    network.transformers.map NetworkTransformer.transformerId
  let nodeIds := assignIds (idOffset + 1) network.nodeIds
  let firstEdge := idOffset + 1 + network.nodes.length
  let edgeIds := assignIds firstEdge edges
  let firstSource := firstEdge + edges.length
  let roots ← rootNodes network
  let nodes ← network.nodes.mapM fun node => do
    let id ← lookup nodeIds node.nodeId
    return { id, uRated := thousandfold node.nominalVoltageKv : NodeInput }
  let sources ← (roots.zipIdx firstSource).mapM fun entry => do
    let node ← lookup nodeIds entry.1.nodeId
    return { id := entry.2, node : SourceInput }
  let lines ← network.lines.mapM (lineInput network nodeIds edgeIds)
  let transformers ← network.transformers.mapM (transformerInput network nodeIds edgeIds)
  let firstGen := firstSource + roots.length
  let gens := genInputs nodeIds firstGen injections
  let loads := loadInputs nodeIds (firstGen + gens.length) injections
  return ⟨⟨nodes, sources, lines, transformers, gens, loads⟩, nodeIds, edgeIds⟩

/-! ## Identifiers -/

/-- One number is one element's. -/
theorem assignIds_injective {first : ℕ} {uuids : List UUID} {left right : UUID} {id : ℕ}
    (leftId : (assignIds first uuids).get? left = some id)
    (rightId : (assignIds first uuids).get? right = some id) : left = right := by
  obtain ⟨leftEntry, leftMember, leftKey, leftValue⟩ := Dict.exists_of_get?_ofItems leftId
  obtain ⟨rightEntry, rightMember, rightKey, rightValue⟩ := Dict.exists_of_get?_ofItems rightId
  have leftAt := (List.mem_zipIdx_iff_le_and_getElem?_sub.mp leftMember).2
  have rightAt := (List.mem_zipIdx_iff_le_and_getElem?_sub.mp rightMember).2
  rw [leftValue] at leftAt
  rw [rightValue, leftAt, Option.some_inj] at rightAt
  rw [← leftKey, ← rightKey, rightAt]

/-- Exactly the elements that are numbered have a number. -/
theorem assignIds_isSome_iff {first : ℕ} {uuids : List UUID} {uuid : UUID} :
    ((assignIds first uuids).get? uuid).isSome = true ↔ uuid ∈ uuids := by
  constructor
  · intro numbered
    obtain ⟨id, held⟩ := Option.isSome_iff_exists.mp numbered
    obtain ⟨entry, member, same, _⟩ := Dict.exists_of_get?_ofItems held
    rw [← same, ← List.zipIdx_map_fst first uuids]
    exact List.mem_map_of_mem member
  · intro present
    rw [← List.zipIdx_map_fst first uuids] at present
    obtain ⟨entry, member, same⟩ := List.mem_map.mp present
    rw [← same]
    exact Dict.isSome_get?_ofItems member

/-! ## What is built -/

/-- What a network that is built is numbered with, and where injections went. -/
theorem buildPgmDataset_ok {network : NetworkModel} {injections : List NodeInjection}
    {idOffset : ℕ} {built : Built}
    (datasetBuilds : buildPgmDataset network injections idOffset = .ok built) :
    built.nodeIds = assignIds (idOffset + 1) network.nodeIds ∧
      built.edgeIds = assignIds (idOffset + 1 + network.nodes.length)
        (network.lines.map NetworkLine.lineId ++
          network.transformers.map NetworkTransformer.transformerId) ∧
      (∃ first, built.inputData.symGen = genInputs built.nodeIds first injections) ∧
      ∃ first, built.inputData.symLoad = loadInputs built.nodeIds first injections := by
  unfold buildPgmDataset at datasetBuilds
  obtain ⟨roots, _, datasetBuilds⟩ := bind_eq_ok.mp datasetBuilds
  obtain ⟨nodes, _, datasetBuilds⟩ := bind_eq_ok.mp datasetBuilds
  obtain ⟨sources, _, datasetBuilds⟩ := bind_eq_ok.mp datasetBuilds
  obtain ⟨lines, _, datasetBuilds⟩ := bind_eq_ok.mp datasetBuilds
  obtain ⟨transformers, _, datasetBuilds⟩ := bind_eq_ok.mp datasetBuilds
  cases datasetBuilds
  exact ⟨rfl, rfl, ⟨_, rfl⟩, ⟨_, rfl⟩⟩

/-! ## Output arrays -/

structure NodeOutput where
  id : ℕ
  uPu : Option ℚ
deriving DecidableEq, Repr

/-- A row of the `line` or of the `transformer` array. -/
structure EdgeOutput where
  id : ℕ
  loading : Option ℚ
deriving DecidableEq, Repr

/-- The output arrays; one that is missing is empty. -/
structure SolverOutput where
  node : List NodeOutput := []
  line : List EdgeOutput := []
  transformer : List EdgeOutput := []
deriving DecidableEq, Repr

abbrev Solver := Dataset → Except String SolverOutput

/-- `Decimal(str(round(value, places)))`, where `repr` writes no exponent: at
least one decimal, and no trailing zeros behind it. -/
def roundedDecimal (places : ℕ) (value : ℚ) : Decimal :=
  let units := Rounding.halfEvenInt (value * 10 ^ places)
  let stripped := Decimal.stripZeros (places - 1) units.natAbs (-(places : ℤ))
  ⟨units < 0, stripped.1, stripped.2⟩

example : (roundedDecimal 6 1).str = "1.0" := by decide +kernel

/-- A loading fraction in percent, to four decimals. -/
def loadingPct (fraction : ℚ) : Decimal := roundedDecimal 4 (double (fraction * 100))

/-- The finite loadings of the rated elements of one kind, by element. -/
def ratedLoadings (edgeIds : Dict UUID ℕ) (elements rated : List UUID)
    (rows : List EdgeOutput) : List (UUID × Decimal) :=
  let idToUuid := Dict.ofItems Prod.snd Prod.fst
    (elements.filterMap fun uuid => (edgeIds.get? uuid).map fun id => (uuid, id))
  rows.filterMap fun row =>
    match idToUuid.get? row.id with
    | none => none
    | some uuid =>
        if uuid ∈ rated then row.loading.map fun fraction => (uuid, loadingPct fraction) else none

/-- The elements loaded above 100 %. -/
def overloads (violationType : GridViolationType) (kind : String)
    (loadings : List (UUID × Decimal)) : List GridViolation :=
  (loadings.filter fun entry => (Decimal.ofUnits 100 0).toRat < entry.2.toRat).map fun entry =>
    { violationType
      elementId := some entry.1
      observed := entry.2
      limit := Decimal.ofUnits 100 0
      detail := some (kind ++ " loading " ++ entry.2.str ++ "% exceeds rated capacity") }

def ratedLines (network : NetworkModel) : List UUID :=
  (network.lines.filter fun line => line.ratingKw.isSome).map NetworkLine.lineId

def ratedTransformers (network : NetworkModel) : List UUID :=
  (network.transformers.filter fun transformer => transformer.ratingKw.isSome).map
    NetworkTransformer.transformerId

/-- The loadings `_extract_metrics` reads from the `line` array. -/
def lineLoadings (network : NetworkModel) (edgeIds : Dict UUID ℕ) (output : SolverOutput) :
    List (UUID × Decimal) :=
  ratedLoadings edgeIds (network.lines.map NetworkLine.lineId) (ratedLines network) output.line

def transformerLoadings (network : NetworkModel) (edgeIds : Dict UUID ℕ) (output : SolverOutput) :
    List (UUID × Decimal) :=
  ratedLoadings edgeIds (network.transformers.map NetworkTransformer.transformerId)
    (ratedTransformers network) output.transformer

/-- `_extract_metrics`. -/
def extractMetrics (output : SolverOutput) (network : NetworkModel) (edgeIds : Dict UUID ℕ) :
    GridMetrics × List GridViolation :=
  let finite := output.node.filterMap NodeOutput.uPu
  let ofLines := lineLoadings network edgeIds output
  let ofTransformers := transformerLoadings network edgeIds output
  ({ minVoltagePu := (largest (fun voltage => -voltage) finite).map (roundedDecimal 6)
     maxVoltagePu := (largest id finite).map (roundedDecimal 6)
     maxLineLoadingPct := largest Decimal.toRat (ofLines.map Prod.snd)
     maxTransformerLoadingPct := largest Decimal.toRat (ofTransformers.map Prod.snd) },
    overloads .lineOverload "line" ofLines ++
      overloads .transformerOverload "transformer" ofTransformers)

/-- `_determine_status`. -/
def determineStatus (metrics : GridMetrics) (limits : Interfaces.Grid.GridLimits)
    (perElementViolations : List GridViolation) : GridValidationStatus :=
  if perElementViolations ≠ [] then .unsafe_
  else if evaluateMetrics metrics limits ≠ [] then .unsafe_
  else .safe

/-! ## The adapter -/

def NAME : String := "power_grid_model"

/-- Per-element violations, and the aggregate ones of types they do not name. -/
def mergeViolations (perElement aggregate : List GridViolation) : List GridViolation :=
  perElement ++ aggregate.filter fun violation =>
    ¬ perElement.any fun other => violation.violationType = other.violationType

variable (version : String) (solve : Solver)

/-- One solve: the arrays, the solver, the metrics with the violations. -/
def solved (request : GridValidationRequest) (injections : List NodeInjection) :
    Except String (GridMetrics × List GridViolation) := do
  let built ← buildPgmDataset request.network injections
  let output ← solve built.inputData
  return extractMetrics output request.network built.edgeIds

/-- `PowerGridModelAdapter.validate`. A baseline that cannot be solved counts as
one without violations. -/
def validate (request : GridValidationRequest) : Except String GridValidationResult := do
  let baselineViolations := match solved solve request request.baselineInjections with
    | .ok (metrics, perElement) =>
        mergeViolations perElement (evaluateMetrics metrics request.limits)
    | .error _ => []
  let (metrics, perElement) ← solved solve request request.combinedInjections
  return { engine := NAME
           engineVersion := version
           status := determineStatus metrics request.limits perElement
           metrics
           violations := mergeViolations perElement (evaluateMetrics metrics request.limits)
           baselineViolations }

def adapter : GridEngine := ⟨NAME, version, validate version solve⟩

end UrjaSetu.Adapters.PowerGridModel
