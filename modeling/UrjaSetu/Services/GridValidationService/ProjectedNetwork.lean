import UrjaSetu.Adapters.PowerGridModel.Identifiers
import UrjaSetu.Services.GridValidationService

/-!
The input arrays of a projected twin.

The grid nodes of a feeder are listed once each; their parents may be anywhere,
missing, or in a cycle. An edge has the identifier of its child node.

Owns: that a projection lists nodes and edges once and connects nodes of its own,
so that the arrays built of it fit together.
-/

namespace UrjaSetu.Services.GridValidationService

open UrjaSetu.Adapters.PowerGridModel UrjaSetu.Db UrjaSetu.Db.Models UrjaSetu.Domain
open UrjaSetu.Domain.Interfaces.Grid UrjaSetu.Library

/-- The connections of `nodes` to their parents, where these are known. -/
def connections (known : List UUID) (nodes : List NetworkNode) : List (NetworkNode × UUID) :=
  nodes.filterMap fun node =>
    match node.parentNodeId with
    | none => none
    | some parent => if parent ∈ known then some (node, parent) else none

private theorem mem_connections {known : List UUID} {nodes : List NetworkNode}
    {edge : NetworkNode × UUID}
    (member : edge ∈ connections known nodes) : edge.1 ∈ nodes ∧ edge.2 ∈ known := by
  obtain ⟨node, listed, found⟩ := List.mem_filterMap.mp member
  cases parent : node.parentNodeId with
  | none =>
      rw [parent] at found
      cases found
  | some parentId =>
      rw [parent] at found
      dsimp only at found
      split_ifs at found with isKnown
      cases found
      exact ⟨listed, isKnown⟩

/-- A node has one connection at most. -/
theorem connections_sublist (known : List UUID) (nodes : List NetworkNode) :
    ((connections known nodes).map Prod.fst).Sublist nodes := by
  induction nodes with
  | nil => exact .slnil
  | cons node rest inductionHypothesis =>
      unfold connections
      rw [List.filterMap_cons]
      split
      · exact inductionHypothesis.cons node
      · rename_i edge found
        have isOwn : edge.1 = node := by
          split at found
          · cases found
          · split_ifs at found
            cases found
            rfl
        rw [List.map_cons, isOwn]
        exact inductionHypothesis.cons_cons node

/-- The lines and the transformers are the connections, each once. -/
theorem edgeIds_nodup {known : List UUID} {nodes : List NetworkNode}
    (distinct : (nodes.map NetworkNode.nodeId).Nodup) :
    (((connections known nodes).filter fun edge => edge.1.nodeType ≠ .transformer).map
        (fun edge => edge.1.nodeId) ++
      ((connections known nodes).filter fun edge => edge.1.nodeType = .transformer).map
        fun edge => edge.1.nodeId).Nodup := by
  have once : ((connections known nodes).map fun edge => edge.1.nodeId).Nodup := by
    have listed := distinct.sublist ((connections_sublist known nodes).map NetworkNode.nodeId)
    rwa [List.map_map] at listed
  have apart := List.filter_append_perm
    (fun edge : NetworkNode × UUID => decide (edge.1.nodeType ≠ .transformer))
    (connections known nodes)
  simp only [ne_eq, decide_not, Bool.not_not] at apart ⊢
  rw [← List.map_append]
  exact (apart.map _).nodup_iff.mpr once

/-- A projection of distinct nodes lists its nodes and edges once, and connects
nodes of its own. -/
theorem buildNetwork_projected {db : Database}
    (distinct : (db.community.gridNodes.map GridNode.id).Nodup) (feederId : Option String)
    (version : String) : Projected (buildNetwork feederId db version) := by
  have nodes : (buildNetwork feederId db version).nodeIds.Nodup := by
    unfold buildNetwork NetworkModel.nodeIds
    rw [List.map_map]
    cases feederId with
    | none => exact distinct.sublist ((List.take_sublist _ _).map _)
    | some feeder =>
        exact distinct.sublist ((List.filter_sublist.trans (List.take_sublist _ _)).map _)
  constructor
  case nodes => exact nodes
  case edges =>
    have lines : (buildNetwork feederId db version).lines.map NetworkLine.lineId =
        ((connections (buildNetwork feederId db version).nodeIds
          (buildNetwork feederId db version).nodes).filter fun edge =>
            edge.1.nodeType ≠ .transformer).map fun edge => edge.1.nodeId :=
      List.map_map
    have transformers : (buildNetwork feederId db version).transformers.map
        NetworkTransformer.transformerId = ((connections (buildNetwork feederId db version).nodeIds
          (buildNetwork feederId db version).nodes).filter fun edge =>
            edge.1.nodeType = .transformer).map fun edge => edge.1.nodeId :=
      List.map_map
    rw [lines, transformers]
    exact edgeIds_nodup nodes
  case lines =>
    intro line member
    obtain ⟨edge, kept, rfl⟩ := List.mem_map.mp member
    have ends := @mem_connections _ _ edge (List.mem_of_mem_filter kept)
    exact ⟨ends.2, List.mem_map_of_mem ends.1⟩
  case transformers =>
    intro transformer member
    obtain ⟨edge, kept, rfl⟩ := List.mem_map.mp member
    have ends := @mem_connections _ _ edge (List.mem_of_mem_filter kept)
    exact ⟨ends.2, List.mem_map_of_mem ends.1⟩

/-- The arrays built of a projection of the twin have distinct identifiers, a
source, and references to their own nodes; only a voltage of nothing keeps them
from being built. -/
theorem buildNetwork_wellFormed {db : Database}
    (distinct : (db.community.gridNodes.map GridNode.id).Nodup) (feederId : Option String)
    (version : String) (nonempty : (buildNetwork feederId db version).nodes ≠ [])
    (injections : List NodeInjection) (idOffset : ℕ) :
    (∀ built, buildPgmDataset (buildNetwork feederId db version) injections idOffset = .ok built →
      WellFormed built.inputData) ∧
      ∀ error, buildPgmDataset (buildNetwork feederId db version) injections idOffset =
        .error error → error = "ZeroDivisionError" :=
  ⟨fun _ builds => (buildNetwork_projected distinct feederId version).wellFormed builds,
    fun _ raised =>
      (buildNetwork_projected distinct feederId version).builds_or_divides nonempty raised⟩

/-! ## A cycle and a stray node -/

/-- A feeder and a transformer that are each other's parents, and a house whose parent
is not of the twin. -/
def cyclicTwin : Database :=
  Database.initial ⟨0, false, .normal, 0, "", false⟩
    ⟨[⟨1, .feeder, 11, some 2, none, none⟩, ⟨2, .transformer, 11, some 1, none, some 100⟩,
      ⟨3, .connectionPoint, 2 / 5, some 99, none, none⟩], [], [], [], []⟩

theorem buildNetwork_wellFormed_sample :
    ∃ built, buildPgmDataset (buildNetwork none cyclicTwin)
        [⟨1, Decimal.ofUnits 5 0⟩, ⟨3, Decimal.ofUnits (-2) 0⟩, ⟨98, Decimal.ofUnits 1 0⟩] = .ok built ∧
      built.inputData.ids = [1, 2, 3, 4, 5, 6, 7, 8] ∧ WellFormed built.inputData := by
  have ids : (buildPgmDataset (buildNetwork none cyclicTwin)
      [⟨1, Decimal.ofUnits 5 0⟩, ⟨3, Decimal.ofUnits (-2) 0⟩, ⟨98, Decimal.ofUnits 1 0⟩]).toOption.map
        (fun built => built.inputData.ids) = some [1, 2, 3, 4, 5, 6, 7, 8] := by
    decide +kernel
  cases builds : buildPgmDataset (buildNetwork none cyclicTwin)
      [⟨1, Decimal.ofUnits 5 0⟩, ⟨3, Decimal.ofUnits (-2) 0⟩, ⟨98, Decimal.ofUnits 1 0⟩] with
  | error error =>
      rw [builds] at ids
      cases ids
  | ok built =>
      rw [builds] at ids
      refine ⟨built, rfl, Option.some.inj ids, ?_⟩
      exact (buildNetwork_wellFormed (by decide) none "phase-1-twin" (by decide) _ 0).1 built builds

end UrjaSetu.Services.GridValidationService
