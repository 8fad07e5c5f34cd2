import UrjaSetu.Adapters.PowerGridModel

/-!
The identifiers of the input arrays.

One counter numbers nodes, lines, transformers, sources, generators and loads, in
this order, so the arrays of a network are numbered without a gap.

Owns: what a projected network guarantees, and that its arrays have distinct
identifiers, a source, and no reference to anything but a node of theirs.
-/

namespace UrjaSetu.Adapters.PowerGridModel

open UrjaSetu.Domain UrjaSetu.Domain.Interfaces.Grid UrjaSetu.Library

/-! ## Arrays that fit together -/

def Dataset.nodeIds (dataset : Dataset) : List ℕ := dataset.node.map NodeInput.id

/-- Every identifier, in the order the counter hands them out. -/
def Dataset.ids (dataset : Dataset) : List ℕ :=
  dataset.nodeIds ++ (dataset.line.map LineInput.id ++ dataset.transformer.map TransformerInput.id) ++
    dataset.source.map SourceInput.id ++ dataset.symGen.map PowerInput.id ++
      dataset.symLoad.map PowerInput.id

structure WellFormed (dataset : Dataset) : Prop where
  distinct : dataset.ids.Nodup
  supplied : dataset.source ≠ []
  sources : ∀ source ∈ dataset.source, source.node ∈ dataset.nodeIds
  lines : ∀ line ∈ dataset.line, line.fromNode ∈ dataset.nodeIds ∧ line.toNode ∈ dataset.nodeIds
  transformers : ∀ transformer ∈ dataset.transformer,
    transformer.fromNode ∈ dataset.nodeIds ∧ transformer.toNode ∈ dataset.nodeIds
  generators : ∀ generator ∈ dataset.symGen, generator.node ∈ dataset.nodeIds
  loads : ∀ load ∈ dataset.symLoad, load.node ∈ dataset.nodeIds

/-- What a projection of the twin guarantees: nodes and edges are listed once, and
an edge connects nodes of the network. -/
structure Projected (network : NetworkModel) : Prop where
  nodes : network.nodeIds.Nodup
  edges : (network.lines.map NetworkLine.lineId ++
    network.transformers.map NetworkTransformer.transformerId).Nodup
  lines : ∀ line ∈ network.lines,
    line.fromNodeId ∈ network.nodeIds ∧ line.toNodeId ∈ network.nodeIds
  transformers : ∀ transformer ∈ network.transformers,
    transformer.fromNodeId ∈ network.nodeIds ∧ transformer.toNodeId ∈ network.nodeIds

/-! ## Numbering -/

section Numbering

variable {first : ℕ} {uuids : List UUID} {uuid : UUID} {id : ℕ}

/-- A number is one of those that were handed out. -/
theorem assignIds_mem_range (held : (assignIds first uuids).get? uuid = some id) :
    id ∈ List.range' first uuids.length := by
  obtain ⟨entry, member, _, rfl⟩ := Dict.exists_of_get?_ofItems held
  rw [← List.zipIdx_map_snd]
  exact List.mem_map_of_mem member

/-- Distinct elements are numbered in their order. -/
theorem assignIds_of_nodup (distinct : uuids.Nodup) :
    uuids.map (assignIds first uuids).get? = (List.range' first uuids.length).map some := by
  have numbered : ∀ entry ∈ uuids.zipIdx first,
      (assignIds first uuids).get? entry.1 = some entry.2 := by
    intro entry member
    apply Dict.get?_ofItems_of_agree _ member
    intro other otherMember same
    obtain ⟨otherFrom, otherAt⟩ := List.mem_zipIdx_iff_le_and_getElem?_sub.mp otherMember
    obtain ⟨entryFrom, entryAt⟩ := List.mem_zipIdx_iff_le_and_getElem?_sub.mp member
    have inside : other.2 - first < uuids.length := (List.getElem?_eq_some_iff.mp otherAt).1
    have position : other.2 - first = entry.2 - first :=
      (List.getElem?_inj inside distinct).mp (by rw [otherAt, entryAt, same])
    omega
  calc uuids.map (assignIds first uuids).get?
      = ((uuids.zipIdx first).map Prod.fst).map (assignIds first uuids).get? := by
        rw [List.zipIdx_map_fst]
    _ = (uuids.zipIdx first).map (some ∘ Prod.snd) := by
        rw [List.map_map]
        exact List.map_congr_left numbered
    _ = (List.range' first uuids.length).map some := by
        rw [← List.map_map, List.zipIdx_map_snd]

private theorem lookup_eq_ok {ids : Dict UUID ℕ} :
    lookup ids uuid = .ok id ↔ ids.get? uuid = some id := by
  unfold lookup
  cases ids.get? uuid with
  | none => simp
  | some held => simp

private theorem lookup_ok_of_mem (member : uuid ∈ uuids) :
    ∃ id, lookup (assignIds first uuids) uuid = .ok id := by
  obtain ⟨id, held⟩ := Option.isSome_iff_exists.mp (assignIds_isSome_iff.mpr member)
  exact ⟨id, lookup_eq_ok.mpr held⟩

/-- Rows that look their own numbers up are numbered in their order. -/
theorem ids_of_lookups {ids : List ℕ} (distinct : uuids.Nodup)
    (looked : List.Forall₂ (fun uuid id => lookup (assignIds first uuids) uuid = .ok id) uuids ids) :
    ids = List.range' first uuids.length := by
  have held : uuids.map (assignIds first uuids).get? = ids.map some := by
    rw [← List.forall₂_eq_eq_eq, List.forall₂_map_left_iff, List.forall₂_map_right_iff]
    exact looked.imp fun _ _ => lookup_eq_ok.mp
  rw [assignIds_of_nodup distinct] at held
  exact ((List.map_injective_iff.mpr (Option.some_injective ℕ)) held).symm

end Numbering

/-! ## Arrays of a network -/

section Arrays

variable {network : NetworkModel} {injections : List NodeInjection} {idOffset : ℕ}

private theorem rootNodes_ok {roots : List NetworkNode} (found : rootNodes network = .ok roots) :
    roots ≠ [] ∧ ∀ root ∈ roots, root ∈ network.nodes := by
  unfold rootNodes at found
  dsimp only at found
  split_ifs at found with noRoots
  · split at found
    · cases found
    · rename_i first rest listed
      cases found
      exact ⟨by simp, by simp [listed]⟩
  · cases found
    exact ⟨noRoots, fun root member => List.mem_of_mem_filter member⟩

private theorem lineInput_ok {nodeIds edgeIds : Dict UUID ℕ} {line : NetworkLine}
    {input : LineInput}
    (built : lineInput network nodeIds edgeIds line = .ok input) :
    lookup edgeIds line.lineId = .ok input.id ∧ lookup nodeIds line.fromNodeId = .ok input.fromNode ∧
      lookup nodeIds line.toNodeId = .ok input.toNode := by
  obtain ⟨iN, _, built⟩ := bind_eq_ok.mp built
  obtain ⟨id, isId, built⟩ := bind_eq_ok.mp built
  obtain ⟨fromNode, isFrom, built⟩ := bind_eq_ok.mp built
  obtain ⟨toNode, isTo, built⟩ := bind_eq_ok.mp built
  cases built
  exact ⟨isId, isFrom, isTo⟩

private theorem transformerInput_ok {nodeIds edgeIds : Dict UUID ℕ}
    {transformer : NetworkTransformer}
    {input : TransformerInput}
    (built : transformerInput network nodeIds edgeIds transformer = .ok input) :
    lookup edgeIds transformer.transformerId = .ok input.id ∧
      lookup nodeIds transformer.fromNodeId = .ok input.fromNode ∧
        lookup nodeIds transformer.toNodeId = .ok input.toNode := by
  obtain ⟨id, isId, built⟩ := bind_eq_ok.mp built
  obtain ⟨fromNode, isFrom, built⟩ := bind_eq_ok.mp built
  obtain ⟨toNode, isTo, built⟩ := bind_eq_ok.mp built
  cases built
  exact ⟨isId, isFrom, isTo⟩

private theorem powerInputs_ids (nodeIds : Dict UUID ℕ) (first : ℕ) (takes : ℚ → Bool)
    (watts : ℚ → ℚ)
    (injections : List NodeInjection) :
    (powerInputs nodeIds first takes watts injections).map PowerInput.id =
      List.range' first (powerInputs nodeIds first takes watts injections).length := by
  unfold powerInputs
  rw [List.map_map, List.length_map, List.length_zipIdx, ← List.zipIdx_map_snd]
  rfl

private theorem genInputs_ids (nodeIds : Dict UUID ℕ) (first : ℕ)
    (injections : List NodeInjection) :
    (genInputs nodeIds first injections).map PowerInput.id =
      List.range' first (genInputs nodeIds first injections).length :=
  powerInputs_ids _ _ _ _ injections

private theorem loadInputs_ids (nodeIds : Dict UUID ℕ) (first : ℕ)
    (injections : List NodeInjection) :
    (loadInputs nodeIds first injections).map PowerInput.id =
      List.range' first (loadInputs nodeIds first injections).length :=
  powerInputs_ids _ _ _ _ injections

/-- Power is placed at nodes that have a number. -/
theorem powerInputs_node {nodeIds : Dict UUID ℕ} {first : ℕ} {takes : ℚ → Bool} {watts : ℚ → ℚ}
    {input : PowerInput} (member : input ∈ powerInputs nodeIds first takes watts injections) :
    ∃ uuid, nodeIds.get? uuid = some input.node := by
  unfold powerInputs at member
  obtain ⟨entry, listed, rfl⟩ := List.mem_map.mp member
  have placed := List.fst_mem_of_mem_zipIdx listed
  obtain ⟨injection, _, found⟩ := List.mem_filterMap.mp placed
  split_ifs at found with taken
  obtain ⟨node, held, pair⟩ := Option.map_eq_some_iff.mp found
  exact ⟨injection.nodeId, by rw [held, ← pair]⟩

/-- The arrays that are built of a projected network fit together. -/
theorem Projected.wellFormed {built : Built} (projected : Projected network)
    (builds : buildPgmDataset network injections idOffset = .ok built) :
    WellFormed built.inputData := by
  unfold buildPgmDataset at builds
  obtain ⟨roots, rootsFound, builds⟩ := bind_eq_ok.mp builds
  obtain ⟨nodes, nodesBuilt, builds⟩ := bind_eq_ok.mp builds
  obtain ⟨sources, sourcesBuilt, builds⟩ := bind_eq_ok.mp builds
  obtain ⟨lines, linesBuilt, builds⟩ := bind_eq_ok.mp builds
  obtain ⟨transformers, transformersBuilt, builds⟩ := bind_eq_ok.mp builds
  cases builds
  have nodeIds : nodes.map NodeInput.id =
      List.range' (idOffset + 1) network.nodeIds.length := by
    apply ids_of_lookups projected.nodes
    rw [NetworkModel.nodeIds, List.forall₂_map_left_iff, List.forall₂_map_right_iff]
    apply (mapM_ok nodesBuilt).imp
    intro node input built
    obtain ⟨id, isId, built⟩ := bind_eq_ok.mp built
    cases built
    exact isId
  have edgeIds : lines.map LineInput.id ++ transformers.map TransformerInput.id =
      List.range' (idOffset + 1 + network.nodes.length)
        (network.lines.map NetworkLine.lineId ++
          network.transformers.map NetworkTransformer.transformerId).length := by
    apply ids_of_lookups projected.edges
    apply List.rel_append
    · rw [List.forall₂_map_left_iff, List.forall₂_map_right_iff]
      exact (mapM_ok linesBuilt).imp fun line input built => (lineInput_ok built).1
    · rw [List.forall₂_map_left_iff, List.forall₂_map_right_iff]
      exact (mapM_ok transformersBuilt).imp fun transformer input built =>
        (transformerInput_ok built).1
  have sourceIds : sources.map SourceInput.id = List.range' (idOffset + 1 + network.nodes.length +
      (network.lines.map NetworkLine.lineId ++
        network.transformers.map NetworkTransformer.transformerId).length) roots.length := by
    rw [← List.zipIdx_map_snd, ← List.forall₂_eq_eq_eq, List.forall₂_map_left_iff,
      List.forall₂_map_right_iff]
    apply List.Forall₂.flip
    apply (mapM_ok sourcesBuilt).imp
    intro entry input built
    obtain ⟨node, _, built⟩ := bind_eq_ok.mp built
    cases built
    rfl
  have isNode : ∀ {uuid : UUID} {id : ℕ},
      lookup (assignIds (idOffset + 1) network.nodeIds) uuid = .ok id →
        id ∈ nodes.map NodeInput.id := by
    intro uuid id found
    rw [nodeIds]
    exact assignIds_mem_range (lookup_eq_ok.mp found)
  constructor
  case distinct =>
    unfold Dataset.ids Dataset.nodeIds
    dsimp only
    rw [nodeIds, edgeIds, sourceIds, genInputs_ids, loadInputs_ids, NetworkModel.nodeIds,
      List.length_map]
    generalize idOffset + 1 = first
    simp only [Nat.add_assoc, List.range'_append_1]
    exact List.nodup_range'
  case supplied =>
    obtain ⟨someRoot, _⟩ := rootNodes_ok rootsFound
    intro noSource
    dsimp only at noSource
    have none_ := congrArg List.length sourceIds
    rw [noSource, List.length_range'] at none_
    exact someRoot (List.length_eq_zero_iff.mp none_.symm)
  case sources =>
    intro source member
    obtain ⟨entry, _, built⟩ := exists_of_mem_mapM sourcesBuilt member
    obtain ⟨node, found, built⟩ := bind_eq_ok.mp built
    cases built
    exact isNode found
  case lines =>
    intro line member
    obtain ⟨_, _, built⟩ := exists_of_mem_mapM linesBuilt member
    obtain ⟨_, isFrom, isTo⟩ := lineInput_ok built
    exact ⟨isNode isFrom, isNode isTo⟩
  case transformers =>
    intro transformer member
    obtain ⟨_, _, built⟩ := exists_of_mem_mapM transformersBuilt member
    obtain ⟨_, isFrom, isTo⟩ := transformerInput_ok built
    exact ⟨isNode isFrom, isNode isTo⟩
  case generators =>
    intro generator member
    dsimp only at member
    unfold genInputs at member
    obtain ⟨uuid, held⟩ := powerInputs_node member
    exact isNode (lookup_eq_ok.mpr held)
  case loads =>
    intro load member
    dsimp only at member
    unfold loadInputs at member
    obtain ⟨uuid, held⟩ := powerInputs_node member
    exact isNode (lookup_eq_ok.mpr held)

private theorem raised_of_bind {α β : Type} {action : Except String α} {next : α → Except String β}
    {error : String} (raised : action >>= next = .error error) :
    action = .error error ∨ ∃ value, action = .ok value ∧ next value = .error error := by
  cases action with
  | error own =>
      cases raised
      exact .inl rfl
  | ok value => exact .inr ⟨value, rfl, raised⟩

private theorem lookup_ne_error {first : ℕ} {uuids : List UUID} {uuid : UUID} {error : String}
    (member : uuid ∈ uuids) : lookup (assignIds first uuids) uuid ≠ .error error := by
  obtain ⟨id, found⟩ := lookup_ok_of_mem member
  rw [found]
  exact fun absurdity => by cases absurdity

private theorem ratedCurrent_error {line : NetworkLine} {error : String}
    (raised : ratedCurrent network line = .error error) : error = "ZeroDivisionError" := by
  unfold ratedCurrent divide at raised
  split at raised
  · split_ifs at raised
    cases raised
    rfl
  · cases raised

/-- A projected network with a node is built, but for a division by a voltage of
nothing. -/
theorem Projected.builds_or_divides (projected : Projected network) (nonempty : network.nodes ≠ [])
    {error : String} (raised : buildPgmDataset network injections idOffset = .error error) :
    error = "ZeroDivisionError" := by
  unfold buildPgmDataset at raised
  rcases raised_of_bind raised with noRoots | ⟨roots, rootsFound, raised⟩
  · unfold rootNodes at noRoots
    dsimp only at noRoots
    split_ifs at noRoots
    · split at noRoots
      · rename_i listed
        exact absurd listed nonempty
      · cases noRoots
  rcases raised_of_bind raised with failed | ⟨nodes, _, raised⟩
  · obtain ⟨node, member, failed⟩ := mapM_error failed
    rcases raised_of_bind failed with missing | ⟨_, _, returned⟩
    · exact absurd missing (lookup_ne_error (List.mem_map_of_mem member))
    · cases returned
  rcases raised_of_bind raised with failed | ⟨sources, _, raised⟩
  · obtain ⟨entry, member, failed⟩ := mapM_error failed
    rcases raised_of_bind failed with missing | ⟨_, _, returned⟩
    · have listed := (rootNodes_ok rootsFound).2 entry.1 (List.fst_mem_of_mem_zipIdx member)
      exact absurd missing (lookup_ne_error (List.mem_map_of_mem listed))
    · cases returned
  rcases raised_of_bind raised with failed | ⟨lines, _, raised⟩
  · obtain ⟨line, member, failed⟩ := mapM_error failed
    rcases raised_of_bind failed with divided | ⟨_, _, failed⟩
    · exact ratedCurrent_error divided
    rcases raised_of_bind failed with missing | ⟨_, _, failed⟩
    · exact absurd missing (lookup_ne_error (List.mem_append_left _ (List.mem_map_of_mem member)))
    rcases raised_of_bind failed with missing | ⟨_, _, failed⟩
    · exact absurd missing (lookup_ne_error (projected.lines line member).1)
    rcases raised_of_bind failed with missing | ⟨_, _, returned⟩
    · exact absurd missing (lookup_ne_error (projected.lines line member).2)
    · cases returned
  rcases raised_of_bind raised with failed | ⟨transformers, _, returned⟩
  · obtain ⟨transformer, member, failed⟩ := mapM_error failed
    rcases raised_of_bind failed with missing | ⟨_, _, failed⟩
    · exact absurd missing (lookup_ne_error (List.mem_append_right _ (List.mem_map_of_mem member)))
    rcases raised_of_bind failed with missing | ⟨_, _, failed⟩
    · exact absurd missing (lookup_ne_error (projected.transformers transformer member).1)
    rcases raised_of_bind failed with missing | ⟨_, _, returned⟩
    · exact absurd missing (lookup_ne_error (projected.transformers transformer member).2)
    · cases returned
  · cases returned

end Arrays

end UrjaSetu.Adapters.PowerGridModel
