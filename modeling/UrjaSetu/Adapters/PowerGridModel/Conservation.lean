import UrjaSetu.Adapters.PowerGridModel

/-!
Where injections go in the power-flow adapter
(`app/adapters/grid/power_grid_model_adapter.py`).

Owns: the power that is placed at a node, and that it is what was injected there
exactly when nothing is injected outside the network.
-/

namespace UrjaSetu.Adapters.PowerGridModel

open UrjaSetu.Domain UrjaSetu.Domain.Interfaces.Grid UrjaSetu.Library UrjaSetu.Library.Binary64

/-! ## Power at a node -/

/-- What the rows of one array specify at a node. -/
def wattsAt (rows : List PowerInput) (id : ℕ) : ℚ :=
  ((rows.filter fun row => row.node = id).map PowerInput.pSpecified).sum

/-- Generation minus load that is placed at a node. -/
def placedWatts (built : Built) (nodeId : UUID) : ℚ :=
  match built.nodeIds.get? nodeId with
  | none => 0
  | some id => wattsAt built.inputData.symGen id - wattsAt built.inputData.symLoad id

/-- What a list injects at a node, in watts. -/
def injectedWatts (injections : List NodeInjection) (nodeId : UUID) : ℚ :=
  ((injections.filter fun injection => injection.nodeId = nodeId).map fun injection =>
    thousandfold injection.activePowerKw.toRat).sum

/-- The total of the injections at each node reaches the solver. -/
def Conserved (built : Built) (injections : List NodeInjection) : Prop :=
  ∀ nodeId, placedWatts built nodeId = thousandfold (totalAt injections nodeId).toRat

private theorem wattsAt_cons (row : PowerInput) (rows : List PowerInput) (id : ℕ) :
    wattsAt (row :: rows) id = (if row.node = id then row.pSpecified else 0) + wattsAt rows id := by
  unfold wattsAt
  by_cases here : row.node = id
  · simp [here]
  · simp [here]

/-- The injections an array takes at a node are what it specifies there. -/
theorem wattsAt_powerInputs (nodeIds : Dict UUID ℕ) (takes : ℚ → Bool) (watts : ℚ → ℚ) (id : ℕ)
    (first : ℕ) (injections : List NodeInjection) :
    wattsAt (powerInputs nodeIds first takes watts injections) id =
      (injections.map fun injection =>
        if takes injection.activePowerKw.toRat = true ∧ nodeIds.get? injection.nodeId = some id then
          watts injection.activePowerKw.toRat
        else 0).sum := by
  induction injections generalizing first with
  | nil => rfl
  | cons injection rest inductionHypothesis =>
      unfold powerInputs at inductionHypothesis ⊢
      dsimp only at inductionHypothesis ⊢
      rw [List.filterMap_cons, List.map_cons, List.sum_cons]
      by_cases taken : takes injection.activePowerKw.toRat = true
      · rw [if_pos taken]
        cases numbered : nodeIds.get? injection.nodeId with
        | none => simp [inductionHypothesis]
        | some number =>
            simp only [Option.map_some, List.zipIdx_cons, List.map_cons, wattsAt_cons,
              inductionHypothesis, taken, Option.some_inj, true_and]
      · rw [if_neg taken]
        simp [taken, inductionHypothesis]

/-- A load is the generation that its power is not. -/
theorem load_eq_neg_thousandfold {power : ℚ} (notPositive : power ≤ 0) :
    double (|double power| * 1000) = -thousandfold power := by
  have sign : double power ≤ 0 := by
    rcases notPositive.lt_or_eq with negative | zero
    · have reflected := double_pos (show 0 < -power by linarith)
      rw [double_neg] at reflected
      linarith
    · rw [zero, double_zero]
  rw [thousandfold, abs_of_nonpos sign, neg_mul, double_neg]

private theorem injectedWatts_eq (injections : List NodeInjection) (nodeId : UUID) :
    injectedWatts injections nodeId = (injections.map fun injection =>
      if injection.nodeId = nodeId then thousandfold injection.activePowerKw.toRat else 0).sum := by
  induction injections with
  | nil => rfl
  | cons injection rest inductionHypothesis =>
      unfold injectedWatts at inductionHypothesis ⊢
      rw [List.map_cons, List.sum_cons, ← inductionHypothesis]
      by_cases here : injection.nodeId = nodeId
      · simp [here]
      · simp [here]

/-- Nothing is injected where no injection is. -/
theorem injectedWatts_of_absent {injections : List NodeInjection} {nodeId : UUID}
    (absent : nodeId ∉ injections.map NodeInjection.nodeId) :
    injectedWatts injections nodeId = 0 := by
  rw [injectedWatts_eq]
  apply List.sum_eq_zero
  intro watts member
  obtain ⟨injection, present, same⟩ := List.mem_map.mp member
  rw [← same, if_neg]
  intro here
  exact absent (here ▸ List.mem_map_of_mem present)

/-- With one injection a node, that is what is injected there. -/
theorem injectedWatts_of_nodup {injections : List NodeInjection} {injection : NodeInjection}
    (onePerNode : (injections.map NodeInjection.nodeId).Nodup) (member : injection ∈ injections) :
    injectedWatts injections injection.nodeId = thousandfold injection.activePowerKw.toRat := by
  induction injections with
  | nil => cases member
  | cons first rest inductionHypothesis =>
      rw [List.map_cons, List.nodup_cons] at onePerNode
      rw [injectedWatts_eq, List.map_cons, List.sum_cons, ← injectedWatts_eq]
      rcases List.mem_cons.mp member with rfl | later
      · rw [if_pos rfl, injectedWatts_of_absent onePerNode.1, add_zero]
      · have apart : first.nodeId ≠ injection.nodeId := fun same =>
          onePerNode.1 (same ▸ List.mem_map_of_mem later)
        rw [if_neg apart, zero_add, inductionHypothesis onePerNode.2 later]

/-- Generation minus load of an injection is what it injects. -/
theorem net_of_split (nodeIds : Dict UUID ℕ) (id genFirst loadFirst : ℕ)
    (injections : List NodeInjection) :
    wattsAt (genInputs nodeIds genFirst injections) id -
        wattsAt (loadInputs nodeIds loadFirst injections) id =
      (injections.map fun injection => if nodeIds.get? injection.nodeId = some id then
        thousandfold injection.activePowerKw.toRat else 0).sum := by
  unfold genInputs loadInputs
  rw [wattsAt_powerInputs, wattsAt_powerInputs]
  induction injections with
  | nil => simp
  | cons injection rest inductionHypothesis =>
      rw [List.map_cons, List.sum_cons, List.map_cons, List.sum_cons, List.map_cons, List.sum_cons,
        ← inductionHypothesis]
      by_cases numbered : nodeIds.get? injection.nodeId = some id
      · by_cases positive : 0 < injection.activePowerKw.toRat
        · simp only [numbered, positive, not_le.mpr positive, decide_true, decide_false, and_true,
            if_true, Bool.false_eq_true, if_false]
          ring
        · have notPositive := not_lt.mp positive
          simp only [numbered, positive, notPositive, decide_true, decide_false, and_true, if_true,
            Bool.false_eq_true, if_false, load_eq_neg_thousandfold notPositive]
          ring
      · simp only [numbered, and_false, if_false]
        ring

section Built

variable {network : NetworkModel} {injections : List NodeInjection} {idOffset : ℕ} {built : Built}

/-- At a node of the network everything that is injected is placed. -/
theorem placedWatts_of_member
    (datasetBuilds : buildPgmDataset network injections idOffset = .ok built) {nodeId : UUID}
    (member : nodeId ∈ network.nodeIds) :
    placedWatts built nodeId = injectedWatts injections nodeId := by
  obtain ⟨nodeIds, _, ⟨genFirst, gens⟩, loadFirst, loads⟩ := buildPgmDataset_ok datasetBuilds
  have numbered : ((assignIds (idOffset + 1) network.nodeIds).get? nodeId).isSome = true :=
    assignIds_isSome_iff.mpr member
  obtain ⟨id, held⟩ := Option.isSome_iff_exists.mp numbered
  rw [← nodeIds] at held
  unfold placedWatts
  rw [held, gens, loads]
  dsimp only
  rw [net_of_split, injectedWatts_eq]
  congr 1
  apply List.map_congr_left
  intro injection _
  by_cases here : injection.nodeId = nodeId
  · rw [if_pos here, if_pos (by rw [here]; exact held)]
  · rw [if_neg here, if_neg]
    intro other
    rw [nodeIds] at held other
    exact here (assignIds_injective other held)

/-- Outside the network nothing is placed. -/
theorem placedWatts_of_not_member
    (datasetBuilds : buildPgmDataset network injections idOffset = .ok built) {nodeId : UUID}
    (outside : nodeId ∉ network.nodeIds) : placedWatts built nodeId = 0 := by
  have nodeIds := (buildPgmDataset_ok datasetBuilds).1
  unfold placedWatts
  cases held : built.nodeIds.get? nodeId with
  | none => rfl
  | some id =>
      rw [nodeIds] at held
      exact absurd (assignIds_isSome_iff.mp (by rw [held]; rfl)) outside

private theorem thousandfold_eq_zero_iff (value : ℚ) : thousandfold value = 0 ↔ value = 0 := by
  unfold thousandfold
  rw [double_eq_zero_iff, mul_eq_zero, double_eq_zero_iff]
  norm_num

end Built

/-! ## Injections of a request -/

section

variable {request : GridValidationRequest} {idOffset : ℕ} {built : Built}

/-- The combined injections inject the totals. -/
theorem injectedWatts_combined (request : GridValidationRequest) (nodeId : UUID) :
    injectedWatts request.combinedInjections nodeId = thousandfold
      (totalAt (request.baselineInjections ++ request.proposedInjections) nodeId).toRat := by
  by_cases listed : nodeId ∈ (request.baselineInjections ++ request.proposedInjections).map
      NodeInjection.nodeId
  · exact injectedWatts_of_nodup (combinedInjections_nodup request)
      (@mem_combinedInjections request ⟨nodeId, totalAt _ nodeId⟩ |>.mpr ⟨listed, rfl⟩)
  · have absent : nodeId ∉ request.combinedInjections.map NodeInjection.nodeId := by
      intro combined
      obtain ⟨injection, member, rfl⟩ := List.mem_map.mp combined
      exact listed (mem_combinedInjections.mp member).1
    rw [injectedWatts_of_absent absent, totalAt_of_absent listed]
    decide +kernel

/-- Everything reaches the solver exactly when every total that is not zero is at a
node of the network. -/
theorem conserved_iff
    (datasetBuilds : buildPgmDataset request.network request.combinedInjections idOffset =
      .ok built) :
    Conserved built (request.baselineInjections ++ request.proposedInjections) ↔ ∀ nodeId,
      nodeId ∈ request.network.nodeIds ∨
        (totalAt (request.baselineInjections ++ request.proposedInjections) nodeId).toRat = 0 := by
  refine forall_congr' fun nodeId => ?_
  by_cases inside : nodeId ∈ request.network.nodeIds
  · rw [placedWatts_of_member datasetBuilds inside, injectedWatts_combined]
    exact iff_of_true rfl (.inl inside)
  · rw [placedWatts_of_not_member datasetBuilds inside, eq_comm, thousandfold_eq_zero_iff,
      or_iff_right inside]

end

end UrjaSetu.Adapters.PowerGridModel
