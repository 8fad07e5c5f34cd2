import UrjaSetu.Adapters.PowerGridModel.Agreement

/-!
Which breaches a trade is held responsible for.

A result lists voltages, and loadings of a kind none of which is above 100 %, as
one violation of the whole network; loadings above 100 % it lists one element at a
time. What the trade caused is what the combined list has and the baseline lacks.

Owns: breaches of single elements, the ones that are new, which of them the lists
tell, mask or make up, and when a trade is blamed exactly for new breaches.
-/

namespace UrjaSetu.Adapters.PowerGridModel

open UrjaSetu.Domain UrjaSetu.Domain.Interfaces.Grid UrjaSetu.Domain.Policies.GridLimits
open UrjaSetu.Library

/-! ## Breaches of elements -/

def UnderAt (limits : Interfaces.Grid.GridLimits) (output : SolverOutput) (node : ℕ) : Prop :=
  ∃ row ∈ output.node, row.id = node ∧
    ∃ voltage, row.uPu = some voltage ∧
      (roundedDecimal 6 voltage).toRat < limits.minVoltagePu.toRat

def OverAt (limits : Interfaces.Grid.GridLimits) (output : SolverOutput) (node : ℕ) : Prop :=
  ∃ row ∈ output.node, row.id = node ∧
    ∃ voltage, row.uPu = some voltage ∧
      limits.maxVoltagePu.toRat < (roundedDecimal 6 voltage).toRat

/-- A rated element with a finite reading above `limit`. -/
def LoadedAbove (limit : Decimal) (rated : List UUID) (edgeIds : Dict UUID ℕ)
    (rows : List EdgeOutput) (uuid : UUID) : Prop :=
  uuid ∈ rated ∧ ∃ fraction, LoadingAt edgeIds rows uuid fraction ∧ ¬ WithinRating limit fraction

/-- One way in which one element is out of limits. -/
inductive Breach where
  | under (node : ℕ)
  | over (node : ℕ)
  | line (uuid : UUID)
  | transformer (uuid : UUID)

section Breaches

variable (network : NetworkModel) (limits : Interfaces.Grid.GridLimits) (edgeIds : Dict UUID ℕ)

def LineAbove (limit : Decimal) (output : SolverOutput) : UUID → Prop :=
  LoadedAbove limit (ratedLines network) edgeIds output.line

def TransformerAbove (limit : Decimal) (output : SolverOutput) : UUID → Prop :=
  LoadedAbove limit (ratedTransformers network) edgeIds output.transformer

def Breached (output : SolverOutput) : Breach → Prop
  | .under node => UnderAt limits output node
  | .over node => OverAt limits output node
  | .line uuid => LineAbove network edgeIds limits.maxLineLoadingPct output uuid
  | .transformer uuid =>
      TransformerAbove network edgeIds limits.maxTransformerLoadingPct output uuid

/-- Some element is out of limits in a way in which it was not before. -/
def NewBreach (before after : SolverOutput) : Prop :=
  ∃ breach, Breached network limits edgeIds after breach ∧
    ¬ Breached network limits edgeIds before breach

/-! ## What the lists show -/

/-- Some element is out now, and none was. -/
def NewlyAny {Element : Type} (before after : Element → Prop) : Prop :=
  (∃ element, after element) ∧ ∀ element, ¬ before element

/-- An element that was not loaded above 100 % is; or none is, some are above the
limit, and that was not so before. -/
def NewlyLoaded (limitBefore limitAfter nameplateBefore nameplateAfter : UUID → Prop) : Prop :=
  (∃ uuid, nameplateAfter uuid ∧ ¬ nameplateBefore uuid) ∨
    (∀ uuid, ¬ nameplateAfter uuid) ∧ (∃ uuid, limitAfter uuid) ∧
      ((∃ uuid, nameplateBefore uuid) ∨ ∀ uuid, ¬ limitBefore uuid)

/-! ## What becomes of a change -/

/-- An element is newly out, and some were out already. -/
def Masked {Element : Type} (before after : Element → Prop) : Prop :=
  (∃ element, after element ∧ ¬ before element) ∧ ∃ element, before element

/-- An element is newly above the limit; and one is newly above 100 %, or none is
above it where some were, or none was above the limit. -/
def LoadTold (limitBefore limitAfter nameplateBefore nameplateAfter : UUID → Prop) : Prop :=
  (∃ uuid, limitAfter uuid ∧ ¬ limitBefore uuid) ∧
    ((∃ uuid, nameplateAfter uuid ∧ ¬ nameplateBefore uuid) ∨
      (∀ uuid, ¬ nameplateAfter uuid) ∧
        ((∃ uuid, nameplateBefore uuid) ∨ ∀ uuid, ¬ limitBefore uuid))

/-- An element is newly above the limit, where all that are above 100 % were; and
some are, or none was and some were above the limit. -/
def LoadMasked (limitBefore limitAfter nameplateBefore nameplateAfter : UUID → Prop) : Prop :=
  (∃ uuid, limitAfter uuid ∧ ¬ limitBefore uuid) ∧
    (∀ uuid, nameplateAfter uuid → nameplateBefore uuid) ∧
    ((∃ uuid, nameplateAfter uuid) ∨
      (∀ uuid, ¬ nameplateBefore uuid) ∧ ∃ uuid, limitBefore uuid)

/-- All that are above the limit were; but one is newly above 100 %, or none is
above it any more and some are above the limit. -/
def LoadBlamed (limitBefore limitAfter nameplateBefore nameplateAfter : UUID → Prop) : Prop :=
  (∀ uuid, limitAfter uuid → limitBefore uuid) ∧
    ((∃ uuid, nameplateAfter uuid ∧ ¬ nameplateBefore uuid) ∨
      (∀ uuid, ¬ nameplateAfter uuid) ∧ (∃ uuid, nameplateBefore uuid) ∧
        ∃ uuid, limitAfter uuid)

/-- What a relation of loadings says of the lines of two solves. -/
def OfLines (change : (UUID → Prop) → (UUID → Prop) → (UUID → Prop) → (UUID → Prop) → Prop)
    (before after : SolverOutput) : Prop :=
  change (LineAbove network edgeIds limits.maxLineLoadingPct before)
    (LineAbove network edgeIds limits.maxLineLoadingPct after)
    (LineAbove network edgeIds (Decimal.ofUnits 100 0) before)
    (LineAbove network edgeIds (Decimal.ofUnits 100 0) after)

/-- What a relation of loadings says of the transformers of two solves. -/
def OfTransformers
    (change : (UUID → Prop) → (UUID → Prop) → (UUID → Prop) → (UUID → Prop) → Prop)
    (before after : SolverOutput) : Prop :=
  change (TransformerAbove network edgeIds limits.maxTransformerLoadingPct before)
    (TransformerAbove network edgeIds limits.maxTransformerLoadingPct after)
    (TransformerAbove network edgeIds (Decimal.ofUnits 100 0) before)
    (TransformerAbove network edgeIds (Decimal.ofUnits 100 0) after)

/-- Some change shows as what it is. -/
def SomeTold (before after : SolverOutput) : Prop :=
  NewlyAny (UnderAt limits before) (UnderAt limits after) ∨
    NewlyAny (OverAt limits before) (OverAt limits after) ∨
    OfLines network limits edgeIds LoadTold before after ∨
    OfTransformers network limits edgeIds LoadTold before after

/-- Some element is newly out behind others that were. -/
def SomeMasked (before after : SolverOutput) : Prop :=
  Masked (UnderAt limits before) (UnderAt limits after) ∨
    Masked (OverAt limits before) (OverAt limits after) ∨
    OfLines network limits edgeIds LoadMasked before after ∨
    OfTransformers network limits edgeIds LoadMasked before after

/-- Some loading is listed anew though no element of its kind is newly out. -/
def SomeBlamed (before after : SolverOutput) : Prop :=
  OfLines network limits edgeIds LoadBlamed before after ∨
    OfTransformers network limits edgeIds LoadBlamed before after

/-- A change shows as what it is; or none is masked and none made up, or both. -/
def Attributed (before after : SolverOutput) : Prop :=
  SomeTold network limits edgeIds before after ∨
    (SomeMasked network limits edgeIds before after ↔
      SomeBlamed network limits edgeIds before after)

end Breaches

section Changes

variable {Element : Type} {before after : Element → Prop}
  {limitBefore limitAfter nameplateBefore nameplateAfter : UUID → Prop}

/-- An element newly out shows, or is masked by one that was out. -/
theorem newlySome_iff : (∃ element, after element ∧ ¬ before element) ↔
    NewlyAny before after ∨ Masked before after := by
  unfold NewlyAny Masked
  constructor
  · intro some
    by_cases already : ∃ element, before element
    · exact Or.inr ⟨some, already⟩
    · obtain ⟨element, out, _⟩ := some
      exact Or.inl ⟨⟨element, out⟩, not_exists.mp already⟩
  · rintro (⟨⟨element, out⟩, noneBefore⟩ | ⟨some, _⟩)
    · exact ⟨element, out, noneBefore element⟩
    · exact some

/-- A loading newly above the limit is told or masked. -/
theorem newlyAboveLimit_iff : (∃ uuid, limitAfter uuid ∧ ¬ limitBefore uuid) ↔
    LoadTold limitBefore limitAfter nameplateBefore nameplateAfter ∨
      LoadMasked limitBefore limitAfter nameplateBefore nameplateAfter := by
  unfold LoadTold LoadMasked
  rw [← and_or_left, iff_self_and]
  intro _
  by_cases newly : ∃ uuid, nameplateAfter uuid ∧ ¬ nameplateBefore uuid
  · exact Or.inl (Or.inl newly)
  · push Not at newly
    by_cases some : ∃ uuid, nameplateAfter uuid
    · exact Or.inr ⟨newly, Or.inl some⟩
    · by_cases were : ∃ uuid, nameplateBefore uuid
      · exact Or.inl (Or.inr ⟨not_exists.mp some, Or.inl were⟩)
      · by_cases beyond : ∃ uuid, limitBefore uuid
        · exact Or.inr ⟨newly, Or.inr ⟨not_exists.mp were, beyond⟩⟩
        · exact Or.inl (Or.inr ⟨not_exists.mp some, Or.inr (not_exists.mp beyond)⟩)

/-- A loading is listed anew where it is told or blamed. -/
theorem newlyLoaded_iff : NewlyLoaded limitBefore limitAfter nameplateBefore nameplateAfter ↔
    LoadTold limitBefore limitAfter nameplateBefore nameplateAfter ∨
      LoadBlamed limitBefore limitAfter nameplateBefore nameplateAfter := by
  unfold NewlyLoaded LoadTold LoadBlamed
  by_cases newly : ∃ uuid, limitAfter uuid ∧ ¬ limitBefore uuid
  · obtain ⟨uuid, above, wasNot⟩ := newly
    have someAfter : ∃ uuid, limitAfter uuid := ⟨uuid, above⟩
    have notAll : ¬ ∀ uuid, limitAfter uuid → limitBefore uuid :=
      fun all => wasNot (all uuid above)
    have isNewly : ∃ uuid, limitAfter uuid ∧ ¬ limitBefore uuid := ⟨uuid, above, wasNot⟩
    simp only [someAfter, notAll, isNewly, true_and, false_and, or_false]
  · have all : ∀ uuid, limitAfter uuid → limitBefore uuid := by
      push Not at newly
      exact newly
    -- with a loading above the limit now, one was above it before
    have were : (∃ uuid, limitAfter uuid) → ¬ ∀ uuid, ¬ limitBefore uuid := by
      rintro ⟨uuid, above⟩ noneBefore
      exact noneBefore uuid (all uuid above)
    simp only [newly, false_and, false_or]
    rw [and_iff_right all]
    refine or_congr_right (and_congr_right fun _ => ?_)
    constructor
    · rintro ⟨above, some | noneBefore⟩
      · exact ⟨some, above⟩
      · exact absurd noneBefore (were above)
    · rintro ⟨some, above⟩
      exact ⟨above, Or.inl some⟩

end Changes

/-- What a violation is known by. -/
def identity (violation : GridViolation) : GridViolationType × Option UUID :=
  (violation.violationType, violation.elementId)

/-- A trade caused something when the combined list has an identity the baseline
lacks. -/
theorem causedViolations_ne_nil_iff {result : GridValidationResult} :
    result.causedViolations ≠ [] ↔ ∃ key ∈ result.violations.map identity,
      key ∉ result.baselineViolations.map identity := by
  unfold GridValidationResult.causedViolations
  rw [Ne, List.filter_eq_nil_iff]
  constructor
  · intro some
    push Not at some
    obtain ⟨violation, member, apart⟩ := some
    exact ⟨identity violation, List.mem_map_of_mem member, of_decide_eq_true apart⟩
  · rintro ⟨key, member, apart⟩ every
    obtain ⟨violation, isViolation, same⟩ := List.mem_map.mp member
    refine every violation isViolation (decide_eq_true ?_)
    rw [← same] at apart
    exact apart

/-! ## One solve -/

section Listed

variable {network : NetworkModel} {limits : Interfaces.Grid.GridLimits} {first : ℕ}
  {uuids : List UUID} {output : SolverOutput}

/-- The violations listed for one solve. -/
def listed (network : NetworkModel) (limits : Interfaces.Grid.GridLimits) (edgeIds : Dict UUID ℕ)
    (output : SolverOutput) : List GridViolation :=
  let extracted := extractMetrics output network edgeIds
  mergeViolations extracted.2 (evaluateMetrics extracted.1 limits)

private theorem mem_overloads {violationType : GridViolationType} {kind : String}
    {loadings : List (UUID × Decimal)} {key : GridViolationType × Option UUID} :
    key ∈ (overloads violationType kind loadings).map identity ↔
      key.1 = violationType ∧ ∃ entry ∈ loadings,
        (Decimal.ofUnits 100 0).toRat < entry.2.toRat ∧ key.2 = some entry.1 := by
  unfold overloads
  rw [List.map_map, List.mem_map]
  constructor
  · rintro ⟨entry, member, rfl⟩
    obtain ⟨isLoading, above⟩ := List.mem_filter.mp member
    exact ⟨rfl, entry, isLoading, of_decide_eq_true above, rfl⟩
  · rintro ⟨ofKind, entry, isLoading, above, ofElement⟩
    exact ⟨entry, List.mem_filter.mpr ⟨isLoading, decide_eq_true above⟩,
      Prod.ext ofKind.symm ofElement.symm⟩

private theorem mem_violationOf {violationType : GridViolationType} {detail : String}
    {breaches : ℚ → ℚ → Bool} {limit : Decimal} {metric : Option Decimal}
    {key : GridViolationType × Option UUID} :
    key ∈ (violationOf violationType detail breaches limit metric).map identity ↔
      key = (violationType, none) ∧
        violationOf violationType detail breaches limit metric ≠ [] := by
  cases metric with
  | none => simp [violationOf]
  | some observed =>
      by_cases breached : breaches observed.toRat limit.toRat = true
      · simp [violationOf, breached, identity]
      · simp [violationOf, breached]

/-- Loadings of a kind are beyond a bound exactly when one of a rated element is. -/
theorem loadedAbove_iff {elements rated : List UUID} {rows : List EdgeOutput}
    (ratedElements : rated ⊆ elements) {limit : Decimal} {uuid : UUID} :
    (∃ entry ∈ ratedLoadings (assignIds first uuids) elements rated rows,
        limit.toRat < entry.2.toRat ∧ uuid = entry.1) ↔
      LoadedAbove limit rated (assignIds first uuids) rows uuid := by
  unfold LoadedAbove WithinRating
  constructor
  · rintro ⟨⟨element, pct⟩, member, above, rfl⟩
    obtain ⟨isRated, fraction, reading, same⟩ := (mem_ratedLoadings ratedElements).mp member
    rw [same] at above
    exact ⟨isRated, fraction, reading, not_le.mpr above⟩
  · rintro ⟨isRated, fraction, reading, above⟩
    exact ⟨(uuid, loadingPct fraction),
      (mem_ratedLoadings ratedElements).mpr ⟨isRated, fraction, reading, rfl⟩,
      not_le.mp above, rfl⟩

/-- A violation of the whole network counts where no element is named for its type. -/
theorem mem_mergeViolations {perElement aggregate : List GridViolation}
    {key : GridViolationType × Option UUID} :
    key ∈ (mergeViolations perElement aggregate).map identity ↔
      key ∈ perElement.map identity ∨
        key ∈ aggregate.map identity ∧ ∀ other ∈ perElement.map identity, key.1 ≠ other.1 := by
  unfold mergeViolations
  rw [List.map_append, List.mem_append]
  refine or_congr_right ?_
  constructor
  · intro member
    obtain ⟨violation, kept, rfl⟩ := List.mem_map.mp member
    obtain ⟨isAggregate, unnamed⟩ := List.mem_filter.mp kept
    refine ⟨List.mem_map_of_mem isAggregate, ?_⟩
    intro other isOther same
    obtain ⟨named, isNamed, rfl⟩ := List.mem_map.mp isOther
    exact of_decide_eq_true unnamed (List.any_eq_true.mpr ⟨named, isNamed, decide_eq_true same⟩)
  · rintro ⟨member, unnamed⟩
    obtain ⟨violation, isAggregate, rfl⟩ := List.mem_map.mp member
    refine List.mem_map_of_mem (List.mem_filter.mpr ⟨isAggregate, decide_eq_true ?_⟩)
    intro found
    obtain ⟨named, isNamed, same⟩ := List.any_eq_true.mp found
    exact unnamed (identity named) (List.mem_map_of_mem isNamed) (of_decide_eq_true same)

/-- How loadings of one kind are listed. -/
def LoadingListed (limit nameplate : UUID → Prop) (element : Option UUID) : Prop :=
  (∃ uuid, element = some uuid ∧ nameplate uuid) ∨
    element = none ∧ (∀ uuid, ¬ nameplate uuid) ∧ ∃ uuid, limit uuid

private theorem mem_evaluateMetrics {metrics : GridMetrics}
    {key : GridViolationType × Option UUID} :
    key ∈ (evaluateMetrics metrics limits).map identity ↔ key.2 = none ∧
      (key.1 = .underVoltage ∧ ¬ (∀ observed, metrics.minVoltagePu = some observed →
          limits.minVoltagePu.toRat ≤ observed.toRat) ∨
        key.1 = .overVoltage ∧ ¬ (∀ observed, metrics.maxVoltagePu = some observed →
          observed.toRat ≤ limits.maxVoltagePu.toRat) ∨
        key.1 = .lineOverload ∧ ¬ (∀ observed, metrics.maxLineLoadingPct = some observed →
          observed.toRat ≤ limits.maxLineLoadingPct.toRat) ∨
        key.1 = .transformerOverload ∧
          ¬ (∀ observed, metrics.maxTransformerLoadingPct = some observed →
            observed.toRat ≤ limits.maxTransformerLoadingPct.toRat)) := by
  unfold evaluateMetrics
  simp only [List.map_append, List.mem_append, mem_violationOf, Ne, violationOf_eq_nil_iff,
    decide_eq_false_iff_not, not_lt, Prod.ext_iff]
  tauto

/-- A metric above its limit is some rated element above it. -/
theorem largest_above_iff {elements rated : List UUID} {rows : List EdgeOutput}
    (ratedElements : rated ⊆ elements) {limit : Decimal} :
    ¬ (∀ observed, largest Decimal.toRat ((ratedLoadings (assignIds first uuids) elements rated
        rows).map Prod.snd) = some observed → observed.toRat ≤ limit.toRat) ↔
      ∃ uuid, LoadedAbove limit rated (assignIds first uuids) rows uuid := by
  rw [largest_loading_iff]
  push Not
  constructor
  · rintro ⟨entry, member, above⟩
    exact ⟨entry.1, (loadedAbove_iff ratedElements).mp ⟨entry, member, above, rfl⟩⟩
  · rintro ⟨uuid, above⟩
    obtain ⟨entry, member, exceeds, _⟩ := (loadedAbove_iff ratedElements).mpr above
    exact ⟨entry, member, exceeds⟩

private theorem minVoltage_below_iff {rows : List NodeOutput} :
    ¬ (∀ observed, (largest (fun voltage => -voltage) (rows.filterMap NodeOutput.uPu)).map
        (roundedDecimal 6) = some observed → limits.minVoltagePu.toRat ≤ observed.toRat) ↔
      ∃ row ∈ rows, ∃ voltage, row.uPu = some voltage ∧
        (roundedDecimal 6 voltage).toRat < limits.minVoltagePu.toRat := by
  rw [minVoltage_iff]
  push Not
  rfl

private theorem maxVoltage_above_iff {rows : List NodeOutput} :
    ¬ (∀ observed, (largest id (rows.filterMap NodeOutput.uPu)).map (roundedDecimal 6) =
        some observed → observed.toRat ≤ limits.maxVoltagePu.toRat) ↔
      ∃ row ∈ rows, ∃ voltage, row.uPu = some voltage ∧
        limits.maxVoltagePu.toRat < (roundedDecimal 6 voltage).toRat := by
  rw [maxVoltage_iff]
  push Not
  rfl

private theorem exists_underAt_iff : (∃ node, UnderAt limits output node) ↔
    ∃ row ∈ output.node, ∃ voltage, row.uPu = some voltage ∧
      (roundedDecimal 6 voltage).toRat < limits.minVoltagePu.toRat := by
  constructor
  · rintro ⟨_, row, member, _, below⟩
    exact ⟨row, member, below⟩
  · rintro ⟨row, member, below⟩
    exact ⟨row.id, row, member, rfl, below⟩

private theorem exists_overAt_iff : (∃ node, OverAt limits output node) ↔
    ∃ row ∈ output.node, ∃ voltage, row.uPu = some voltage ∧
      limits.maxVoltagePu.toRat < (roundedDecimal 6 voltage).toRat := by
  constructor
  · rintro ⟨_, row, member, _, above⟩
    exact ⟨row, member, above⟩
  · rintro ⟨row, member, above⟩
    exact ⟨row.id, row, member, rfl, above⟩

/-- The violations of one element at a time. -/
theorem mem_extracted {key : GridViolationType × Option UUID} :
    key ∈ (extractMetrics output network (assignIds first uuids)).2.map identity ↔
      (key.1 = .lineOverload ∧ ∃ uuid, key.2 = some uuid ∧
          LineAbove network (assignIds first uuids) (Decimal.ofUnits 100 0) output uuid) ∨
        key.1 = .transformerOverload ∧ ∃ uuid, key.2 = some uuid ∧
          TransformerAbove network (assignIds first uuids) (Decimal.ofUnits 100 0) output
            uuid := by
  dsimp only [extractMetrics]
  rw [List.map_append, List.mem_append, mem_overloads, mem_overloads]
  have ofKind : ∀ {elements rated : List UUID} {rows : List EdgeOutput}, rated ⊆ elements →
      ((∃ entry ∈ ratedLoadings (assignIds first uuids) elements rated rows,
          (Decimal.ofUnits 100 0).toRat < entry.2.toRat ∧ key.2 = some entry.1) ↔
        ∃ uuid, key.2 = some uuid ∧
          LoadedAbove (Decimal.ofUnits 100 0) rated (assignIds first uuids) rows uuid) := by
    intro elements rated rows ratedElements
    constructor
    · rintro ⟨entry, member, above, named⟩
      exact ⟨entry.1, named, (loadedAbove_iff ratedElements).mp ⟨entry, member, above, rfl⟩⟩
    · rintro ⟨uuid, named, above⟩
      obtain ⟨entry, member, exceeds, rfl⟩ := (loadedAbove_iff ratedElements).mpr above
      exact ⟨entry, member, exceeds, named⟩
  exact or_congr (and_congr_right fun _ => ofKind (ratedLines_subset network))
    (and_congr_right fun _ => ofKind (ratedTransformers_subset network))

/-- No element is named for a type that none exceeds. -/
theorem unnamed_iff {violationType : GridViolationType} :
    (∀ other ∈ (extractMetrics output network (assignIds first uuids)).2.map identity,
        violationType ≠ other.1) ↔
      (violationType = .lineOverload → ∀ uuid,
          ¬ LineAbove network (assignIds first uuids) (Decimal.ofUnits 100 0) output uuid) ∧
        (violationType = .transformerOverload → ∀ uuid,
          ¬ TransformerAbove network (assignIds first uuids) (Decimal.ofUnits 100 0) output
            uuid) := by
  constructor
  · intro unnamed
    constructor
    · intro ofKind uuid above
      exact unnamed (.lineOverload, some uuid)
        (mem_extracted.mpr (Or.inl ⟨rfl, uuid, rfl, above⟩)) ofKind
    · intro ofKind uuid above
      exact unnamed (.transformerOverload, some uuid)
        (mem_extracted.mpr (Or.inr ⟨rfl, uuid, rfl, above⟩)) ofKind
  · rintro ⟨noLine, noTransformer⟩ other member same
    rcases mem_extracted.mp member with ⟨ofKind, uuid, _, above⟩ | ⟨ofKind, uuid, _, above⟩
    · exact noLine (same.trans ofKind) uuid above
    · exact noTransformer (same.trans ofKind) uuid above

/-- What a list shows of one solve, by type. -/
theorem mem_listed {key : GridViolationType × Option UUID} :
    key ∈ (listed network limits (assignIds first uuids) output).map identity ↔
      (key.1 = .underVoltage ∧ key.2 = none ∧ ∃ node, UnderAt limits output node) ∨
      (key.1 = .overVoltage ∧ key.2 = none ∧ ∃ node, OverAt limits output node) ∨
      (key.1 = .lineOverload ∧ LoadingListed
        (LineAbove network (assignIds first uuids) limits.maxLineLoadingPct output)
        (LineAbove network (assignIds first uuids) (Decimal.ofUnits 100 0) output) key.2) ∨
      key.1 = .transformerOverload ∧ LoadingListed
        (TransformerAbove network (assignIds first uuids) limits.maxTransformerLoadingPct output)
        (TransformerAbove network (assignIds first uuids) (Decimal.ofUnits 100 0) output)
        key.2 := by
  unfold listed
  dsimp only
  rw [mem_mergeViolations, unnamed_iff, mem_extracted, mem_evaluateMetrics]
  dsimp only [extractMetrics]
  unfold lineLoadings transformerLoadings
  rw [largest_above_iff (ratedLines_subset network), largest_above_iff
    (ratedTransformers_subset network), minVoltage_below_iff, maxVoltage_above_iff,
    exists_underAt_iff, exists_overAt_iff]
  unfold LoadingListed LineAbove TransformerAbove
  obtain ⟨violationType, element⟩ := key
  cases violationType with
  | underVoltage => simp
  | overVoltage => simp
  | lineOverload =>
      simp only [reduceCtorEq, false_and, false_or, or_false, true_and, forall_const,
        IsEmpty.forall_iff, and_true]
      rw [and_assoc]
      exact or_congr_right (and_congr_right fun _ => and_comm)
  | transformerOverload =>
      simp only [reduceCtorEq, false_and, false_or, true_and, forall_const,
        IsEmpty.forall_iff]
      rw [and_assoc]
      exact or_congr_right (and_congr_right fun _ => and_comm)

/-- A list has something of a loading that the other lacks. -/
theorem loadingListed_new_iff {limitBefore limitAfter nameplateBefore nameplateAfter : UUID → Prop} :
    (∃ element, LoadingListed limitAfter nameplateAfter element ∧
        ¬ LoadingListed limitBefore nameplateBefore element) ↔
      NewlyLoaded limitBefore limitAfter nameplateBefore nameplateAfter := by
  unfold LoadingListed NewlyLoaded
  constructor
  · rintro ⟨element, ⟨uuid, rfl, above⟩ | ⟨rfl, noneAbove, beyond⟩, apart⟩
    · exact Or.inl ⟨uuid, above, fun before => apart (Or.inl ⟨uuid, rfl, before⟩)⟩
    · refine Or.inr ⟨noneAbove, beyond, ?_⟩
      by_contra neither
      push Not at neither
      exact apart (Or.inr ⟨rfl, neither.1, neither.2⟩)
  · rintro (⟨uuid, above, notBefore⟩ | ⟨noneAbove, beyond, before⟩)
    · refine ⟨some uuid, Or.inl ⟨uuid, rfl, above⟩, ?_⟩
      rintro (⟨other, same, wasAbove⟩ | ⟨absent, _⟩)
      · cases same
        exact notBefore wasAbove
      · cases absent
    · refine ⟨none, Or.inr ⟨rfl, noneAbove, beyond⟩, ?_⟩
      rintro (⟨other, same, _⟩ | ⟨_, noneBefore, ⟨uuid, wasBeyond⟩⟩)
      · cases same
      · rcases before with ⟨other, wasAbove⟩ | noneBeyond
        · exact noneBefore other wasAbove
        · exact noneBeyond uuid wasBeyond

/-- The list of one solve has something the list of another lacks. -/
theorem listed_new_iff {before after : SolverOutput} :
    (∃ key ∈ (listed network limits (assignIds first uuids) after).map identity,
        key ∉ (listed network limits (assignIds first uuids) before).map identity) ↔
      NewlyAny (UnderAt limits before) (UnderAt limits after) ∨
        NewlyAny (OverAt limits before) (OverAt limits after) ∨
        OfLines network limits (assignIds first uuids) NewlyLoaded before after ∨
        OfTransformers network limits (assignIds first uuids) NewlyLoaded before after := by
  unfold OfLines OfTransformers
  rw [← loadingListed_new_iff, ← loadingListed_new_iff]
  constructor
  · rintro ⟨⟨violationType, element⟩, isAfter, notBefore⟩
    rw [mem_listed] at isAfter notBefore
    push Not at notBefore
    rcases isAfter with ⟨ofType, unnamed, out⟩ | ⟨ofType, unnamed, out⟩ | ⟨ofType, above⟩ |
      ⟨ofType, above⟩
    · exact Or.inl ⟨out, notBefore.1 ofType unnamed⟩
    · exact Or.inr (Or.inl ⟨out, notBefore.2.1 ofType unnamed⟩)
    · exact Or.inr (Or.inr (Or.inl ⟨element, above, notBefore.2.2.1 ofType⟩))
    · exact Or.inr (Or.inr (Or.inr ⟨element, above, notBefore.2.2.2 ofType⟩))
  · rintro (⟨out, noneBefore⟩ | ⟨out, noneBefore⟩ | ⟨element, above, notBefore⟩ |
      ⟨element, above, notBefore⟩)
    · refine ⟨(.underVoltage, none), mem_listed.mpr (Or.inl ⟨rfl, rfl, out⟩), ?_⟩
      rw [mem_listed]
      simp [noneBefore]
    · refine ⟨(.overVoltage, none), mem_listed.mpr (Or.inr (Or.inl ⟨rfl, rfl, out⟩)), ?_⟩
      rw [mem_listed]
      simp [noneBefore]
    · refine ⟨(.lineOverload, element),
        mem_listed.mpr (Or.inr (Or.inr (Or.inl ⟨rfl, above⟩))), ?_⟩
      rw [mem_listed]
      simp [notBefore]
    · refine ⟨(.transformerOverload, element),
        mem_listed.mpr (Or.inr (Or.inr (Or.inr ⟨rfl, above⟩))), ?_⟩
      rw [mem_listed]
      simp [notBefore]

/-- A new breach is one change that is told or masked. -/
theorem newBreach_iff {edgeIds : Dict UUID ℕ} {before after : SolverOutput} :
    NewBreach network limits edgeIds before after ↔
      SomeTold network limits edgeIds before after ∨
        SomeMasked network limits edgeIds before after := by
  have kinds : NewBreach network limits edgeIds before after ↔
      (∃ node, UnderAt limits after node ∧ ¬ UnderAt limits before node) ∨
      (∃ node, OverAt limits after node ∧ ¬ OverAt limits before node) ∨
      (∃ uuid, LineAbove network edgeIds limits.maxLineLoadingPct after uuid ∧
        ¬ LineAbove network edgeIds limits.maxLineLoadingPct before uuid) ∨
      ∃ uuid, TransformerAbove network edgeIds limits.maxTransformerLoadingPct after uuid ∧
        ¬ TransformerAbove network edgeIds limits.maxTransformerLoadingPct before uuid := by
    constructor
    · rintro ⟨breach, isNew⟩
      rcases breach with node | node | uuid | uuid
      · exact Or.inl ⟨node, isNew⟩
      · exact Or.inr (Or.inl ⟨node, isNew⟩)
      · exact Or.inr (Or.inr (Or.inl ⟨uuid, isNew⟩))
      · exact Or.inr (Or.inr (Or.inr ⟨uuid, isNew⟩))
    · rintro (⟨node, isNew⟩ | ⟨node, isNew⟩ | ⟨uuid, isNew⟩ | ⟨uuid, isNew⟩)
      · exact ⟨.under node, isNew⟩
      · exact ⟨.over node, isNew⟩
      · exact ⟨.line uuid, isNew⟩
      · exact ⟨.transformer uuid, isNew⟩
  rw [kinds, newlySome_iff, newlySome_iff, newlyAboveLimit_iff, newlyAboveLimit_iff]
  unfold SomeTold SomeMasked OfLines OfTransformers
  tauto

/-- The lists differ where a change is told or blamed. -/
theorem listed_new_iff_told {before after : SolverOutput} :
    (∃ key ∈ (listed network limits (assignIds first uuids) after).map identity,
        key ∉ (listed network limits (assignIds first uuids) before).map identity) ↔
      SomeTold network limits (assignIds first uuids) before after ∨
        SomeBlamed network limits (assignIds first uuids) before after := by
  rw [listed_new_iff]
  unfold SomeTold SomeBlamed OfLines OfTransformers
  rw [newlyLoaded_iff, newlyLoaded_iff]
  tauto

/-- The lists differ exactly for new breaches when they attribute them. -/
theorem listed_attributes_iff {before after : SolverOutput} :
    ((∃ key ∈ (listed network limits (assignIds first uuids) after).map identity,
        key ∉ (listed network limits (assignIds first uuids) before).map identity) ↔
      NewBreach network limits (assignIds first uuids) before after) ↔
    Attributed network limits (assignIds first uuids) before after := by
  rw [listed_new_iff_told, newBreach_iff]
  unfold Attributed
  by_cases told : SomeTold network limits (assignIds first uuids) before after
  · simp only [told, true_or]
  · simp only [told, false_or]
    exact iff_comm

end Listed

section Verdict

variable (version : String) {solve : Solver} {request : GridValidationRequest}
  {baselineBuilt built : Built} {before after : SolverOutput}

/-- What the trade caused is nonempty exactly for new breaches, when the lists
attribute them. -/
theorem causedViolations_attributed_iff
    (baselineBuilds : buildPgmDataset request.network request.baselineInjections =
      .ok baselineBuilt)
    (baselineAnswers : solve baselineBuilt.inputData = .ok before)
    (datasetBuilds : buildPgmDataset request.network request.combinedInjections = .ok built)
    (solverAnswers : solve built.inputData = .ok after) :
    ∃ result, validate version solve request = .ok result ∧
      ((result.causedViolations ≠ [] ↔
          NewBreach request.network request.limits built.edgeIds before after) ↔
        Attributed request.network request.limits built.edgeIds before after) := by
  have baselineSolved : solved solve request request.baselineInjections =
      .ok (extractMetrics before request.network baselineBuilt.edgeIds) := by
    unfold solved
    rw [baselineBuilds, ok_bind, baselineAnswers, ok_bind]
    rfl
  have isSolved : solved solve request request.combinedInjections =
      .ok (extractMetrics after request.network built.edgeIds) := by
    unfold solved
    rw [datasetBuilds, ok_bind, solverAnswers, ok_bind]
    rfl
  have baselineNumbering := (buildPgmDataset_ok baselineBuilds).2.1
  have numbering := (buildPgmDataset_ok datasetBuilds).2.1
  unfold validate
  rw [baselineSolved, isSolved, ok_bind]
  refine ⟨_, rfl, ?_⟩
  rw [causedViolations_ne_nil_iff, baselineNumbering, numbering]
  exact listed_attributes_iff

end Verdict

/-! ## A feeder that is low already -/

/-- The spur with a load that is traded to its end. -/
def tradedRequest : GridValidationRequest :=
  { spurRequest with proposedInjections := [⟨2, ⟨true, 10, 0⟩⟩] }

/-- Low at the feeder only. -/
def lowOutput : SolverOutput where
  node := [⟨1, some (9 / 10)⟩, ⟨2, some 1⟩]
  line := [⟨3, some (1 / 4)⟩]

/-- Low at both ends. -/
def lowerOutput : SolverOutput where
  node := [⟨1, some (9 / 10)⟩, ⟨2, some (9 / 10)⟩]
  line := [⟨3, some (1 / 4)⟩]

/-- In band at both ends. -/
def fineOutput : SolverOutput where
  node := [⟨1, some 1⟩, ⟨2, some 1⟩]
  line := [⟨3, some (1 / 4)⟩]

/-- The second answer is for arrays with a load. -/
def twoAnswers (before after : SolverOutput) : Solver := fun data =>
  .ok (if data.symLoad = [] then before else after)

private theorem exists_of_map_ok {α β : Type} {action : Except String α} {read : α → β} {value : β}
    (mapped : action.map read = .ok value) : ∃ outcome, action = .ok outcome ∧
      read outcome = value := by
  cases action with
  | error error => cases mapped
  | ok outcome => exact ⟨outcome, rfl, Except.ok.inj mapped⟩

private theorem traded_builds (before after : SolverOutput) : ∃ baselineBuilt built,
    buildPgmDataset tradedRequest.network tradedRequest.baselineInjections = .ok baselineBuilt ∧
      buildPgmDataset tradedRequest.network tradedRequest.combinedInjections = .ok built ∧
      twoAnswers before after baselineBuilt.inputData = .ok before ∧
      twoAnswers before after built.inputData = .ok after := by
  have baselineLoads : (buildPgmDataset tradedRequest.network
      tradedRequest.baselineInjections).map (fun built => built.inputData.symLoad.length) =
      .ok 0 := by decide +kernel
  have loads : (buildPgmDataset tradedRequest.network tradedRequest.combinedInjections).map
      (fun built => built.inputData.symLoad.length) = .ok 1 := by decide +kernel
  obtain ⟨baselineBuilt, baselineBuilds, noLoad⟩ := exists_of_map_ok baselineLoads
  obtain ⟨built, datasetBuilds, oneLoad⟩ := exists_of_map_ok loads
  refine ⟨baselineBuilt, built, baselineBuilds, datasetBuilds, ?_, ?_⟩
  · unfold twoAnswers
    rw [if_pos (List.eq_nil_of_length_eq_zero noLoad)]
  · unfold twoAnswers
    rw [if_neg]
    intro empty
    rw [empty] at oneLoad
    cases oneLoad

/-- Where none was out of band, the trade is responsible for the ones that are. -/
theorem causedViolations_attributed_sample : ∃ (built : Built) (result : GridValidationResult),
    validate "1.13" (twoAnswers fineOutput lowerOutput) tradedRequest = .ok result ∧
      (result.causedViolations ≠ [] ↔ NewBreach tradedRequest.network tradedRequest.limits
        built.edgeIds fineOutput lowerOutput) ∧
      result.causedViolations ≠ [] := by
  obtain ⟨baselineBuilt, built, baselineBuilds, datasetBuilds, baselineAnswers, answers⟩ :=
    traded_builds fineOutput lowerOutput
  obtain ⟨result, returned, attributes⟩ := causedViolations_attributed_iff "1.13" baselineBuilds
    baselineAnswers datasetBuilds answers
  have risen : NewlyAny (UnderAt tradedRequest.limits fineOutput)
      (UnderAt tradedRequest.limits lowerOutput) := by
    refine ⟨⟨1, ⟨1, some (9 / 10)⟩, List.mem_cons_self, rfl, 9 / 10, rfl, by decide +kernel⟩, ?_⟩
    rintro node ⟨row, member, _, voltage, finite, below⟩
    have fine : row.uPu = some 1 := by
      rcases List.mem_cons.mp member with rfl | member
      · rfl
      · rw [List.mem_singleton.mp member]
    obtain rfl := Option.some.inj (fine.symm.trans finite)
    revert below
    decide +kernel
  have same := attributes.mpr (Or.inl (Or.inl risen))
  exact ⟨built, result, returned, same, same.mpr (newBreach_iff.mpr (Or.inl (Or.inl risen)))⟩

/-- A voltage that falls out of band is not the trade's, where another was out
before. -/
theorem hiddenUnderVoltage_unattributed : ∃ built result,
    buildPgmDataset tradedRequest.network tradedRequest.combinedInjections = .ok built ∧
      validate "1.13" (twoAnswers lowOutput lowerOutput) tradedRequest = .ok result ∧
      result.causedViolations = [] ∧
      NewBreach tradedRequest.network tradedRequest.limits built.edgeIds lowOutput
        lowerOutput := by
  obtain ⟨_, built, _, datasetBuilds, _⟩ := traded_builds lowOutput lowerOutput
  have caused : (validate "1.13" (twoAnswers lowOutput lowerOutput) tradedRequest).map
      GridValidationResult.causedViolations = .ok [] := by decide +kernel
  obtain ⟨result, returned, nothing⟩ := exists_of_map_ok caused
  refine ⟨built, result, datasetBuilds, returned, nothing, .under 2, ?_, ?_⟩
  · exact ⟨⟨2, some (9 / 10)⟩, List.mem_cons_of_mem _ (List.mem_singleton.mpr rfl), rfl, 9 / 10, rfl,
      by decide +kernel⟩
  · rintro ⟨row, member, isSecond, voltage, finite, below⟩
    rcases List.mem_cons.mp member with rfl | member
    · cases isSecond
    · obtain rfl := List.mem_singleton.mp member
      cases finite
      revert below
      decide +kernel

end UrjaSetu.Adapters.PowerGridModel
