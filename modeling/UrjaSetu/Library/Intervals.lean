import Mathlib

/-!
Lists of half-open intervals `[start, stop)`.

Owns: tilings from an origin, lists of which no item starts inside another, and
that a list in the order of its starts is a tiling when each item starts where
another stops.
-/

namespace UrjaSetu.Library.Intervals

variable {α κ : Type*} (start stop : α → κ)

/-- The items follow one another from `origin` on, without gap or overlap. -/
def TilesFrom : κ → List α → Prop
  | _, [] => True
  | origin, item :: rest => start item = origin ∧ TilesFrom (stop item) rest

/-- No item starts while another lasts. -/
def Apart [LinearOrder κ] (items : List α) : Prop :=
  ∀ earlier ∈ items, ∀ later ∈ items, start earlier < start later → stop earlier ≤ start later

/-- The durations of all items. -/
def totalDuration [AddCommGroup κ] (items : List α) : κ := (items.map fun item => stop item - start item).sum

variable {start stop} {origin : κ} {item : α} {items rest : List α}

@[simp] theorem totalDuration_cons [AddCommGroup κ] :
    totalDuration start stop (item :: rest) =
      stop item - start item + totalDuration start stop rest := by
  simp [totalDuration]

theorem totalDuration_perm [AddCommGroup κ] {other : List α}
    (permuted : items.Perm other) :
    totalDuration start stop items = totalDuration start stop other :=
  (permuted.map _).sum_eq

/-- In the order of their starts, disjoint intervals are intervals that lie apart. -/
theorem pairwise_disjoint_iff_apart [LinearOrder κ]
    (increasing : items.Pairwise fun earlier later => start earlier < start later)
    (proper : ∀ item ∈ items, start item < stop item) :
    items.Pairwise (fun earlier later =>
        Disjoint (Set.Ico (start earlier) (stop earlier)) (Set.Ico (start later) (stop later))) ↔
      Apart start stop items := by
  have disjoint : ∀ earlier ∈ items, ∀ later ∈ items, start earlier < start later →
      (Disjoint (Set.Ico (start earlier) (stop earlier)) (Set.Ico (start later) (stop later)) ↔
        stop earlier ≤ start later) := by
    intro earlier _ later laterIn before
    rw [Set.Ico_disjoint_Ico, max_eq_right before.le, min_le_iff]
    exact or_iff_left (not_le.mpr (proper later laterIn))
  constructor
  · intro pairwise earlier earlierIn later laterIn before
    rw [← disjoint earlier earlierIn later laterIn before]
    have symmetric : Std.Symm fun earlier later =>
        Disjoint (Set.Ico (start earlier) (stop earlier)) (Set.Ico (start later) (stop later)) :=
      ⟨fun _ _ apart => apart.symm⟩
    exact pairwise.forall earlierIn laterIn fun same => before.ne (congrArg start same)
  · intro apart
    apply increasing.imp_of_mem
    intro earlier later earlierIn laterIn before
    exact (disjoint earlier earlierIn later laterIn before).mpr
      (apart earlier earlierIn later laterIn before)

/-- An item starts at `origin` or where an item stops. -/
def Linked (start stop : α → κ) (origin : κ) (items : List α) : Prop :=
  ∀ item ∈ items, start item = origin ∨ ∃ earlier ∈ items, stop earlier = start item

theorem linked_congr {other : List α} (same : ∀ item, item ∈ items ↔ item ∈ other) :
    Linked start stop origin items ↔ Linked start stop origin other := by
  unfold Linked
  simp only [same]

theorem TilesFrom.linked (tiles : TilesFrom start stop origin items) :
    Linked start stop origin items := by
  induction items generalizing origin with
  | nil => intro item absurdity; cases absurdity
  | cons head rest inductionHypothesis =>
      obtain ⟨first, restTiles⟩ := tiles
      intro item member
      rcases List.mem_cons.mp member with isHead | later
      · exact Or.inl (isHead ▸ first)
      · right
        rcases inductionHypothesis restTiles item later with next | ⟨earlier, within, meets⟩
        · exact ⟨head, by simp, next.symm⟩
        · exact ⟨earlier, List.mem_cons_of_mem _ within, meets⟩

/-- Items in the order of their starts tile exactly where each is linked: nothing
stops where the first starts, and only the item before stops where another
starts. -/
theorem tilesFrom_iff_linked [LinearOrder κ]
    (increasing : items.Pairwise fun earlier later => start earlier < start later)
    (proper : ∀ item ∈ items, start item < stop item) :
    TilesFrom start stop origin items ↔ Linked start stop origin items := by
  refine ⟨TilesFrom.linked, ?_⟩
  intro linked
  induction items generalizing origin with
  | nil => trivial
  | cons head rest inductionHypothesis =>
      obtain ⟨headFirst, restIncreasing⟩ := List.pairwise_cons.mp increasing
      have first : start head = origin := by
        rcases linked head (by simp) with atOrigin | ⟨earlier, within, meets⟩
        · exact atOrigin
        · have before := proper earlier within
          rw [meets] at before
          rcases List.mem_cons.mp within with isHead | later
          · rw [isHead] at before
            exact absurd before (lt_irrefl _)
          · exact absurd before (headFirst earlier later).asymm
      refine ⟨first, inductionHypothesis restIncreasing
        (fun item member => proper item (List.mem_cons_of_mem _ member)) ?_⟩
      intro item member
      rcases linked item (List.mem_cons_of_mem _ member) with atOrigin | ⟨earlier, within, meets⟩
      · exact absurd (first.trans atOrigin.symm) (headFirst item member).ne
      · rcases List.mem_cons.mp within with isHead | later
        · exact Or.inl (meets.symm.trans (congrArg stop isHead))
        · exact Or.inr ⟨earlier, later, meets⟩

variable [AddCommGroup κ]

/-- The durations of a tiling reach from its origin to the end of an item. -/
theorem TilesFrom.reach (tiles : TilesFrom start stop origin items) (nonempty : items ≠ []) :
    ∃ last ∈ items, stop last - origin = totalDuration start stop items := by
  induction items generalizing origin with
  | nil => exact absurd rfl nonempty
  | cons item rest inductionHypothesis =>
      obtain ⟨first, restTiles⟩ := tiles
      cases rest with
      | nil => exact ⟨item, by simp, by simp [totalDuration, first]⟩
      | cons next others =>
          obtain ⟨last, member, reached⟩ := inductionHypothesis restTiles (by simp)
          refine ⟨last, List.mem_cons_of_mem _ member, ?_⟩
          rw [totalDuration_cons, ← reached, first]
          abel

variable [LinearOrder κ] [IsOrderedAddMonoid κ]

/-- Nothing of a tiling starts before its origin or lasts beyond its durations. -/
theorem TilesFrom.bounds (tiles : TilesFrom start stop origin items)
    (proper : ∀ item ∈ items, start item < stop item) (member : item ∈ items) :
    origin ≤ start item ∧ stop item - origin ≤ totalDuration start stop items := by
  induction items generalizing origin with
  | nil => cases member
  | cons head rest inductionHypothesis =>
      obtain ⟨first, restTiles⟩ := tiles
      have restProper : ∀ item ∈ rest, start item < stop item :=
        fun item within => proper item (List.mem_cons_of_mem _ within)
      have headProper := proper head (by simp)
      have nonneg : 0 ≤ totalDuration start stop rest := by
        apply List.sum_nonneg
        intro duration measured
        obtain ⟨other, within, rfl⟩ := List.mem_map.mp measured
        exact sub_nonneg.mpr (restProper other within).le
      rw [totalDuration_cons]
      rcases List.mem_cons.mp member with isHead | later
      · rw [isHead, first]
        exact ⟨le_rfl, le_add_of_nonneg_right nonneg⟩
      · obtain ⟨after, reached⟩ := inductionHypothesis restTiles restProper later
        rw [first] at headProper ⊢
        refine ⟨headProper.le.trans after, ?_⟩
        calc stop item - origin = stop head - origin + (stop item - stop head) := by abel
          _ ≤ stop head - origin + totalDuration start stop rest :=
            add_le_add_right reached _

end UrjaSetu.Library.Intervals
