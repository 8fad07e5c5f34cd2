import Mathlib

/-!
Lists in which every item names the hash of the item before it.

Owns: linkage from an expected predecessor, how it behaves under appending, that
an item which names any hash but its neighbour's breaks it, which parts of a
linked list are linked, and what the last hash commits to.
-/

namespace UrjaSetu.Library.HashChain

variable {α η : Type*} (previous : α → Option η) (hash : α → η)

/-- Each item names the hash before it; the first one names `expected`. -/
def Linked : Option η → List α → Prop
  | _, [] => True
  | expected, item :: rest => previous item = expected ∧ Linked (some (hash item)) rest

/-- The hash an item after `items` has to name. -/
def headHash (expected : Option η) (items : List α) : Option η :=
  (items.getLast?.map hash).or expected

theorem headHash_append (expected : Option η) (items : List α) (item : α) :
    headHash hash expected (items ++ [item]) = some (hash item) := by
  rw [headHash, List.getLast?_concat]
  rfl

theorem linked_append (expected : Option η) (front back : List α) :
    Linked previous hash expected (front ++ back) ↔
      Linked previous hash expected front ∧
        Linked previous hash (headHash hash expected front) back := by
  induction front generalizing expected with
  | nil => simp [Linked, headHash]
  | cons item rest inductionHypothesis =>
      have head : headHash hash (some (hash item)) rest = headHash hash expected (item :: rest) := by
        cases rest with
        | nil => rfl
        | cons next others =>
            rw [headHash, headHash, List.getLast?_cons_cons]
            cases last : (next :: others).getLast? with
            | none => simp at last
            | some value => rfl
      rw [List.cons_append, Linked, Linked, inductionHypothesis, head, and_assoc]

theorem linked_map {β : Type*} (onto : β → α) (expected : Option η) (items : List β) :
    Linked previous hash expected (items.map onto) ↔
      Linked (fun item => previous (onto item)) (fun item => hash (onto item)) expected items := by
  induction items generalizing expected with
  | nil => rfl
  | cons item rest inductionHypothesis =>
      rw [List.map_cons, Linked, Linked, inductionHypothesis]

/-- An item appended with the head's hash keeps the chain linked. -/
theorem linked_concat {expected : Option η} {items : List α} {item : α}
    (linked : Linked previous hash expected items)
    (names : previous item = headHash hash expected items) :
    Linked previous hash expected (items ++ [item]) :=
  (linked_append previous hash expected items [item]).mpr ⟨linked, names, trivial⟩

/-- What was the head before a linked list grew is named in it now, whichever of its
items the head was. -/
theorem head_taken {read rest : List α} {item : α} {head : Option α}
    (linked : Linked previous hash none (read ++ item :: rest))
    (empty : head = none → read = []) (member : ∀ found, head = some found → found ∈ read) :
    head.map hash ∈ (read ++ item :: rest).map previous := by
  cases head with
  | none =>
      rw [empty rfl] at linked ⊢
      exact List.mem_map.mpr ⟨item, by simp, linked.1⟩
  | some found =>
      obtain ⟨front, behind, split⟩ := List.append_of_mem (member found rfl)
      have whole : read ++ item :: rest = front ++ found :: (behind ++ item :: rest) := by
        rw [split, List.append_assoc, List.cons_append]
      have nonempty : behind ++ item :: rest ≠ [] := by simp
      obtain ⟨next, others, follows⟩ := List.exists_cons_of_ne_nil nonempty
      rw [whole, follows] at linked ⊢
      have names := ((linked_append previous hash none front _).mp linked).2.2.1
      exact List.mem_map.mpr ⟨next, by simp, names⟩

/-- The head of a front part is not the hash of anything behind it. -/
theorem headHash_ne_of_later {front back : List α} {later : α}
    (distinct : ((front ++ back).map hash).Nodup) (member : later ∈ back) :
    headHash hash none front ≠ some (hash later) := by
  rw [List.map_append, List.nodup_append] at distinct
  intro same
  cases last : front.getLast? with
  | none =>
      rw [headHash, last] at same
      cases same
  | some final =>
      rw [headHash, last] at same
      have finalMember : final ∈ front := List.mem_of_getLast? last
      exact distinct.2.2 _ (List.mem_map_of_mem finalMember) _ (List.mem_map_of_mem member)
        (Option.some_inj.mp same)

/-- In a linked list with distinct hashes nobody names the last hash yet. -/
theorem previous_ne_headHash {items : List α} (linked : Linked previous hash none items)
    (distinct : (items.map hash).Nodup) {item : α} (member : item ∈ items) :
    previous item ≠ headHash hash none items := by
  obtain ⟨front, back, rfl⟩ := List.append_of_mem member
  have names : previous item = headHash hash none front :=
    ((linked_append previous hash none front (item :: back)).mp linked).2.1
  have ending : headHash hash none (front ++ item :: back) =
      some (hash ((item :: back).getLast (by simp))) := by
    rw [headHash, List.getLast?_append_of_ne_nil _ (by simp),
      List.getLast?_eq_some_getLast (by simp)]
    rfl
  rw [names, ending]
  exact headHash_ne_of_later hash distinct (List.getLast_mem _)

/-- A list is not linked when one of its items names the hash of a later one. -/
theorem not_linked_of_names_later {front back : List α} {item later : α}
    (distinct : ((front ++ item :: back).map hash).Nodup) (after : later ∈ back)
    (names : previous item = some (hash later)) :
    ¬ Linked previous hash none (front ++ item :: back) := by
  intro linked
  have expected : previous item = headHash hash none front :=
    ((linked_append previous hash none front (item :: back)).mp linked).2.1
  rw [names] at expected
  exact headHash_ne_of_later hash distinct (List.mem_cons_of_mem _ after) expected.symm

theorem prefix_of_linked {front back kept : List α}
    (linked : Linked previous hash none (front ++ back))
    (distinct : ((front ++ back).map hash).Nodup) (within : kept.Sublist back)
    (keptLinked : Linked previous hash none (front ++ kept)) : kept <+: back := by
  induction back generalizing front kept with
  | nil => exact List.sublist_nil.mp within ▸ List.nil_prefix
  | cons item rest inductionHypothesis =>
      cases within with
      | cons _ skipped =>
          cases kept with
          | nil => exact List.nil_prefix
          | cons next others =>
              -- The next item kept stands behind the one left out.
              obtain ⟨between, behind, split⟩ :=
                List.append_of_mem (skipped.subset (List.mem_cons_self))
              have names : previous next = headHash hash none front :=
                ((linked_append previous hash none front (next :: others)).mp keptLinked).2.1
              have wholeSplit : front ++ item :: rest =
                  (front ++ item :: between) ++ next :: behind := by
                rw [split, List.append_assoc, List.cons_append]
              rw [wholeSplit] at linked
              have follows : previous next = headHash hash none (front ++ item :: between) :=
                ((linked_append previous hash none _ _).mp linked).2.1
              have ending : headHash hash none (front ++ item :: between) =
                  some (hash ((item :: between).getLast (by simp))) := by
                rw [headHash, List.getLast?_append_of_ne_nil _ (by simp),
                  List.getLast?_eq_some_getLast (by simp)]
                rfl
              have later : (item :: between).getLast (by simp) ∈ item :: rest := by
                rw [split, ← List.cons_append]
                exact List.mem_append_left _ (List.getLast_mem _)
              exact absurd (names.symm.trans (follows.trans ending))
                (headHash_ne_of_later hash distinct later)
      | cons_cons _ tail =>
          have moved : ∀ list : List α, front ++ item :: list = (front ++ [item]) ++ list := by
            intro list
            rw [List.append_assoc, List.singleton_append]
          rw [moved] at linked distinct keptLinked
          exact (List.prefix_cons_inj item).mpr
            (inductionHypothesis linked distinct tail keptLinked)

/-- A part of a linked list with distinct hashes is linked only as a prefix:
where an item is left out, the next one kept names a hash that is gone. -/
theorem linked_sublist_iff_prefix {kept items : List α} (linked : Linked previous hash none items)
    (distinct : (items.map hash).Nodup) (within : kept.Sublist items) :
    Linked previous hash none kept ↔ kept <+: items := by
  constructor
  · intro keptLinked
    have whole : Linked previous hash none ([] ++ items) := linked
    exact prefix_of_linked previous hash whole distinct within keptLinked
  · rintro ⟨rest, rfl⟩
    exact ((linked_append previous hash none kept rest).mp linked).1

/-- Linked lists of one length with one last hash agree item by item, when equal
hashes come from items that agree and name one predecessor. -/
theorem forall₂_of_last_eq {same : α → α → Prop} {left right : List α}
    (leftLinked : Linked previous hash none left) (rightLinked : Linked previous hash none right)
    (commits : ∀ item ∈ left, ∀ other ∈ right, hash item = hash other →
      previous item = previous other ∧ same item other)
    (lengths : left.length = right.length)
    (heads : left.getLast?.map hash = right.getLast?.map hash) :
    List.Forall₂ same left right := by
  induction left using List.reverseRecOn generalizing right with
  | nil =>
      rw [List.length_nil] at lengths
      rw [List.eq_nil_of_length_eq_zero lengths.symm]
      exact List.Forall₂.nil
  | append_singleton front item inductionHypothesis =>
      rcases List.eq_nil_or_concat right with rfl | ⟨otherFront, other, rfl⟩
      · simp at lengths
      · rw [List.concat_eq_append] at rightLinked commits lengths heads ⊢
        rw [List.getLast?_concat, List.getLast?_concat, Option.map_some, Option.map_some,
          Option.some_inj] at heads
        rw [List.length_append, List.length_append, List.length_singleton, List.length_singleton,
          Nat.add_right_cancel_iff] at lengths
        obtain ⟨frontLinked, itemLink, _⟩ := (linked_append previous hash none _ _).mp leftLinked
        obtain ⟨otherFrontLinked, otherLink, _⟩ :=
          (linked_append previous hash none _ _).mp rightLinked
        obtain ⟨previousEq, agree⟩ := commits item (by simp) other (by simp) heads
        have frontHeads : front.getLast?.map hash = otherFront.getLast?.map hash := by
          rw [itemLink, otherLink, headHash, headHash, Option.or_none, Option.or_none] at previousEq
          exact previousEq
        refine List.rel_append (inductionHypothesis frontLinked otherFrontLinked ?_ lengths
          frontHeads) (List.Forall₂.cons agree List.Forall₂.nil)
        intro earlier member otherEarlier otherMember
        exact commits earlier (List.mem_append_left _ member) otherEarlier
          (List.mem_append_left _ otherMember)

end UrjaSetu.Library.HashChain
