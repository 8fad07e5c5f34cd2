import Mathlib

/-!
Greedy filling of a list of tickets.

Each ticket draws from one demand account and one supply account. Serving it
moves the smaller of the two balances, if that is positive, and records the
fill. This module owns what holds of every such run, whatever the tickets, the
accounts and the order in which the tickets are served: balances are conserved
and never go below zero, a served ticket leaves one of its accounts exhausted,
and an account that still had a balance when a ticket was filled had one at
every earlier ticket.
-/

namespace UrjaSetu.Library.GreedyFill

variable {P ι κ K : Type*}

/-- `amount` moved on account of `ticket`. -/
structure Fill (P K : Type*) where
  ticket : P
  amount : K
deriving DecidableEq, Repr

/-- The balances left and the fills made, in order. -/
structure Position (P ι κ K : Type*) where
  demand : ι → K
  supply : κ → K
  fills : List (Fill P K)

/-- The accounts a ticket draws from. -/
structure Accounts (P ι κ : Type*) where
  buyer : P → ι
  seller : P → κ

section Moved

variable [AddMonoid K]

/-- What `fills` moved on the tickets selected by `keep`. -/
def moved (keep : P → Prop) [DecidablePred keep] (fills : List (Fill P K)) : K :=
  ((fills.filter fun fill => keep fill.ticket).map Fill.amount).sum

theorem moved_append (keep : P → Prop) [DecidablePred keep] (front back : List (Fill P K)) :
    moved keep (front ++ back) = moved keep front + moved keep back := by
  simp [moved]

theorem moved_singleton (keep : P → Prop) [DecidablePred keep] (fill : Fill P K) :
    moved keep [fill] = if keep fill.ticket then fill.amount else 0 := by
  by_cases kept : keep fill.ticket <;> simp [moved, kept]

end Moved

variable [DecidableEq ι] [DecidableEq κ] [AddCommGroup K] [LinearOrder K]

/-- The smaller balance of the two accounts of `ticket`. -/
def available (accounts : Accounts P ι κ) (position : Position P ι κ K) (ticket : P) : K :=
  min (position.demand (accounts.buyer ticket)) (position.supply (accounts.seller ticket))

/-- Move `amount` on account of `ticket`. -/
def record (accounts : Accounts P ι κ) (position : Position P ι κ K) (ticket : P) (amount : K) :
    Position P ι κ K where
  demand := Function.update position.demand (accounts.buyer ticket)
    (position.demand (accounts.buyer ticket) - amount)
  supply := Function.update position.supply (accounts.seller ticket)
    (position.supply (accounts.seller ticket) - amount)
  fills := position.fills ++ [⟨ticket, amount⟩]

/-- Serve one ticket. -/
def serve (accounts : Accounts P ι κ) (position : Position P ι κ K) (ticket : P) :
    Position P ι κ K :=
  if 0 < available accounts position ticket then
    record accounts position ticket (available accounts position ticket)
  else position

/-- Serve the tickets in order. -/
def run (accounts : Accounts P ι κ) (position : Position P ι κ K) (tickets : List P) :
    Position P ι κ K :=
  tickets.foldl (serve accounts) position

variable {accounts : Accounts P ι κ} {position : Position P ι κ K} {ticket : P} {tickets : List P}

@[simp] theorem run_nil : run accounts position [] = position := rfl

@[simp] theorem run_cons :
    run accounts position (ticket :: tickets) = run accounts (serve accounts position ticket) tickets :=
  rfl

theorem run_append (front back : List P) :
    run accounts position (front ++ back) = run accounts (run accounts position front) back :=
  List.foldl_append ..

/-- A ticket with an empty account is passed over. -/
theorem serve_of_exhausted
    (exhausted : position.demand (accounts.buyer ticket) ≤ 0 ∨
      position.supply (accounts.seller ticket) ≤ 0) :
    serve accounts position ticket = position := by
  unfold serve
  rw [if_neg]
  rw [available, lt_min_iff, not_and_or, not_lt, not_lt]
  exact exhausted

/-- Once an account is empty, every ticket on it is passed over. -/
theorem run_of_buyer_exhausted (account : ι)
    (same : ∀ ticket ∈ tickets, accounts.buyer ticket = account)
    (exhausted : position.demand account ≤ 0) : run accounts position tickets = position := by
  induction tickets with
  | nil => rfl
  | cons head tail inductionHypothesis =>
      have headAccount := same head (by simp)
      rw [run_cons, serve_of_exhausted (Or.inl (by rwa [headAccount]))]
      exact inductionHypothesis fun ticket member => same ticket (by simp [member])

/-! ## Balances only fall -/

section Falling

variable [IsOrderedAddMonoid K]

theorem serve_demand_le (account : ι) :
    (serve accounts position ticket).demand account ≤ position.demand account := by
  unfold serve
  split
  · rename_i positive
    by_cases own : account = accounts.buyer ticket
    · subst own
      simp only [record, Function.update_self]
      exact sub_le_self _ positive.le
    · simp only [record, Function.update_of_ne own]
      exact le_rfl
  · exact le_rfl

theorem serve_supply_le (account : κ) :
    (serve accounts position ticket).supply account ≤ position.supply account := by
  unfold serve
  split
  · rename_i positive
    by_cases own : account = accounts.seller ticket
    · subst own
      simp only [record, Function.update_self]
      exact sub_le_self _ positive.le
    · simp only [record, Function.update_of_ne own]
      exact le_rfl
  · exact le_rfl

theorem run_demand_le (account : ι) :
    (run accounts position tickets).demand account ≤ position.demand account := by
  induction tickets generalizing position with
  | nil => exact le_rfl
  | cons head tail inductionHypothesis =>
      exact inductionHypothesis.trans (serve_demand_le account)

theorem run_supply_le (account : κ) :
    (run accounts position tickets).supply account ≤ position.supply account := by
  induction tickets generalizing position with
  | nil => exact le_rfl
  | cons head tail inductionHypothesis =>
      exact inductionHypothesis.trans (serve_supply_le account)

/-! ## A served ticket leaves one of its accounts exhausted -/

theorem serve_exhausts (accounts : Accounts P ι κ) (position : Position P ι κ K) (ticket : P) :
    (serve accounts position ticket).demand (accounts.buyer ticket) ≤ 0 ∨
      (serve accounts position ticket).supply (accounts.seller ticket) ≤ 0 := by
  by_cases positive : 0 < available accounts position ticket
  · unfold serve
    rw [if_pos positive]
    simp only [record, available, Function.update_self, sub_nonpos]
    rcases min_choice (position.demand (accounts.buyer ticket))
        (position.supply (accounts.seller ticket)) with equal | equal
    · exact Or.inl equal.ge
    · exact Or.inr equal.ge
  · have exhausted := positive
    rw [available, lt_min_iff, not_and_or, not_lt, not_lt] at exhausted
    rw [serve_of_exhausted exhausted]
    exact exhausted

/-- Every ticket of the run is exhausted at its end. -/
theorem run_exhausts (position : Position P ι κ K) (member : ticket ∈ tickets) :
    (run accounts position tickets).demand (accounts.buyer ticket) ≤ 0 ∨
      (run accounts position tickets).supply (accounts.seller ticket) ≤ 0 := by
  induction tickets generalizing position with
  | nil => cases member
  | cons head tail inductionHypothesis =>
      rcases List.mem_cons.mp member with rfl | later
      · have served := serve_exhausts accounts position ticket
        rw [run_cons]
        exact served.imp (run_demand_le _).trans (run_supply_le _).trans
      · exact inductionHypothesis (serve accounts position head) later

/-! ## Balances stay non-negative -/

theorem serve_nonneg (ticket : P) (demandNonneg : ∀ account, 0 ≤ position.demand account)
    (supplyNonneg : ∀ account, 0 ≤ position.supply account) :
    (∀ account, 0 ≤ (serve accounts position ticket).demand account) ∧
      ∀ account, 0 ≤ (serve accounts position ticket).supply account := by
  unfold serve
  split
  · constructor
    · intro account
      by_cases own : account = accounts.buyer ticket
      · subst own
        simp only [record, Function.update_self]
        exact sub_nonneg.mpr (min_le_left _ _)
      · simp only [record, Function.update_of_ne own]
        exact demandNonneg account
    · intro account
      by_cases own : account = accounts.seller ticket
      · subst own
        simp only [record, Function.update_self]
        exact sub_nonneg.mpr (min_le_right _ _)
      · simp only [record, Function.update_of_ne own]
        exact supplyNonneg account
  · exact ⟨demandNonneg, supplyNonneg⟩

theorem run_nonneg (demandNonneg : ∀ account, 0 ≤ position.demand account)
    (supplyNonneg : ∀ account, 0 ≤ position.supply account) :
    (∀ account, 0 ≤ (run accounts position tickets).demand account) ∧
      ∀ account, 0 ≤ (run accounts position tickets).supply account := by
  induction tickets generalizing position with
  | nil => exact ⟨demandNonneg, supplyNonneg⟩
  | cons head tail inductionHypothesis =>
      obtain ⟨nextDemand, nextSupply⟩ := serve_nonneg head demandNonneg supplyNonneg
      exact inductionHypothesis nextDemand nextSupply

end Falling

/-! ## Fills and conservation -/

theorem serve_demand_conserved (account : ι) :
    (serve accounts position ticket).demand account +
        moved (fun p => accounts.buyer p = account) (serve accounts position ticket).fills =
      position.demand account + moved (fun p => accounts.buyer p = account) position.fills := by
  unfold serve
  split
  · simp only [record, moved_append, moved_singleton]
    by_cases own : accounts.buyer ticket = account
    · subst own
      rw [if_pos rfl, Function.update_self]
      abel
    · rw [if_neg own, Function.update_of_ne (Ne.symm own), add_zero]
  · rfl

theorem serve_supply_conserved (account : κ) :
    (serve accounts position ticket).supply account +
        moved (fun p => accounts.seller p = account) (serve accounts position ticket).fills =
      position.supply account + moved (fun p => accounts.seller p = account) position.fills := by
  unfold serve
  split
  · simp only [record, moved_append, moved_singleton]
    by_cases own : accounts.seller ticket = account
    · subst own
      rw [if_pos rfl, Function.update_self]
      abel
    · rw [if_neg own, Function.update_of_ne (Ne.symm own), add_zero]
  · rfl

/-- Balance plus everything moved is constant along a run. -/
theorem run_demand_conserved (account : ι) :
    (run accounts position tickets).demand account +
        moved (fun p => accounts.buyer p = account) (run accounts position tickets).fills =
      position.demand account + moved (fun p => accounts.buyer p = account) position.fills := by
  induction tickets generalizing position with
  | nil => rfl
  | cons head tail inductionHypothesis =>
      exact inductionHypothesis.trans (serve_demand_conserved account)

theorem run_supply_conserved (account : κ) :
    (run accounts position tickets).supply account +
        moved (fun p => accounts.seller p = account) (run accounts position tickets).fills =
      position.supply account + moved (fun p => accounts.seller p = account) position.fills := by
  induction tickets generalizing position with
  | nil => rfl
  | cons head tail inductionHypothesis =>
      exact inductionHypothesis.trans (serve_supply_conserved account)

/-- A run appends positive fills, at most one for each ticket and in ticket order. -/
theorem run_fills :
    ∃ added, (run accounts position tickets).fills = position.fills ++ added ∧
      (added.map Fill.ticket).Sublist tickets ∧ ∀ fill ∈ added, 0 < fill.amount := by
  induction tickets generalizing position with
  | nil => exact ⟨[], by simp, by simp, by simp⟩
  | cons head tail inductionHypothesis =>
      obtain ⟨added, fillsEq, ordered, positive⟩ :=
        @inductionHypothesis (serve accounts position head)
      rw [run_cons, fillsEq]
      by_cases moves : 0 < available accounts position head
      · refine ⟨⟨head, available accounts position head⟩ :: added, ?_, ordered.cons_cons head, ?_⟩
        · unfold serve
          rw [if_pos moves, record, List.append_assoc]
          rfl
        · intro fill member
          rcases List.mem_cons.mp member with rfl | later
          · exact moves
          · exact positive fill later
      · refine ⟨added, ?_, ordered.cons head, positive⟩
        unfold serve
        rw [if_neg moves]

/-- Where every balance lies in a set closed under differences, every fill does. -/
theorem run_fills_closed (within : K → Prop)
    (closed : ∀ left right, within left → within right → within (left - right))
    (demandWithin : ∀ account, within (position.demand account))
    (supplyWithin : ∀ account, within (position.supply account))
    (fillsWithin : ∀ fill ∈ position.fills, within fill.amount) :
    ∀ fill ∈ (run accounts position tickets).fills, within fill.amount := by
  induction tickets generalizing position with
  | nil => exact fillsWithin
  | cons head tail inductionHypothesis =>
      rw [run_cons]
      have amount : within (available accounts position head) := by
        rcases min_choice (position.demand (accounts.buyer head))
          (position.supply (accounts.seller head)) with demand | supply
        · rw [available, demand]
          exact demandWithin _
        · rw [available, supply]
          exact supplyWithin _
      apply inductionHypothesis
      · intro account
        unfold serve
        split
        · by_cases own : account = accounts.buyer head
          · subst own
            simp only [record, Function.update_self]
            exact closed _ _ (demandWithin _) amount
          · simp only [record, Function.update_of_ne own]
            exact demandWithin account
        · exact demandWithin account
      · intro account
        unfold serve
        split
        · by_cases own : account = accounts.seller head
          · subst own
            simp only [record, Function.update_self]
            exact closed _ _ (supplyWithin _) amount
          · simp only [record, Function.update_of_ne own]
            exact supplyWithin account
        · exact supplyWithin account
      · unfold serve
        split
        · intro fill member
          rcases List.mem_append.mp member with before | here
          · exact fillsWithin fill before
          · rw [List.mem_singleton.mp here]
            exact amount
        · exact fillsWithin

/-! ## Priority -/

/-- A fill happened at a place in the run where both accounts still had a balance. -/
theorem mem_run_fills {fill : Fill P K} (member : fill ∈ (run accounts position tickets).fills) :
    fill ∈ position.fills ∨ ∃ front back, tickets = front ++ fill.ticket :: back ∧
      0 < (run accounts position front).demand (accounts.buyer fill.ticket) ∧
      0 < (run accounts position front).supply (accounts.seller fill.ticket) := by
  induction tickets generalizing position with
  | nil => exact Or.inl member
  | cons head tail inductionHypothesis =>
      rcases @inductionHypothesis (serve accounts position head) member with
        atHead | ⟨front, back, split, demandLeft, supplyLeft⟩
      · by_cases moves : 0 < available accounts position head
        · unfold serve at atHead
          rw [if_pos moves] at atHead
          rcases List.mem_append.mp atHead with before | here
          · exact Or.inl before
          · rw [List.mem_singleton] at here
            subst here
            have balances := moves
            rw [available, lt_min_iff] at balances
            exact Or.inr ⟨[], tail, rfl, balances⟩
        · unfold serve at atHead
          rw [if_neg moves] at atHead
          exact Or.inl atHead
      · exact Or.inr ⟨head :: front, back, by rw [split]; rfl, demandLeft, supplyLeft⟩

section Priority

variable [IsOrderedAddMonoid K] {front back : List P} {earlier : P}

/-- A ticket served before one that still found demand in the same account has
exhausted its supply. -/
theorem supply_exhausted_of_earlier (split : tickets = front ++ back) (member : earlier ∈ front)
    (demandLeft : 0 < (run accounts position front).demand (accounts.buyer earlier)) :
    (run accounts position tickets).supply (accounts.seller earlier) ≤ 0 := by
  rw [split, run_append]
  rcases run_exhausts position member with demandGone | supplyGone
  · exact absurd demandLeft demandGone.not_gt
  · exact (run_supply_le _).trans supplyGone

/-- A ticket served before one that still found supply in the same account has
exhausted its demand. -/
theorem demand_exhausted_of_earlier (split : tickets = front ++ back) (member : earlier ∈ front)
    (supplyLeft : 0 < (run accounts position front).supply (accounts.seller earlier)) :
    (run accounts position tickets).demand (accounts.buyer earlier) ≤ 0 := by
  rw [split, run_append]
  rcases run_exhausts position member with demandGone | supplyGone
  · exact (run_demand_le _).trans demandGone
  · exact absurd supplyLeft supplyGone.not_gt

end Priority

end UrjaSetu.Library.GreedyFill
