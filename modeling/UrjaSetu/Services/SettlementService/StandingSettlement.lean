import UrjaSetu.Services.SettlementService.UnmeasuredDelivery
import UrjaSetu.Services.WorkspaceService.Delivery

/-!
The one standing settlement of a trade, under settlements that overlap.

Owns: what a commit leaves of the settlements, the protocol that settlements keep
of each other, and that in every run at most one settlement of a trade stands.
-/

namespace UrjaSetu.Services.SettlementService

open UrjaSetu.Core UrjaSetu.Domain UrjaSetu.Domain.Interfaces UrjaSetu.Db UrjaSetu.Db.Models
open UrjaSetu.Domain.Policies.AuditChain UrjaSetu.Domain.Policies.Settlement UrjaSetu.Library
open UrjaSetu.Library.Transaction
open UrjaSetu.Repositories.Settlement UrjaSetu.Services.AuditService

/-- The settlements of a trade that stand. -/
def standing (db : Database) (tradeId : UUID) : List Settlement :=
  db.settlements.rows.filter fun row => row.tradeId = tradeId ∧ row.status = .settled

/-- Between settlements: the audit log is linked, as appends leave it, and no trade
has two settlements that stand. -/
structure Lawful (db : Database) : Prop where
  linked : LogLinked db.audit
  standing : ∀ tradeId, (standing db tradeId).length ≤ 1

/-- A stored settlement is still stored: as it was, or superseded where it stood. -/
def Remains (db later : Database) : Prop :=
  ∀ row ∈ db.settlements.rows, ∃ kept ∈ later.settlements.rows,
    kept = row ∨ row.status = .settled ∧ kept = { row with status := .superseded }

private theorem Remains.refl (db : Database) :
    Remains db db := fun row stored => ⟨row, stored, .inl rfl⟩

private theorem Remains.trans {first second third : Database} (before : Remains first second)
    (after : Remains second third) : Remains first third := by
  intro row stored
  obtain ⟨kept, keptStored, change⟩ := before row stored
  obtain ⟨last, lastStored, lastChange⟩ := after kept keptStored
  refine ⟨last, lastStored, ?_⟩
  rcases change with same | ⟨stood, replaced⟩
  · rw [← same]
    exact lastChange
  · -- What is superseded does not stand, so it is not changed again.
    rcases lastChange with lastSame | ⟨stillStood, _⟩
    · exact .inr ⟨stood, lastSame.trans replaced⟩
    · rw [replaced] at stillStood
      cases stillStood

/-! ## Commits -/

section

variable {calculator : StandardSettlementCalculator} {tradeId : UUID} {result : SettlementResult}
  {request : Request} {response : Response} {db next : Database}

/-- The parts of the database a settlement does not write. -/
theorem Compared.undisturbed (compared : Compared calculator tradeId result db next) :
    Undisturbed db next := by
  have rest := compared.rest
  exact
    { community := by rw [rest]
      readings := by rw [rest]
      trades := by rw [rest]
      orders := by rw [rest]
      prices := by rw [rest] }

private theorem Effect.compares (effect : Effect request response db next) :
    ∃ calculator tradeId result, Compared calculator tradeId result db next := by
  cases effect with
  | compared compared _ => exact ⟨_, _, _, compared⟩
  | refused compared _ _ => exact ⟨_, _, _, compared⟩
  | settled compared _ _ => exact ⟨_, _, _, compared⟩

/-- The result of a trade names that trade. -/
theorem Calculated.tradeId_eq {trade : Trade} {buy sell : Order} {price : PriceComponents}
    {actual : ActualEnergy}
    (calculated : Calculated calculator db tradeId result trade buy sell price actual) :
    result.tradeId = tradeId := by
  have named : trade.id = tradeId :=
    of_decide_eq_true (Table.find?_mem calculated.tradeFound).2
  rw [← named]
  exact settle_tradeId calculated.settled

private theorem Compared.tradeId_eq (compared : Compared calculator tradeId result db next) :
    result.tradeId = tradeId := by
  obtain ⟨trade, buy, sell, price, actual, calculated⟩ := compared.calculated
  exact calculated.tradeId_eq

theorem superseded_tradeId (tradeId : UUID) (row : Settlement) :
    (superseded tradeId row).tradeId = row.tradeId := by
  unfold superseded
  split
  · rfl
  · rfl

/-- Nothing of the trade stands once it is superseded. -/
theorem superseded_standing (tradeId other : UUID) (row : Settlement) :
    ((superseded tradeId row).tradeId = other ∧ (superseded tradeId row).status = .settled) ↔
      other ≠ tradeId ∧ row.tradeId = other ∧ row.status = .settled := by
  rw [superseded_tradeId]
  unfold superseded
  split
  · rename_i stood
    constructor
    · rintro ⟨_, absurdity⟩
      cases absurdity
    · rintro ⟨different, ofOther, _⟩
      exact absurd (ofOther.symm.trans stood.1) different
  · rename_i notStanding
    constructor
    · rintro ⟨ofOther, settled⟩
      exact ⟨fun same => notStanding ⟨ofOther.trans same, settled⟩, ofOther, settled⟩
    · exact And.right

/-- After a settlement only its own row stands of the trade; of the others, what
stood. -/
theorem SettledBy.standing_eq {row : Settlement} (tradeIdIs : result.tradeId = tradeId)
    (settledBy : SettledBy calculator tradeId result row db next) (other : UUID) :
    (standing next other).length = if other = tradeId then 1 else (standing db other).length := by
  obtain ⟨id, moment, rowIs⟩ := settledBy.made
  have ofTrade : row.tradeId = tradeId := by rw [rowIs]; exact tradeIdIs
  have stands : row.status = .settled := by rw [rowIs]; rfl
  have others : (db.settlements.rows.filter fun row =>
        decide ((superseded tradeId row).tradeId = other ∧
          (superseded tradeId row).status = .settled)) =
      if other = tradeId then [] else standing db other := by
    simp only [superseded_standing]
    split
    · rename_i same
      simp [same]
    · rename_i different
      simp [different, standing]
  unfold standing
  rw [settledBy.settlements, List.filter_append, List.filter_map, List.length_append,
    List.length_map, List.filter_singleton]
  show (db.settlements.rows.filter fun row =>
        decide ((superseded tradeId row).tradeId = other ∧
          (superseded tradeId row).status = .settled)).length + _ = _
  rw [others, ofTrade, stands]
  by_cases same : other = tradeId
  · simp [same]
  · simp [same, Ne.symm same, standing]

theorem Effect.lawful (effect : Effect request response db next) (lawful : Lawful db) :
    Lawful next := by
  obtain ⟨_, _, _, compared⟩ := effect.compares
  refine ⟨compared.log.linked, ?_⟩
  intro tradeId
  cases effect with
  | compared _ unsettled =>
      unfold standing
      rw [unsettled]
      exact lawful.standing tradeId
  | refused _ _ unsettled =>
      unfold standing
      rw [unsettled]
      exact lawful.standing tradeId
  | settled compared _ settledBy =>
      rw [settledBy.standing_eq compared.tradeId_eq]
      split
      · exact le_rfl
      · exact lawful.standing tradeId

private theorem Effect.remains (effect : Effect request response db next) : Remains db next := by
  cases effect with
  | compared _ unsettled =>
      intro row stored
      rw [unsettled]
      exact ⟨row, stored, .inl rfl⟩
  | refused _ _ unsettled =>
      intro row stored
      rw [unsettled]
      exact ⟨row, stored, .inl rfl⟩
  | @settled _ tradeId _ _ _ _ _ _ _ settledBy =>
      intro row stored
      refine ⟨superseded tradeId row, ?_, ?_⟩
      · rw [settledBy.settlements]
        exact List.mem_append_left _ (List.mem_map_of_mem stored)
      · unfold superseded
        split
        · rename_i stood
          exact .inr ⟨stood.2, rfl⟩
        · exact .inl rfl

end

/-! ## Runs -/

/-- How the others may change the database under a settlement: each of them appends
to the audit log. -/
structure Rely (db later : Database) : Prop where
  undisturbed : Undisturbed db later
  log : later = db ∨ LogGrew db later

private theorem Undisturbed.trans {first second third : Database}
    (before : Undisturbed first second)
    (after : Undisturbed second third) : Undisturbed first third where
  community := after.community.trans before.community
  readings := after.readings.trans before.readings
  trades := after.trades.trans before.trades
  orders := after.orders.trans before.orders
  prices := after.prices.trans before.prices

private theorem LogGrew.trans {first second third : Database} (before : LogGrew first second)
    (after : LogGrew second third) : LogGrew first third where
  grew := by
    obtain ⟨row, rest, rows⟩ := before.grew
    obtain ⟨later, laterRest, laterRows⟩ := after.grew
    refine ⟨row, rest ++ later :: laterRest, ?_⟩
    rw [laterRows, rows, List.append_assoc, List.cons_append]
  linked := after.linked

theorem Rely.refl (db : Database) : Rely db db := ⟨⟨rfl, rfl, rfl, rfl, rfl⟩, .inl rfl⟩

private theorem Rely.trans {first second third : Database} (before : Rely first second)
    (after : Rely second third) : Rely first third where
  undisturbed := before.undisturbed.trans after.undisturbed
  log := by
    rcases before.log with same | grew
    · rw [← same]
      exact after.log
    · rcases after.log with same | grewAgain
      · rw [same]
        exact .inr grew
      · exact .inr (grew.trans grewAgain)

/-- Once another has committed, the head that was read has been named. -/
theorem others_lawful : Others Lawful fun db later => Rely db later where
  undisturbed := fun _ _ rely => rely.undisturbed
  linked := fun _ lawful => lawful.linked
  exclusive := by
    intro read db row _ _ rely names fresh
    rcases rely.log with same | grew
    · exact same
    · exact absurd (grew.refuses names) fresh

def settlementProtocol : Protocol Request Database Response where
  valid := Lawful
  rely := fun _ => Rely
  guarantee := Effect
  reflexive := fun _ => Rely.refl
  transitive := fun _ _ _ _ => Rely.trans

private theorem settlement_kept (sha256 : String → String) :
    settlementProtocol.Kept (handle sha256) (fun _ _ => true) fun _ _ _ => true where
  meets := by
    intro request
    apply (handle_wp sha256 others_lawful request).mono
    intro response log known effect db next lawful learned _ replayed
    exact effect db next lawful learned replayed
  keeps := fun _ _ _ _ lawful _ effect => effect.lawful lawful
  respects := by
    intro _ _ _ db next _ _ _ effect
    obtain ⟨_, _, _, compared⟩ := Effect.compares effect
    exact ⟨compared.undisturbed, .inr compared.log⟩

/-- In every run of settlements and reconciliations that overlap, at most one
settlement of each trade stands, no settlement is lost or changed but to be
superseded, and an unmeasured delivery is reconciled and not settled: in every commit of
a settlement of it, and by one that opens in any state reached and is not overtaken, which
ends in its commit. -/
theorem run_standing (sha256 : String → String) {start : Database} (lawful : Lawful start)
    {actions : List (Action Request Supply)}
    {final : System Request Database Supply Failure Response}
    (reached : run (handle sha256) (fun _ _ => true) ⟨start, [], []⟩ actions = some final) :
    (∀ tradeId, (standing final.committed tradeId).length ≤ 1) ∧
    Remains start final.committed ∧
    (∀ commit ∈ final.history, Remains commit.before commit.after ∧
      Remains commit.after final.committed) ∧
    (∀ commit ∈ final.history, ∀ calculator tradeId at_,
      commit.op = .settleTrade calculator tradeId at_ →
      deliveredKwh commit.before tradeId = none → Unsettled tradeId commit.before commit.after) ∧
    ∀ (calculator : StandardSettlementCalculator) (tradeId : UUID) (at_ : Option Instant)
        (trade : Trade) (buy sell : Order) (price : PriceComponents) (supply : ℕ → Supply),
      Settleable final.committed tradeId trade buy sell price →
      deliveredKwh final.committed tradeId = none → Appendable sha256 final.committed →
      storable calculator.policy.policyVersion = true →
      (∀ index, Unused final.committed (supply index)) →
        ∃ count response next, Unsettled tradeId final.committed next ∧
          run (handle sha256) (fun _ _ => true) final (.opens (.settleTrade calculator tradeId at_) ::
            (List.range count).map fun index => .steps final.sessions.length (supply index)) =
          some ⟨next, final.sessions ++ [none], final.history ++
            [⟨.settleTrade calculator tradeId at_, response, final.committed, next⟩]⟩ := by
  rw [run_unconditional] at reached
  have sound := history_meets (settlement_kept sha256) lawful reached
  have remaining := sound.linked.preserves
    (fun earlier db => Remains start db ∧
      ∀ commit ∈ earlier, Remains commit.before commit.after ∧ Remains commit.after db)
    ⟨Remains.refl start, fun commit absurdity => by cases absurdity⟩ ?_
  · refine ⟨sound.valid.standing, remaining.1, remaining.2, ?_, ?_⟩
    · intro commit member calculator tradeId at_ isSettlement unmeasured
      have effect : Effect commit.op commit.value commit.before commit.after :=
        (sound.history commit member).2.2
      rw [isSettlement] at effect
      exact effect.unmeasured unmeasured
    · intro calculator tradeId at_ trade buy sell price supply settleable unmeasured appendable
        isStorable unused
      exact (ends_settleTrade settleable unmeasured appendable isStorable).run final unused
  · intro earlier commit member before
    have step : Remains commit.before commit.after :=
      Effect.remains (sound.history commit member).2.2
    refine ⟨before.1.trans step, ?_⟩
    intro other isEarlier
    rcases List.mem_append.mp isEarlier with isOlder | isLast
    · obtain ⟨own, since⟩ := before.2 other isOlder
      exact ⟨own, since.trans step⟩
    · rw [List.mem_singleton.mp isLast]
      exact ⟨step, Remains.refl commit.after⟩

/-! ## Two settlements of one trade -/

/-- A stand-in for the digest: the head of the text, with the `event_id`. -/
def quarterDigest (text : String) : String :=
  String.ofList ((text.toByteArray.data.toList.take 170).map fun byte => Char.ofNat byte.toNat)

/-- The seller's meter measured a kilowatt-hour. -/
def measuredReadings : Table telemetryReadings :=
  ⟨[{ WorkspaceService.quarterReading 71 61 0 4 with energyKwh := some 1 }], by decide +kernel,
    by decide +kernel⟩

/-- A trade of 1 kWh, all of it measured at the seller's meter. -/
def measuredQuarter : Database :=
  WorkspaceService.twoHouseholds measuredReadings WorkspaceService.quarterTrades
    WorkspaceService.quarterPrices

def quarterSupply (first index : ℕ) : Supply := ⟨Fin.ofNat (2 ^ 128) (first + index), first, first⟩

/-- Take `count` steps of a session. -/
def stepping (name count : ℕ) (supply : ℕ → Supply) : List (Action Request Supply) :=
  (List.range count).map fun index => .steps name (supply index)

/-- Both have compared the delivery when the first of them commits its settlement;
the second is taken back. -/
def settledTwice : List (Action Request Supply) :=
  .opens (.settleTrade {} 41 (some 1000)) :: .opens (.settleTrade {} 41 (some 2000)) ::
    (stepping 0 12 (quarterSupply 100) ++ stepping 1 12 (quarterSupply 200) ++
      stepping 0 10 (quarterSupply 300) ++ stepping 1 2 (quarterSupply 400))

private theorem measuredQuarter_lawful : Lawful measuredQuarter := ⟨trivial, fun _ => Nat.zero_le 1⟩

/-- The same trade with nothing measured, while a reconciliation of it has read its
parties. -/
def unmeasuredQuarter : Database :=
  WorkspaceService.twoHouseholds Table.empty WorkspaceService.quarterTrades
    WorkspaceService.quarterPrices

def reconciling : List (Action Request Supply) :=
  .opens (.reconcileTrade {} 41) :: stepping 0 4 (quarterSupply 100)

private theorem unmeasuredQuarter_settleable : Settleable unmeasuredQuarter 41
    (WorkspaceService.quarterTrade 41 1 1) (WorkspaceService.quarterOrder 32 12 22 .buy)
    (WorkspaceService.quarterOrder 31 11 21 .sell) (WorkspaceService.flatPrice 81 41 5) := by
  constructor
  · constructor <;> decide +kernel
  all_goals decide +kernel

theorem run_standing_sample :
    (∃ final, run (handle quarterDigest) (fun _ _ => true) ⟨measuredQuarter, [], []⟩ settledTwice =
        some final ∧
      final.history.length = 1 ∧ final.sessions.map Option.isSome = [false, false] ∧
      (standing final.committed 41).length = 1 ∧
      ∀ tradeId, (standing final.committed tradeId).length ≤ 1) ∧
    ∃ final count response next,
      run (handle quarterDigest) (fun _ _ => true) ⟨unmeasuredQuarter, [], []⟩ reconciling =
        some final ∧
      run (handle quarterDigest) (fun _ _ => true) final (.opens (.settleTrade {} 41 none) ::
        (List.range count).map fun index => .steps 1 (quarterSupply 500 index)) =
          some ⟨next, final.sessions ++ [none],
            [⟨.settleTrade {} 41 none, response, unmeasuredQuarter, next⟩]⟩ ∧
      Unsettled 41 unmeasuredQuarter next := by
  constructor
  · have commits : ((run (handle quarterDigest) (fun _ _ => true) ⟨measuredQuarter, [], []⟩
        settledTwice).map fun final => (final.history.length, final.sessions.map Option.isSome,
          (standing final.committed 41).length)) = some (1, [false, false], 1) := by
      unfold handle settleTrade recordReconciliation recordSettlement AuditService.append
        AuditService.sealedRow sealEvent
      -- The head of the text is read from its characters.
      rw [AuditService.eventFingerprint_head quarterDigest fun _ => rfl]
      decide +kernel
    obtain ⟨final, reached, counted⟩ := Option.map_eq_some_iff.mp commits
    simp only [Prod.mk.injEq] at counted
    exact ⟨final, reached, counted.1, counted.2.1, counted.2.2,
      (run_standing quarterDigest measuredQuarter_lawful reached).1⟩
  · have lawful : Lawful unmeasuredQuarter := ⟨trivial, fun _ => Nat.zero_le 1⟩
    have inFlight : ((run (handle quarterDigest) (fun _ _ => true) ⟨unmeasuredQuarter, [], []⟩
        reconciling).map fun final => (final.committed, final.history, final.sessions.length)) =
        some (unmeasuredQuarter, [], 1) := rfl
    obtain ⟨final, reached, same⟩ := Option.map_eq_some_iff.mp inFlight
    simp only [Prod.mk.injEq] at same
    have ends := (run_standing quarterDigest lawful reached).2.2.2.2 {} 41 none
    rw [same.1, same.2.1, same.2.2] at ends
    obtain ⟨count, response, next, unsettled, committed⟩ := ends _ _ _ _ (quarterSupply 500)
      unmeasuredQuarter_settleable (by decide +kernel) (.of_empty rfl) (by decide +kernel)
      fun index => .of_empty rfl rfl (quarterSupply 500 index)
    exact ⟨final, count, response, next, reached, committed, unsettled⟩

end UrjaSetu.Services.SettlementService
