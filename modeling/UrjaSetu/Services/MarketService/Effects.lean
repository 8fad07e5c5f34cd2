import UrjaSetu.Services.MarketService.Operations

/-!
What the commit of a market operation does, whatever others have committed since
its reads.

Each effect says what was read, at moments related to the commit by `rely`, and
how the committed state changes. Nothing is said here about whether what was
read still holds; a section that knows more about `rely` draws that.
-/

namespace UrjaSetu.Services.MarketService

open UrjaSetu.Core UrjaSetu.Domain UrjaSetu.Domain.Interfaces UrjaSetu.Db UrjaSetu.Db.Models
open UrjaSetu.Domain.Policies.MarketMatching UrjaSetu.Domain.Policies.Surplus UrjaSetu.Library
open UrjaSetu.Library.Transaction UrjaSetu.Repositories.Forecasting UrjaSetu.Repositories.Market
open UrjaSetu.Services.AuditService

/-- The session was stored at an earlier moment. -/
structure SessionRead (valid : Database → Prop) (rely : Database → Database → Prop)
    (marketSessionId : UUID) (session : MarketSession) (read db : Database) : Prop where
  valid : valid read
  rely : rely read db
  stored : session ∈ read.marketSessions.rows
  named : session.id = marketSessionId

/-- One session has been given a status. -/
def Marked (marketSessionId : UUID) (status : MarketSessionStatus) (db next : Database) : Prop :=
  ∃ change : MarketSession → MarketSession,
    (∀ row, (change row).id = row.id ∧ (change row).status = status) ∧
      next.marketSessions.rows = db.marketSessions.rows.map fun row =>
        if row.id = marketSessionId then change row else row

structure Opened (session : MarketSession) (db next : Database) : Prop where
  status : session.status = .open
  sessions : next.marketSessions.rows = db.marketSessions.rows ++ [session]
  rest : next = { db with marketSessions := next.marketSessions }

structure Closed (valid : Database → Prop) (rely : Database → Database → Prop)
    (marketSessionId : UUID) (db next : Database) : Prop where
  read : ∃ session read, SessionRead valid rely marketSessionId session read db ∧
    session.status = .open
  sessions : Marked marketSessionId .closed db next
  rest : next = { db with marketSessions := next.marketSessions }

structure Placed (valid : Database → Prop) (rely : Database → Database → Prop)
    (request : OrderRequest) (order : Order) (db next : Database) : Prop where
  read : ∃ session read, SessionRead valid rely request.marketSessionId session read db ∧
    session.status = .open
  surplus : request.side = .sell → ∃ first second, rely first db ∧ rely second db ∧
    request.energyKwh ≤ totalExportableKwh (calculateSurplus
      (predictions (latestPerIntervalForSite first request.siteId request.deliveryStart
        request.deliveryEnd .solar))
      (predictions (latestPerIntervalForSite second request.siteId request.deliveryStart
        request.deliveryEnd .load)))
  row : ∃ orderId createdAt, order = (request.order orderId createdAt).asStored
  check : Models.orders.check order = true
  fresh : ∀ row ∈ db.orders.rows, row.id ≠ order.id
  orders : next.orders.rows = db.orders.rows ++ [order]
  rest : Audited { db with orders := next.orders } next

structure Cancelled (valid : Database → Prop) (rely : Database → Database → Prop)
    (orderId : UUID) (db next : Database) : Prop where
  read : ∃ order read, valid read ∧ rely read db ∧ order ∈ read.orders.rows ∧
    order.id = orderId ∧ order.status.isActive = true
  orders : next.orders.rows = db.orders.rows.map fun row =>
    if row.id = orderId then { row with status := .cancelled } else row
  rest : next = { db with orders := next.orders }

/-- The instances a clearing fills: those of the second listing, with the values
of the first one where it had them. -/
def instances (loaded listed : List Order) : List Order :=
  listed.map fun row => (loaded.find? fun order => order.id = row.id).getD row

/-- The row after the flush of a session's order instances. -/
def flushedRow (pairs : List (Order × Order)) (row : Order) : Order :=
  match pairs.find? fun order => order.1.id = row.id with
  | some order => orderFlushed order.1 order.2 row
  | none => row

structure Cleared (valid : Database → Prop) (rely : Database → Database → Prop)
    (engine : BaselineMatchingEngine) (marketSessionId : UUID) (trades : List Trade)
    (db next : Database) : Prop where
  read : ∃ session read bookRead listRead clearedAt createdAt result proposedTrades filled,
    SessionRead valid rely marketSessionId session read db ∧ session.status = .closed ∧
    valid bookRead ∧ rely bookRead db ∧ valid listRead ∧ rely listRead db ∧
    rely bookRead listRead ∧
    engine.matchRequest ⟨orderBook session (listActiveForSession bookRead marketSessionId),
      clearedAt⟩ = .ok result ∧
    List.Forall₂ (fun proposed trade => ∃ tradeId,
      trade = tradeRow result proposed tradeId createdAt) result.trades proposedTrades ∧
    trades = proposedTrades.map Trade.asStored ∧
    result.trades.foldlM fillTrade (instances (listActiveForSession bookRead marketSessionId)
      (listActiveForSession listRead marketSessionId)) = .ok filled ∧
    next.orders.rows = db.orders.rows.map (flushedRow ((instances
      (listActiveForSession bookRead marketSessionId)
      (listActiveForSession listRead marketSessionId)).zip filled))
  trades : next.trades.rows = db.trades.rows ++ trades
  sessions : Marked marketSessionId .cleared db next
  rest : Audited { db with
    trades := next.trades
    orders := next.orders
    marketSessions := next.marketSessions } next

/-- The effect of a request, with its response. -/
inductive Effect (valid : Database → Prop) (rely : Database → Database → Prop)
    (engine : BaselineMatchingEngine) : Request → Response → Database → Database → Prop where
  | opened {marketDate marketType at_ session db next} : Opened session db next →
      Effect valid rely engine (.openSession marketDate marketType at_) (.session session) db next
  | closed {marketSessionId at_ session db next} : Closed valid rely marketSessionId db next →
      Effect valid rely engine (.closeSession marketSessionId at_) (.session session) db next
  | placed {request order db next} : Placed valid rely request order db next →
      Effect valid rely engine (.placeOrder request) (.order order) db next
  | cancelled {orderId order db next} : Cancelled valid rely orderId db next →
      Effect valid rely engine (.cancelOrder orderId) (.order order) db next
  | cleared {marketSessionId at_ trades db next} :
      Cleared valid rely engine marketSessionId trades db next →
      Effect valid rely engine (.clearSession marketSessionId at_) (.trades trades) db next

/-! ## Statements -/

section Statements

variable {db next : Database}

private theorem flushSession_marked {loaded current : MarketSession}
    (changed : current.status ≠ loaded.status)
    (flushed : flushSession loaded current db = .ok next) :
    Marked loaded.id current.status db next ∧
      next = { db with marketSessions := next.marketSessions } := by
  obtain ⟨table, updated, rfl⟩ := Relation.modify_ok flushed
  refine ⟨⟨sessionFlushed loaded current, ?_, ?_⟩, rfl⟩
  · intro row
    exact ⟨rfl, if_neg changed⟩
  · have rows := Table.modify_eq_some updated
    simp only [decide_eq_true_eq] at rows
    exact rows

private theorem flushOrders_rows {pairs : List (Order × Order)}
    (flushed : flushOrders pairs db = .ok next) :
    next.orders.rows = db.orders.rows.map (flushedRow pairs) ∧
      next = { db with orders := next.orders } := by
  obtain ⟨table, updated, rfl⟩ := Relation.modify_ok flushed
  refine ⟨?_, rfl⟩
  have rows := Table.modify_eq_some updated
  apply rows.trans
  apply List.map_congr_left
  intro row _
  unfold flushedRow
  split
  · rfl
  · rename_i unlisted
    split
    · rename_i order found
      have listed : (pairs.any fun order => order.1.id = row.id) = true := by
        apply List.any_eq_true.mpr
        exact ⟨order, List.mem_of_find?_eq_some found, by simpa using List.find?_some found⟩
      exact absurd listed unlisted
    · rfl

private theorem insertOrder_rows {order : Order}
    (inserted : Relations.orders.insert order db = .ok next) :
    next.orders.rows = db.orders.rows ++ [order] ∧ Models.orders.check order = true ∧
      (∀ row ∈ db.orders.rows, row.id ≠ order.id) ∧ next = { db with orders := next.orders } := by
  obtain ⟨table, accepted, rfl⟩ := Relation.insert_ok inserted
  obtain ⟨rows, check, apart⟩ := Table.insert_eq_some accepted
  refine ⟨rows, check, ?_, rfl⟩
  intro row stored same
  have conflict := apart row stored
  simp [Models.orders, same] at conflict

private theorem insertTrade_rows {trade : Trade}
    (inserted : Relations.trades.insert trade db = .ok next) :
    next.trades.rows = db.trades.rows ++ [trade] ∧ next = { db with trades := next.trades } := by
  obtain ⟨table, accepted, rfl⟩ := Relation.insert_ok inserted
  exact ⟨(Table.insert_eq_some accepted).1, rfl⟩

private theorem insertSession_rows {session : MarketSession}
    (inserted : Relations.marketSessions.insert session db = .ok next) :
    next.marketSessions.rows = db.marketSessions.rows ++ [session] ∧
      next = { db with marketSessions := next.marketSessions } := by
  obtain ⟨table, accepted, rfl⟩ := Relation.insert_ok inserted
  exact ⟨(Table.insert_eq_some accepted).1, rfl⟩

end Statements

/-! ## Operations -/

section Operations

variable {valid : Database → Prop} {rely : Database → Database → Prop}
  {log : List (Database → Except Failure Database)} {known : Database → Prop}

private theorem wp_getSession (marketSessionId : UUID)
    {post : MarketSession → List (Database → Except Failure Database) → (Database → Prop) → Prop}
    (each : ∀ session read, valid read → known read → session ∈ read.marketSessions.rows →
      session.id = marketSessionId → post session [] fun later => known later ∧ rely read later) :
    Wp valid rely (getSession marketSessionId) post [] known := by
  unfold getSession
  simp only [wp_bind, wp_query, Txn.wp_orRaise]
  intro read seen stored holds same session found
  cases same
  obtain ⟨member, named⟩ := Table.find?_mem found
  exact each session read stored holds member (by simpa using named)

private theorem openSession_wp (marketDate : ℤ) (marketType : MarketType) (at_ : Option Instant) :
    Wp valid rely (openSession marketDate marketType at_)
      (fun session log known => ∀ db next, valid db → known db → replay log db = .ok next →
        Opened session db next) [] fun _ => True := by
  unfold openSession
  simp only [wp_bind, wp_query, Txn.wp_require]
  intro read seen _ _ _ _
  apply Txn.wp_momentOf
  intro openedAt
  apply Txn.wp_uuid4
  intro identifier
  simp only [wp_statement, wp_pure]
  intro inserting view _ _ _ db next _ _ replayed
  obtain ⟨middle, start, inserted⟩ := replay_concat_ok replayed
  cases start
  obtain ⟨rows, rest⟩ := insertSession_rows inserted
  exact ⟨rfl, rows, rest⟩

private theorem closeSession_wp (marketSessionId : UUID) (at_ : Option Instant) :
    Wp valid rely (closeSession marketSessionId at_)
      (fun _ log known => ∀ db next, valid db → known db → replay log db = .ok next →
        Closed valid rely marketSessionId db next) [] fun _ => True := by
  unfold closeSession
  rw [wp_bind]
  apply wp_getSession
  intro session read stored _ member named
  simp only [wp_bind, Txn.wp_require, wp_statement, wp_pure, decide_eq_true_eq]
  intro isOpen
  apply Txn.wp_momentOf
  intro closedAt flushing view _ _ _ db next _ learned replayed
  obtain ⟨middle, start, flushed⟩ := replay_concat_ok replayed
  cases start
  have changed : MarketSessionStatus.closed ≠ session.status := by
    rw [isOpen]
    decide
  obtain ⟨marked, rest⟩ := flushSession_marked changed flushed
  exact ⟨⟨session, read, ⟨stored, learned.1.2, member, named⟩, isOpen⟩, named ▸ marked, rest⟩

private theorem cancelOrder_wp (orderId : UUID) :
    Wp valid rely (cancelOrder orderId)
      (fun _ log known => ∀ db next, valid db → known db → replay log db = .ok next →
        Cancelled valid rely orderId db next) [] fun _ => True := by
  unfold cancelOrder getOrder
  simp only [wp_bind, wp_query, Txn.wp_orRaise, Txn.wp_require, wp_statement, wp_pure]
  intro read seen stored _ same order found active flushing view _ _ _ db next _ learned replayed
  cases same
  obtain ⟨member, isNamed⟩ := Table.find?_mem found
  have named : order.id = orderId := by simpa using isNamed
  obtain ⟨middle, start, flushed⟩ := replay_concat_ok replayed
  cases start
  obtain ⟨rows, rest⟩ := flushOrders_rows flushed
  refine ⟨⟨order, read, stored, learned.1.2, member, named, active⟩, ?_, rest⟩
  rw [rows]
  apply List.map_congr_left
  intro row _
  have notCancelled : OrderStatus.cancelled ≠ order.status := by
    intro same
    rw [← same] at active
    cases active
  by_cases isOrder : row.id = orderId
  · have found : (order.id = row.id) := named.trans isOrder.symm
    simp [flushedRow, orderFlushed, found, isOrder, notCancelled]
  · have apart : ¬ order.id = row.id := fun same => isOrder (same.symm.trans named)
    simp [flushedRow, apart, isOrder]

/-- An append inside a transaction changes the audit log only. -/
theorem wp_append_extends (sha256 : String → String) (event : AuditEvent)
    {start : List (Database → Except Failure Database)} {startKnown : Database → Prop}
    {related : Database → Database → Prop}
    (extends_ : Extends start startKnown log known related)
    {post : AuditEventRecord → List (Database → Except Failure Database) →
      (Database → Prop) → Prop}
    (each : ∀ row later laterKnown, Extends start startKnown later laterKnown
      (fun db final => ∃ middle, related db middle ∧ Audited middle final) →
        post row later laterKnown) :
    Wp valid rely (append sha256 event) post log known := by
  apply wp_append
  intro row read seen inserted _ _ _ _ _ _
  apply each
  apply extends_.concat
  · intro db learned
    exact learned.1.1
  · intro db middle final holds changed
    exact ⟨middle, holds, insertAudit_audited changed⟩

private theorem wp_requireSite (siteId : UUID)
    {post : Unit → List (Database → Except Failure Database) → (Database → Prop) → Prop}
    (each : ∀ laterKnown : Database → Prop, (∀ db, laterKnown db → known db) →
      post () log laterKnown) :
    Wp valid rely (requireSite siteId) post log known := by
  unfold requireSite
  simp only [wp_bind, wp_query, Txn.wp_require]
  intro read seen _ _ _ _
  apply each
  intro db learned
  exact learned.1

private theorem wp_requireEligibility (platform : Platform) (userId : UUID) (side : OrderSide)
    {post : Unit → List (Database → Except Failure Database) → (Database → Prop) → Prop}
    (each : ∀ laterKnown : Database → Prop, (∀ db, laterKnown db → known db) →
      post () log laterKnown) :
    Wp valid rely (requireEligibility platform userId side) post log known := by
  unfold requireEligibility
  rw [wp_bind]
  apply Txn.wp_utcNow
  intro evaluatedAt
  simp only [wp_bind, wp_query, wp_lift, Txn.wp_require]
  intro read seen _ _ _ decision _ _
  apply each
  intro db learned
  exact learned.1

private theorem wp_validateOrderShape (request : OrderRequest)
    {post : Unit → List (Database → Except Failure Database) → (Database → Prop) → Prop}
    (each : post () log known) : Wp valid rely (validateOrderShape request) post log known := by
  unfold validateOrderShape
  simp only [wp_bind, Txn.wp_require]
  intro _ _ _ _
  exact each

/-- What is known of the forecasts when a sell has passed the surplus check. -/
def SurplusRead (rely : Database → Database → Prop) (request : OrderRequest) (db : Database) :
    Prop :=
  ∃ first second, rely first db ∧ rely second db ∧
    request.energyKwh ≤ totalExportableKwh (calculateSurplus
      (predictions (latestPerIntervalForSite first request.siteId request.deliveryStart
        request.deliveryEnd .solar))
      (predictions (latestPerIntervalForSite second request.siteId request.deliveryStart
        request.deliveryEnd .load)))

private theorem wp_requireForecastSurplus (request : OrderRequest)
    {post : Unit → List (Database → Except Failure Database) → (Database → Prop) → Prop}
    (each : ∀ laterKnown : Database → Prop, (∀ db, laterKnown db → known db) →
      (∀ db, laterKnown db → SurplusRead rely request db) → post () [] laterKnown) :
    Wp valid rely (requireForecastSurplus request.siteId request.energyKwh request.deliveryStart
      request.deliveryEnd) post [] known := by
  unfold requireForecastSurplus getSurplusForSite
  rw [wp_bind, wp_bind]
  apply wp_requireSite
  intro siteKnown weaker
  simp only [wp_bind, wp_query, wp_pure, Txn.wp_require, decide_eq_true_eq]
  intro first firstSeen _ _ firstSame second secondSeen _ _ secondSame enough
  cases firstSame
  cases secondSame
  apply each
  · intro db learned
    exact weaker db learned.1.1
  · intro db learned
    exact ⟨first, second, learned.1.2, learned.2, enough⟩

private theorem placeOrder_wp (platform : Platform) (request : OrderRequest) :
    Wp valid rely (placeOrder platform request)
      (fun order log known => ∀ db next, valid db → known db → replay log db = .ok next →
        Placed valid rely request order db next) [] fun _ => True := by
  unfold placeOrder
  rw [wp_bind]
  apply wp_getSession
  intro session read stored _ member named
  rw [wp_bind, Txn.wp_require]
  intro accepts
  have isOpen : session.status = .open := by simpa [MarketSessionStatus.acceptsOrders] using accepts
  rw [wp_bind]
  apply wp_requireSite
  intro siteKnown siteWeaker
  rw [wp_bind]
  apply wp_requireEligibility
  intro userKnown userWeaker
  rw [wp_bind]
  apply wp_validateOrderShape
  have rest : ∀ laterKnown : Database → Prop,
      (∀ db, laterKnown db → rely read db) →
      (∀ db, laterKnown db → request.side = .sell → SurplusRead rely request db) →
      Wp valid rely (do
        let createdAt ← Txn.momentOf request.at_
        let orderId ← Txn.uuid4
        let order := request.order orderId createdAt
        statement (Relations.orders.insert order.asStored)
        let event ← orderPlaced order createdAt
        let _ ← append platform.sha256 event
        pure order.asStored)
      (fun order log known => ∀ db next, valid db → known db → replay log db = .ok next →
        Placed valid rely request order db next) [] laterKnown := by
    intro laterKnown sessionKnown surplusKnown
    rw [wp_bind]
    apply Txn.wp_momentOf
    intro createdAt
    rw [wp_bind]
    apply Txn.wp_uuid4
    intro orderId
    dsimp only
    rw [wp_bind, wp_statement]
    intro inserting view _ _ _
    rw [wp_bind, orderPlaced]
    apply wp_buildEvent
    intro event
    rw [wp_bind]
    apply wp_append_extends platform.sha256 event Extends.rfl
    simp only [wp_pure]
    intro row log known extended db next _ learned replayed
    obtain ⟨middle, before, _, rfl, audited⟩ := extended.replayed db next replayed
    obtain ⟨start, same, inserted⟩ := replay_concat_ok before
    cases same
    have earlier := (extended.known db learned).1
    obtain ⟨rows, check, fresh, unchanged⟩ := insertOrder_rows inserted
    obtain ⟨table, nextIs⟩ := audited
    have nextRows : next.orders = middle.orders := by rw [nextIs]
    refine
      { read := ⟨session, read, ⟨stored, sessionKnown db earlier, member, named⟩, isOpen⟩
        surplus := surplusKnown db earlier
        row := ⟨orderId, createdAt, rfl⟩
        check := check
        fresh := fresh
        orders := nextRows ▸ rows
        rest := ⟨table, ?_⟩ }
    rw [nextRows, ← unchanged]
    exact nextIs
  have sessionStill : ∀ db, userKnown db → rely read db :=
    fun db learned => (siteWeaker db (userWeaker db learned)).2
  dsimp only
  split
  · rw [wp_bind]
    apply wp_requireForecastSurplus
    intro laterKnown weaker surplusKnown
    apply rest
    · exact fun db learned => sessionStill db (weaker db learned)
    · exact fun db learned _ => surplusKnown db learned
  · rename_i notSell
    apply rest
    · exact sessionStill
    · exact fun _ _ isSell => absurd isSell notSell

/-! ## Clearing -/

/-- The rows of a clearing are inserted one after the other. -/
theorem wp_addTrades (result : MatchingResult) (createdAt : Instant)
    (proposedTrades : List ProposedTrade)
    {start : List (Database → Except Failure Database)} {startKnown : Database → Prop}
    {related : Database → Database → Prop}
    (extends_ : Extends start startKnown log known related)
    {post : List Trade → List (Database → Except Failure Database) → (Database → Prop) → Prop}
    (each : ∀ trades later laterKnown,
      List.Forall₂ (fun proposed trade => ∃ tradeId,
        trade = tradeRow result proposed tradeId createdAt) proposedTrades trades →
      Extends start startKnown later laterKnown (fun db final => ∃ middle, related db middle ∧
        final.trades.rows = middle.trades.rows ++ trades.map Trade.asStored ∧
        final = { middle with trades := final.trades }) → post trades later laterKnown) :
    Wp valid rely (addTrades result createdAt proposedTrades) post log known := by
  induction proposedTrades generalizing log known related post with
  | nil =>
      rw [addTrades, wp_pure]
      apply each [] log known List.Forall₂.nil
      refine ⟨extends_.known, ?_⟩
      intro db final replayed
      obtain ⟨middle, before, holds⟩ := extends_.replayed db final replayed
      exact ⟨middle, before, final, holds, (List.append_nil _).symm, rfl⟩
  | cons proposed rest inductionHypothesis =>
      rw [addTrades, wp_bind]
      apply Txn.wp_uuid4
      intro tradeId
      dsimp only
      rw [wp_bind, wp_statement]
      intro inserting view _ _ _
      have one := extends_.concat
        (Relations.trades.insert (tradeRow result proposed tradeId createdAt).asStored)
        (fun later => known later ∧ rely inserting later) (fun _ learned => learned.1)
        (fun db final => ∃ middle, related db middle ∧ final.trades.rows = middle.trades.rows ++
          [(tradeRow result proposed tradeId createdAt).asStored] ∧
          final = { middle with trades := final.trades })
        (fun db middle final holds inserted => ⟨middle, holds, insertTrade_rows inserted⟩)
      rw [wp_bind]
      apply inductionHypothesis one
      intro trades later laterKnown named extended
      rw [wp_pure]
      apply each _ later laterKnown (List.Forall₂.cons ⟨tradeId, rfl⟩ named)
      refine ⟨extended.known, ?_⟩
      intro db final replayed
      obtain ⟨earlier, before, middle, ⟨first, holds, firstRows, firstRest⟩, rows, rest⟩ :=
        extended.replayed db final replayed
      refine ⟨earlier, before, first, holds, ?_, ?_⟩
      · rw [rows, firstRows, List.map_cons, List.append_assoc]
        rfl
      · rw [rest, firstRest]

/-- The statements of a clearing, before and after its audit events. -/
structure Flushed (marketSessionId : UUID) (pairs : List (Order × Order)) (trades : List Trade)
    (db final : Database) : Prop where
  trades : final.trades.rows = db.trades.rows ++ trades
  orders : final.orders.rows = db.orders.rows.map (flushedRow pairs)
  sessions : Marked marketSessionId .cleared db final
  rest : Audited { db with
    trades := final.trades
    orders := final.orders
    marketSessions := final.marketSessions } final

private theorem Flushed.audited {marketSessionId : UUID} {pairs : List (Order × Order)}
    {trades : List Trade} {db middle final : Database}
    (flushed : Flushed marketSessionId pairs trades db middle) (audited : Audited middle final) :
    Flushed marketSessionId pairs trades db final := by
  obtain ⟨table, rfl⟩ := audited
  exact ⟨flushed.trades, flushed.orders, flushed.sessions, flushed.rest.trans ⟨table, rfl⟩⟩

/-- The audit events of a clearing change the audit log only. -/
theorem wp_proposals (sha256 : String → String) (trades : List Trade)
    {start : List (Database → Except Failure Database)} {startKnown : Database → Prop}
    {marketSessionId : UUID} {pairs : List (Order × Order)} {stored : List Trade}
    (extends_ : Extends start startKnown log known (Flushed marketSessionId pairs stored))
    {post : Unit → List (Database → Except Failure Database) → (Database → Prop) → Prop}
    (each : ∀ later laterKnown, Extends start startKnown later laterKnown
      (Flushed marketSessionId pairs stored) → post () later laterKnown) :
    Wp valid rely (forItems (fun trade => do
      let event ← tradeProposed trade trade.createdAt
      let _ ← append sha256 event
      pure ()) trades) post log known := by
  apply wp_forItems fun _ later laterKnown =>
    Extends start startKnown later laterKnown (Flushed marketSessionId pairs stored)
  · exact extends_
  · intro trade rest later laterKnown extended
    rw [wp_bind, tradeProposed]
    apply wp_buildEvent
    intro event
    rw [wp_bind]
    apply wp_append_extends sha256 event extended
    intro row further furtherKnown appended
    rw [wp_pure]
    apply appended.mono
    rintro db final ⟨middle, holds, audited⟩
    exact holds.audited audited
  · exact each

private theorem clearSession_wp (platform : Platform) (engine : BaselineMatchingEngine)
    (marketSessionId : UUID) (at_ : Option Instant) :
    Wp valid rely (clearSession platform engine marketSessionId at_)
      (fun trades log known => ∀ db next, valid db → known db → replay log db = .ok next →
        Cleared valid rely engine marketSessionId trades db next) [] fun _ => True := by
  unfold clearSession
  rw [wp_bind]
  apply wp_getSession
  intro session read stored _ member named
  rw [wp_bind, Txn.wp_require]
  intro canClear
  have isClosed : session.status = .closed := by simpa [MarketSessionStatus.canClear] using canClear
  rw [wp_bind]
  apply Txn.wp_momentOf
  intro clearedAt
  rw [wp_bind, wp_query]
  intro bookRead bookSeen bookStored _ bookSame
  cases bookSame
  dsimp only
  rw [wp_bind, wp_lift]
  intro result outcome
  have returned : engine.matchRequest ⟨orderBook session
      (listActiveForSession bookRead marketSessionId), clearedAt⟩ = .ok result := by
    cases matching : engine.matchRequest ⟨orderBook session
        (listActiveForSession bookRead marketSessionId), clearedAt⟩ with
    | error error =>
        rw [matching] at outcome
        cases outcome
    | ok value =>
        rw [matching] at outcome
        cases outcome
        rfl
  rw [wp_bind, wp_lift]
  intro _ _
  rw [wp_bind, wp_query]
  intro listRead listSeen listStored learnedBook listSame
  cases listSame
  rw [wp_bind]
  apply Txn.wp_serverNow
  intro createdAt
  rw [wp_bind]
  apply wp_addTrades result createdAt result.trades Extends.rfl
  intro trades tradesLog tradesKnown inserted tradesExtended
  rw [wp_bind, wp_lift]
  intro filled filledEq
  rw [wp_bind, wp_statement]
  intro ordersFlush _ _ _ _
  rw [wp_bind, wp_statement]
  intro sessionFlush _ _ _ _
  let pairs := (instances (listActiveForSession bookRead marketSessionId)
    (listActiveForSession listRead marketSessionId)).zip filled
  have ordersExtended := tradesExtended.concat (flushOrders pairs)
    (fun later => tradesKnown later ∧ rely ordersFlush later) (fun _ learned => learned.1)
    (fun db final => final.trades.rows = db.trades.rows ++ trades.map Trade.asStored ∧
      final.orders.rows = db.orders.rows.map (flushedRow pairs) ∧
      final = { db with trades := final.trades, orders := final.orders })
    (by
      rintro db middle final ⟨_, rfl, rows, rest⟩ flushed
      obtain ⟨ordersRows, ordersRest⟩ := flushOrders_rows flushed
      refine ⟨?_, ?_, ?_⟩
      · rw [ordersRest, rows]
      · rw [ordersRows, rest]
      · rw [ordersRest, rest])
  have written := ordersExtended.concat
    (flushSession session { session with status := .cleared, clearedAt := some clearedAt })
    (fun later => (tradesKnown later ∧ rely ordersFlush later) ∧ rely sessionFlush later)
    (fun _ learned => learned.1) (Flushed marketSessionId pairs (trades.map Trade.asStored))
    (by
      rintro db middle final ⟨tradesRows, ordersRows, rest⟩ flushed
      have changed : MarketSessionStatus.cleared ≠ session.status := by
        rw [isClosed]
        decide
      obtain ⟨⟨change, marks, rows⟩, sessionRest⟩ := flushSession_marked changed flushed
      refine ⟨?_, ?_, ⟨change, marks, ?_⟩, ⟨final.audit, ?_⟩⟩
      · rw [sessionRest, tradesRows]
      · rw [sessionRest, ordersRows]
      · rw [rows, rest, named]
      · rw [sessionRest, rest])
  rw [wp_bind, marketCleared]
  apply wp_buildEvent
  intro event
  rw [wp_bind]
  apply wp_append_extends platform.sha256 event written
  intro row log known appended
  rw [wp_bind]
  have flushed : Extends [] _ log known (Flushed marketSessionId pairs
      (trades.map Trade.asStored)) := appended.mono (by
    rintro db final ⟨middle, holds, audited⟩
    exact holds.audited audited)
  apply wp_proposals platform.sha256 trades flushed
  intro finalLog finalKnown extended
  rw [wp_pure]
  intro db next _ learned replayed
  obtain ⟨start, same, final⟩ := extended.replayed db next replayed
  cases same
  have reads := extended.known db learned
  exact
    { read := ⟨session, read, bookRead, listRead, clearedAt, createdAt, result, trades, filled,
        ⟨stored, reads.1.1.2, member, named⟩, isClosed, bookStored, reads.1.2, listStored,
        reads.2, learnedBook.2, returned, inserted, rfl, filledEq, final.orders⟩
      trades := final.trades
      sessions := final.sessions
      rest := final.rest }

/-- What is established of a request's code. -/
theorem handle_wp (platform : Platform) (engine : BaselineMatchingEngine) (request : Request) :
    Wp valid rely (handle platform engine request)
      (fun response log known => ∀ db next, valid db → known db → replay log db = .ok next →
        Effect valid rely engine request response db next) [] fun _ => True := by
  cases request with
  | openSession marketDate marketType at_ =>
      apply (wp_bind _ _).mpr
      apply (openSession_wp marketDate marketType at_).mono
      intro session log known effect
      rw [wp_pure]
      exact fun db next stored learned replayed => .opened (effect db next stored learned replayed)
  | placeOrder order =>
      apply (wp_bind _ _).mpr
      apply (placeOrder_wp platform order).mono
      intro session log known effect
      rw [wp_pure]
      exact fun db next stored learned replayed => .placed (effect db next stored learned replayed)
  | cancelOrder orderId =>
      apply (wp_bind _ _).mpr
      apply (cancelOrder_wp orderId).mono
      intro session log known effect
      rw [wp_pure]
      exact fun db next stored learned replayed =>
        .cancelled (effect db next stored learned replayed)
  | closeSession marketSessionId at_ =>
      apply (wp_bind _ _).mpr
      apply (closeSession_wp marketSessionId at_).mono
      intro session log known effect
      rw [wp_pure]
      exact fun db next stored learned replayed => .closed (effect db next stored learned replayed)
  | clearSession marketSessionId at_ =>
      apply (wp_bind _ _).mpr
      apply (clearSession_wp platform engine marketSessionId at_).mono
      intro session log known effect
      rw [wp_pure]
      exact fun db next stored learned replayed => .cleared (effect db next stored learned replayed)

end Operations

end UrjaSetu.Services.MarketService
