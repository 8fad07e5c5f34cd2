import UrjaSetu.Db.Database
import UrjaSetu.Library.Sorting

/-!
The queries of `app/repositories/market.py`.
-/

namespace UrjaSetu.Repositories.Market

open UrjaSetu.Domain UrjaSetu.Db UrjaSetu.Db.Models UrjaSetu.Library

/-- `get_for_date`. -/
def getForDate (db : Database) (marketDate : ℤ) (marketType : MarketType) :
    Option MarketSession :=
  db.marketSessions.find? fun session =>
    session.marketDate = marketDate && session.marketType = marketType

/-- `list_active_for_session`: by arrival, then id. -/
def listActiveForSession (db : Database) (marketSessionId : UUID) : List Order :=
  sortBy (fun order => (toLex (order.createdAt, order.id) : Instant ×ₗ UUID))
    (db.orders.where_ fun order =>
      order.marketSessionId = marketSessionId && order.status.isActive)

theorem mem_listActiveForSession {db : Database} {marketSessionId : UUID} {order : Order} :
    order ∈ listActiveForSession db marketSessionId ↔
      order ∈ db.orders.rows ∧ order.marketSessionId = marketSessionId ∧
        order.status.isActive = true := by
  rw [listActiveForSession, mem_sortBy, Table.mem_where, Bool.and_eq_true, decide_eq_true_eq]

end UrjaSetu.Repositories.Market
