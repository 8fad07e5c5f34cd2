import UrjaSetu.Db.Database
import UrjaSetu.Library.Sorting

/-!
The queries of `app/repositories/settlement.py` and `pricing.py` that settling
uses.
-/

namespace UrjaSetu.Repositories.Settlement

open UrjaSetu.Domain UrjaSetu.Db UrjaSetu.Db.Models UrjaSetu.Library

/-- `PriceComponentsRepository.latest_for_trade`: the newest breakdown. -/
def latestForTrade (db : Database) (tradeId : UUID) : Option PriceComponents :=
  (sortBy (fun price => (toLex (price.createdAt, price.id) : Instant ×ₗ UUID))
    (db.prices.where_ fun price => price.tradeId = tradeId)).getLast?

/-- `SettlementRepository.list_for_trade`: every settlement, oldest first. -/
def listForTrade (db : Database) (tradeId : UUID) : List Settlement :=
  sortBy Settlement.settledAt (db.settlements.where_ fun row => row.tradeId = tradeId)

theorem mem_listForTrade {db : Database} {tradeId : UUID} {row : Settlement} :
    row ∈ listForTrade db tradeId ↔ row ∈ db.settlements.rows ∧ row.tradeId = tradeId := by
  rw [listForTrade, mem_sortBy, Table.mem_where, decide_eq_true_eq]

end UrjaSetu.Repositories.Settlement
