import UrjaSetu.Db.Models.Audit

/-!
The queries of `app/repositories/audit.py`: the recorded order of the chain and
its current head.
-/

namespace UrjaSetu.Repositories

open UrjaSetu.Domain UrjaSetu.Db.Models UrjaSetu.Library

namespace AuditEventRepository

/-- `recorded_at` with the event id as a tiebreaker. -/
def recordedKey (row : AuditEventRecord) : Instant ×ₗ UUID := toLex (row.recordedAt, row.id)

/-- The whole chain in recorded order, oldest first. -/
def listChain (table : AuditEventTable) : List AuditEventRecord := sortBy recordedKey table.rows

/-- The current head of the chain: the last row in recorded order. -/
def latest (table : AuditEventTable) : Option AuditEventRecord := (listChain table).getLast?

theorem recordedKeys_nodup (table : AuditEventTable) : (table.rows.map recordedKey).Nodup := by
  have ids : (table.rows.map recordedKey).map (fun key => (ofLex key).2) =
      table.rows.map AuditEventRecord.id := by
    rw [List.map_map]
    rfl
  have distinct := table.primaryKey
  rw [← ids] at distinct
  exact distinct.of_map

/-- No row is above the head. -/
theorem recordedKey_le_latest {table : AuditEventTable} {head row : AuditEventRecord}
    (isLatest : latest table = some head) (member : row ∈ table.rows) :
    recordedKey row ≤ recordedKey head := by
  obtain ⟨front, split⟩ := List.getLast?_eq_some_iff.mp isLatest
  have ordered : (front ++ [head]).Pairwise fun left right => recordedKey left ≤ recordedKey right := by
    rw [← split]
    exact sortBy_pairwise recordedKey table.rows
  have inChain : row ∈ front ++ [head] := by
    rw [← split]
    exact (mem_sortBy recordedKey).mpr member
  rcases List.mem_append.mp inChain with early | last
  · exact (List.pairwise_append.mp ordered).2.2 row early head (by simp)
  · rw [List.mem_singleton.mp last]

/-- The head is one of the rows. -/
theorem latest_mem {table : AuditEventTable} {head : AuditEventRecord}
    (isLatest : latest table = some head) : head ∈ table.rows :=
  (mem_sortBy recordedKey).mp (List.mem_of_getLast? isLatest)

end AuditEventRepository

end UrjaSetu.Repositories
