import UrjaSetu.Domain.Interfaces.Audit
import UrjaSetu.Library.Json
import UrjaSetu.Library.Exceptions

/-!
The `audit_events` table of `app/db/models/audit.py`.

A table is a list of rows in insertion order that satisfies the declared
constraints, so a set of rows that breaks one is no table. The digest length
checks are left out: they hold of every hexadecimal digest.
-/

namespace UrjaSetu.Db.Models

open UrjaSetu.Domain UrjaSetu.Library

/-- How JSONB ranks the keys of an object: by length, then by bytes. -/
def jsonbRank (key : String) : ℕ ×ₗ List ℕ :=
  toLex (key.utf8ByteSize, key.toUTF8.data.toList.map UInt8.toNat)

/-- The members of a JSON object as a JSONB column gives them back. -/
def jsonbMembers (members : List (String × Json)) : List (String × Json) :=
  Json.sortMembers jsonbRank (Json.orderMembers jsonbRank members)

theorem jsonbMembers_keys (members : List (String × Json)) :
    ((jsonbMembers members).map Prod.fst).Perm (members.map Prod.fst) := by
  have sorted := sortBy_perm (fun member : String × Json => jsonbRank member.1)
    (Json.orderMembers jsonbRank members)
  have keys := sorted.map Prod.fst
  rw [Json.orderMembers_keys] at keys
  exact keys

def jsonb (payload : Dict String Json) : Dict String Json where
  entries := jsonbMembers payload.entries
  distinct := (jsonbMembers_keys payload.entries).nodup_iff.mpr payload.distinct

/-- One recorded business event. -/
structure AuditEventRecord where
  id : UUID
  eventType : AuditEventType
  entityType : AuditEntityType
  entityId : UUID
  eventTime : Instant
  recordedAt : Instant
  actorUserId : Option UUID
  payloadJson : Dict String Json
  eventHash : String
  previousHash : Option String

/-- A violated constraint, by name. -/
structure IntegrityError where
  constraint : String
deriving DecidableEq, Repr

/-- The table, with its constraints. `previous_hash` is unique with nulls not
distinct, so at most one row has none. -/
structure AuditEventTable where
  rows : List AuditEventRecord
  primaryKey : (rows.map AuditEventRecord.id).Nodup
  eventHashes : (rows.map AuditEventRecord.eventHash).Nodup
  previousHashes : (rows.map AuditEventRecord.previousHash).Nodup
  notItself : ∀ row ∈ rows, row.previousHash ≠ some row.eventHash

namespace AuditEventTable

def empty : AuditEventTable :=
  ⟨[], List.nodup_nil, List.nodup_nil, List.nodup_nil, by simp⟩

private theorem nodup_concat {α β : Type} {column : α → β} {rows : List α} {row : α}
    (distinct : (rows.map column).Nodup) (fresh : column row ∉ rows.map column) :
    ((rows ++ [row]).map column).Nodup := by
  rw [List.map_append, List.map_singleton]
  exact List.nodup_append'.mpr
    ⟨distinct, List.nodup_singleton _, List.disjoint_singleton.mpr fresh⟩

/-- `INSERT`, with the constraint that refuses the row if one does. -/
def insert (table : AuditEventTable) (row : AuditEventRecord) :
    Except IntegrityError AuditEventTable :=
  if id : row.id ∈ table.rows.map AuditEventRecord.id then .error ⟨"pk_audit_events"⟩
  else if eventHash : row.eventHash ∈ table.rows.map AuditEventRecord.eventHash then
    .error ⟨"uq_audit_events_event_hash"⟩
  else if previousHash : row.previousHash ∈ table.rows.map AuditEventRecord.previousHash then
    .error ⟨"uq_audit_events_previous_hash"⟩
  else if itself : row.previousHash = some row.eventHash then
    .error ⟨"ck_audit_events_event_does_not_follow_itself"⟩
  else
    .ok
      { rows := table.rows ++ [row]
        primaryKey := nodup_concat table.primaryKey id
        eventHashes := nodup_concat table.eventHashes eventHash
        previousHashes := nodup_concat table.previousHashes previousHash
        notItself := by
          intro other member
          rcases List.mem_append.mp member with stored | new
          · exact table.notItself other stored
          · rw [List.mem_singleton.mp new]
            exact itself }

/-- An accepted insert appends the row. -/
theorem insert_ok {table next : AuditEventTable} {row : AuditEventRecord}
    (inserted : table.insert row = .ok next) : next.rows = table.rows ++ [row] := by
  unfold insert at inserted
  split_ifs at inserted
  cases inserted
  rfl

/-- A row that violates no constraint is accepted. -/
theorem insert_of_fresh {table : AuditEventTable} {row : AuditEventRecord}
    (id : row.id ∉ table.rows.map AuditEventRecord.id)
    (eventHash : row.eventHash ∉ table.rows.map AuditEventRecord.eventHash)
    (previousHash : row.previousHash ∉ table.rows.map AuditEventRecord.previousHash)
    (itself : row.previousHash ≠ some row.eventHash) :
    ∃ next, table.insert row = .ok next ∧ next.rows = table.rows ++ [row] := by
  unfold insert
  rw [dif_neg id, dif_neg eventHash, dif_neg previousHash, dif_neg itself]
  exact ⟨_, rfl, rfl⟩

end AuditEventTable

end UrjaSetu.Db.Models
