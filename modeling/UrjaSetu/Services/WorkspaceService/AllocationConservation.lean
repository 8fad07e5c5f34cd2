import UrjaSetu.Services.WorkspaceService.DeliveryEffects

/-!
What deliveries never do: give more of a reading than it measured, deliver a
trade twice, or leave a settlement unbalanced.

Owns: the laws of the delivery evidence, and that every run keeps them, whatever
else happens between its operations.
-/

namespace UrjaSetu.Services.WorkspaceService

open UrjaSetu.Domain UrjaSetu.Db UrjaSetu.Db.Models UrjaSetu.Library UrjaSetu.Library.Rounding

/-! ## The laws -/

/-- No more was allocated of any reading that a trade used than the channel
measured. -/
def WithinReadings (channel : TelemetryReading → Option ℚ) (fk : TradeAllocation → UUID)
    (db : Database) : Prop :=
  ∀ reading ∈ db.readings.rows, (∃ allocation ∈ db.allocations.rows, fk allocation = reading.id) →
    ∃ total, channel reading = some total ∧ usedKwh fk reading.id db ≤ total

/-- What every trade is given, once, and what its settlement posts. -/
structure Conserved (db : Database) : Prop where
  exported : WithinReadings TelemetryReading.gridExportKwh TradeAllocation.sellerReadingId db
  imported : WithinReadings TelemetryReading.gridImportKwh TradeAllocation.buyerReadingId db
  quantities : ∀ allocation ∈ db.allocations.rows, ∃ trade ∈ db.trades.rows,
    trade.id = allocation.tradeId ∧ allocation.energyKwh ≤ trade.quantityKwh
  allocations : (db.allocations.rows.map TradeAllocation.tradeId).Nodup
  settlements : (db.settlements.rows.map Settlement.tradeId).Nodup
  receipts : (db.receipts.rows.map Receipt.tradeId).Nodup
  journal : ∀ settlement ∈ db.settlements.rows,
    ((db.journal.where_ fun entry => entry.settlementId = settlement.id).map
      JournalEntry.amountInr).sum = 0

/-- What carries the laws from one transition to the next: the readings that
were used are stored, a settlement comes with its allocation, and a posting with
its settlement. -/
structure Accounted (db : Database) : Prop extends Conserved db where
  nonneg : ∀ reading ∈ db.readings.rows, channelsNonneg reading = true
  sellerStored : ∀ allocation ∈ db.allocations.rows,
    ∃ reading ∈ db.readings.rows, reading.id = allocation.sellerReadingId
  buyerStored : ∀ allocation ∈ db.allocations.rows,
    ∃ reading ∈ db.readings.rows, reading.id = allocation.buyerReadingId
  together : db.settlements.rows.map Settlement.tradeId =
    db.allocations.rows.map TradeAllocation.tradeId
  posted : ∀ entry ∈ db.journal.rows,
    ∃ settlement ∈ db.settlements.rows, settlement.id = entry.settlementId

/-! ## Readings -/

section Readings

variable {channel : TelemetryReading → Option ℚ} {fk : TradeAllocation → UUID}
  {db next : Database}

private theorem reading_eq_of_id {left right : TelemetryReading}
    (leftStored : left ∈ db.readings.rows)
    (rightStored : right ∈ db.readings.rows) (same : left.id = right.id) : left = right :=
  Table.eq_of_column TelemetryReading.id
    (fun _ _ equal => decide_eq_true (Or.inl equal)) leftStored rightStored same

/-- What a measured side is: a stored reading, and what it has left. -/
theorem measured_eq_some {trade : Trade} {order : Order} {side : Measured}
    (found : measured trade order channel fk db = some side) :
    side.reading ∈ db.readings.rows ∧ ∃ total, channel side.reading = some total ∧
      side.kwh = max 0 (total - usedKwh fk side.reading.id db) := by
  simp only [measured, Option.bind_eq_bind, Option.bind_eq_some_iff, Option.pure_def,
    Option.some.injEq] at found
  obtain ⟨meter, _, reading, isReading, total, isTotal, rfl⟩ := found
  exact ⟨(Table.find?_mem isReading).1, total, isTotal, rfl⟩

private theorem usedKwh_append {allocation : TradeAllocation} (readingId : UUID)
    (rows : next.allocations.rows = db.allocations.rows ++ [allocation]) :
    usedKwh fk readingId next =
      usedKwh fk readingId db + if fk allocation = readingId then allocation.energyKwh else 0 := by
  unfold usedKwh Table.where_
  rw [rows, List.filter_append, List.map_append, List.sum_append]
  congr 1
  by_cases isIts : fk allocation = readingId
  · simp [isIts]
  · simp [isIts]

/-- What no allocation refers to has not been used. -/
theorem usedKwh_unused {readingId : UUID}
    (unused : ∀ allocation ∈ db.allocations.rows, fk allocation ≠ readingId) :
    usedKwh fk readingId db = 0 := by
  have none : db.allocations.rows.filter (fun allocation => fk allocation = readingId) = [] := by
    apply List.filter_eq_nil_iff.mpr
    intro allocation member same
    exact unused allocation member (of_decide_eq_true same)
  unfold usedKwh Table.where_
  rw [none]
  rfl

/-- Step: a share of what a reading has left keeps within it. -/
theorem WithinReadings.recorded (within : WithinReadings channel fk db)
    {trade : Trade} {order : Order} {side : Measured} {allocation : TradeAllocation}
    (found : measured trade order channel fk db = some side)
    (nonneg : ∀ total, channel side.reading = some total → 0 ≤ total)
    (isIts : fk allocation = side.reading.id) (share : allocation.energyKwh ≤ side.kwh)
    (readings : next.readings = db.readings)
    (rows : next.allocations.rows = db.allocations.rows ++ [allocation]) :
    WithinReadings channel fk next := by
  obtain ⟨stored, total, isTotal, left⟩ := measured_eq_some found
  intro reading member used
  rw [readings] at member
  rw [usedKwh_append reading.id rows]
  by_cases same : fk allocation = reading.id
  · have isReading : reading = side.reading :=
      reading_eq_of_id member stored (same.symm.trans isIts)
    subst isReading
    rw [if_pos same]
    refine ⟨total, isTotal, ?_⟩
    have before : usedKwh fk side.reading.id db ≤ total := by
      by_cases earlier : ∃ other ∈ db.allocations.rows, fk other = side.reading.id
      · obtain ⟨measured, isMeasured, bound⟩ := within side.reading member earlier
        rw [isTotal] at isMeasured
        cases isMeasured
        exact bound
      · rw [usedKwh_unused fun other otherMember isIt => earlier ⟨other, otherMember, isIt⟩]
        exact nonneg total isTotal
    rw [left, max_eq_right (sub_nonneg.mpr before)] at share
    linarith
  · rw [if_neg same, add_zero]
    obtain ⟨other, otherMember, isIt⟩ := used
    rw [rows] at otherMember
    rcases List.mem_append.mp otherMember with earlier | new
    · exact within reading member ⟨other, earlier, isIt⟩
    · rw [List.mem_singleton.mp new] at isIt
      exact absurd isIt same

/-- What comes later uses nothing of the readings that were added. -/
theorem WithinReadings.aside (within : WithinReadings channel fk db) (aside : Aside db next)
    (stored : ∀ allocation ∈ db.allocations.rows,
      ∃ reading ∈ db.readings.rows, reading.id = fk allocation) :
    WithinReadings channel fk next := by
  obtain ⟨added, rows, _⟩ := aside.readings
  intro reading member used
  obtain ⟨allocation, allocationMember, isIts⟩ := used
  rw [aside.allocations] at allocationMember
  obtain ⟨earlier, earlierMember, isEarlier⟩ := stored allocation allocationMember
  have earlierLater : earlier ∈ next.readings.rows := by
    rw [rows]
    exact List.mem_append_left _ earlierMember
  have isReading : reading = earlier :=
    reading_eq_of_id member earlierLater (isIts.symm.trans isEarlier.symm)
  subst isReading
  obtain ⟨total, isTotal, bound⟩ := within reading earlierMember ⟨allocation, allocationMember, isIts⟩
  refine ⟨total, isTotal, ?_⟩
  unfold usedKwh at bound ⊢
  rw [aside.allocations]
  exact bound

end Readings

/-! ## One delivery -/

section Delivery

variable {engines : Engines} {delivery : Delivery} {db next : Database}

private theorem total_nonneg {value : Option ℚ} {total : ℚ} (nonneg : nullOrNonneg value = true)
    (isTotal : value = some total) : 0 ≤ total := by
  rw [isTotal] at nonneg
  exact of_decide_eq_true nonneg

/-- What is delivered is at most the quantity, and at most what each side has
left. -/
theorem deliveredKwh_le {trade : Trade} {seller buyer : Measured} (quantity : 0 ≤ trade.quantityKwh)
    (sellerLeft : 0 ≤ seller.kwh) (buyerLeft : 0 ≤ buyer.kwh) :
    0 ≤ deliveredKwh trade seller buyer ∧ deliveredKwh trade seller buyer ≤ trade.quantityKwh ∧
      deliveredKwh trade seller buyer ≤ seller.kwh ∧ deliveredKwh trade seller buyer ≤ buyer.kwh := by
  have nonneg : 0 ≤ min (min trade.quantityKwh seller.kwh) buyer.kwh :=
    le_min (le_min quantity sellerLeft) buyerLeft
  have truncated : deliveredKwh trade seller buyer ≤
      min (min trade.quantityKwh seller.kwh) buyer.kwh := quantize_down_le nonneg
  refine ⟨quantize_nonneg down nonneg, ?_, ?_, ?_⟩
  · exact truncated.trans ((min_le_left _ _).trans (min_le_left _ _))
  · exact truncated.trans ((min_le_left _ _).trans (min_le_right _ _))
  · exact truncated.trans (min_le_right _ _)

private theorem measured_left_nonneg {trade : Trade} {order : Order}
    {channel : TelemetryReading → Option ℚ}
    {fk : TradeAllocation → UUID} {side : Measured}
    (found : measured trade order channel fk db = some side) : 0 ≤ side.kwh := by
  obtain ⟨_, _, _, left⟩ := measured_eq_some found
  rw [left]
  exact le_max_left _ _

theorem Delivery.Read.kwh_le (read : delivery.Read db) :
    0 ≤ delivery.kwh ∧ delivery.kwh ≤ delivery.trade.quantityKwh ∧
      delivery.kwh ≤ delivery.seller.kwh ∧ delivery.kwh ≤ delivery.buyer.kwh := by
  have checked := db.trades.checked delivery.trade read.stored
  simp only [trades, Bool.and_eq_true, decide_eq_true_eq] at checked
  exact deliveredKwh_le checked.1.1.1.le (measured_left_nonneg read.seller)
    (measured_left_nonneg read.buyer)

/-- The key of the table keeps the trades of its allocations apart. -/
theorem allocations_nodup (db : Database) :
    (db.allocations.rows.map TradeAllocation.tradeId).Nodup :=
  Table.nodup_column TradeAllocation.tradeId fun _ _ same => decide_eq_true same

private theorem receipts_nodup (db : Database) : (db.receipts.rows.map Receipt.tradeId).Nodup :=
  Table.nodup_column Receipt.tradeId fun _ _ same => decide_eq_true same

private theorem Delivery.Recorded.readings (recorded : delivery.Recorded engines db next) :
    next.readings = db.readings := by
  rw [recorded.added.frame]

/-- A trade with its status changed has its identifier and its quantity. -/
theorem Delivery.Recorded.trade_stored (recorded : delivery.Recorded engines db next)
    {trade : Trade} (stored : trade ∈ db.trades.rows) :
    ∃ later ∈ next.trades.rows, later.id = trade.id ∧ later.quantityKwh = trade.quantityKwh := by
  rw [recorded.added.trades]
  refine ⟨_, List.mem_map_of_mem stored, ?_, ?_⟩
  · split <;> rfl
  · split <;> rfl

private theorem Delivery.Recorded.journal_balances (recorded : delivery.Recorded engines db next)
    (accounted : Accounted db) :
    ∀ settlement ∈ next.settlements.rows,
      ((next.journal.where_ fun entry => entry.settlementId = settlement.id).map
        JournalEntry.amountInr).sum = 0 := by
  have ids : ∀ other ∈ db.settlements.rows, other.id ≠ delivery.settlementId := by
    have apart := next.settlements.apart
    rw [recorded.added.settlements, List.pairwise_append] at apart
    intro other member same
    have kept := apart.2.2 other member _ (List.mem_singleton_self _)
    simp only [Models.settlements, decide_eq_false_iff_not] at kept
    exact kept same
  intro settlement member
  rw [recorded.added.settlements] at member
  unfold Table.where_
  rw [recorded.added.journal, List.filter_append, List.map_append, List.sum_append]
  rcases List.mem_append.mp member with earlier | new
  · -- The new postings name the new settlement.
    have other : delivery.settlement.id ≠ settlement.id := fun same => ids settlement earlier same.symm
    have none : [buyerPosting delivery.settlement, sellerPosting delivery.settlement].filter
        (fun entry => entry.settlementId = settlement.id) = [] := by
      simp [buyerPosting, sellerPosting, other]
    rw [none]
    simpa [Table.where_] using accounted.journal settlement earlier
  · -- No earlier posting names the new settlement.
    rw [List.mem_singleton.mp new]
    have none : db.journal.rows.filter
        (fun entry => entry.settlementId = delivery.settlement.asStored.id) = [] := by
      apply List.filter_eq_nil_iff.mpr
      intro entry entryMember same
      obtain ⟨owner, ownerMember, isOwner⟩ := accounted.posted entry entryMember
      exact ids owner ownerMember (isOwner.trans (of_decide_eq_true same))
    have both : [buyerPosting delivery.settlement, sellerPosting delivery.settlement].filter
        (fun entry => entry.settlementId = delivery.settlement.asStored.id) =
          [buyerPosting delivery.settlement, sellerPosting delivery.settlement] := by
      apply List.filter_eq_self.mpr
      intro entry entryMember
      rcases List.mem_pair.mp entryMember with rfl | rfl
      · exact decide_eq_true rfl
      · exact decide_eq_true rfl
    rw [none, both]
    simp [buyerPosting, sellerPosting]

private theorem Accounted.recorded (accounted : Accounted db)
    (recorded : delivery.Recorded engines db next) : Accounted next := by
  have kwh := recorded.read.kwh_le
  have rows := recorded.added.allocations
  have sellerReading := measured_eq_some recorded.read.seller
  have buyerReading := measured_eq_some recorded.read.buyer
  have channels : ∀ reading ∈ db.readings.rows,
      nullOrNonneg reading.gridImportKwh = true ∧ nullOrNonneg reading.gridExportKwh = true := by
    intro reading member
    exact (Bool.and_eq_true _ _).mp (accounted.nonneg reading member)
  have together : next.settlements.rows.map Settlement.tradeId =
      next.allocations.rows.map TradeAllocation.tradeId := by
    rw [recorded.added.settlements, rows, List.map_append, List.map_append, accounted.together]
    rfl
  refine
    { exported := ?_
      imported := ?_
      quantities := ?_
      allocations := allocations_nodup next
      settlements := ?_
      receipts := receipts_nodup next
      journal := recorded.journal_balances accounted
      nonneg := ?_
      sellerStored := ?_
      buyerStored := ?_
      together := together
      posted := ?_ }
  · exact accounted.exported.recorded recorded.read.seller
      (fun total => total_nonneg (channels _ sellerReading.1).2) rfl kwh.2.2.1 recorded.readings
      rows
  · exact accounted.imported.recorded recorded.read.buyer
      (fun total => total_nonneg (channels _ buyerReading.1).1) rfl kwh.2.2.2 recorded.readings
      rows
  · intro allocation member
    rw [rows] at member
    rcases List.mem_append.mp member with earlier | new
    · obtain ⟨trade, stored, isIts, bound⟩ := accounted.quantities allocation earlier
      obtain ⟨later, laterStored, sameId, sameQuantity⟩ := recorded.trade_stored stored
      exact ⟨later, laterStored, sameId.trans isIts, bound.trans sameQuantity.ge⟩
    · rw [List.mem_singleton.mp new]
      obtain ⟨later, laterStored, sameId, sameQuantity⟩ :=
        recorded.trade_stored recorded.read.stored
      exact ⟨later, laterStored, sameId, kwh.2.1.trans sameQuantity.ge⟩
  · rw [together]
    exact allocations_nodup next
  · rw [recorded.readings]
    exact accounted.nonneg
  · intro allocation member
    rw [recorded.readings]
    rw [rows] at member
    rcases List.mem_append.mp member with earlier | new
    · exact accounted.sellerStored allocation earlier
    · rw [List.mem_singleton.mp new]
      exact ⟨delivery.seller.reading, sellerReading.1, rfl⟩
  · intro allocation member
    rw [recorded.readings]
    rw [rows] at member
    rcases List.mem_append.mp member with earlier | new
    · exact accounted.buyerStored allocation earlier
    · rw [List.mem_singleton.mp new]
      exact ⟨delivery.buyer.reading, buyerReading.1, rfl⟩
  · intro entry member
    rw [recorded.added.journal] at member
    rw [recorded.added.settlements]
    rcases List.mem_append.mp member with earlier | new
    · obtain ⟨settlement, stored, isIts⟩ := accounted.posted entry earlier
      exact ⟨settlement, List.mem_append_left _ stored, isIts⟩
    · refine ⟨delivery.settlement.asStored, List.mem_append_right _ (List.mem_singleton_self _), ?_⟩
      rcases List.mem_pair.mp new with rfl | rfl
      · rfl
      · rfl

private theorem Accounted.aside (accounted : Accounted db) (aside : Aside db next) :
    Accounted next := by
  obtain ⟨added, readingRows, addedNonneg⟩ := aside.readings
  have kept : ∀ reading ∈ db.readings.rows, reading ∈ next.readings.rows := by
    intro reading member
    rw [readingRows]
    exact List.mem_append_left _ member
  refine
    { exported := accounted.exported.aside aside accounted.sellerStored
      imported := accounted.imported.aside aside accounted.buyerStored
      quantities := ?_
      allocations := allocations_nodup next
      settlements := by rw [aside.settlements]; exact accounted.settlements
      receipts := receipts_nodup next
      journal := by rw [aside.settlements, aside.journal]; exact accounted.journal
      nonneg := ?_
      sellerStored := ?_
      buyerStored := ?_
      together := by rw [aside.settlements, aside.allocations]; exact accounted.together
      posted := by rw [aside.settlements, aside.journal]; exact accounted.posted }
  · intro allocation member
    rw [aside.allocations] at member
    obtain ⟨trade, stored, isIts, bound⟩ := accounted.quantities allocation member
    obtain ⟨later, laterStored, sameId, sameQuantity⟩ := aside.trades trade stored
    exact ⟨later, laterStored, sameId.trans isIts, bound.trans sameQuantity.ge⟩
  · intro reading member
    rw [readingRows] at member
    exact (List.mem_append.mp member).elim (accounted.nonneg reading) (addedNonneg reading)
  · intro allocation member
    rw [aside.allocations] at member
    obtain ⟨reading, stored, isIts⟩ := accounted.sellerStored allocation member
    exact ⟨reading, kept reading stored, isIts⟩
  · intro allocation member
    rw [aside.allocations] at member
    obtain ⟨reading, stored, isIts⟩ := accounted.buyerStored allocation member
    exact ⟨reading, kept reading stored, isIts⟩

theorem Accounted.progress (accounted : Accounted db) (reached : Progress engines db next) :
    Accounted next := by
  induction reached with
  | refl => exact accounted
  | tail _ step inductionHypothesis =>
      cases step with
      | aside aside => exact inductionHypothesis.aside aside
      | delivery delivery recorded => exact inductionHypothesis.recorded recorded

end Delivery

/-! ## Runs -/

/-- Nothing has been delivered yet; the readings there are measure no negative
energy. -/
structure Undelivered (db : Database) : Prop where
  readings : ∀ reading ∈ db.readings.rows, channelsNonneg reading = true
  allocations : db.allocations.rows = []
  settlements : db.settlements.rows = []
  journal : db.journal.rows = []

theorem Undelivered.accounted {db : Database} (undelivered : Undelivered db) : Accounted db := by
  obtain ⟨readings, allocations, settlements, journal⟩ := undelivered
  refine
    { exported := ?_
      imported := ?_
      quantities := ?_
      allocations := allocations_nodup db
      settlements := by rw [settlements]; exact List.nodup_nil
      receipts := receipts_nodup db
      journal := ?_
      nonneg := readings
      sellerStored := ?_
      buyerStored := ?_
      together := by rw [settlements, allocations]; rfl
      posted := ?_ }
  all_goals simp [WithinReadings, allocations, settlements, journal]

/-- A run: the operations that deliver, each on its own session and rolled back
where it raises, and between them whatever leaves the delivery evidence aside. -/
inductive Run (engines : Engines) (start : Database) : Database → Prop
  | start : Run engines start start
  | operation {db : Database} (operation : Operation) (outside : Outside)
      (before : Run engines start db) :
      Run engines start (Work.serve (perform engines operation) db outside).2.1
  | elsewhere {db next : Database} (before : Run engines start db) (aside : Aside db next) :
      Run engines start next

private theorem Run.progress {engines : Engines} {start db : Database}
    (run : Run engines start db) :
    Progress engines start db := by
  induction run with
  | start => exact Relation.ReflTransGen.refl
  | operation operation outside _ inductionHypothesis =>
      exact inductionHypothesis.trans (serve_progress engines operation _ outside)
  | elsewhere _ aside inductionHypothesis => exact inductionHypothesis.trans aside.progress

/-- In every state of every run the delivery evidence is conserved. -/
theorem run_conserved (engines : Engines) (start db : Database) (undelivered : Undelivered start)
    (run : Run engines start db) : Conserved db :=
  (undelivered.accounted.progress run.progress).toConserved

/-- The seller, who exports one kilowatt-hour, has sold three fifths of it. -/
def shortExport : Database :=
  twoHouseholds quarterReadings
    ⟨[quarterTrade 41 1 (3 / 5)], by decide +kernel, by decide +kernel⟩ quarterPrices

def firstPass : Database :=
  (Work.serve (perform idleEngines .reconcileDue) shortExport (countingOutside 1000)).2.1

/-- A trade of as much again, recorded after the first was delivered; the audit log
is begun anew. -/
def soldAgain : Database :=
  { firstPass with
    audit := shortExport.audit
    trades := ⟨[{ quarterTrade 41 1 (3 / 5) with status := .settled }, quarterTrade 42 2 (3 / 5)],
      by decide +kernel, by decide +kernel⟩
    prices := ⟨[flatPrice 83 41 5, flatPrice 84 42 5], by decide +kernel, by decide +kernel⟩ }

def secondPass : Database :=
  (Work.serve (perform idleEngines .reconcileDue) soldAgain (countingOutside 2000)).2.1

/-- The second trade is allocated what the first left of the reading. -/
theorem run_conserved_sample :
    secondPass.allocations.rows.map (fun allocation => (allocation.tradeId, allocation.energyKwh)) =
      [(41, 3 / 5), (42, 2 / 5)] ∧ Conserved secondPass := by
  refine ⟨by decide +kernel, ?_⟩
  have kept : firstPass.trades.rows = [{ quarterTrade 41 1 (3 / 5) with status := .settled }] := by
    decide +kernel
  have aside : Aside firstPass soldAgain := by
    refine ⟨⟨[], (List.append_nil _).symm, by simp⟩, ?_, rfl, rfl, rfl, rfl, rfl⟩
    rw [kept]
    intro trade stored
    rw [List.mem_singleton.mp stored]
    exact ⟨_, List.mem_cons_self, rfl, rfl⟩
  apply run_conserved idleEngines shortExport
  · exact ⟨by decide +kernel, rfl, rfl, rfl⟩
  · exact .operation .reconcileDue (countingOutside 2000)
      (.elsewhere (.operation .reconcileDue (countingOutside 1000) .start) aside)

end UrjaSetu.Services.WorkspaceService
