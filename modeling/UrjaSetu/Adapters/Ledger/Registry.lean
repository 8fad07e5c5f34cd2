import UrjaSetu.Adapters.Ledger

/-!
What the registry and the node keep, whatever is sent, mined and dropped.

Owns: the laws of a chain, what a later state of it has in common with an
earlier one, and that each step of the node respects both.
-/

namespace UrjaSetu.Adapters.Ledger

open UrjaSetu.Library

namespace Chain

/-- Every entry was made by one transaction that succeeded, and every transaction
that succeeded has made one. -/
structure Lawful (chain : Chain) : Prop where
  distinct : (chain.transactions.map Transaction.hash).Nodup
  named : ∀ transaction ∈ chain.transactions, transaction.hash ≠ ""
  entered : ∀ transaction ∈ chain.transactions, transaction.succeeded = true →
    chain.receipts transaction.key = transaction.digest ∧ transaction.digest ≠ zeroWord
  caused : ∀ key, chain.receipts key ≠ zeroWord →
    ∃ transaction ∈ chain.transactions, transaction.key = key ∧ transaction.succeeded = true
  once : ∀ transaction ∈ chain.transactions, ∀ other ∈ chain.transactions,
    transaction.succeeded = true → other.succeeded = true → transaction.key = other.key →
      transaction = other

/-- The transaction with what has become of it since. -/
structure Continues (earlier later : Transaction) : Prop where
  hash : later.hash = earlier.hash
  key : later.key = earlier.key
  digest : later.digest = earlier.digest
  settled : ∀ block success, earlier.outcome = .mined block success →
    later.outcome = .mined block success

structure Later (before after : Chain) : Prop where
  entries : ∀ key, before.receipts key ≠ zeroWord → after.receipts key = before.receipts key
  continued : ∀ transaction ∈ before.transactions, ∃ other ∈ after.transactions,
    Continues transaction other
  chainId : after.chainId = before.chainId
  code : after.code = before.code

private theorem Continues.refl (transaction : Transaction) : Continues transaction transaction :=
  ⟨rfl, rfl, rfl, fun _ _ mined => mined⟩

private theorem Continues.trans {first second third : Transaction}
    (earlier : Continues first second)
    (later : Continues second third) : Continues first third :=
  ⟨later.hash.trans earlier.hash, later.key.trans earlier.key, later.digest.trans earlier.digest,
    fun block success mined => later.settled block success (earlier.settled block success mined)⟩

theorem succeeded_iff (transaction : Transaction) :
    transaction.succeeded = true ↔ ∃ block, transaction.outcome = .mined block true := by
  unfold Transaction.succeeded
  cases transaction.outcome with
  | pending => simp
  | dropped => simp
  | mined block success => simp

theorem Continues.succeeded {earlier later : Transaction} (continued : Continues earlier later)
    (success : earlier.succeeded = true) : later.succeeded = true := by
  obtain ⟨block, mined⟩ := (succeeded_iff earlier).mp success
  exact (succeeded_iff later).mpr ⟨block, continued.settled block true mined⟩

theorem Later.refl (chain : Chain) : Later chain chain :=
  ⟨fun _ _ => rfl, fun transaction member => ⟨transaction, member, Continues.refl transaction⟩, rfl,
    rfl⟩

theorem Later.trans {first second third : Chain} (earlier : Later first second)
    (later : Later second third) : Later first third := by
  refine ⟨?_, ?_, later.chainId.trans earlier.chainId, later.code.trans earlier.code⟩
  · intro key set
    have kept := earlier.entries key set
    rw [later.entries key (by rw [kept]; exact set), kept]
  · intro transaction member
    obtain ⟨middle, middleMember, first⟩ := earlier.continued transaction member
    obtain ⟨last, lastMember, second⟩ := later.continued middle middleMember
    exact ⟨last, lastMember, first.trans second⟩

/-! ## Transactions by their hash -/

variable {chain after : Chain}

theorem find_eq_some_iff (lawful : chain.Lawful) {hash : String} {transaction : Transaction} :
    chain.find hash = some transaction ↔
      transaction ∈ chain.transactions ∧ transaction.hash = hash := by
  unfold find
  constructor
  · intro found
    exact ⟨List.mem_of_find?_eq_some found, by simpa using List.find?_some found⟩
  · rintro ⟨member, rfl⟩
    have some : (chain.transactions.find? fun other => other.hash = transaction.hash).isSome := by
      rw [List.find?_isSome]
      exact ⟨transaction, member, by simp⟩
    obtain ⟨other, found⟩ := Option.isSome_iff_exists.mp some
    have same : other.hash = transaction.hash := by simpa using List.find?_some found
    rw [found, List.inj_on_of_nodup_map lawful.distinct (List.mem_of_find?_eq_some found) member
      same]

theorem unique_of_hash (lawful : chain.Lawful) {transaction other : Transaction}
    (member : transaction ∈ chain.transactions) (otherMember : other ∈ chain.transactions)
    (same : transaction.hash = other.hash) : transaction = other :=
  List.inj_on_of_nodup_map lawful.distinct member otherMember same

private theorem settle_hashes (chain : Chain) (hash : String) (outcome : Outcome) :
    (chain.settle hash outcome).map Transaction.hash = chain.transactions.map Transaction.hash := by
  unfold settle
  rw [List.map_map]
  apply List.map_congr_left
  intro transaction _
  dsimp only [Function.comp]
  split
  · rfl
  · rfl

/-- What is settled is one transaction, and the others are as they were. -/
theorem mem_settle (lawful : chain.Lawful) {hash : String} {outcome : Outcome}
    {settled : Transaction} (found : chain.find hash = some settled) (transaction : Transaction) :
    transaction ∈ chain.settle hash outcome ↔
      transaction = { settled with outcome } ∨
        (transaction ∈ chain.transactions ∧ transaction.hash ≠ hash) := by
  obtain ⟨member, named⟩ := (find_eq_some_iff lawful).mp found
  unfold settle
  rw [List.mem_map]
  constructor
  · rintro ⟨other, otherMember, same⟩
    split at same
    · rename_i isSettled
      rw [unique_of_hash lawful otherMember member (isSettled.trans named.symm)] at same
      exact Or.inl same.symm
    · rename_i distinct
      rw [← same]
      exact Or.inr ⟨otherMember, distinct⟩
  · rintro (rfl | ⟨otherMember, distinct⟩)
    · exact ⟨settled, member, by rw [if_pos named]⟩
    · exact ⟨transaction, otherMember, by rw [if_neg distinct]⟩

/-- A pending transaction becomes what it becomes. -/
theorem continued_settle (lawful : chain.Lawful) {hash : String} {outcome : Outcome}
    {settled : Transaction} (found : chain.find hash = some settled)
    (pending : settled.outcome = .pending) (transaction : Transaction)
    (member : transaction ∈ chain.transactions) :
    ∃ other ∈ chain.settle hash outcome, Continues transaction other := by
  by_cases isSettled : transaction.hash = hash
  · have same : transaction = settled := by
      have unique := (find_eq_some_iff lawful).mpr ⟨member, isSettled⟩
      rw [found] at unique
      exact (Option.some.inj unique).symm
    refine ⟨{ settled with outcome }, (mem_settle lawful found _).mpr (Or.inl rfl), ?_⟩
    rw [same]
    refine ⟨rfl, rfl, rfl, ?_⟩
    intro block success mined
    rw [pending] at mined
    cases mined
  · exact ⟨transaction, (mem_settle lawful found _).mpr (Or.inr ⟨member, isSettled⟩),
      Continues.refl transaction⟩

/-! ## Steps of the node -/

theorem send_eq_some {hash sender key digest : String}
    (sent : chain.send hash sender key digest = some after) :
    hash ≠ "" ∧ hash ∉ chain.transactions.map Transaction.hash ∧
      after = { chain with transactions := chain.transactions ++ [{ hash, sender, key, digest }] } := by
  unfold send at sent
  split at sent
  · cases sent
  · rename_i fresh
    cases sent
    exact ⟨fun empty => fresh (Or.inl empty), fun known => fresh (Or.inr known), rfl⟩

theorem Lawful.send (lawful : chain.Lawful) {hash sender key digest : String}
    (sent : chain.send hash sender key digest = some after) : after.Lawful ∧ Later chain after := by
  obtain ⟨named, fresh, rfl⟩ := send_eq_some sent
  have old : ∀ transaction ∈ chain.transactions ++ [({ hash, sender, key, digest } : Transaction)],
      transaction.succeeded = true → transaction ∈ chain.transactions := by
    intro transaction member success
    rcases List.mem_append.mp member with before | added
    · exact before
    · rw [List.mem_singleton.mp added] at success
      cases success
  constructor
  · constructor
    case distinct =>
      rw [List.map_append, List.map_singleton]
      exact List.nodup_append'.mpr
        ⟨lawful.distinct, List.nodup_singleton _, List.disjoint_singleton.mpr fresh⟩
    case named =>
      intro transaction member
      rcases List.mem_append.mp member with before | added
      · exact lawful.named transaction before
      · rw [List.mem_singleton.mp added]
        exact named
    case entered =>
      intro transaction member success
      exact lawful.entered transaction (old transaction member success) success
    case caused =>
      intro key set
      obtain ⟨transaction, member, made⟩ := lawful.caused key set
      exact ⟨transaction, List.mem_append_left _ member, made⟩
    case once =>
      intro transaction member other otherMember success otherSuccess same
      exact lawful.once transaction (old transaction member success) other
        (old other otherMember otherSuccess) success otherSuccess same
  · exact ⟨fun _ _ => rfl, fun transaction member =>
      ⟨transaction, List.mem_append_left _ member, Continues.refl transaction⟩, rfl, rfl⟩

/-- A transaction that reverts or is dropped enters nothing. -/
theorem Lawful.settle (lawful : chain.Lawful) {hash : String} {outcome : Outcome} {height : ℕ}
    {settled : Transaction} (found : chain.find hash = some settled)
    (pending : settled.outcome = .pending)
    (without : ({ settled with outcome } : Transaction).succeeded = false) :
    ({ chain with height, transactions := chain.settle hash outcome } : Chain).Lawful ∧
      Later chain { chain with height, transactions := chain.settle hash outcome } := by
  have old : ∀ transaction ∈ chain.settle hash outcome, transaction.succeeded = true →
      transaction ∈ chain.transactions := by
    intro transaction member success
    rcases (mem_settle lawful found transaction).mp member with rfl | ⟨before, _⟩
    · rw [without] at success
      cases success
    · exact before
  constructor
  · constructor
    case distinct =>
      rw [settle_hashes]
      exact lawful.distinct
    case named =>
      intro transaction member
      rcases (mem_settle lawful found transaction).mp member with rfl | ⟨before, _⟩
      · exact lawful.named settled ((find_eq_some_iff lawful).mp found).1
      · exact lawful.named transaction before
    case entered =>
      intro transaction member success
      exact lawful.entered transaction (old transaction member success) success
    case caused =>
      intro key set
      obtain ⟨transaction, member, isKey, success⟩ := lawful.caused key set
      obtain ⟨other, otherMember, continued⟩ :=
        @continued_settle chain lawful hash outcome settled found pending transaction member
      exact ⟨other, otherMember, continued.key.trans isKey, continued.succeeded success⟩
    case once =>
      intro transaction member other otherMember success otherSuccess same
      exact lawful.once transaction (old transaction member success) other
        (old other otherMember otherSuccess) success otherSuccess same
  · exact ⟨fun _ _ => rfl, continued_settle lawful found pending, rfl, rfl⟩

private theorem record_eq_some {transaction : Transaction} {receipts : String → String}
    (recorded : chain.record transaction = some receipts) :
    transaction.digest ≠ zeroWord ∧ chain.receipts transaction.key = zeroWord ∧
      receipts = Function.update chain.receipts transaction.key transaction.digest := by
  unfold record at recorded
  split_ifs at recorded with sender empty taken
  cases recorded
  exact ⟨empty, not_not.mp taken, rfl⟩

/-- A transaction that succeeds enters what nothing had entered. -/
theorem Lawful.recorded (lawful : chain.Lawful) {hash : String} {block : ℕ}
    {receipts : String → String} {settled : Transaction} (found : chain.find hash = some settled)
    (pending : settled.outcome = .pending) (recorded : chain.record settled = some receipts) :
    ({ chain with receipts, height := block, transactions := chain.settle hash (.mined block true) } :
        Chain).Lawful ∧
      Later chain { chain with receipts, height := block, transactions := chain.settle hash (.mined block true) } := by
  obtain ⟨digest, free, rfl⟩ := record_eq_some recorded
  have apart : ∀ transaction ∈ chain.transactions, transaction.succeeded = true →
      transaction.key ≠ settled.key := by
    intro transaction member success same
    obtain ⟨entry, nonzero⟩ := lawful.entered transaction member success
    rw [same, free] at entry
    exact nonzero entry.symm
  constructor
  · constructor
    case distinct =>
      rw [settle_hashes]
      exact lawful.distinct
    case named =>
      intro transaction member
      rcases (mem_settle lawful found transaction).mp member with rfl | ⟨before, _⟩
      · exact lawful.named settled ((find_eq_some_iff lawful).mp found).1
      · exact lawful.named transaction before
    case entered =>
      intro transaction member success
      rcases (mem_settle lawful found transaction).mp member with rfl | ⟨before, _⟩
      · exact ⟨Function.update_self _ _ _, digest⟩
      · dsimp only
        rw [Function.update_of_ne (apart transaction before success)]
        exact lawful.entered transaction before success
    case caused =>
      intro key set
      by_cases isNew : key = settled.key
      · exact ⟨_, (mem_settle lawful found _).mpr (Or.inl rfl), isNew.symm, rfl⟩
      · dsimp only at set
        rw [Function.update_of_ne isNew] at set
        obtain ⟨transaction, member, isKey, success⟩ := lawful.caused key set
        obtain ⟨other, otherMember, continued⟩ :=
          @continued_settle chain lawful hash (.mined block true) settled found pending transaction
            member
        exact ⟨other, otherMember, continued.key.trans isKey, continued.succeeded success⟩
    case once =>
      intro transaction member other otherMember success otherSuccess same
      rcases (mem_settle lawful found transaction).mp member with rfl | ⟨before, _⟩
      · rcases (mem_settle lawful found other).mp otherMember with rfl | ⟨otherBefore, _⟩
        · rfl
        · exact absurd same.symm (apart other otherBefore otherSuccess)
      · rcases (mem_settle lawful found other).mp otherMember with rfl | ⟨otherBefore, _⟩
        · exact absurd same (apart transaction before success)
        · exact lawful.once transaction before other otherBefore success otherSuccess same
  · refine ⟨?_, continued_settle lawful found pending, rfl, rfl⟩
    intro key set
    apply Function.update_of_ne
    rintro rfl
    exact set free

theorem Lawful.mine (lawful : chain.Lawful) {hash : String} {block : ℕ}
    (mined : chain.mine hash block = some after) : after.Lawful ∧ Later chain after := by
  unfold Chain.mine at mined
  cases found : chain.find hash with
  | none =>
      rw [found] at mined
      cases mined
  | some settled =>
      rw [found] at mined
      dsimp only at mined
      split at mined
      · rename_i allowed
        cases recorded : chain.record settled with
        | none =>
            rw [recorded] at mined
            cases mined
            exact lawful.settle found allowed.1 rfl
        | some receipts =>
            rw [recorded] at mined
            cases mined
            exact lawful.recorded found allowed.1 recorded
      · cases mined

theorem Lawful.drop (lawful : chain.Lawful) {hash : String}
    (dropped : chain.drop hash = some after) : after.Lawful ∧ Later chain after := by
  unfold Chain.drop at dropped
  cases found : chain.find hash with
  | none =>
      rw [found] at dropped
      cases dropped
  | some settled =>
      rw [found] at dropped
      dsimp only at dropped
      split at dropped
      · rename_i pending
        cases dropped
        exact lawful.settle found pending rfl
      · cases dropped

/-- Answering changes nothing but by a transaction that is sent. -/
theorem Lawful.serves (lawful : chain.Lawful) {request : Request} {reply : Reply request}
    (served : chain.Serves request reply after) : after.Lawful ∧ Later chain after := by
  obtain ⟨fresh, answered⟩ := served
  cases request with
  | ethSendTransaction sender key digest =>
      obtain ⟨later, sent, same⟩ := Option.map_eq_some_iff.mp answered
      cases same
      exact lawful.send sent
  | ethChainId =>
      cases answered
      exact ⟨lawful, Later.refl _⟩
  | ethGetCode =>
      cases answered
      exact ⟨lawful, Later.refl _⟩
  | ethCall key =>
      cases answered
      exact ⟨lawful, Later.refl _⟩
  | ethGetLogs key =>
      cases answered
      exact ⟨lawful, Later.refl _⟩
  | ethGetTransactionReceipt hash =>
      cases answered
      exact ⟨lawful, Later.refl _⟩

end Chain

end UrjaSetu.Adapters.Ledger
