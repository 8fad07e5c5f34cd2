import UrjaSetu.Adapters.Ledger.Evidence

/-!
The publication of receipts by `cycle` of `app/services/workspace_worker.py`, on
one database and one node.

The worker that holds the advisory lock publishes one receipt after the other and
commits each. It may crash at any point, which loses what it has not committed;
a worker that starts over reads the stored row again. Any other transaction may
reach the contract at any time.

Owns: the steps of database, worker and node, and what every stored receipt says
of the registry.
-/

namespace UrjaSetu.Services.ReceiptPublication

open UrjaSetu.Domain UrjaSetu.Adapters.Ledger UrjaSetu.Library UrjaSetu.Library.Remote

/-- The worker's publication of one receipt. -/
structure Session where
  receiptId : UUID
  program : Remote Publication Request Reply Unit

structure World where
  chain : Chain
  stored : UUID → Option Publication := fun _ => none
  active : Option Session := none

inductive Event where
  /-- `reconcile_due` stores the receipt of a settlement. -/
  | creates (receiptId : UUID) (payload : String)
  /-- The worker takes a receipt that is not confirmed. -/
  | begins (receiptId : UUID)
  /-- The node answers the worker's call. -/
  | answers (fresh : String)
  /-- The call fails, and has not reached the node. -/
  | fails (message : String)
  /-- The call reaches the node, and its reply is lost. -/
  | loses (fresh message : String)
  /-- `db.commit()` once `publish` has returned or raised. -/
  | commits
  | crashes
  /-- Any other transaction is sent to the contract. -/
  | sends (hash sender key content : String)
  | mines (hash : String) (block : ℕ)
  | drops (hash : String)
deriving DecidableEq, Repr

/-- `str(exc)[:300]`. -/
def shortened (message : String) : String := String.ofList (message.toList.take 300)

/-- The row that is committed: where `publish` has raised, as pending. -/
def committedRow : Remote Publication Request Reply Unit → Option Publication
  | .done kept _ => some kept
  | .raise kept message => some { kept with status := "pending", error := some (shortened message) }
  | .call _ _ _ => none

namespace World

variable (digest : Digest) (data : Deployment)

def put (world : World) (row : Publication) (receiptId : UUID) : World :=
  { world with stored := Function.update world.stored receiptId (some row) }

/-- What is left of the program once the node has answered. -/
def answer (chain : Chain) (fresh : String) :
    Remote Publication Request Reply Unit → Option (Remote Publication Request Reply Unit × Chain)
  | .call _ request next => (chain.serve fresh request).map fun served => (next served.1, served.2)
  | _ => none

/-- A call that raises. -/
def failure (message : String) :
    Remote Publication Request Reply Unit → Option (Remote Publication Request Reply Unit)
  | .call kept _ _ => some (.raise kept message)
  | _ => none

def step (world : World) : Event → Option World
  | .creates receiptId payload =>
      match world.stored receiptId with
      | some _ => none
      | none => some (world.put { id := receiptId, payloadHash := digest.sha256 payload } receiptId)
  | .begins receiptId => do
      let row ← world.stored receiptId
      if world.active.isNone ∧ row.status ≠ "confirmed" then
        some { world with active := some ⟨receiptId, publish digest data row⟩ }
      else none
  | .answers fresh => do
      let session ← world.active
      let (program, chain) ← answer world.chain fresh session.program
      some { world with chain, active := some { session with program } }
  | .fails message => do
      let session ← world.active
      let program ← failure message session.program
      some { world with active := some { session with program } }
  | .loses fresh message => do
      let session ← world.active
      let (_, chain) ← answer world.chain fresh session.program
      let program ← failure message session.program
      some { world with chain, active := some { session with program } }
  | .commits => do
      let session ← world.active
      let row ← committedRow session.program
      some { world.put row session.receiptId with active := none }
  | .crashes => some { world with active := none }
  | .sends hash sender key content =>
      (world.chain.send hash sender key content).map fun chain => { world with chain }
  | .mines hash block => (world.chain.mine hash block).map fun chain => { world with chain }
  | .drops hash => (world.chain.drop hash).map fun chain => { world with chain }

/-- The events one after the other, where each is possible. -/
def run (world : World) (events : List Event) : Option World :=
  events.foldlM (fun world event => world.step digest data event) world

/-- The contract has been deployed, and nothing has been sent to it. -/
def deployed (chainId : ℕ) (code publisher : String) : World where
  chain := { chainId, code, publisher }

end World

/-! ## Evidence -/

variable {digest : Digest} {data : Deployment} {world next : World}

/-- Every stored receipt is evidence, and the worker has evidence in hand. -/
structure Consistent (digest : Digest) (world : World) : Prop where
  lawful : world.chain.Lawful
  rows : ∀ id row, world.stored id = some row → row.id = id ∧ Sound digest world.chain row
  session : ∀ session, world.active = some session →
    ∃ row, world.stored session.receiptId = some row ∧
      Unreliable (fun kept _ after => InHand digest row kept after)
        (fun kept _ after => InHand digest row kept after) session.program world.chain

theorem deployed_consistent (digest : Digest) (chainId : ℕ) (code publisher : String) :
    Consistent digest (World.deployed chainId code publisher) where
  lawful :=
    { distinct := List.nodup_nil
      named := by
        intro transaction impossible
        cases impossible
      entered := by
        intro transaction impossible
        cases impossible
      caused := by
        intro key impossible
        exact absurd rfl impossible
      once := by
        intro transaction impossible
        cases impossible }
  rows := by
    intro id row impossible
    cases impossible
  session := by
    intro session impossible
    cases impossible

private theorem unreliable_later {row : Publication}
    {program : Remote Publication Request Reply Unit}
    {chain after : Chain}
    (inHand : Unreliable (fun kept _ after => InHand digest row kept after)
      (fun kept _ after => InHand digest row kept after) program chain)
    (proceeds : Proceeds chain after) :
    Unreliable (fun kept _ after => InHand digest row kept after)
      (fun kept _ after => InHand digest row kept after) program after :=
  inHand.later Proceeds.trans (fun _ _ _ _ changed inHand => inHand.later changed)
    (fun _ _ _ _ changed inHand => inHand.later changed) proceeds

/-- What the node does leaves the evidence as it is. -/
theorem Consistent.proceeds (consistent : Consistent digest world) {chain : Chain}
    (proceeds : Proceeds world.chain chain) : Consistent digest { world with chain } where
  lawful := proceeds.2
  rows := by
    intro id row stored
    obtain ⟨named, sound⟩ := consistent.rows id row stored
    exact ⟨named, sound.later proceeds.1⟩
  session := by
    intro session active
    obtain ⟨row, stored, inHand⟩ := consistent.session session active
    exact ⟨row, stored, unreliable_later inHand proceeds⟩

/-- The worker's program goes on. -/
theorem Consistent.continue (consistent : Consistent digest world) {session : Session}
    {program : Remote Publication Request Reply Unit} {chain : Chain} {row : Publication}
    (proceeds : Proceeds world.chain chain) (stored : world.stored session.receiptId = some row)
    (inHand : Unreliable (fun kept _ after => InHand digest row kept after)
      (fun kept _ after => InHand digest row kept after) program chain) :
    Consistent digest { world with chain, active := some { session with program } } where
  lawful := proceeds.2
  rows := (consistent.proceeds proceeds).rows
  session := by
    intro other active
    cases active
    exact ⟨row, stored, inHand⟩

@[simp] theorem put_self (world : World) (row : Publication) (id : UUID) :
    (world.put row id).stored id = some row := Function.update_self _ _ _

theorem put_other (world : World) (row : Publication) {id other : UUID} (distinct : other ≠ id) :
    (world.put row id).stored other = world.stored other := Function.update_of_ne distinct _ _

/-- A row that is evidence is stored under its own identifier. -/
theorem Consistent.put (consistent : Consistent digest world) {row : Publication}
    (sound : Sound digest world.chain row) (idle : world.active = none ∨ world.stored row.id = none) :
    Consistent digest (world.put row row.id) where
  lawful := consistent.lawful
  rows := by
    intro id other stored
    by_cases same : id = row.id
    · rw [same, put_self] at stored
      cases stored
      exact ⟨same.symm, sound⟩
    · rw [put_other _ _ same] at stored
      exact consistent.rows id other stored
  session := by
    intro session active
    obtain ⟨other, stored, inHand⟩ := consistent.session session active
    rcases idle with none | new
    · exact absurd (none.symm.trans active) (by simp)
    · refine ⟨other, ?_, inHand⟩
      rw [put_other]
      · exact stored
      · intro same
        rw [same, new] at stored
        cases stored

/-- What is committed of a program that has ended is evidence. -/
theorem sound_of_committedRow {row committed : Publication}
    {program : Remote Publication Request Reply Unit} {chain : Chain}
    (inHand : Unreliable (fun kept _ after => InHand digest row kept after)
      (fun kept _ after => InHand digest row kept after) program chain)
    (ended : committedRow program = some committed) :
    Sound digest chain committed ∧ committed.id = row.id := by
  cases program with
  | call kept request next => cases ended
  | done kept value =>
      cases ended
      exact ⟨inHand.sound, inHand.id⟩
  | raise kept message =>
      cases ended
      have held : InHand digest row kept chain := inHand
      refine ⟨⟨held.sound.nonzero, held.sound.sent, held.sound.block, ?_⟩, held.id⟩
      intro impossible
      exact absurd (show "pending" = "confirmed" from impossible) (by decide)

/-! ## Steps -/

/-- An answered call leaves a program with evidence in hand, and one that lost
its reply has raised with it. -/
theorem unreliable_of_answer {row : Publication}
    {program rest : Remote Publication Request Reply Unit} {chain after : Chain} {fresh : String}
    (lawful : chain.Lawful)
    (inHand : Unreliable (fun kept _ after => InHand digest row kept after)
      (fun kept _ after => InHand digest row kept after) program chain)
    (answered : World.answer chain fresh program = some (rest, after)) :
    Proceeds chain after ∧
      Unreliable (fun kept _ after => InHand digest row kept after)
        (fun kept _ after => InHand digest row kept after) rest after ∧
      ∀ message failed, World.failure message program = some failed →
        Unreliable (fun kept _ after => InHand digest row kept after)
          (fun kept _ after => InHand digest row kept after) failed after := by
  cases program with
  | done kept value => cases answered
  | raise kept message => cases answered
  | call kept request next =>
      obtain ⟨⟨reply, answeredBy⟩, served, same⟩ := Option.map_eq_some_iff.mp answered
      cases same
      have serves : chain.Serves request reply answeredBy := ⟨fresh, served⟩
      obtain ⟨later, proceeds⟩ := lawful.serves serves
      have still : Proceeds chain chain := ⟨Chain.Later.refl chain, lawful⟩
      refine ⟨⟨proceeds, later⟩, inHand.answered still serves, ?_⟩
      intro message failed raised
      cases raised
      exact inHand.lost trivial still serves message

private theorem unreliable_of_failure {row : Publication}
    {program failed : Remote Publication Request Reply Unit} {chain : Chain} {message : String}
    (lawful : chain.Lawful)
    (inHand : Unreliable (fun kept _ after => InHand digest row kept after)
      (fun kept _ after => InHand digest row kept after) program chain)
    (raised : World.failure message program = some failed) :
    Unreliable (fun kept _ after => InHand digest row kept after)
      (fun kept _ after => InHand digest row kept after) failed chain := by
  cases program with
  | done kept value => cases raised
  | raise kept message => cases raised
  | call kept request next =>
      cases raised
      exact inHand.failed trivial ⟨Chain.Later.refl chain, lawful⟩ message

/-- Every step keeps the evidence, and takes the chain to a later state. -/
theorem Consistent.step (consistent : Consistent digest world) {event : Event}
    (steps : world.step digest data event = some next) :
    Consistent digest next ∧ Chain.Later world.chain next.chain := by
  have still : Proceeds world.chain world.chain := ⟨Chain.Later.refl _, consistent.lawful⟩
  cases event with
  | creates receiptId payload =>
      cases stored : world.stored receiptId with
      | some row => simp [World.step, stored] at steps
      | none =>
          simp only [World.step, stored, Option.some.injEq] at steps
          subst steps
          refine ⟨@Consistent.put _ _ consistent { id := receiptId, payloadHash := digest.sha256 payload } ?_ (Or.inr stored),
            Chain.Later.refl _⟩
          refine ⟨digest.nonzero payload, ?_, ?_, ?_⟩
          · intro hash impossible
            cases impossible
          · intro number impossible
            cases impossible
          · intro impossible
            exact absurd (show "pending" = "confirmed" from impossible) (by decide)
  | begins receiptId =>
      obtain ⟨row, stored, begun⟩ := Option.bind_eq_some_iff.mp steps
      split at begun
      · cases begun
        obtain ⟨named, sound⟩ := consistent.rows receiptId row stored
        have inHand : InHand digest row row world.chain := ⟨consistent.lawful, sound, rfl, rfl⟩
        refine ⟨⟨consistent.lawful, consistent.rows, ?_⟩, Chain.Later.refl _⟩
        intro session active
        cases active
        exact ⟨row, stored, publish_unreliable inHand⟩
      · cases begun
  | answers fresh =>
      obtain ⟨session, active, rest⟩ := Option.bind_eq_some_iff.mp steps
      obtain ⟨⟨program, chain⟩, answered, same⟩ := Option.bind_eq_some_iff.mp rest
      cases same
      obtain ⟨row, stored, inHand⟩ := consistent.session session active
      obtain ⟨proceeds, continued, _⟩ := unreliable_of_answer consistent.lawful inHand answered
      exact ⟨consistent.continue proceeds stored continued, proceeds.1⟩
  | fails message =>
      obtain ⟨session, active, rest⟩ := Option.bind_eq_some_iff.mp steps
      obtain ⟨program, failed, same⟩ := Option.bind_eq_some_iff.mp rest
      cases same
      obtain ⟨row, stored, inHand⟩ := consistent.session session active
      exact ⟨consistent.continue still stored (unreliable_of_failure consistent.lawful inHand failed),
        Chain.Later.refl _⟩
  | loses fresh message =>
      obtain ⟨session, active, rest⟩ := Option.bind_eq_some_iff.mp steps
      obtain ⟨⟨unused, chain⟩, answered, rest⟩ := Option.bind_eq_some_iff.mp rest
      obtain ⟨program, failed, same⟩ := Option.bind_eq_some_iff.mp rest
      cases same
      obtain ⟨row, stored, inHand⟩ := consistent.session session active
      obtain ⟨proceeds, _, lost⟩ := unreliable_of_answer consistent.lawful inHand answered
      exact ⟨consistent.continue proceeds stored (lost message program failed), proceeds.1⟩
  | commits =>
      obtain ⟨session, active, rest⟩ := Option.bind_eq_some_iff.mp steps
      obtain ⟨committed, ended, same⟩ := Option.bind_eq_some_iff.mp rest
      cases same
      obtain ⟨row, stored, inHand⟩ := consistent.session session active
      obtain ⟨sound, named⟩ := sound_of_committedRow inHand ended
      have idle : Consistent digest { world with active := none } := by
        refine ⟨consistent.lawful, consistent.rows, ?_⟩
        intro session impossible
        cases impossible
      have isReceipt : committed.id = session.receiptId :=
        named.trans (consistent.rows session.receiptId row stored).1
      rw [← isReceipt]
      exact ⟨idle.put sound (Or.inl rfl), Chain.Later.refl _⟩
  | crashes =>
      cases steps
      refine ⟨⟨consistent.lawful, consistent.rows, ?_⟩, Chain.Later.refl _⟩
      intro session impossible
      cases impossible
  | sends hash sender key content =>
      obtain ⟨chain, sent, same⟩ := Option.map_eq_some_iff.mp steps
      cases same
      obtain ⟨lawful, later⟩ := consistent.lawful.send sent
      exact ⟨consistent.proceeds ⟨later, lawful⟩, later⟩
  | mines hash block =>
      obtain ⟨chain, mined, same⟩ := Option.map_eq_some_iff.mp steps
      cases same
      obtain ⟨lawful, later⟩ := consistent.lawful.mine mined
      exact ⟨consistent.proceeds ⟨later, lawful⟩, later⟩
  | drops hash =>
      obtain ⟨chain, dropped, same⟩ := Option.map_eq_some_iff.mp steps
      cases same
      obtain ⟨lawful, later⟩ := consistent.lawful.drop dropped
      exact ⟨consistent.proceeds ⟨later, lawful⟩, later⟩

theorem Consistent.run (consistent : Consistent digest world) {events : List Event}
    (reached : world.run digest data events = some next) :
    Consistent digest next ∧ Chain.Later world.chain next.chain := by
  induction events generalizing world with
  | nil =>
      cases reached
      exact ⟨consistent, Chain.Later.refl _⟩
  | cons event rest inductionHypothesis =>
      obtain ⟨middle, stepped, continued⟩ := Option.bind_eq_some_iff.mp reached
      obtain ⟨kept, earlier⟩ := consistent.step stepped
      obtain ⟨final, later⟩ := inductionHypothesis kept continued
      exact ⟨final, earlier.trans later⟩

/-! ## Every run -/

/-- In every run a confirmed receipt is what the registry holds under its key, no
entry changes once it is made, and a stored block is that of a transaction that
recorded the key. -/
theorem run_evidence {chainId : ℕ} {code publisher : String} {events later : List Event}
    {world final : World}
    (reached : (World.deployed chainId code publisher).run digest data events = some world)
    (continues : world.run digest data later = some final) :
    (∀ id row, final.stored id = some row → row.status = "confirmed" →
      final.chain.receipts (keyFor digest id) = row.payloadHash) ∧
    (∀ key, world.chain.receipts key ≠ zeroWord →
      final.chain.receipts key = world.chain.receipts key) ∧
    ∀ id row number, final.stored id = some row → row.blockNumber = some number →
      ∃ transaction ∈ final.chain.transactions, transaction.key = keyFor digest id ∧
        transaction.outcome = .mined number true := by
  obtain ⟨consistent, _⟩ := (deployed_consistent digest chainId code publisher).run reached
  obtain ⟨kept, unchanged⟩ := consistent.run continues
  refine ⟨?_, unchanged.entries, ?_⟩
  · intro id row stored confirmed
    obtain ⟨named, sound⟩ := kept.rows id row stored
    rw [← named]
    exact sound.confirmed confirmed
  · intro id row number stored block
    obtain ⟨named, sound⟩ := kept.rows id row stored
    rw [← named]
    exact sound.block number block

/-! ## One receipt -/

/-- A stand-in for the digest: the text, marked. -/
def markedDigest : Digest where
  sha256 := fun text => "#" ++ text
  nonzero := by
    intro text same
    have chars := congrArg String.toList same
    rw [String.toList_append] at chars
    have heads : some '#' = some '0' := congrArg List.head? chars
    cases heads

def sampleDeployment : Deployment := ⟨1337, "0x5f", "0xa1"⟩

def sampleWorld : World := World.deployed 1337 "0x60" "0xa1"

/-- A receipt is created, sent, and mined. -/
def sendAndMine : List Event :=
  [.creates 1 "receipt", .begins 1, .answers "", .answers "", .answers "", .answers "0xt1",
    .answers "", .commits, .mines "0xt1" 7]

/-- Its transaction is polled once more. -/
def pollOnce : List Event :=
  [.begins 1, .answers "", .answers "", .answers "", .answers "", .commits]

theorem run_evidence_sample : ∃ world final row,
    sampleWorld.run markedDigest sampleDeployment sendAndMine = some world ∧
      world.run markedDigest sampleDeployment pollOnce = some final ∧
      final.stored 1 = some row ∧ row.status = "confirmed" ∧ row.blockNumber = some 7 ∧
      final.chain.receipts (keyFor markedDigest 1) = row.payloadHash ∧
      (∀ key, world.chain.receipts key ≠ zeroWord →
        final.chain.receipts key = world.chain.receipts key) ∧
      ∃ transaction ∈ final.chain.transactions, transaction.key = keyFor markedDigest 1 ∧
        transaction.outcome = .mined 7 true := by
  have outcome : ((sampleWorld.run markedDigest sampleDeployment sendAndMine).bind fun world =>
      (world.run markedDigest sampleDeployment pollOnce).bind fun final =>
        (final.stored 1).map fun row => (row.status, row.blockNumber)) =
      some ("confirmed", some 7) := by
    decide +kernel
  obtain ⟨world, reached, rest⟩ := Option.bind_eq_some_iff.mp outcome
  obtain ⟨final, continues, rest⟩ := Option.bind_eq_some_iff.mp rest
  obtain ⟨row, stored, same⟩ := Option.map_eq_some_iff.mp rest
  obtain ⟨confirmed, block⟩ := Prod.mk.inj same
  obtain ⟨holds, unchanged, mined⟩ := run_evidence reached continues
  exact ⟨world, final, row, reached, continues, stored, confirmed, block,
    holds 1 row stored confirmed, unchanged, mined 1 row 7 stored block⟩

end UrjaSetu.Services.ReceiptPublication
