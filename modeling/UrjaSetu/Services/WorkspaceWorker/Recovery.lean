import UrjaSetu.Services.WorkspaceWorker.Outbox

/-!
Whether a receipt that the registry holds is ever confirmed.

Owns: the outcome of a publication with the node reachable throughout, from any
state the worker, the database and the node can reach.
-/

namespace UrjaSetu.Adapters.Ledger

open UrjaSetu.Library UrjaSetu.Library.Remote

/-- No call fails. -/
abbrev Reliable {α : Type} (returns : Publication → α → Chain → Prop)
    (raises : Publication → String → Chain → Prop) (program : Remote Publication Request Reply α)
    (chain : Chain) : Prop :=
  Always (fun request chain reply after => Chain.Serves request chain reply after) Proceeds False
    returns raises program chain

private theorem request_reliable {request : Request} {kept : Publication} {chain : Chain}
    {returns : Publication → Reply request → Chain → Prop}
    {raises : Publication → String → Chain → Prop}
    (answered : ∀ middle reply after, Proceeds chain middle → middle.Serves request reply after →
      returns kept reply after) :
    Reliable returns raises (Script.request request kept) chain := by
  apply Script.always_request
  · intro _ _ impossible
    cases impossible
  · intro _ _ _ _ _ impossible
    cases impossible
  · exact answered

variable {digest : Digest} {data : Deployment} {row kept : Publication} {existing : String}
  {chain after : Chain}

/-- The registry holds the receipt's payload hash under its key. -/
structure Held (digest : Digest) (row kept : Publication) (chain : Chain) : Prop where
  inHand : InHand digest row kept chain
  entry : chain.receipts (keyFor digest kept.id) = kept.payloadHash

private theorem Held.later (held : Held digest row kept chain) (proceeds : Proceeds chain after) :
    Held digest row kept after where
  inHand := held.inHand.later proceeds
  entry := by
    have nonzero := held.inHand.sound.nonzero
    rw [proceeds.1.entries _ (by rw [held.entry]; exact nonzero), held.entry]

/-- The one transaction that recorded a held receipt. -/
theorem Held.recorded (held : Held digest row kept chain) :
    ∃ transaction ∈ chain.transactions, transaction.key = keyFor digest kept.id ∧
      transaction.succeeded = true :=
  held.inHand.lawful.caused _ (by rw [held.entry]; exact held.inHand.sound.nonzero)

private theorem readRegistry_held (held : Held digest row kept chain) :
    Reliable (fun later existing after => later = kept ∧ Proceeds chain after ∧
        existing = "0x" ++ kept.payloadHash)
      (fun _ _ _ => False) (readRegistry digest kept) chain := by
  unfold readRegistry Reliable
  rw [Script.always_bind, Script.always_get, Script.always_bind]
  unfold ethCall
  apply @request_reliable (.ethCall _)
  intro middle existing after proceeds served
  have still := proceeds.served served
  obtain ⟨_, answered⟩ := served
  cases answered
  rw [(held.later proceeds).entry]
  split
  · rename_i conflict
    exact absurd rfl conflict.2
  · exact ⟨rfl, still, rfl⟩

/-! ## A receipt whose transaction is known to have succeeded, or not known -/

/-- The stored hash is of a transaction that succeeded. -/
structure Succeeded (digest : Digest) (row kept : Publication) (chain : Chain) : Prop where
  held : Held digest row kept chain
  hash : ∃ transaction ∈ chain.transactions, kept.transactionHash = some transaction.hash ∧
    transaction.succeeded = true

private theorem Succeeded.later (succeeded : Succeeded digest row kept chain)
    (proceeds : Proceeds chain after) : Succeeded digest row kept after where
  held := succeeded.held.later proceeds
  hash := by
    obtain ⟨transaction, member, stored, success⟩ := succeeded.hash
    obtain ⟨other, otherMember, continued⟩ := proceeds.1.continued transaction member
    exact ⟨other, otherMember, by rw [continued.hash]; exact stored, continued.succeeded success⟩

private theorem unsent_of_named (lawful : chain.Lawful) {transaction : Transaction}
    (member : transaction ∈ chain.transactions)
    (stored : kept.transactionHash = some transaction.hash) : kept.unsent = false := by
  unfold Publication.unsent
  rw [stored, Option.getD_some]
  exact decide_eq_false (lawful.named transaction member)

private theorem recoverHash_skips (sent : kept.unsent = false) :
    recoverHash digest existing kept = .done kept () := by
  show (if kept.unsent = true ∧ existing = "0x" ++ kept.payloadHash then _
    else pure () : Publishing Unit) kept = _
  rw [if_neg (by rw [sent]; simp)]
  rfl

private theorem sendRecord_skips (sent : kept.unsent = false) :
    sendRecord digest data existing kept = .done kept () := by
  show (if kept.unsent = true ∧ existing = "0x" ++ zeroWord then _
    else pure () : Publishing Unit) kept = _
  rw [if_neg (by rw [sent]; simp)]
  rfl

private theorem deployment_passes (network : data.chainId = 1337)
    (chainId : chain.chainId = data.chainId) (code : chain.code ≠ "0x") :
    Reliable (fun later _ after => later = kept ∧ Proceeds chain after)
      (fun _ _ _ => False) (deployment data kept) chain := by
  unfold deployment Reliable
  rw [Script.always_bind]
  unfold ethChainId
  apply @request_reliable .ethChainId
  intro middle shown after proceeds served
  have first := proceeds.served served
  obtain ⟨_, answered⟩ := served
  cases answered
  rw [proceeds.1.chainId, if_neg (by rw [chainId, network]; simp), Script.always_bind]
  unfold ethGetCode
  apply @request_reliable .ethGetCode
  intro last shown after further served
  have second := further.served served
  obtain ⟨_, answered⟩ := served
  cases answered
  rw [further.1.code, proceeds.1.code, if_neg code]
  exact ⟨rfl, first.1.trans second.1, second.2⟩

private theorem recoverHash_succeeds (held : Held digest row kept chain)
    (known : kept.unsent = true ∨ Succeeded digest row kept chain) :
    Reliable (fun kept _ after => Succeeded digest row kept after) (fun _ _ _ => False)
      (recoverHash digest ("0x" ++ kept.payloadHash) kept) chain := by
  cases unsent : kept.unsent with
  | false =>
      rw [recoverHash_skips unsent]
      rcases known with impossible | succeeded
      · rw [unsent] at impossible
        cases impossible
      · exact succeeded
  | true =>
      unfold recoverHash Reliable
      rw [Script.always_bind, Script.always_get, if_pos ⟨unsent, rfl⟩, Script.always_bind]
      unfold ethGetLogs
      apply @request_reliable (.ethGetLogs _)
      intro middle logs after proceeds served
      have still := held.later (proceeds.served served)
      obtain ⟨_, answered⟩ := served
      cases answered
      cases first : List.head? (middle.logs (keyFor digest kept.id)) with
      | none =>
          obtain ⟨transaction, member, key, success⟩ := still.recorded
          have logged := mem_logs.mpr ⟨transaction, member, key, success, rfl⟩
          rw [List.head?_eq_none_iff.mp first] at logged
          cases logged
      | some hash =>
          obtain ⟨transaction, member, key, success, named⟩ :=
            mem_logs.mp (List.mem_of_head? first)
          have entered := (still.inHand.lawful.entered transaction member success).1
          rw [key, still.entry] at entered
          refine ⟨⟨⟨still.inHand.lawful, ?_, still.inHand.id, still.inHand.payloadHash⟩,
            still.entry⟩, transaction, member, congrArg some named.symm, success⟩
          refine ⟨still.inHand.sound.nonzero, ?_, still.inHand.sound.block,
            still.inHand.sound.confirmed⟩
          intro other same
          cases same
          exact ⟨transaction, member, named, key, entered.symm⟩

private theorem poll_confirms (succeeded : Succeeded digest row kept chain) :
    Reliable (fun kept _ _ => kept.status = "confirmed") (fun _ _ _ => False) (poll data kept)
      chain := by
  obtain ⟨transaction, member, stored, _⟩ := succeeded.hash
  unfold poll Reliable
  rw [Script.always_bind, Script.always_get,
    unsent_of_named succeeded.held.inHand.lawful member stored, if_neg (by simp),
    Script.always_bind]
  unfold ethGetTransactionReceipt
  apply @request_reliable (.ethGetTransactionReceipt _)
  intro middle shown after proceeds served
  obtain ⟨other, otherMember, otherStored, success⟩ := (succeeded.later proceeds).hash
  obtain ⟨block, mined⟩ := (Chain.succeeded_iff other).mp success
  have found : middle.transactionReceipt other.hash = some ⟨true, block⟩ :=
    (transactionReceipt_eq_some_iff proceeds.2).mpr ⟨other, otherMember, rfl, mined⟩
  obtain ⟨_, answered⟩ := served
  cases answered
  rw [otherStored, Option.getD_some, found]
  rfl

/-- Without a stored hash, or with that of a transaction that succeeded, a held
receipt is confirmed. -/
theorem publish_confirms (held : Held digest row kept chain) (network : data.chainId = 1337)
    (chainId : chain.chainId = data.chainId) (code : chain.code ≠ "0x")
    (known : kept.unsent = true ∨ Succeeded digest row kept chain) :
    Reliable (fun kept _ _ => kept.status = "confirmed") (fun _ _ _ => False)
      (publish digest data kept) chain := by
  unfold publish Reliable
  rw [Script.always_bind]
  apply (deployment_passes network chainId code).mono _ fun _ _ _ failed => failed
  rintro _ _ first ⟨rfl, proceeds⟩
  rw [Script.always_bind]
  apply (readRegistry_held (held.later proceeds)).mono _ fun _ _ _ failed => failed
  rintro _ _ second ⟨rfl, further, rfl⟩
  have reached := Proceeds.trans _ _ _ proceeds further
  rw [Script.always_bind]
  apply (recoverHash_succeeds (held.later reached)
    (known.imp_right fun succeeded => succeeded.later reached)).mono _ fun _ _ _ failed => failed
  intro kept _ third succeeded
  rw [Script.always_bind]
  obtain ⟨transaction, member, stored, _⟩ := succeeded.hash
  rw [sendRecord_skips (unsent_of_named succeeded.held.inHand.lawful member stored)]
  exact poll_confirms succeeded

/-! ## A receipt whose stored transaction did not record it -/

/-- The stored hash is of a transaction that has not succeeded. -/
structure Stranded (digest : Digest) (row kept : Publication) (chain : Chain) : Prop where
  held : Held digest row kept chain
  hash : ∃ transaction ∈ chain.transactions, kept.transactionHash = some transaction.hash ∧
    transaction.key = keyFor digest kept.id ∧ transaction.succeeded = false

/-- It never will: the registry already holds the key. -/
theorem Stranded.later (stranded : Stranded digest row kept chain)
    (proceeds : Proceeds chain after) : Stranded digest row kept after where
  held := stranded.held.later proceeds
  hash := by
    obtain ⟨transaction, member, stored, key, failed⟩ := stranded.hash
    obtain ⟨made, madeMember, madeKey, success⟩ := stranded.held.recorded
    obtain ⟨other, otherMember, continued⟩ := proceeds.1.continued transaction member
    obtain ⟨last, lastMember, kept⟩ := proceeds.1.continued made madeMember
    refine ⟨other, otherMember, by rw [continued.hash]; exact stored, continued.key.trans key, ?_⟩
    cases outcome : other.succeeded with
    | false => rfl
    | true =>
        have same := proceeds.2.once other otherMember last lastMember outcome
          (kept.succeeded success)
          (by rw [continued.key, kept.key, key, madeKey])
        have one := Chain.unique_of_hash stranded.held.inHand.lawful member madeMember
          (by rw [← continued.hash, ← kept.hash, same])
        rw [one, success] at failed
        cases failed

private theorem poll_stranded (stranded : Stranded digest row kept chain) :
    Reliable (fun kept _ _ => kept.status ≠ "confirmed") (fun _ _ _ => True) (poll data kept)
      chain := by
  obtain ⟨transaction, member, stored, _⟩ := stranded.hash
  unfold poll Reliable
  rw [Script.always_bind, Script.always_get,
    unsent_of_named stranded.held.inHand.lawful member stored, if_neg (by simp),
    Script.always_bind]
  unfold ethGetTransactionReceipt
  apply @request_reliable (.ethGetTransactionReceipt _)
  intro middle shown after proceeds served
  obtain ⟨other, otherMember, otherStored, _, failed⟩ := (stranded.later proceeds).hash
  obtain ⟨_, answered⟩ := served
  cases answered
  rw [otherStored, Option.getD_some]
  cases found : middle.transactionReceipt other.hash with
  | none =>
      show "submitted" ≠ "confirmed"
      decide
  | some receipt =>
      obtain ⟨shown, shownMember, named, mined⟩ :=
        (transactionReceipt_eq_some_iff proceeds.2).mp found
      have same := Chain.unique_of_hash proceeds.2 shownMember otherMember named
      dsimp only
      split
      · exact trivial
      · rename_i success
        rw [same, Bool.eq_true_of_not_eq_false success] at mined
        rw [(Chain.succeeded_iff other).mpr ⟨_, mined⟩] at failed
        cases failed

/-- With the hash of a transaction that did not succeed a held receipt is never
confirmed. -/
theorem publish_stranded (stranded : Stranded digest row kept chain)
    (network : data.chainId = 1337) (chainId : chain.chainId = data.chainId)
    (code : chain.code ≠ "0x") :
    Reliable (fun kept _ _ => kept.status ≠ "confirmed") (fun _ _ _ => True)
      (publish digest data kept) chain := by
  obtain ⟨transaction, member, stored, _⟩ := stranded.hash
  have sent := unsent_of_named stranded.held.inHand.lawful member stored
  unfold publish Reliable
  rw [Script.always_bind]
  apply (deployment_passes network chainId code).mono _ fun _ _ _ _ => trivial
  rintro _ _ first ⟨rfl, proceeds⟩
  rw [Script.always_bind]
  apply (readRegistry_held (stranded.held.later proceeds)).mono _ fun _ _ _ _ => trivial
  rintro _ _ second ⟨rfl, further, rfl⟩
  rw [Script.always_bind, recoverHash_skips sent]
  show Always _ _ _ _ _ ((sendRecord digest data _ >>= fun _ => poll data) _) second
  rw [Script.always_bind, sendRecord_skips sent]
  exact poll_stranded (stranded.later (Proceeds.trans _ _ _ proceeds further))

end UrjaSetu.Adapters.Ledger

namespace UrjaSetu.Services.ReceiptPublication

open UrjaSetu.Domain UrjaSetu.Adapters.Ledger UrjaSetu.Library UrjaSetu.Library.Remote

/-! ## A publication among other steps -/

/-- Neither the worker nor its connection is disturbed. -/
def Event.undisturbed : Event → Bool
  | .creates _ _ | .answers _ | .sends _ _ _ _ | .mines _ _ | .drops _ => true
  | _ => false

variable {digest : Digest} {data : Deployment} {world next final : World} {session : Session}
  {returns : Publication → Unit → Chain → Prop} {raises : Publication → String → Chain → Prop}

/-- What is certain of the worker's program, whose row nobody else writes. -/
structure Underway (returns : Publication → Unit → Chain → Prop)
    (raises : Publication → String → Chain → Prop) (receiptId : UUID) (row : Publication)
    (world : World) : Prop where
  lawful : world.chain.Lawful
  stored : world.stored receiptId = some row
  active : ∃ program, world.active = some ⟨receiptId, program⟩ ∧
    Reliable returns raises program world.chain

private theorem Underway.proceeds {receiptId : UUID} {row : Publication} {chain : Chain}
    (underway : Underway returns raises receiptId row world)
    (stableReturn : ∀ kept value a b, Proceeds a b → returns kept value a → returns kept value b)
    (stableRaise : ∀ kept message a b, Proceeds a b → raises kept message a →
      raises kept message b)
    (proceeds : Proceeds world.chain chain) :
    Underway returns raises receiptId row { world with chain } where
  lawful := proceeds.2
  stored := underway.stored
  active := by
    obtain ⟨program, active, reliable⟩ := underway.active
    exact ⟨program, active, reliable.later Proceeds.trans stableReturn stableRaise proceeds⟩

private theorem Underway.step {receiptId : UUID} {row : Publication} {event : Event}
    (underway : Underway returns raises receiptId row world)
    (stableReturn : ∀ kept value a b, Proceeds a b → returns kept value a → returns kept value b)
    (stableRaise : ∀ kept message a b, Proceeds a b → raises kept message a →
      raises kept message b)
    (undisturbed : event.undisturbed = true)
    (steps : world.step digest data event = some next) :
    Underway returns raises receiptId row next := by
  cases event with
  | creates other payload =>
      cases stored : world.stored other with
      | some _ => simp [World.step, stored] at steps
      | none =>
          simp only [World.step, stored, Option.some.injEq] at steps
          subst steps
          refine ⟨underway.lawful, ?_, underway.active⟩
          rw [put_other]
          · exact underway.stored
          · intro same
            rw [same.symm, underway.stored] at stored
            cases stored
  | answers fresh =>
      obtain ⟨session, active, rest⟩ := Option.bind_eq_some_iff.mp steps
      obtain ⟨⟨rest, chain⟩, answered, same⟩ := Option.bind_eq_some_iff.mp rest
      cases same
      obtain ⟨program, current, reliable⟩ := underway.active
      rw [current] at active
      cases active
      cases program with
      | done kept value => cases answered
      | raise kept message => cases answered
      | call kept request next =>
          obtain ⟨⟨reply, answeredBy⟩, served, same⟩ := Option.map_eq_some_iff.mp answered
          cases same
          have serves : world.chain.Serves request reply answeredBy := ⟨fresh, served⟩
          obtain ⟨lawful, _⟩ := underway.lawful.serves serves
          exact ⟨lawful, underway.stored, next reply, rfl,
            reliable.answered ⟨Chain.Later.refl _, underway.lawful⟩ serves⟩
  | sends hash sender key content =>
      obtain ⟨chain, sent, same⟩ := Option.map_eq_some_iff.mp steps
      cases same
      obtain ⟨lawful, later⟩ := underway.lawful.send sent
      exact underway.proceeds stableReturn stableRaise ⟨later, lawful⟩
  | mines hash block =>
      obtain ⟨chain, mined, same⟩ := Option.map_eq_some_iff.mp steps
      cases same
      obtain ⟨lawful, later⟩ := underway.lawful.mine mined
      exact underway.proceeds stableReturn stableRaise ⟨later, lawful⟩
  | drops hash =>
      obtain ⟨chain, dropped, same⟩ := Option.map_eq_some_iff.mp steps
      cases same
      obtain ⟨lawful, later⟩ := underway.lawful.drop dropped
      exact underway.proceeds stableReturn stableRaise ⟨later, lawful⟩
  | begins _ => cases undisturbed
  | fails _ => cases undisturbed
  | loses _ _ => cases undisturbed
  | commits => cases undisturbed
  | crashes => cases undisturbed

private theorem Underway.run {receiptId : UUID} {row : Publication} {during : List Event}
    (underway : Underway returns raises receiptId row world)
    (stableReturn : ∀ kept value a b, Proceeds a b → returns kept value a → returns kept value b)
    (stableRaise : ∀ kept message a b, Proceeds a b → raises kept message a →
      raises kept message b)
    (undisturbed : ∀ event ∈ during, event.undisturbed = true)
    (reached : world.run digest data during = some next) :
    Underway returns raises receiptId row next := by
  induction during generalizing world with
  | nil =>
      cases reached
      exact underway
  | cons event rest inductionHypothesis =>
      obtain ⟨middle, stepped, continued⟩ := Option.bind_eq_some_iff.mp reached
      exact inductionHypothesis
        (underway.step stableReturn stableRaise (undisturbed event List.mem_cons_self) stepped)
        (fun other member => undisturbed other (List.mem_cons_of_mem _ member)) continued

private theorem run_append (world : World) (first second : List Event) :
    world.run digest data (first ++ second) =
      (world.run digest data first).bind fun middle => middle.run digest data second :=
  List.foldlM_append

/-- An undisturbed publication, from its first step to its commit. -/
theorem committed_of_publication {receiptId : UUID} {row : Publication} {during : List Event}
    (lawful : world.chain.Lawful) (stored : world.stored receiptId = some row)
    (reliable : Reliable returns raises (publish digest data row) world.chain)
    (stableReturn : ∀ kept value a b, Proceeds a b → returns kept value a → returns kept value b)
    (stableRaise : ∀ kept message a b, Proceeds a b → raises kept message a →
      raises kept message b)
    (undisturbed : ∀ event ∈ during, event.undisturbed = true)
    (publishes : world.run digest data (.begins receiptId :: during ++ [.commits]) = some final) :
    ∃ committed, final.stored receiptId = some committed ∧
      ((∃ value chain, returns committed value chain) ∨
        (committed.status = "pending" ∧ ∃ kept message chain, raises kept message chain)) := by
  rw [List.cons_append] at publishes
  obtain ⟨begun, begins, rest⟩ := Option.bind_eq_some_iff.mp publishes
  obtain ⟨other, found, begins⟩ := Option.bind_eq_some_iff.mp begins
  rw [stored] at found
  cases found
  split at begins
  · cases begins
    have start : Underway returns raises receiptId row
        { world with active := some ⟨receiptId, publish digest data row⟩ } :=
      ⟨lawful, stored, _, rfl, reliable⟩
    have split := (run_append _ during [.commits]).symm.trans rest
    obtain ⟨middle, reached, last⟩ := Option.bind_eq_some_iff.mp split
    obtain ⟨program, active, ends⟩ :=
      (start.run stableReturn stableRaise undisturbed reached).active
    obtain ⟨committed, commits, same⟩ := Option.bind_eq_some_iff.mp last
    cases same
    obtain ⟨session, current, commits⟩ := Option.bind_eq_some_iff.mp commits
    rw [active] at current
    cases current
    obtain ⟨ended, ending, same⟩ := Option.bind_eq_some_iff.mp commits
    cases same
    refine ⟨ended, put_self _ _ _, ?_⟩
    cases program with
    | call kept request next => cases ending
    | done kept value =>
        cases ending
        exact Or.inl ⟨value, _, ends⟩
    | raise kept message =>
        cases ending
        exact Or.inr ⟨rfl, kept, message, _, ends⟩
  · cases begins

/-! ## Every run -/

/-- In every run, once the registry holds a receipt's payload hash, a publication
with the node reachable confirms it exactly where no transaction hash is stored
for it, or that of a transaction that succeeded. -/
theorem publish_confirms_iff {code publisher : String} {events during : List Event}
    {receiptId : UUID} {row : Publication} (network : data.chainId = 1337) (present : code ≠ "0x")
    (reached : (World.deployed 1337 code publisher).run digest data events = some world)
    (stored : world.stored receiptId = some row)
    (held : world.chain.receipts (keyFor digest receiptId) = row.payloadHash)
    (undisturbed : ∀ event ∈ during, event.undisturbed = true)
    (publishes : world.run digest data (.begins receiptId :: during ++ [.commits]) = some final) :
    (∃ committed, final.stored receiptId = some committed ∧ committed.status = "confirmed") ↔
      row.transactionHash = none ∨ ∃ transaction ∈ world.chain.transactions,
        row.transactionHash = some transaction.hash ∧ transaction.succeeded = true := by
  obtain ⟨consistent, later⟩ := (deployed_consistent digest 1337 code publisher).run reached
  obtain ⟨named, sound⟩ := consistent.rows receiptId row stored
  have isHeld : Held digest row row world.chain :=
    ⟨⟨consistent.lawful, sound, rfl, rfl⟩, by rw [named]; exact held⟩
  have chainId : world.chain.chainId = data.chainId := by
    rw [later.chainId, network]
    rfl
  have deployed : world.chain.code ≠ "0x" := by
    rw [later.code]
    exact present
  have confirms (known : row.unsent = true ∨ Succeeded digest row row world.chain) :
      ∃ committed, final.stored receiptId = some committed ∧ committed.status = "confirmed" := by
    obtain ⟨committed, found, ended⟩ := committed_of_publication consistent.lawful stored
      (publish_confirms isHeld network chainId deployed known) (fun _ _ _ _ _ same => same)
      (fun _ _ _ _ _ same => same) undisturbed publishes
    rcases ended with ⟨_, _, status⟩ | ⟨_, _, _, _, impossible⟩
    · exact ⟨committed, found, status⟩
    · cases impossible
  constructor
  · rintro ⟨committed, found, status⟩
    cases sent : row.transactionHash with
    | none => exact Or.inl rfl
    | some hash =>
        obtain ⟨transaction, member, isHash, records⟩ := sound.sent hash sent
        refine Or.inr ⟨transaction, member, by rw [isHash], ?_⟩
        cases outcome : transaction.succeeded with
        | true => rfl
        | false =>
            have stranded : Stranded digest row row world.chain :=
              ⟨isHeld, transaction, member, by rw [sent, isHash], records.1, outcome⟩
            obtain ⟨other, otherFound, ended⟩ := committed_of_publication consistent.lawful stored
              (publish_stranded stranded network chainId deployed) (fun _ _ _ _ _ same => same)
              (fun _ _ _ _ _ same => same) undisturbed publishes
            rw [found] at otherFound
            cases otherFound
            rcases ended with ⟨_, _, unconfirmed⟩ | ⟨pending, _⟩
            · exact absurd status unconfirmed
            · rw [status] at pending
              exact absurd pending (by decide)
  · rintro (absent | ⟨transaction, member, isHash, success⟩)
    · exact confirms (Or.inl (by unfold Publication.unsent; rw [absent]; rfl))
    · exact confirms (Or.inr ⟨isHeld, transaction, member, isHash, success⟩)

/-! ## A receipt sent twice -/

/-- The node answers four calls. -/
def fourAnswers : List Event := [.answers "", .answers "", .answers "", .answers ""]

/-- The worker crashes after sending and sends again, and the first transaction is
mined before the second. -/
def sendTwice : List Event :=
  [.creates 1 "receipt", .begins 1, .answers "", .answers "", .answers "", .answers "0xt1",
    .crashes, .begins 1, .answers "", .answers "", .answers "", .answers "0xt2", .answers "",
    .commits, .mines "0xt1" 7, .mines "0xt2" 8]

/-- The registry holds the receipt, and its publication ends as said. -/
def PublishesAs (status : String) (world final : World) (row : Publication) : Prop :=
  world.stored 1 = some row ∧
    world.chain.receipts (keyFor markedDigest 1) = row.payloadHash ∧
    world.run markedDigest sampleDeployment (.begins 1 :: fourAnswers ++ [.commits]) = some final ∧
    ∃ committed, final.stored 1 = some committed ∧ committed.status = status

/-- How a publication of the first receipt ends after these events, where the
registry holds it. -/
def endsAs (events : List Event) : Option (Bool × String) :=
  (sampleWorld.run markedDigest sampleDeployment events).bind fun world =>
    (world.stored 1).bind fun row =>
      (world.run markedDigest sampleDeployment (.begins 1 :: fourAnswers ++ [.commits])).bind
        fun final => (final.stored 1).map fun committed =>
          (decide (world.chain.receipts (keyFor markedDigest 1) = row.payloadHash),
            committed.status)

private theorem publishesAs_of_endsAs {events : List Event} {status : String}
    (ends : endsAs events = some (true, status)) : ∃ world final row,
      sampleWorld.run markedDigest sampleDeployment events = some world ∧
        PublishesAs status world final row := by
  obtain ⟨world, reached, rest⟩ := Option.bind_eq_some_iff.mp ends
  obtain ⟨row, stored, rest⟩ := Option.bind_eq_some_iff.mp rest
  obtain ⟨final, publishes, rest⟩ := Option.bind_eq_some_iff.mp rest
  obtain ⟨committed, found, same⟩ := Option.map_eq_some_iff.mp rest
  obtain ⟨held, isStatus⟩ := Prod.mk.inj same
  exact ⟨world, final, row, reached, stored, of_decide_eq_true held, publishes, committed, found,
    isStatus⟩

theorem publish_confirms_sample : ∃ world final row,
    sampleWorld.run markedDigest sampleDeployment sendAndMine = some world ∧
      PublishesAs "confirmed" world final row ∧
      ((∃ committed, final.stored 1 = some committed ∧ committed.status = "confirmed") ↔
        row.transactionHash = none ∨ ∃ transaction ∈ world.chain.transactions,
          row.transactionHash = some transaction.hash ∧ transaction.succeeded = true) := by
  obtain ⟨world, final, row, reached, ends⟩ :=
    @publishesAs_of_endsAs sendAndMine "confirmed" (by decide +kernel)
  obtain ⟨stored, held, publishes, confirmed⟩ := ends
  exact ⟨world, final, row, reached, ⟨stored, held, publishes, confirmed⟩,
    publish_confirms_iff rfl (by decide) reached stored held (by decide) publishes⟩

/-- The registry holds the receipt, and the node answers every call; the stored
hash is of the transaction that reverted. -/
theorem sendTwice_pending : ∃ world final row,
    sampleWorld.run markedDigest sampleDeployment sendTwice = some world ∧
      PublishesAs "pending" world final row :=
  publishesAs_of_endsAs (by decide +kernel)

end UrjaSetu.Services.ReceiptPublication
