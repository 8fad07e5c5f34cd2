import UrjaSetu.Adapters.Ledger.Registry

/-!
What a receipt says about the chain, at every point of its publication.

Owns: the evidence a stored row is, and that `publish` leaves evidence whatever
fails and whatever the node does between its calls.
-/

namespace UrjaSetu.Adapters.Ledger

open UrjaSetu.Library UrjaSetu.Library.Remote

/-! ## What the node shows -/

variable {chain after : Chain}

theorem transactionReceipt_eq_some_iff (lawful : chain.Lawful) {hash : String}
    {receipt : TransactionReceipt} : chain.transactionReceipt hash = some receipt ↔
      ∃ transaction ∈ chain.transactions, transaction.hash = hash ∧
        transaction.outcome = .mined receipt.blockNumber receipt.success := by
  unfold Chain.transactionReceipt
  constructor
  · intro shown
    cases found : chain.find hash with
    | none =>
        rw [found] at shown
        cases shown
    | some transaction =>
        obtain ⟨member, named⟩ := (Chain.find_eq_some_iff lawful).mp found
        rw [found] at shown
        obtain ⟨hash, sender, key, digest, outcome⟩ := transaction
        cases outcome with
        | pending => cases shown
        | dropped => cases shown
        | mined block success =>
            cases shown
            exact ⟨_, member, named, rfl⟩
  · rintro ⟨⟨other, sender, key, digest, outcome⟩, member, named, mined⟩
    dsimp only at mined
    subst mined
    rw [(Chain.find_eq_some_iff lawful).mpr ⟨member, named⟩]

theorem mem_logs {key hash : String} : hash ∈ chain.logs key ↔
    ∃ transaction ∈ chain.transactions, transaction.key = key ∧ transaction.succeeded = true ∧
      transaction.hash = hash := by
  simp [Chain.logs, and_assoc]

private theorem hexWord_inj {left right : String} :
    "0x" ++ left = "0x" ++ right ↔ left = right := by
  constructor
  · intro same
    have chars := congrArg String.toList same
    rw [String.toList_append, String.toList_append] at chars
    exact String.toList_injective (List.append_cancel_left chars)
  · intro same
    rw [same]

/-! ## The evidence -/

/-- A transaction that records this receipt. -/
def Records (digest : Digest) (receipt : Publication) (transaction : Transaction) : Prop :=
  transaction.key = keyFor digest receipt.id ∧ transaction.digest = receipt.payloadHash

/-- What is stored of a publication holds on the chain. -/
structure Sound (digest : Digest) (chain : Chain) (receipt : Publication) : Prop where
  nonzero : receipt.payloadHash ≠ zeroWord
  sent : ∀ hash, receipt.transactionHash = some hash →
    ∃ transaction ∈ chain.transactions, transaction.hash = hash ∧ Records digest receipt transaction
  block : ∀ number, receipt.blockNumber = some number →
    ∃ transaction ∈ chain.transactions, transaction.key = keyFor digest receipt.id ∧
      transaction.outcome = .mined number true
  confirmed : receipt.status = "confirmed" →
    chain.receipts (keyFor digest receipt.id) = receipt.payloadHash

theorem Sound.later {digest : Digest} {receipt : Publication} (sound : Sound digest chain receipt)
    (later : Chain.Later chain after) : Sound digest after receipt where
  nonzero := sound.nonzero
  sent := by
    intro hash stored
    obtain ⟨transaction, member, named, key, content⟩ := sound.sent hash stored
    obtain ⟨other, otherMember, continued⟩ := later.continued transaction member
    exact ⟨other, otherMember, continued.hash.trans named, continued.key.trans key,
      continued.digest.trans content⟩
  block := by
    intro number stored
    obtain ⟨transaction, member, key, mined⟩ := sound.block number stored
    obtain ⟨other, otherMember, continued⟩ := later.continued transaction member
    exact ⟨other, otherMember, continued.key.trans key, continued.settled number true mined⟩
  confirmed := by
    intro status
    have entry := sound.confirmed status
    rw [later.entries _ (by rw [entry]; exact sound.nonzero), entry]

/-- The chain may go on to any later lawful state. -/
def Proceeds (before after : Chain) : Prop := Chain.Later before after ∧ after.Lawful

theorem Proceeds.trans (first second third : Chain) (earlier : Proceeds first second)
    (later : Proceeds second third) : Proceeds first third :=
  ⟨earlier.1.trans later.1, later.2⟩

theorem Proceeds.served {first second third : Chain} {request : Request} {reply : Reply request}
    (earlier : Proceeds first second) (served : second.Serves request reply third) :
    Proceeds first third := by
  obtain ⟨lawful, later⟩ := earlier.2.serves served
  exact ⟨earlier.1.trans later, lawful⟩

/-- The record in hand of a row that is being published. -/
structure InHand (digest : Digest) (row kept : Publication) (chain : Chain) : Prop where
  lawful : chain.Lawful
  sound : Sound digest chain kept
  id : kept.id = row.id
  payloadHash : kept.payloadHash = row.payloadHash

theorem InHand.later {digest : Digest} {row kept : Publication} (inHand : InHand digest row kept chain)
    (proceeds : Proceeds chain after) : InHand digest row kept after :=
  ⟨proceeds.2, inHand.sound.later proceeds.1, inHand.id, inHand.payloadHash⟩

/-- What `eth_call` returned, as long as it is so. -/
structure Existing (digest : Digest) (kept : Publication) (existing : String) (chain : Chain) :
    Prop where
  known : existing = "0x" ++ zeroWord ∨ existing = "0x" ++ kept.payloadHash
  entry : existing = "0x" ++ kept.payloadHash →
    chain.receipts (keyFor digest kept.id) = kept.payloadHash

private theorem Existing.later {digest : Digest} {kept : Publication} {existing : String}
    (read : Existing digest kept existing chain) (nonzero : kept.payloadHash ≠ zeroWord)
    (later : Chain.Later chain after) : Existing digest kept existing after where
  known := read.known
  entry := by
    intro same
    have entry := read.entry same
    rw [later.entries _ (by rw [entry]; exact nonzero), entry]

/-! ## `publish` -/

section Calls

variable {digest : Digest} {data : Deployment} {row kept : Publication} {existing : String}

/-- Any call may fail, with the node left as it may be. -/
abbrev Unreliable (returns : Publication → α → Chain → Prop)
    (raises : Publication → String → Chain → Prop) (program : Remote Publication Request Reply α)
    (chain : Chain) : Prop :=
  Always (fun request chain reply after => Chain.Serves request chain reply after) Proceeds True
    returns raises program chain

/-- A call of which nothing but the reply is used. -/
theorem request_unreliable {request : Request} {returns : Publication → Reply request → Chain → Prop}
    (inHand : InHand digest row kept chain)
    (answered : ∀ middle reply after, Proceeds chain middle → middle.Serves request reply after →
      returns kept reply after) :
    Unreliable returns (fun kept _ after => InHand digest row kept after)
      (Script.request request kept) chain := by
  apply Script.always_request
  · intro later proceeds _ _
    exact inHand.later proceeds
  · intro middle reply after proceeds served _ _
    exact inHand.later (proceeds.served served)
  · exact answered

private theorem deployment_unreliable (inHand : InHand digest row kept chain) :
    Unreliable (fun kept _ after => InHand digest row kept after)
      (fun kept _ after => InHand digest row kept after) (deployment data kept) chain := by
  unfold deployment Unreliable
  rw [Script.always_bind]
  unfold ethChainId
  apply request_unreliable inHand
  intro middle chainId after proceeds served
  have first := inHand.later (proceeds.served served)
  split
  · exact first
  · rw [Script.always_bind]
    unfold ethGetCode
    apply request_unreliable first
    intro middle code last proceeds served
    have second := first.later (proceeds.served served)
    split
    · exact second
    · exact second

private theorem readRegistry_unreliable (inHand : InHand digest row kept chain) :
    Unreliable (fun kept existing after =>
        InHand digest row kept after ∧ Existing digest kept existing after)
      (fun kept _ after => InHand digest row kept after) (readRegistry digest kept) chain := by
  unfold readRegistry Unreliable
  rw [Script.always_bind, Script.always_get, Script.always_bind]
  unfold ethCall
  apply request_unreliable inHand
  intro middle existing after proceeds served
  have still := inHand.later (proceeds.served served)
  split
  · exact still
  · rename_i known
    refine ⟨still, by tauto, ?_⟩
    intro same
    obtain ⟨_, answered⟩ := served
    cases answered
    exact hexWord_inj.mp same

private theorem recoverHash_unreliable (inHand : InHand digest row kept chain)
    (read : Existing digest kept existing chain) :
    Unreliable (fun kept _ after => InHand digest row kept after ∧
        (kept.unsent = true → existing = "0x" ++ zeroWord))
      (fun kept _ after => InHand digest row kept after) (recoverHash digest existing kept)
      chain := by
  unfold recoverHash Unreliable
  rw [Script.always_bind, Script.always_get]
  split
  · rename_i recorded
    rw [Script.always_bind]
    unfold ethGetLogs
    apply request_unreliable inHand
    intro middle logs after proceeds served
    have still := inHand.later (proceeds.served served)
    have entry := (read.later inHand.sound.nonzero (proceeds.served served).1).entry recorded.2
    obtain ⟨_, answered⟩ := served
    cases answered
    cases first : List.head? (middle.logs (keyFor digest kept.id)) with
    | none => exact still
    | some hash =>
        obtain ⟨transaction, member, key, success, named⟩ := mem_logs.mp (List.mem_of_head? first)
        have entered := (still.lawful.entered transaction member success).1
        rw [key, entry] at entered
        refine ⟨⟨still.lawful, ?_, still.id, still.payloadHash⟩, ?_⟩
        · refine ⟨still.sound.nonzero, ?_, still.sound.block, still.sound.confirmed⟩
          intro other same
          cases same
          exact ⟨transaction, member, named, key, entered.symm⟩
        · intro unsent
          have empty : hash = "" := by simpa [Publication.unsent] using unsent
          exact absurd (named.trans empty) (still.lawful.named transaction member)
  · rename_i other
    refine ⟨inHand, ?_⟩
    intro unsent
    exact read.known.resolve_right fun same => other ⟨unsent, same⟩

private theorem sendRecord_unreliable (inHand : InHand digest row kept chain)
    (read : kept.unsent = true → existing = "0x" ++ zeroWord) :
    Unreliable (fun kept _ after => InHand digest row kept after ∧ kept.unsent = false)
      (fun kept _ after => InHand digest row kept after) (sendRecord digest data existing kept)
      chain := by
  unfold sendRecord Unreliable
  rw [Script.always_bind, Script.always_get]
  split
  · rw [Script.always_bind]
    unfold ethSendTransaction
    apply request_unreliable inHand
    intro middle hash after proceeds served
    have still := inHand.later (proceeds.served served)
    obtain ⟨fresh, answered⟩ := served
    obtain ⟨sentTo, sent, same⟩ := Option.map_eq_some_iff.mp answered
    cases same
    obtain ⟨named, _, rfl⟩ := Chain.send_eq_some sent
    refine ⟨⟨still.lawful, ?_, still.id, still.payloadHash⟩, ?_⟩
    · refine ⟨still.sound.nonzero, ?_, still.sound.block, still.sound.confirmed⟩
      intro other same
      cases same
      exact ⟨_, List.mem_append_right _ (List.mem_singleton_self _), rfl, rfl, rfl⟩
    · exact decide_eq_false named
  · rename_i other
    refine ⟨inHand, ?_⟩
    cases unsent : kept.unsent with
    | false => rfl
    | true => exact absurd ⟨unsent, read unsent⟩ other

private theorem poll_unreliable (inHand : InHand digest row kept chain)
    (sent : kept.unsent = false) :
    Unreliable (fun kept _ after => InHand digest row kept after)
      (fun kept _ after => InHand digest row kept after) (poll data kept) chain := by
  unfold poll Unreliable
  rw [Script.always_bind, Script.always_get, if_neg (by rw [sent]; exact Bool.false_ne_true),
    Script.always_bind]
  unfold ethGetTransactionReceipt
  apply request_unreliable inHand
  intro middle shown after proceeds served
  have still := inHand.later (proceeds.served served)
  obtain ⟨_, answered⟩ := served
  cases answered
  obtain ⟨hash, stored⟩ : ∃ hash, kept.transactionHash = some hash := by
    cases stored : kept.transactionHash with
    | none => simp [Publication.unsent, stored] at sent
    | some hash => exact ⟨hash, rfl⟩
  rw [stored, Option.getD_some]
  obtain ⟨transaction, member, named, records⟩ := still.sound.sent hash stored
  cases found : middle.transactionReceipt hash with
  | none =>
      refine ⟨still.lawful, ⟨still.sound.nonzero, still.sound.sent, still.sound.block, ?_⟩, still.id,
        still.payloadHash⟩
      intro impossible
      exact absurd (show "submitted" = "confirmed" from impossible) (by decide)
  | some receipt =>
      dsimp only
      split
      · exact still
      · rename_i success
        obtain ⟨other, otherMember, otherNamed, mined⟩ :=
          (transactionReceipt_eq_some_iff still.lawful).mp found
        have same := Chain.unique_of_hash still.lawful otherMember member
          (otherNamed.trans named.symm)
        rw [same, Bool.eq_true_of_not_eq_false success] at mined
        have entered := (still.lawful.entered transaction member
          ((Chain.succeeded_iff transaction).mpr ⟨_, mined⟩)).1
        rw [records.1, records.2] at entered
        refine ⟨still.lawful, ⟨still.sound.nonzero, still.sound.sent, ?_, fun _ => entered⟩, still.id,
          still.payloadHash⟩
        intro number same
        cases same
        exact ⟨transaction, member, records.1, mined⟩

/-- A publication leaves evidence in hand, whatever becomes of it. -/
theorem publish_unreliable (inHand : InHand digest row kept chain) :
    Unreliable (fun kept _ after => InHand digest row kept after)
      (fun kept _ after => InHand digest row kept after) (publish digest data kept) chain := by
  unfold publish Unreliable
  rw [Script.always_bind]
  apply (deployment_unreliable inHand).mono _ fun _ _ _ failed => failed
  intro kept _ chain inHand
  rw [Script.always_bind]
  apply (readRegistry_unreliable inHand).mono _ fun _ _ _ failed => failed
  rintro kept existing chain ⟨inHand, read⟩
  rw [Script.always_bind]
  apply (recoverHash_unreliable inHand read).mono _ fun _ _ _ failed => failed
  rintro kept _ chain ⟨inHand, unsent⟩
  rw [Script.always_bind]
  apply (sendRecord_unreliable inHand unsent).mono _ fun _ _ _ failed => failed
  rintro kept _ chain ⟨inHand, sent⟩
  exact poll_unreliable inHand sent

end Calls

end UrjaSetu.Adapters.Ledger
