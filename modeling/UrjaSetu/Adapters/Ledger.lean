import UrjaSetu.Domain.Enums
import UrjaSetu.Library.RemoteCalls

/-!
The receipt registry of `blockchain/ReceiptRegistry.sol`, the node it runs on,
and `publish` of `app/adapters/ledger/evm.py`.

Words are hexadecimal texts without their prefix. The node mines, reorders and
drops what it was sent as it likes. The calls go to the one contract of the
deployment record; its address and selectors are left out of them.

Owns: what a mined transaction does to the registry, what later states of the
chain keep, and the calls of one publication.
-/

namespace UrjaSetu.Adapters.Ledger

open UrjaSetu.Domain UrjaSetu.Library

/-! ## The contract -/

/-- `bytes32(0)`. -/
def zeroWord : String := String.ofList (List.replicate 64 '0')

/-- What has become of a transaction. -/
inductive Outcome where
  | pending
  | dropped
  | mined (block : ℕ) (success : Bool)
deriving DecidableEq, Repr

/-- A call of `record`. -/
structure Transaction where
  hash : String
  sender : String
  key : String
  digest : String
  outcome : Outcome := .pending
deriving DecidableEq, Repr

/-- The transaction was mined and did not revert. -/
def Transaction.succeeded (transaction : Transaction) : Bool :=
  match transaction.outcome with
  | .mined _ success => success
  | _ => false

/-- The chain: the contract's `publisher` and `receipts`, and the transactions
that were sent to it, in order of sending. -/
structure Chain where
  chainId : ℕ
  code : String
  publisher : String
  receipts : String → String := fun _ => zeroWord
  transactions : List Transaction := []
  height : ℕ := 0

namespace Chain

/-- `record`; `none` is a revert. -/
def record (chain : Chain) (transaction : Transaction) : Option (String → String) :=
  if transaction.sender ≠ chain.publisher then none
  else if transaction.digest = zeroWord then none
  else if chain.receipts transaction.key ≠ zeroWord then none
  else some (Function.update chain.receipts transaction.key transaction.digest)

/-- The transactions, with the outcome of one. -/
def settle (chain : Chain) (hash : String) (outcome : Outcome) : List Transaction :=
  chain.transactions.map fun transaction =>
    if transaction.hash = hash then { transaction with outcome } else transaction

def find (chain : Chain) (hash : String) : Option Transaction :=
  chain.transactions.find? fun transaction => transaction.hash = hash

/-- A transaction reaches the node, under a hash of its own. -/
def send (chain : Chain) (hash sender key digest : String) : Option Chain :=
  if hash = "" ∨ hash ∈ chain.transactions.map Transaction.hash then none
  else some { chain with transactions := chain.transactions ++ [{ hash, sender, key, digest }] }

/-- A pending transaction is mined, in the last block or a later one. -/
def mine (chain : Chain) (hash : String) (block : ℕ) : Option Chain :=
  match chain.find hash with
  | none => none
  | some transaction =>
      if transaction.outcome = .pending ∧ chain.height ≤ block then
        match chain.record transaction with
        | some receipts => some { chain with receipts, height := block, transactions := chain.settle hash (.mined block true) }
        | none => some { chain with height := block, transactions := chain.settle hash (.mined block false) }
      else none

/-- A pending transaction is dropped. -/
def drop (chain : Chain) (hash : String) : Option Chain :=
  match chain.find hash with
  | none => none
  | some transaction =>
      if transaction.outcome = .pending then
        some { chain with transactions := chain.settle hash .dropped }
      else none

end Chain

/-! ## The node -/

inductive Request where
  | ethChainId
  | ethGetCode
  | ethCall (key : String)
  | ethGetLogs (key : String)
  | ethSendTransaction (sender key digest : String)
  | ethGetTransactionReceipt (hash : String)
deriving DecidableEq, Repr

/-- A transaction receipt. -/
structure TransactionReceipt where
  success : Bool
  blockNumber : ℕ
deriving DecidableEq, Repr

def Reply : Request → Type
  | .ethChainId => ℕ
  | .ethGetCode => String
  | .ethCall _ => String
  | .ethGetLogs _ => List String
  | .ethSendTransaction _ _ _ => String
  | .ethGetTransactionReceipt _ => Option TransactionReceipt

namespace Chain

/-- `eth_getLogs` for a key: the transactions that recorded it. -/
def logs (chain : Chain) (key : String) : List String :=
  (chain.transactions.filter fun transaction => transaction.key = key ∧ transaction.succeeded).map
    Transaction.hash

/-- `eth_getTransactionReceipt`; of what is not mined there is none. -/
def transactionReceipt (chain : Chain) (hash : String) : Option TransactionReceipt :=
  match chain.find hash with
  | some ⟨_, _, _, _, .mined block success⟩ => some ⟨success, block⟩
  | _ => none

/-- The node answers; a transaction it is sent gets the hash `fresh`. -/
def serve (chain : Chain) (fresh : String) : (request : Request) → Option (Reply request × Chain)
  | .ethChainId => some (chain.chainId, chain)
  | .ethGetCode => some (chain.code, chain)
  | .ethCall key => some ("0x" ++ chain.receipts key, chain)
  | .ethGetLogs key => some (chain.logs key, chain)
  | .ethSendTransaction sender key digest =>
      (chain.send fresh sender key digest).map fun after => (fresh, after)
  | .ethGetTransactionReceipt hash => some (chain.transactionReceipt hash, chain)

/-- What the node may answer. -/
def Serves (request : Request) (chain : Chain) (reply : Reply request) (after : Chain) : Prop :=
  ∃ fresh, chain.serve fresh request = some (reply, after)

end Chain

/-! ## Publication -/

/-- The columns of a `blockchain_receipts` row that publication reads and writes. -/
structure Publication where
  id : UUID
  payloadHash : String
  status : String := "pending"
  transactionHash : Option String := none
  blockNumber : Option ℕ := none
  chainId : Option ℕ := none
  contractAddress : Option String := none
  error : Option String := none
deriving DecidableEq, Repr

/-- `not receipt.transaction_hash`. -/
def Publication.unsent (receipt : Publication) : Bool := receipt.transactionHash.getD "" = ""

/-- The deployment record. -/
structure Deployment where
  chainId : ℕ
  address : String
  publisher : String
deriving DecidableEq, Repr

/-- SHA-256, of which no text is known to give zero. -/
structure Digest where
  sha256 : String → String
  nonzero : ∀ text, sha256 text ≠ zeroWord

/-- `key_for`. -/
def keyFor (digest : Digest) (receiptId : UUID) : String :=
  digest.sha256 ("urjasetu-receipt-1:" ++ uuidText receiptId)

abbrev Publishing (α : Type) := Remote.Script Publication Request Reply α

open Remote.Script

def ethChainId : Publishing ℕ := request Request.ethChainId

def ethGetCode : Publishing String := request Request.ethGetCode

def ethCall (key : String) : Publishing String := request (Request.ethCall key)

def ethGetLogs (key : String) : Publishing (List String) := request (Request.ethGetLogs key)

def ethSendTransaction (sender key digest : String) : Publishing String :=
  request (Request.ethSendTransaction sender key digest)

def ethGetTransactionReceipt (hash : String) : Publishing (Option TransactionReceipt) :=
  request (Request.ethGetTransactionReceipt hash)

/-- `deployment()`. -/
def deployment (data : Deployment) : Publishing Unit := do
  let chainId ← ethChainId
  if chainId ≠ data.chainId ∨ data.chainId ≠ 1337 then raise "Deployment network mismatch."
  else do
    let code ← ethGetCode
    if code = "0x" then raise "Receipt contract is not deployed on this node."
    else pure ()

/-- `existing`, where it does not conflict. -/
def readRegistry (digest : Digest) : Publishing String := do
  let receipt ← get
  let existing ← ethCall (keyFor digest receipt.id)
  if existing ≠ "0x" ++ zeroWord ∧ existing ≠ "0x" ++ receipt.payloadHash then
    raise "On-chain receipt conflicts with database evidence."
  else pure existing

/-- Recover publication after a process crash between chain mining and DB commit. -/
def recoverHash (digest : Digest) (existing : String) : Publishing Unit := do
  let receipt ← get
  if receipt.unsent ∧ existing = "0x" ++ receipt.payloadHash then do
    let logs ← ethGetLogs (keyFor digest receipt.id)
    match logs.head? with
    | none => raise "Receipt hash exists but its publication event is missing."
    | some hash => modify fun receipt => { receipt with transactionHash := some hash }
  else pure ()

/-- Send the transaction where nothing is recorded yet. -/
def sendRecord (digest : Digest) (data : Deployment) (existing : String) : Publishing Unit := do
  let receipt ← get
  if receipt.unsent ∧ existing = "0x" ++ zeroWord then do
    let hash ← ethSendTransaction data.publisher (keyFor digest receipt.id) receipt.payloadHash
    modify fun receipt => { receipt with transactionHash := some hash }
  else pure ()

/-- The last three assignments. -/
def confirm (data : Deployment) : Publishing Unit := modify fun receipt =>
  { receipt with
    chainId := some data.chainId
    contractAddress := some data.address
    status := "confirmed"
    error := none }

/-- What has become of the transaction. -/
def poll (data : Deployment) : Publishing Unit := do
  let receipt ← get
  if receipt.unsent then confirm data
  else do
    let transaction ← ethGetTransactionReceipt (receipt.transactionHash.getD "")
    match transaction with
    | none => modify fun receipt => { receipt with status := "submitted" }
    | some transaction =>
        if transaction.success = false then raise "Receipt transaction reverted."
        else do
          modify fun receipt => { receipt with blockNumber := some transaction.blockNumber }
          confirm data

/-- `publish`. -/
def publish (digest : Digest) (data : Deployment) : Publishing Unit := do
  deployment data
  let existing ← readRegistry digest
  recoverHash digest existing
  sendRecord digest data existing
  poll data

end UrjaSetu.Adapters.Ledger
