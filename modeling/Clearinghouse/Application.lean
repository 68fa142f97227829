/-
# The application

An application answers a consensus engine: it admits transactions, delivers
them, seeds the first accounts and answers queries. It is a store with the keys
of its users, a policy for failing operations and a count of what it did. A
transaction arrives as bytes; bytes that are no transaction get a code of their
own.
-/

import Clearinghouse.Batch.Processor

namespace Clearinghouse

/-- The answer codes of the application. -/
inductive Code
  | ok
  /-- The bytes received are not what they should be. -/
  | undecodable
  | rejected
  | unknownQuery
  deriving DecidableEq, Repr, Inhabited

/-- The number of an answer code. -/
def Code.number : Code → Nat
  | ok => 0
  | undecodable => 1
  | rejected => 2
  | unknownQuery => 3

/-- The answer to a transaction. -/
structure TxResult where
  code : Code
  log : String
  deriving DecidableEq, Repr, Inhabited

/-- The answer to a query. -/
structure QueryResult where
  code : Code
  log : String
  value : String
  deriving DecidableEq, Repr, Inhabited

/-- An account seeded at the start. -/
structure GenesisAccount where
  id : AccountId
  balance : Balance
  /-- The key that may sign for the account, in hexadecimal digits. -/
  publicKey : Option String
  deriving DecidableEq, Repr, Inhabited

/-- What an application has done since it started. -/
structure Tally where
  batchesCommitted : Nat
  operationsApplied : Nat
  batchesRejected : Nat
  deriving DecidableEq, Repr, Inhabited

/-- An application over the medium state `S`. -/
structure Application (S : Type) where
  store : Store S
  keys : KeyRegistry
  policy : Policy
  tally : Tally

namespace Application

variable {S : Type}

/-- An application over a store, without keys. -/
def new (store : Store S) (policy : Policy) : Application S := ⟨store, ∅, policy, ⟨0, 0, 0⟩⟩

/-- Runs a step of the store. -/
def onStore {α : Type} (act : StateM (Store S) α) : StateM (Application S) α :=
  fun app => let (answer, store) := act app.store; (answer, { app with store })

/-- Counts what became of a batch. -/
def Tally.count (tally : Tally) : Outcome → Tally
  | .committed applied _ =>
    { tally with
      batchesCommitted := tally.batchesCommitted + 1
      operationsApplied := tally.operationsApplied + applied }
  | .rejected _ => { tally with batchesRejected := tally.batchesRejected + 1 }

variable (b : Backend S)

/-- Processes a transaction under the application's policy. -/
def process (tx : Transaction) : StateM (Application S) Outcome := do
  let app ← get
  let outcome ← onStore (Batch.process b app.keys app.policy tx)
  modify fun app => { app with tally := Tally.count app.tally outcome }
  return outcome

/-- Checks whether a transaction could be admitted. -/
def check (tx : Transaction) : StateM (Application S) (Except Rejection Unit) := do
  let app ← get
  onStore (Batch.check b app.keys tx).run

/-- The answer to bytes that are no transaction. -/
def undecodable (problem : Json.Problem) : TxResult where
  code := .undecodable
  log := s!"Invalid transaction format: {(Refusal.decoding problem.message).message}"

/-- The admission check of a transaction. -/
def checkTx (bytes : List UInt8) : StateM (Application S) TxResult := do
  match Transaction.decode bytes with
  | .error problem => return undecodable problem
  | .ok tx =>
    match ← check b tx with
    | .ok () => return ⟨.ok, "Transaction is valid"⟩
    | .error rejection => return ⟨.rejected, s!"Invalid transaction: {rejection.message}"⟩

/-- Delivers a transaction. -/
def deliverTx (bytes : List UInt8) : StateM (Application S) TxResult := do
  match Transaction.decode bytes with
  | .error problem => return undecodable problem
  | .ok tx =>
    let outcome ← process b tx
    return ⟨if outcome.isCommitted then .ok else .rejected, outcome.message⟩

/-- Delivers every transaction of a block in order. -/
def finalizeBlock : List (List UInt8) → StateM (Application S) (List TxResult)
  | [] => return []
  | bytes :: rest => do
    let result ← deliverTx b bytes
    return result :: (← finalizeBlock rest)

/-- Registers a user's key. -/
def registerKey (user : AccountId) (text : String) : Check (Application S) Unit := do
  let keys ← Batch.decided (KeyRegistry.register (← get).keys user text)
  modify fun app => { app with keys }

/-- Registers a user's key unless the user has one. -/
def ensureKey (user : AccountId) (text : String) : Check (Application S) Unit := fun app =>
  match registerKey user text app with
  | (.error (.keyAlreadyRegistered _), app) => (.ok (), app)
  | answer => answer

/-- Runs a step of the store as a check. -/
def onStep {α : Type} (act : Step (Store S) α) : Check (Application S) α :=
  Check.ofStep (Step.onPart Application.store (fun store app => { app with store }) act)

/-- Brings an account into being unless it exists. A funded account is credited;
there is nothing to credit to any other. -/
def seedAccount (account : GenesisAccount) : Check (Application S) Unit := do
  unless ← onStep (Store.contains b account.id) do
    if 0 < account.balance then
      onStep (Store.update b account.id account.balance)
    else
      onStep (Store.create b account.id account.balance)

/-- Seeds the accounts that do not exist yet and registers their keys. -/
def initChain : List GenesisAccount → Check (Application S) Unit
  | [] => return
  | account :: rest => do
    seedAccount b account
    if let some text := account.publicKey then
      ensureKey account.id text
    initChain rest

/-- Reads one account. -/
def queryAccount (id : AccountId) : StateM (Application S) (Except StoreError Account) :=
  onStore (Store.getAccount b id).run

/-- Reads all accounts. -/
def queryState : StateM (Application S) (Except StoreError (List Account)) :=
  onStore (Store.accounts b).run

/-- The document of all accounts. -/
def stateDocument (accounts : List Account) : Json.Writer.Document :=
  Json.Writer.record
    [("accounts".toList, Json.Writer.list (accounts.map Json.Writer.account))]

/-- The answer to a query that the store answered or failed to answer. -/
def queryAnswer (answer : Except StoreError Json.Writer.Document) : QueryResult :=
  match answer with
  | .ok document => ⟨.ok, "", String.ofList document⟩
  | .error e => ⟨.rejected, e.message, ""⟩

/-- Answers a query by its path: all accounts, or the account whose number the
data holds. -/
def query (path : String) (data : List UInt8) : StateM (Application S) QueryResult := do
  if path = "state" then
    return queryAnswer ((← queryState b).map stateDocument)
  else if path = "account" then
    match Json.Reader.document Json.Reader.unsigned data with
    | .error problem => return ⟨.undecodable, s!"Invalid account ID format: {problem.message}", ""⟩
    | .ok id => return queryAnswer ((← queryAccount b id).map Json.Writer.account)
  else
    return ⟨.unknownQuery, s!"Unknown query path: {path}", ""⟩

end Application

end Clearinghouse
