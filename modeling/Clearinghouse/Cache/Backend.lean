/-
# Accounts in a cache

A medium that keeps each account as a text under a key of its own: a fixed start
followed by the identifier in decimal digits. The accounts are found again by
listing the keys with that start, of which only those that go on with a number
count. A commit is a series of writes without any promise: if it fails, some of
them may be visible, and nobody can tell which.
-/

import Clearinghouse.Cache.Client
import Clearinghouse.Cache.Glob
import Clearinghouse.Json.Reader
import Clearinghouse.Json.Writer
import Clearinghouse.Store.Backend

namespace Clearinghouse.Cache

/-- A store's connection to a cache. -/
structure Handle (K : Type) where
  settings : Settings
  connection : Option K

/-- A store that is not connected yet. -/
def Handle.new {K : Type} (settings : Settings) : Except StoreError (Handle K) :=
  if settings.address = "" then .error (.invalidConfiguration "redis: address is required")
  else if settings.database < 0 then
    .error (.invalidConfiguration s!"redis: invalid db index {settings.database}")
  else .ok ⟨settings, none⟩

/-- The key of an account. -/
def Settings.key (settings : Settings) (id : AccountId) : String :=
  settings.keyStart ++ String.ofList (Text.Decimal.digits id.toNat)

/-- The pattern of the keys of all accounts. -/
def Settings.pattern (settings : Settings) : String :=
  String.ofList (Glob.escape settings.keyStart.toList ++ ['*'])

/-- The identifier that a key with the right start goes on with. -/
def Settings.id? (settings : Settings) (key : String) : Option AccountId :=
  let start := settings.keyStart.toList
  if start.isPrefixOf key.toList then
    Text.Decimal.toWord? (key.toList.drop start.length)
  else none

/-- The text of an account. -/
def encode (account : Account) : String := String.ofList (Json.Writer.account account)

/-- The fields of an account read so far. -/
structure Draft where
  id? : Option AccountId := none
  balance? : Option Balance := none

/-- The fields of an account in order. -/
def fields : List (Json.Reader.Field Draft) :=
  [{ name := "id", isSet := (·.id?.isSome),
     read := fun draft => return { draft with id? := some (← Json.Reader.unsigned) } },
   { name := "balance", isSet := (·.balance?.isSome),
     read := fun draft => return { draft with balance? := some (← Json.Reader.signed) } }]

/-- Reads an account. -/
def reader : Json.Reader Account := do
  let draft ← Json.Reader.record "struct Account" fields {}
  return ⟨draft.id?.getD 0, draft.balance?.getD 0⟩

/-- The account of a text found under a key. -/
def decode (key text : String) : Except StoreError Account :=
  (Json.Reader.document reader (Text.Utf8.encode text)).mapError fun problem =>
    .medium s!"failed to decode {key}" problem.message

/-- The accounts of the keys that still hold something. -/
def decodeAll : List (String × Option String) → Except StoreError (List Account)
  | [] => .ok []
  | (_, none) :: rest => decodeAll rest
  | (key, some text) :: rest => do
    let account ← decode key text
    return account :: (← decodeAll rest)

section

variable {C K : Type} (client : Client C K)

/-- The state of the medium: the connection, and the cache. -/
abbrev State (K C : Type) := Handle K × C

/-- Runs a command on the cache, with its failure as that of the store in a
context. -/
def run {α : Type} (failure : Failure → StoreError) (command : Command C α) :
    Step (State K C) α :=
  Step.onPart Prod.snd (fun cache state => (state.1, cache)) (command.adapt failure)

/-- A failure of the cache while the store was doing something. -/
def whileDoing (context : String) (failure : Failure) : StoreError :=
  .medium context failure.message

/-- The open connection. -/
def connection : Step (State K C) K := do
  match (← get).1.connection with
  | some connection => return connection
  | none => throw .notInitialized

/-- Connects and asks for a sign of life. -/
def connect : Step (State K C) Unit := do
  let settings := (← get).1.settings
  let connection ← run (whileDoing s!"failed to connect to {settings.address}")
    (client.connect settings)
  run (whileDoing "ping failed") (client.ping connection)
  modify fun (handle, cache) => ({ handle with connection := some connection }, cache)

/-- Lists the keys of accounts and what they hold. -/
def entries (settings : Settings) (connection : K) : Command C (List (String × Option String)) := do
  let keys := (← client.keys connection settings.pattern).filter fun key =>
    (settings.id? key).isSome
  return keys.zip (← client.getAll connection keys)

/-- The medium of texts in a cache. -/
def backend : Backend (State K C) where
  name := "redis"
  guarantee := .bestEffort
  connect := connect client
  disconnect := modify fun (handle, cache) => ({ handle with connection := none }, cache)
  load id := do
    let key := (← get).1.settings.key id
    let connection ← connection
    match ← run (whileDoing "failed to get account") (client.get connection key) with
    | none => return none
    | some text => return some (← ExceptT.mk (pure (decode key text)))
  loadAll := do
    let settings := (← get).1.settings
    let connection ← connection
    let found ← run (whileDoing "failed to list accounts") (entries client settings connection)
    let accounts ← ExceptT.mk (pure (decodeAll found))
    return accounts.mergeSort fun a b => a.id ≤ b.id
  flush changes := do
    let settings := (← get).1.settings
    let connection ← connection
    run (fun failure => .partialCommit "redis" none changes.length failure.message)
      (client.setAll connection (changes.map fun change =>
        (settings.key change.id, encode ⟨change.id, change.balance⟩)))

end

end Clearinghouse.Cache
