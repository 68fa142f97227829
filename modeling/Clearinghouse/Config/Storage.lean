/-
# Which medium to use

The configuration of a medium is a record that names its kind and goes on with
the settings of that kind. It may be written as a table with an entry for the
kind, or as a list that starts with it.
-/

import Clearinghouse.Cache.Client
import Clearinghouse.Config.Document
import Clearinghouse.Ledger.Backend

namespace Clearinghouse.Config

/-- The medium to use, with its settings. -/
inductive Storage
  | memory
  /-- A tree of keys in a directory. -/
  | keyTree (path : String)
  /-- A database of rows in a file or in memory. -/
  | rows (path : String)
  | cache (settings : Cache.Settings)
  | ledger (settings : Ledger.Settings)
  deriving DecidableEq, Repr

namespace Storage

/-- The name of the kind. -/
def kind : Storage → String
  | memory => "memory"
  | keyTree _ => "sled"
  | rows _ => "sqlite"
  | cache _ => "redis"
  | ledger _ => "ledger"

/-- The start of the keys of accounts, unless configured. -/
def defaultKeyStart : String := "account:"

/-- The settings of a cache at an address, with nothing else configured. -/
def plainCache (address : String) : Cache.Settings := ⟨address, none, 0, defaultKeyStart⟩

/-- A cluster, by number or by text. -/
def cluster? (document : Document) : Option Ledger.ClusterId :=
  match document.unsigned? with
  | some n => some (.ofWord n)
  | none => document.text?.bind Ledger.ClusterId.parse?

/-- The settings of a medium of a kind. -/
def ofRecord? (kind : String) (record : Document.Record) : Option Storage :=
  if kind = "memory" then some .memory
  else if kind = "sled" then do
    return .keyTree (← record.required? 0 "path" Document.text?)
  else if kind = "sqlite" then do
    return .rows (← record.required? 0 "path" Document.text?)
  else if kind = "redis" then do
    let address ← record.required? 0 "address" Document.text?
    let password ← record.optional? 1 "password" Document.nullableText? none
    let database ← record.optional? 2 "db" Document.signed? 0
    let keyStart ← record.optional? 3 "key_prefix" Document.text? defaultKeyStart
    return .cache ⟨address, password, database.toInt, keyStart⟩
  else if kind = "ledger" then do
    let addresses ← record.required? 0 "addresses" (Document.list? Document.text?)
    let cluster ← record.optional? 1 "cluster_id" cluster? 0
    let simulate ← record.optional? 2 "simulate" Document.boolean? false
    return .ledger ⟨addresses, cluster, simulate⟩
  else none

/-- How many settings a kind has. A list must not go on after them. -/
def fieldCount : Storage → Nat
  | memory => 0
  | keyTree _ | rows _ => 1
  | cache _ => 4
  | ledger _ => 3

/-- The medium that a node describes. -/
def ofDocument? : Document → Option Storage
  | .table entries =>
    match entries.partition (·.1 == "kind") with
    | ([(_, kind)], rest) => do ofRecord? (← kind.text?) (.named rest)
    | _ => none
  | .list (kind :: rest) => do
    let storage ← ofRecord? (← kind.text?) (.positional rest)
    if rest.length ≤ storage.fieldCount then some storage else none
  | _ => none

end Storage

end Clearinghouse.Config
