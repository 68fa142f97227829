/-
# A cache server at the end of a connection

A server keeps texts by key in numbered databases and may ask its connections
for a password. A listing comes in pages, each taken before the pattern is
applied. The server can be told to answer one command of a chosen name with an
error, and to list keys that hold nothing.
-/

import Clearinghouse.Cache.Client
import Clearinghouse.Cache.Glob
import Clearinghouse.Fault
import Clearinghouse.Text.Decimal
import Std.Data.ExtTreeMap

namespace Clearinghouse.Cache

/-- The state of a server. -/
structure Server where
  databases : Std.ExtTreeMap Nat (Std.ExtTreeMap String String)
  /-- Keys that the first database lists after its own, though they hold nothing. -/
  ghosts : List String
  password : Option String
  /-- The armed failure, by the name of the command. -/
  fault : Option (Fault String Unit)

namespace Server

/-- A server without entries and without a password. -/
def empty : Server := ⟨∅, [], none, none⟩

/-- A connection: its database, and whether it has shown the password. -/
structure Connection where
  database : Nat
  isAuthenticated : Bool
  deriving DecidableEq, Repr, Inhabited

/-- How many databases a server has. -/
def databaseCount : Nat := 16

/-- How many keys a page of a listing is made from. -/
def pageSize : Nat := 3

/-- The entries of a database. -/
def entries (server : Server) (database : Nat) : Std.ExtTreeMap String String :=
  (server.databases[database]?).getD ∅

/-- The server after a write. -/
def write (server : Server) (database : Nat) (key value : String) : Server :=
  { server with
    databases := server.databases.insert database ((server.entries database).insert key value) }

/-- What a key holds. -/
def read (server : Server) (database : Nat) (key : String) : Option String :=
  (server.entries database)[key]?

/-- Every database and key that holds something, in order. -/
def allKeys (server : Server) : List (Nat × String) :=
  server.databases.toList.flatMap fun (database, entries) => entries.keys.map (database, ·)

/-- The keys a listing goes through. -/
def listing (server : Server) (database : Nat) : List String :=
  (server.entries database).keys ++ if database = 0 then server.ghosts else []

/-- Fails a command of a name if the armed failure says so. -/
def meet (name : String) : Command Server Unit := do
  let server ← get
  let (effect, fault) := Fault.meet name server.fault
  set { server with fault }
  if effect.isSome then
    throw (.answered "injected")

/-- Begins a command on a connection that has to be authenticated. -/
def enter (connection : Connection) (name : String) : Command Server Unit := do
  if (← get).password.isSome ∧ !connection.isAuthenticated then
    throw .authenticationRequired
  meet name

/-- Shows a password, which must be exactly the one asked for. -/
def authenticate (password : String) : Command Server Unit := do
  meet "AUTH"
  if (← get).password ≠ some password then
    throw .authenticationFailed

/-- Switches to a database, which must exist. -/
def select (connection : Connection) (database : Int) : Command Server Connection := do
  enter connection "SELECT"
  if 0 ≤ database ∧ database < databaseCount then
    return { connection with database := database.toNat }
  else throw .databaseRefused

/-- The pages of a listing from an offset on; an error after the first page ends
the listing early. `pages` bounds how many are left. -/
def scanFrom (connection : Connection) (pattern : String) (isFirst : Bool) (offset : Nat) :
    Nat → Command Server (List String)
  | 0 => return []
  | pages + 1 => fun server =>
    match enter connection "SCAN" server with
    | (.error failure, server) => if isFirst then (.error failure, server) else (.ok [], server)
    | (.ok (), server) =>
      let all := server.listing connection.database
      let page := ((all.drop offset).take pageSize).filter fun key =>
        Glob.accepts pattern.toList key.toList
      if offset + pageSize < all.length then
        let (rest, server) := scanFrom connection pattern false (offset + pageSize) pages server
        (rest.map (page ++ ·), server)
      else (.ok page, server)

/-- A series of writes. A write that fails does not stop the others; the first
failure is the answer. -/
def setAll (connection : Connection) : List (String × String) → Command Server Unit
  | [] => return
  | (key, value) :: rest => fun server =>
    match enter connection "SET" server with
    | (.ok (), server) => setAll connection rest (server.write connection.database key value)
    | (.error failure, server) => (.error failure, (setAll connection rest server).2)

end Server

/-- What a client can reach: the server, if there is a way to it. -/
structure Network where
  server : Server
  isConnected : Bool

namespace Network

/-- Runs a command on the server. -/
def onServer {α : Type} (command : Command Server α) : Command Network α := fun network =>
  let (answer, server) := command network.server
  (answer, { network with server })

/-- A host and a port after an address has been taken apart. -/
structure Endpoint where
  host : String
  deriving DecidableEq, Repr, Inhabited

/-- The character cannot be part of the name of a host. -/
def isForbidden (c : Char) : Bool :=
  c.toNat ≤ 0x20 || c.toNat = 0x7f || "#/:<>?@[\\]^|%".toList.contains c

/-- The port is empty or a number of sixteen bits. -/
def isPort (digits : List Char) : Bool :=
  digits.all Char.isDigit && Text.Decimal.value digits < UInt16.size

/-- The host of an address and what stands after it. -/
def splitHost (authority : List Char) : Option (List Char × List Char) :=
  match authority with
  | '[' :: rest =>
    match rest.dropWhile (· ≠ ']') with
    | ']' :: after => some (rest.takeWhile (· ≠ ']'), after)
    | _ => none
  | _ =>
    let host := authority.takeWhile (· ≠ ':')
    if host.any isForbidden then none else some (host, authority.dropWhile (· ≠ ':'))

/-- Takes an address apart, which is followed by a slash and the database. What
stands before the last at sign of the host's part does not matter. -/
def endpoint (settings : Settings) : Except Failure Endpoint := do
  let all := settings.address.toList
  let authority := all.takeWhile fun c => !("/?#".toList.contains c)
  let after := all.drop authority.length
  let authority :=
    if authority.contains '@' then (authority.reverse.takeWhile (· ≠ '@')).reverse else authority
  match splitHost authority with
  | none => throw .badAddress
  | some (host, port) =>
    match port with
    | [] => if host = [] then throw .badAddress
    | ':' :: digits => if host = [] ∨ !isPort digits then throw .badAddress
    | _ => throw .badAddress
    if after.head? = some '/' then throw .badDatabase
    return ⟨String.ofList host⟩

/-- The host is known without asking anyone for it. -/
def isNumeric (host : String) : Bool :=
  host = "localhost" || host.toList.all fun c => c.isDigit || c = '.' || c = ':'

/-- Connects to the server of an address: shows the password, if there is one,
and switches to the database, unless it is the first. -/
def connect (settings : Settings) : Command Network Server.Connection := do
  let endpoint ← ExceptT.mk (pure (endpoint settings))
  if !(← get).isConnected then
    throw (if isNumeric endpoint.host then .unreachable else .unknownHost)
  let connection ← match settings.password with
    | none => pure ⟨0, false⟩
    | some password =>
      (onServer (Server.authenticate password)).adapt fun _ => .authenticationFailed
      pure ⟨0, true⟩
  if settings.database = 0 then
    return connection
  else
    (onServer (Server.select connection settings.database)).adapt fun _ => .databaseRefused

/-- The client of a server at the end of a connection. -/
def client : Client Network Server.Connection where
  connect := connect
  ping connection := onServer (Server.enter connection "PING")
  get connection key := onServer do
    Server.enter connection "GET"
    return (← get).read connection.database key
  keys connection pattern := onServer fun server =>
    Server.scanFrom connection pattern true 0
      ((server.listing connection.database).length + 1) server
  getAll connection keys :=
    if keys.isEmpty then return []
    else onServer do
      Server.enter connection "MGET"
      let server ← get
      return keys.map (server.read connection.database)
  setAll connection writes := onServer (Server.setAll connection writes)

end Network

end Clearinghouse.Cache
