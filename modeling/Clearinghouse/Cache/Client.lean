/-
# Talking to a cache

The handful of commands that a cache of texts by key has to answer, as steps on
the state of the cache. A client is a record of such steps, so a cache in the
same process and a server at the end of a connection are used alike.
-/

namespace Clearinghouse.Cache

/-- Where a cache is and how its keys are named. -/
structure Settings where
  address : String
  password : Option String
  /-- The number of the logical database. -/
  database : Int
  /-- What stands before the identifier in the key of an account. -/
  keyStart : String
  deriving DecidableEq, Repr, Inhabited

/-- Why a command failed. -/
inductive Failure
  /-- The cache in this process is switched off. -/
  | refused
  /-- The connection broke in the middle of a series of writes. -/
  | dropped
  /-- The address is none. -/
  | badAddress
  /-- The address names no number where the database should be. -/
  | badDatabase
  /-- The system has no way to the address. -/
  | unreachable
  /-- The system knows no host of this name. -/
  | unknownHost
  | authenticationFailed
  | databaseRefused
  /-- The server wants a password first. -/
  | authenticationRequired
  /-- The server answered with an error. -/
  | answered (text : String)
  deriving DecidableEq, Repr, Inhabited

/-- The text shown to people. -/
def Failure.message : Failure → String
  | refused => "connection refused- IoError"
  | dropped => "connection dropped mid-pipeline- IoError"
  | badAddress => "Redis URL did not parse- InvalidClientConfig"
  | badDatabase => "Invalid database number- InvalidClientConfig"
  | unreachable => "Network is unreachable (os error 101)"
  | unknownHost => "failed to lookup address information: Temporary failure in name resolution"
  | authenticationFailed => "Password authentication failed- AuthenticationFailed"
  | databaseRefused => "Redis server refused to switch database- ResponseError"
  | authenticationRequired => "NOAUTH: Authentication required."
  | answered text => s!"An error was signalled by the server - ResponseError: {text}"

/-- A command on the cache state `C`, which may fail and leaves a state behind in
either case. -/
abbrev Command (C α : Type) := ExceptT Failure (StateM C) α

/-- A client for caches of state `C`, with connections `K`. -/
structure Client (C K : Type) where
  connect : Settings → Command C K
  ping : K → Command C Unit
  get : K → String → Command C (Option String)
  /-- The keys that match a pattern, in any order and possibly repeated. -/
  keys : K → String → Command C (List String)
  /-- The values of several keys, in the order of the keys. -/
  getAll : K → List String → Command C (List (Option String))
  /-- Writes entries one after the other. If it fails, any of them may have been
  written. -/
  setAll : K → List (String × String) → Command C Unit

end Clearinghouse.Cache
