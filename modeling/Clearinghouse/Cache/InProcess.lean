/-
# A cache in the same process

A map from keys to texts that answers the commands of a cache. It can be
switched off, and it can be told to break the next series of writes after some
of them. A break that is armed is spent by the next series that reaches the
cache, also by one too short to be broken.
-/

import Clearinghouse.Cache.Client
import Clearinghouse.Cache.Glob
import Std.Data.ExtTreeMap

namespace Clearinghouse.Cache

/-- The state of a cache in this process. -/
structure InProcess where
  entries : Std.ExtTreeMap String String
  /-- After how many writes the next series breaks. -/
  breakAfter : Option Nat
  isOff : Bool

namespace InProcess

/-- A cache without entries. -/
def empty : InProcess := ⟨∅, none, false⟩

/-- Refuses every command while the cache is switched off. -/
def ensureOn : Command InProcess Unit := do
  if (← get).isOff then
    throw .refused

/-- The entries after a series of writes. -/
def writeAll (entries : Std.ExtTreeMap String String) (writes : List (String × String)) :
    Std.ExtTreeMap String String :=
  writes.foldl (fun entries (key, value) => entries.insert key value) entries

/-- A series of writes. A break armed after fewer writes than there are lets
only those land. -/
def setAll (writes : List (String × String)) : Command InProcess Unit := do
  ensureOn
  let cache ← get
  match cache.breakAfter with
  | none => set { cache with entries := writeAll cache.entries writes }
  | some limit =>
    set { cache with entries := writeAll cache.entries (writes.take limit), breakAfter := none }
    if limit < writes.length then
      throw .dropped

/-- The client of a cache in this process. Its connections hold nothing. -/
def client : Client InProcess Unit where
  connect _ := ensureOn
  ping _ := ensureOn
  get _ key := do
    ensureOn
    return (← get).entries[key]?
  keys _ pattern := do
    ensureOn
    return (← get).entries.keys.filter fun key => Glob.accepts pattern.toList key.toList
  getAll _ keys := do
    ensureOn
    let cache ← get
    return keys.map (cache.entries[·]?)
  setAll _ writes := setAll writes

end InProcess

end Clearinghouse.Cache
