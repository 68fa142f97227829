/-
# Accounts in an ordered tree of keys

A medium that maps byte strings to byte strings in the order of the keys and
takes in a batch of writes as a whole. The key of an account is its identifier in
eight bytes, most significant first, so the order of the keys is the order of the
identifiers. The value holds identifier and balance in eight bytes each, least
significant first, the balance as a two's complement. The tree lives in a
directory that only one store at a time can hold.

What was taken in is shown at once and made durable afterwards, in a second step.
That step may fail of its own, both after a batch and when the tree was given up.
-/

import Clearinghouse.Medium.Files

namespace Clearinghouse.KeyStore

/-- Eight bytes of a word, most significant first. -/
def bigEndian (word : UInt64) : List UInt8 :=
  [(word >>> 56).toUInt8, (word >>> 48).toUInt8, (word >>> 40).toUInt8, (word >>> 32).toUInt8,
    (word >>> 24).toUInt8, (word >>> 16).toUInt8, (word >>> 8).toUInt8, word.toUInt8]

/-- Eight bytes of a word, least significant first. -/
def littleEndian (word : UInt64) : List UInt8 := (bigEndian word).reverse

/-- The word of bytes, least significant first. -/
def wordOf (bytes : List UInt8) : UInt64 :=
  bytes.foldr (fun byte word => (word <<< 8) ||| byte.toUInt64) 0

/-- The key of an account. -/
def key (id : AccountId) : List UInt8 := bigEndian id

/-- The value of an account. -/
def encode (account : Account) : List UInt8 :=
  littleEndian account.id ++ littleEndian account.balance.toUInt64

/-- Reads the value of an account; bytes beyond it do not matter. -/
def decode (bytes : List UInt8) : Except StoreError Account :=
  if bytes.length < 16 then
    .error (.medium "failed to decode account" "io error: unexpected end of file")
  else
    .ok ⟨wordOf (bytes.take 8), (wordOf ((bytes.drop 8).take 8)).toInt64⟩

/-- The tree after one change. -/
def record (tree : KeyTree) (change : Change) : KeyTree :=
  tree.insert (key change.id) (encode ⟨change.id, change.balance⟩)

/-- The accounts of a list of values. -/
def decodeAll : List (List UInt8) → Except StoreError (List Account)
  | [] => .ok []
  | bytes :: rest => do
    let account ← decode bytes
    return account :: (← decodeAll rest)

/-- A store's hold on a tree: where it is, and whether it is held. -/
structure Handle where
  path : String
  isHeld : Bool

/-- A store that does not hold its tree yet. An empty path leads nowhere. -/
def Handle.new (path : String) : Except StoreError Handle :=
  if path = "" then .error (.invalidConfiguration "sled: path is required")
  else .ok ⟨path, false⟩

/-- The state of the medium: the hold, and the files the tree is among. -/
abbrev State := Handle × Files

/-- Takes hold of the tree, making it and its directories as needed. A tree held
by another store, or a file in the way, is refused. -/
def connect : Step State Unit := do
  let (handle, files) ← get
  let path := Path.parse handle.path
  let failed := StoreError.medium s!"failed to open sled database at {handle.path}" "unavailable"
  match files[path]? with
  | some (.keys tree false) => set (Handle.mk handle.path true, files.insert path (.keys tree true))
  | some (.keys _ true) => throw failed
  | _ =>
    match files.makeDirectories path with
    | none => throw failed
    | some files => set (Handle.mk handle.path true, files.insert path (.keys ∅ true))

/-- Gives up the hold on the tree, if there is one. -/
def release (state : State) : State :=
  let (handle, files) := state
  let path := Path.parse handle.path
  if handle.isHeld then
    match files[path]? with
    | some (.keys tree _) => (⟨handle.path, false⟩, files.insert path (.keys tree false))
    | _ => (⟨handle.path, false⟩, files)
  else state

/-- The tree that the store holds. -/
def tree : Step State KeyTree := do
  let (handle, files) ← get
  if handle.isHeld then
    match files[Path.parse handle.path]? with
    | some (.keys tree _) => return tree
    | _ => throw .notInitialized
  else throw .notInitialized

/-- The account under an identifier. -/
def find (id : AccountId) : Step State (Option Account) := do
  match (← tree)[key id]? with
  | none => return none
  | some bytes => return some (← ExceptT.mk (pure (decode bytes)))

/-- The accounts in the order of their keys. -/
def list : Step State (List Account) := do
  let values := (← tree).toList.map Prod.snd
  ExceptT.mk (pure (decodeAll values))

/-- Puts a tree in the place of the one that the store holds. -/
def put (updated : KeyTree) : Step State Unit :=
  modify fun (handle, files) =>
    (handle, files.insert (Path.parse handle.path) (.keys updated true))

/-- What a tree is kept on, with states of type `D`. A failure is a text. -/
structure Disk (D : Type) where
  /-- Takes in the writes of a batch, all of them or none. -/
  write : ExceptT String (StateM D) Unit
  /-- Makes durable what was taken in. -/
  sync : ExceptT String (StateM D) Unit

/-- A disk that never fails. -/
def Disk.sound : Disk Unit where
  write := pure ()
  sync := pure ()

section

variable {D : Type}

/-- Does something to the tree alone. -/
def onTree {α : Type} (act : Step State α) : Step (State × D) α :=
  Step.onPart Prod.fst (fun state whole => (state, whole.2)) act

/-- Asks something of the disk, with its failure as that of the store in a context. -/
def onDisk (context : String) (act : ExceptT String (StateM D) Unit) : Step (State × D) Unit :=
  Step.onPart Prod.snd (fun disk whole => (whole.1, disk)) (act.adapt (.medium context))

/-- The medium of an ordered tree of keys on a disk. A tree is given up before the disk is
asked to make everything durable, and a batch is shown before it is durable. -/
def backendOn (disk : Disk D) : Backend (State × D) where
  name := "sled"
  guarantee := .atomic
  connect := onTree connect
  disconnect := do
    let wasHeld := (← get).1.1.isHeld
    onTree (modify release)
    if wasHeld then
      onDisk "failed to flush sled database" disk.sync
  load id := onTree (find id)
  loadAll := onTree list
  flush changes := do
    let updated := changes.foldl record (← onTree tree)
    onDisk "failed to apply batch" disk.write
    onTree (put updated)
    onDisk "failed to flush accounts tree" disk.sync

end

/-- The medium of an ordered tree of keys, on a disk that never fails. -/
def backend : Backend State :=
  (backendOn .sound).onPart (fun state => (state, ())) (fun whole _ => whole.1)

end Clearinghouse.KeyStore
