/-
# Who may sign

A registry holds at most one public key per user, and never replaces one. Keys
arrive as hexadecimal digits, with white space around them at most.
-/

import Clearinghouse.Batch.Refusal
import Clearinghouse.Signature.Scheme
import Clearinghouse.Text.Blank
import Clearinghouse.Text.Hex
import Clearinghouse.Text.Utf8
import Std.Data.ExtTreeMap

namespace Clearinghouse

/-- Why a text is no public key. -/
inductive KeyProblem
  | digits (problem : Text.Hex.Problem)
  | size (length : Nat)
  /-- No point of the curve has these bytes. -/
  | noPoint
  deriving DecidableEq, Repr, Inhabited

/-- The text shown to people. -/
def KeyProblem.message : KeyProblem → String
  | digits problem => problem.message
  | size length => s!"invalid public key size: got {length}, want 32"
  | noPoint => "signature error: Cannot decompress Edwards point"

/-- Reads a public key. -/
def Signature.PublicKey.parse (text : String) : Except KeyProblem Signature.PublicKey := do
  let digits := (Text.trim text.toList).flatMap Text.Utf8.encodeChar
  let bytes ← (Text.Hex.decode digits).mapError .digits
  if bytes.length ≠ 32 then
    throw (.size bytes.length)
  match Signature.PublicKey.ofBytes? bytes with
  | some key => return key
  | none => throw .noPoint

/-- The public keys of the users who may sign, at most one for each. -/
abbrev KeyRegistry := Std.ExtTreeMap AccountId Signature.PublicKey

namespace KeyRegistry

/-- Registers a key for a user who has none. The key is read before the user is
looked up. -/
def register (keys : KeyRegistry) (user : AccountId) (text : String) :
    Except Refusal KeyRegistry := do
  let key ← (Signature.PublicKey.parse text).mapError (.invalidPublicKey ·.message)
  match keys[user]? with
  | some _ => throw (.keyAlreadyRegistered user)
  | none => return keys.insert user key

end KeyRegistry

end Clearinghouse
