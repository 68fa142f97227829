/-
# What one failing operation does to its batch
-/

import Clearinghouse.Text.Quoted

namespace Clearinghouse

/-- What happens to the rest of a batch when one operation fails. -/
inductive Policy
  /-- Any failing operation rejects the whole batch. -/
  | allOrNothing
  /-- Operations that fail a business rule are left out and the rest commit. A
  fault of the medium still rejects the whole batch. -/
  | skipFailed
  deriving DecidableEq, Repr, Inhabited

namespace Policy

/-- The name of a policy in configurations and answers. -/
def name : Policy → String
  | allOrNothing => "all_or_nothing"
  | skipFailed => "skip_failed"

/-- The policy of a name as configurations write it. -/
def ofName? (text : String) : Option Policy :=
  if text = "all_or_nothing" then some allOrNothing
  else if text = "skip_failed" then some skipFailed
  else none

/-- The policy of a name as people type it, with underscores or hyphens. -/
def ofText? (text : String) : Option Policy :=
  ofName? text <|>
    if text = "all-or-nothing" then some allOrNothing
    else if text = "skip-failed" then some skipFailed
    else none

/-- The text shown to people who typed no policy. -/
def unknownMessage (text : String) : String :=
  s!"unknown batch policy {Text.Quoted.text text}, expected \"all_or_nothing\" or \"skip_failed\""

end Policy

end Clearinghouse
