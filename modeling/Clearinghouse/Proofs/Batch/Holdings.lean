/-
# What transfers do to what accounts hold

This is the law that a batch is measured against, over exact integers. A transfer
writes two balances, that of the sender and then that of the receiver, and is
carried out if both are numbers that a balance may become. Transfers that are
carried out in order move every account by what it received less what it sent,
however they overlap.
-/

import Clearinghouse.Batch.Operation
import Clearinghouse.Keys
import Clearinghouse.Medium.Table
import Mathlib.Algebra.Ring.Int.Defs

namespace Clearinghouse

/-- What accounts hold; nothing for an account that does not exist. -/
abbrev Holdings := AccountId → Option Int

/-- The balances of a table as integers. -/
def Table.holdings (table : Table) : Holdings := fun id => table[id]?.map (·.toInt)

namespace Holdings

/-- What an account holds, where one that does not exist holds nothing. -/
def total (h : Holdings) (id : AccountId) : Int := (h id).getD 0

/-- The numbers that a transfer may write. -/
def IsBalance (n : Int) : Prop := 0 ≤ n ∧ n ≤ Int64.maxValue.toInt

instance (n : Int) : Decidable (IsBalance n) := inferInstanceAs (Decidable (_ ∧ _))

/-- After a movement the account exists. -/
def move (h : Holdings) (id : AccountId) (delta : Int) : Holdings := fun other =>
  if id = other then some (h.total id + delta) else h other

/-- After the first half of a transfer. -/
def debit (h : Holdings) (op : Operation) : Holdings := h.move op.sender (-op.amount.toInt)

def transfer (h : Holdings) (op : Operation) : Holdings :=
  (h.debit op).move op.receiver op.amount.toInt

/-- Both balances that a transfer writes may be written. -/
structure Carries (h : Holdings) (op : Operation) : Prop where
  debit : IsBalance (h.total op.sender - op.amount.toInt)
  credit : IsBalance ((h.debit op).total op.receiver + op.amount.toInt)

instance (h : Holdings) (op : Operation) : Decidable (h.Carries op) :=
  decidable_of_iff (IsBalance (h.total op.sender - op.amount.toInt) ∧
      IsBalance ((h.debit op).total op.receiver + op.amount.toInt))
    ⟨fun ⟨hdebit, hcredit⟩ => ⟨hdebit, hcredit⟩, fun ⟨hdebit, hcredit⟩ => ⟨hdebit, hcredit⟩⟩

/-- After transfers in order. -/
def transferAll (h : Holdings) (ops : List Operation) : Holdings := ops.foldl transfer h

/-- Transfers can be carried out in order, each on what those before it left. -/
def CarriesAll : Holdings → List Operation → Prop
  | _, [] => True
  | h, op :: ops => h.Carries op ∧ (h.transfer op).CarriesAll ops

/-- Operations with their positions; `index` is the position of the first one. -/
def numbered (index : Nat) : List Operation → List (Nat × Operation)
  | [] => []
  | op :: ops => (index, op) :: numbered (index + 1) ops

/-- Those of some numbered transfers that can be carried out, each on what the ones
carried out before it left. -/
def applicable : Holdings → List (Nat × Operation) → List (Nat × Operation)
  | _, [] => []
  | h, entry :: rest =>
    if h.Carries entry.2 then entry :: (h.transfer entry.2).applicable rest
    else h.applicable rest

/-- Those that cannot. -/
def inapplicable : Holdings → List (Nat × Operation) → List (Nat × Operation)
  | _, [] => []
  | h, entry :: rest =>
    if h.Carries entry.2 then (h.transfer entry.2).inapplicable rest
    else entry :: h.inapplicable rest

/-- What an account receives and what it sends. -/
def received (id : AccountId) (ops : List Operation) : Int :=
  ((ops.filter (·.receiver = id)).map (·.amount.toInt)).sum

def sent (id : AccountId) (ops : List Operation) : Int :=
  ((ops.filter (·.sender = id)).map (·.amount.toInt)).sum

/-- Every account that takes part is moved by what it received less what it sent,
and no other is touched. -/
def net (h : Holdings) (ops : List Operation) : Holdings := fun id =>
  if ∃ op ∈ ops, op.sender = id ∨ op.receiver = id then
    some (h.total id + received id ops - sent id ops)
  else h id

variable {h : Holdings} {op : Operation} {ops : List Operation} {id : AccountId}

theorem total_move (other : AccountId) (delta : Int) :
    (h.move id delta).total other =
      if id = other then h.total id + delta else h.total other := by
  by_cases hid : id = other
  · simp [move, total, hid]
  · simp [move, total, hid]

@[simp]
theorem received_nil : received id [] = 0 := rfl

@[simp]
theorem sent_nil : sent id [] = 0 := rfl

@[simp]
theorem received_cons (op : Operation) (ops : List Operation) :
    received id (op :: ops) = (if op.receiver = id then op.amount.toInt else 0) + received id ops := by
  rw [received, received]
  by_cases hid : op.receiver = id <;> simp [hid]

@[simp]
theorem sent_cons (op : Operation) (ops : List Operation) :
    sent id (op :: ops) = (if op.sender = id then op.amount.toInt else 0) + sent id ops := by
  rw [sent, sent]
  by_cases hid : op.sender = id <;> simp [hid]

/-- Who is not named as receiver receives nothing. -/
theorem received_eq_zero (unnamed : ∀ op ∈ ops, op.receiver ≠ id) : received id ops = 0 := by
  have hnone : ops.filter (·.receiver = id) = [] := by
    apply List.filter_eq_nil_iff.mpr
    intro op hmem hreceiver
    exact unnamed op hmem (of_decide_eq_true hreceiver)
  rw [received, hnone]
  rfl

/-- Who is not named as sender sends nothing. -/
theorem sent_eq_zero (unnamed : ∀ op ∈ ops, op.sender ≠ id) : sent id ops = 0 := by
  have hnone : ops.filter (·.sender = id) = [] := by
    apply List.filter_eq_nil_iff.mpr
    intro op hmem hsender
    exact unnamed op hmem (of_decide_eq_true hsender)
  rw [sent, hnone]
  rfl

theorem received_nonneg (positive : ∀ op ∈ ops, 0 < op.amount) : 0 ≤ received id ops := by
  induction ops with
  | nil => exact Int.le_refl 0
  | cons op ops ih =>
      have hpositive := List.forall_mem_cons.mp positive
      have hamount : 0 < op.amount.toInt := Int64.lt_iff_toInt_lt.mp hpositive.1
      have hrest := ih hpositive.2
      rw [received_cons]
      split <;> omega

/-- A part of some operations sends no more than all of them. -/
theorem sent_le_of_sublist {part : List Operation} (sublist : part.Sublist ops)
    (positive : ∀ op ∈ ops, 0 < op.amount) : sent id part ≤ sent id ops := by
  induction sublist with
  | slnil => exact Int.le_refl 0
  | cons op sublist ih =>
      have hpositive := List.forall_mem_cons.mp positive
      have hamount : 0 < op.amount.toInt := Int64.lt_iff_toInt_lt.mp hpositive.1
      have hrest := ih hpositive.2
      rw [sent_cons]
      split <;> omega
  | cons_cons op sublist ih =>
      have hrest := ih (List.forall_mem_cons.mp positive).2
      rw [sent_cons, sent_cons]
      omega

/-- One transfer moves what its two sides hold, also if they are one account. -/
theorem total_transfer (id : AccountId) :
    (h.transfer op).total id = h.total id +
      (if op.receiver = id then op.amount.toInt else 0) -
      (if op.sender = id then op.amount.toInt else 0) := by
  have hdebit : ∀ other, (h.debit op).total other =
      h.total other - if op.sender = other then op.amount.toInt else 0 := by
    intro other
    rw [debit, total_move]
    by_cases hsender : op.sender = other
    · rw [if_pos hsender, if_pos hsender, hsender, Int.sub_eq_add_neg]
    · rw [if_neg hsender, if_neg hsender, Int.sub_zero]
  rw [transfer, total_move, hdebit, hdebit]
  by_cases hreceiver : op.receiver = id
  · rw [if_pos hreceiver, if_pos hreceiver, hreceiver]
    omega
  · rw [if_neg hreceiver, if_neg hreceiver]
    omega

/-- A transfer touches its two sides only, and both exist after it. -/
theorem transfer_apply (id : AccountId) :
    h.transfer op id =
      if op.sender = id ∨ op.receiver = id then some ((h.transfer op).total id) else h id := by
  by_cases hreceiver : op.receiver = id
  · simp [transfer, move, total, hreceiver]
  · by_cases hsender : op.sender = id
    · simp [transfer, debit, move, total, hreceiver, hsender]
    · simp [transfer, debit, move, hreceiver, hsender]

theorem net_nil : h.net [] = h := by
  funext id
  simp [net]

theorem net_cons : h.net (op :: ops) = (h.transfer op).net ops := by
  funext id
  rw [net, net]
  by_cases hlater : ∃ other ∈ ops, other.sender = id ∨ other.receiver = id
  · have hnamed : ∃ other ∈ op :: ops, other.sender = id ∨ other.receiver = id := by
      obtain ⟨other, hmem, hside⟩ := hlater
      exact ⟨other, List.mem_cons_of_mem op hmem, hside⟩
    rw [if_pos hlater, if_pos hnamed, total_transfer, received_cons, sent_cons]
    congr 1
    omega
  · have hreceived : received id ops = 0 :=
      received_eq_zero fun other hmem hreceiver => hlater ⟨other, hmem, .inr hreceiver⟩
    have hsent : sent id ops = 0 :=
      sent_eq_zero fun other hmem hsender => hlater ⟨other, hmem, .inl hsender⟩
    rw [if_neg hlater, transfer_apply, received_cons, sent_cons, hreceived, hsent, total_transfer]
    by_cases hside : op.sender = id ∨ op.receiver = id
    · rw [if_pos hside, if_pos ⟨op, List.mem_cons_self, hside⟩]
      simp
    · have hunnamed : ¬ ∃ other ∈ op :: ops, other.sender = id ∨ other.receiver = id := by
        rintro ⟨other, hmem, hother⟩
        rcases List.mem_cons.mp hmem with rfl | hmem
        · exact hside hother
        · exact hlater ⟨other, hmem, hother⟩
      rw [if_neg hside, if_neg hunnamed]

/-- The order and the overlap of transfers do not show in what they come to. -/
theorem transferAll_eq_net (h : Holdings) (ops : List Operation) :
    h.transferAll ops = h.net ops := by
  induction ops generalizing h with
  | nil => exact net_nil.symm
  | cons op ops ih => rw [net_cons, ← ih, transferAll, List.foldl_cons, transferAll]

/-- Transfers that cannot all be carried out have a first one that cannot. -/
theorem exists_first_of_not_carriesAll (stuck : ¬ h.CarriesAll ops) :
    ∃ before op after, ops = before ++ op :: after ∧ h.CarriesAll before ∧
      ¬ (h.transferAll before).Carries op := by
  induction ops generalizing h with
  | nil => exact absurd trivial stuck
  | cons first rest ih =>
      by_cases hfirst : h.Carries first
      · obtain ⟨before, op, after, rfl, hbefore, hop⟩ := ih fun hrest => stuck ⟨hfirst, hrest⟩
        exact ⟨first :: before, op, after, rfl, ⟨hfirst, hbefore⟩, hop⟩
      · exact ⟨[], first, rest, rfl, trivial, hfirst⟩

/-! ## The part of a batch that can be carried out -/

theorem map_snd_numbered (index : Nat) (ops : List Operation) :
    (numbered index ops).map (·.2) = ops := by
  induction ops generalizing index with
  | nil => rfl
  | cons op ops ih => rw [numbered, List.map_cons, ih]

theorem map_fst_numbered (index : Nat) (ops : List Operation) :
    (numbered index ops).map (·.1) = List.range' index ops.length := by
  induction ops generalizing index with
  | nil => rfl
  | cons op ops ih => rw [numbered, List.map_cons, ih, List.length_cons, List.range'_succ]

theorem numbered_append (index : Nat) (before rest : List Operation) :
    numbered index (before ++ rest) =
      numbered index before ++ numbered (index + before.length) rest := by
  induction before generalizing index with
  | nil => rfl
  | cons op before ih =>
      rw [List.cons_append, numbered, numbered, ih, List.cons_append, List.length_cons,
        Nat.add_right_comm, Nat.add_assoc]

theorem mem_of_mem_numbered {index : Nat} {entry : Nat × Operation}
    (listed : entry ∈ numbered index ops) : entry.2 ∈ ops := by
  rw [← map_snd_numbered index ops]
  exact List.mem_map_of_mem listed

section

variable {entries : List (Nat × Operation)}

theorem carriesAll_applicable (h : Holdings) (entries : List (Nat × Operation)) :
    h.CarriesAll ((h.applicable entries).map (·.2)) := by
  induction entries generalizing h with
  | nil => trivial
  | cons entry rest ih =>
      rw [applicable]
      split
      · next hcarries => exact ⟨hcarries, ih (h.transfer entry.2)⟩
      · exact ih h

theorem applicable_sublist (h : Holdings) (entries : List (Nat × Operation)) :
    (h.applicable entries).Sublist entries := by
  induction entries generalizing h with
  | nil => exact .slnil
  | cons entry rest ih =>
      rw [applicable]
      split
      · exact (ih _).cons_cons entry
      · exact (ih h).cons entry

theorem inapplicable_sublist (h : Holdings) (entries : List (Nat × Operation)) :
    (h.inapplicable entries).Sublist entries := by
  induction entries generalizing h with
  | nil => exact .slnil
  | cons entry rest ih =>
      rw [inapplicable]
      split
      · exact (ih _).cons entry
      · exact (ih h).cons_cons entry

/-- Every transfer is in one of the two parts. -/
theorem applicable_append_perm (h : Holdings) (entries : List (Nat × Operation)) :
    (h.applicable entries ++ h.inapplicable entries).Perm entries := by
  induction entries generalizing h with
  | nil => exact .nil
  | cons entry rest ih =>
      rw [applicable, inapplicable]
      split
      · exact (ih _).cons entry
      · exact List.perm_middle.trans ((ih h).cons entry)

end

end Holdings

/-- A transfer passes every check of its own: its shape, a registered key that the
signature verifies under, and an amount that the sender holds. -/
structure Eligible (keys : KeyRegistry) (h : Holdings) (op : Operation) : Prop where
  sender : op.sender ≠ 0
  receiver : op.receiver ≠ 0
  amount : 0 < op.amount.toInt
  signature : op.signature ≠ []
  signed : (keys[op.sender]?.any fun key => key.verify op.message op.signature) = true
  covered : op.amount.toInt ≤ h.total op.sender

theorem Eligible.positive {keys : KeyRegistry} {h : Holdings} {op : Operation}
    (eligible : Eligible keys h op) : 0 < op.amount := by
  rw [Int64.lt_iff_toInt_lt, Int64.toInt_zero]
  exact eligible.amount

instance (keys : KeyRegistry) (h : Holdings) (op : Operation) : Decidable (Eligible keys h op) :=
  decidable_of_iff (op.sender ≠ 0 ∧ op.receiver ≠ 0 ∧ 0 < op.amount.toInt ∧ op.signature ≠ [] ∧
      (keys[op.sender]?.any fun key => key.verify op.message op.signature) = true ∧
      op.amount.toInt ≤ h.total op.sender)
    ⟨fun ⟨hsender, hreceiver, hamount, hsignature, hsigned, hcovered⟩ =>
        ⟨hsender, hreceiver, hamount, hsignature, hsigned, hcovered⟩,
      fun ⟨hsender, hreceiver, hamount, hsignature, hsigned, hcovered⟩ =>
        ⟨hsender, hreceiver, hamount, hsignature, hsigned, hcovered⟩⟩

end Clearinghouse
