/-
# Inputs that are delivered in two sessions

Lines that are texts may be delivered in one session, or the first of them in one session and
the rest in a later one on the same medium. The later session finds what the earlier one left,
so both ways the same comes of every line, and both leave the same accounts behind.
-/

import Clearinghouse.Proofs.Application.Resuming

namespace Clearinghouse.Session

/-- A line is a text. -/
def IsText (line : List UInt8) : Prop := (Text.Utf8.decode? line).isSome

instance (line : List UInt8) : Decidable (IsText line) :=
  inferInstanceAs (Decidable ((Text.Utf8.decode? line).isSome = true))

/-- A line is white space. -/
def isBlankLine (line : List UInt8) : Bool :=
  ((Text.Utf8.decode? line).getD []).all Text.isBlank

/-- The delivery of a line that stands further down. -/
def Delivery.further (count : Nat) (delivery : Delivery) : Delivery :=
  ⟨delivery.line + count, delivery.result⟩

section

variable {S : Type} (b : Backend S)

/-- Delivers one line. Nothing comes of a blank line. -/
def deliverLine (number : Nat) (line : List UInt8) : StateM (Application S) (List Delivery) := do
  if isBlankLine line then
    return []
  else
    return [⟨number, ← Application.deliverTx b line⟩]

/-- Runs a session over lines. It tells what came of them, and all accounts at the end. -/
def course (genesis : List GenesisAccount) (lines : List (List UInt8)) :
    Check (Application S) (Option (List Delivery) × Except StoreError (List Account)) := do
  start b genesis
  let deliveries ← ExceptT.lift (deliver b 1 lines)
  let accounts ← ExceptT.lift (Application.queryState b)
  Application.onStep (Store.close b)
  return (deliveries, accounts)

end

variable {S : Type} {b : Backend S} {app app' : Application S} {line : List UInt8}
  {lines : List (List UInt8)} {number : Nat}

/-- A session of the program shows what the course of a session tells. -/
theorem run_of_course {genesis : List GenesisAccount} {deliveries : List Delivery}
    {accounts : List Account}
    (told : course b genesis lines app = (.ok (some deliveries, .ok accounts), app')) :
    run b genesis (.lines lines) app =
      (⟨[resultGrid deliveries, balanceGrid accounts], none⟩, app') := by
  obtain ⟨_, begun, hstart, hrest⟩ := Run.exists_of_bind_ok (congrArg Prod.fst told)
  rw [course, Run.bind_of_ok hstart, Run.lift_bind_apply, Run.lift_bind_apply] at told
  obtain ⟨_, after, hclose, hanswer⟩ := Run.exists_of_bind_ok (congrArg Prod.fst told)
  rw [Run.bind_of_ok hclose] at told
  obtain ⟨htold, rfl⟩ := Prod.mk.inj told
  obtain ⟨hdeliveries, haccounts⟩ := Prod.mk.inj (Except.ok.inj htold)
  have hruns : ∀ {α β : Type} (act : StateM (Application S) α)
      (next : α → StateM (Application S) β) (app : Application S),
      (act >>= next) app = next (act app).1 (act app).2 := fun _ _ _ => rfl
  rw [run, hruns, ExceptT.run, hstart]
  dsimp only
  rw [hruns, deliverInput, hdeliveries]
  dsimp only
  rw [finish, hruns, haccounts]
  dsimp only
  rw [hruns, ExceptT.run, hclose]
  rfl

/-! ## Line by line -/

/-- The lines of an input are delivered one after the other. -/
theorem deliver_cons (text : IsText line) (rest : List (List UInt8)) :
    deliver b number (line :: rest) app =
      let first := deliverLine b number line app
      ((deliver b (number + 1) rest first.2).1.map (first.1 ++ ·),
        (deliver b (number + 1) rest first.2).2) := by
  obtain ⟨characters, hdecoded⟩ := Option.isSome_iff_exists.mp text
  have hblank : isBlankLine line = characters.all Text.isBlank := by
    rw [isBlankLine, hdecoded, Option.getD_some]
  rw [deliver, hdecoded, deliverLine, hblank]
  dsimp only
  split
  · have hnothing : ∀ later : Option (List Delivery), later.map ([] ++ ·) = later :=
      fun later => by cases later <;> rfl
    exact Prod.ext (hnothing _).symm rfl
  · rfl

theorem deliver_append {early : List (List UInt8)} (texts : ∀ line ∈ early, IsText line)
    (late : List (List UInt8)) :
    deliver b number (early ++ late) app =
      let first := deliver b number early app
      let second := deliver b (number + early.length) late first.2
      (first.1.bind fun done => second.1.map (done ++ ·), second.2) := by
  induction early generalizing number app with
  | nil =>
      have hnothing : ∀ later : Option (List Delivery), later = later.map ([] ++ ·) :=
        fun later => by cases later <;> rfl
      exact Prod.ext (hnothing _) rfl
  | cons line rest ih =>
      obtain ⟨htext, hrest⟩ := List.forall_mem_cons.mp texts
      rw [List.cons_append, deliver_cons htext, deliver_cons htext]
      dsimp only
      rw [ih hrest, List.length_cons, Nat.add_comm rest.length 1, ← Nat.add_assoc]
      refine Prod.ext ?_ rfl
      dsimp only
      cases (deliver b (number + 1) rest (deliverLine b number line app).2).1 with
      | none => rfl
      | some done =>
          rw [Option.map_some, Option.bind_some, Option.bind_some, Option.map_map]
          exact congrArg (fun put => Option.map put _)
            (funext fun later => (List.append_assoc _ _ _).symm)

/-- Something comes of lines that are texts, if only nothing at all. -/
theorem exists_of_deliver (b : Backend S) (number : Nat) (app : Application S)
    (texts : ∀ line ∈ lines, IsText line) :
    ∃ deliveries after, deliver b number lines app = (some deliveries, after) := by
  induction lines generalizing number app with
  | nil => exact ⟨[], app, rfl⟩
  | cons line rest ih =>
      obtain ⟨htext, hrest⟩ := List.forall_mem_cons.mp texts
      obtain ⟨later, after, hlater⟩ := ih (number + 1) (deliverLine b number line app).2 hrest
      rw [deliver_cons htext]
      dsimp only
      rw [hlater]
      exact ⟨_, after, rfl⟩

/-! ## Counting and numbering -/

/-- Two applications are alike, except for what they have counted. -/
structure Recounted (app app' : Application S) : Prop where
  store : app'.store = app.store
  keys : app'.keys = app.keys
  policy : app'.policy = app.policy

theorem Recounted.deliverTx (same : Recounted app app') (bytes : List UInt8) :
    (Application.deliverTx b bytes app').1 = (Application.deliverTx b bytes app).1 ∧
      Recounted (Application.deliverTx b bytes app).2 (Application.deliverTx b bytes app').2 := by
  rw [Application.deliverTx]
  cases Transaction.decode bytes with
  | error problem => exact ⟨rfl, same⟩
  | ok tx =>
      obtain ⟨store, keys, policy, tally⟩ := app
      obtain ⟨store', keys', policy', tally'⟩ := app'
      obtain ⟨rfl, rfl, rfl⟩ := same
      exact ⟨rfl, rfl, rfl, rfl⟩

theorem Recounted.deliverLine (same : Recounted app app') (number count : Nat)
    (line : List UInt8) :
    (deliverLine b (number + count) line app').1 =
        (deliverLine b number line app).1.map (Delivery.further count) ∧
      Recounted (deliverLine b number line app).2 (deliverLine b (number + count) line app').2 := by
  rw [Session.deliverLine, Session.deliverLine]
  split
  · exact ⟨rfl, same⟩
  · obtain ⟨hresult, hlater⟩ := same.deliverTx (b := b) line
    exact ⟨congrArg (fun result => [Delivery.mk (number + count) result]) hresult, hlater⟩

/-- The same comes of lines wherever they stand and whatever was counted before. -/
theorem Recounted.deliver (same : Recounted app app') (number count : Nat)
    (texts : ∀ line ∈ lines, IsText line) :
    (deliver b (number + count) lines app').1 =
        (deliver b number lines app).1.map (List.map (Delivery.further count)) ∧
      Recounted (deliver b number lines app).2 (deliver b (number + count) lines app').2 := by
  induction lines generalizing number app app' with
  | nil => exact ⟨rfl, same⟩
  | cons line rest ih =>
      obtain ⟨htext, hrest⟩ := List.forall_mem_cons.mp texts
      obtain ⟨hfirst, hbetween⟩ := same.deliverLine (b := b) number count line
      obtain ⟨hlater, hafter⟩ := ih hbetween (number + 1) hrest
      rw [Nat.add_right_comm number 1 count] at hlater hafter
      rw [deliver_cons htext, deliver_cons htext]
      refine ⟨?_, hafter⟩
      dsimp only
      rw [hfirst, hlater, Option.map_map, Option.map_map]
      exact congrArg (fun put => Option.map put _)
        (funext fun later => List.map_append.symm)

/-! ## The course of a session -/

open Application (InSession)

variable {renew : S → S} {held : S → Prop} {genesis : List GenesisAccount} {policy : Policy}
  {m : S}

section

variable (resumes : b.Resumes renew held)
include resumes

/-- The delivery of lines is in the course of the session. -/
theorem deliver_inSession (session : InSession b held genesis policy app) (number : Nat)
    (texts : ∀ line ∈ lines, IsText line) :
    InSession b held genesis policy (deliver b number lines app).2 := by
  induction lines generalizing number app with
  | nil => exact session
  | cons line rest ih =>
      obtain ⟨htext, hrest⟩ := List.forall_mem_cons.mp texts
      have hbetween : InSession b held genesis policy (deliverLine b number line app).2 := by
        rw [deliverLine]
        split
        · exact session
        · exact session.deliverTx resumes line
      rw [deliver_cons htext]
      exact ih hbetween (number + 1) hrest

/-- A session that begins comes to its end. -/
theorem course_of_delivered (started : start b genesis app = (.ok (), app'))
    {deliveries : List Delivery} {after : Application S}
    (delivered : deliver b 1 lines app' = (some deliveries, after))
    (session : InSession b held genesis policy after) :
    course b genesis lines app = (.ok (some deliveries, (Application.queryState b after).1),
      { after with store := .new (b.disconnect after.store.medium).2 }) := by
  rw [course, Run.bind_of_ok started, Run.lift_bind_apply, delivered, Run.lift_bind_apply,
    session.queryState resumes, Run.bind_of_ok (session.close resumes)]
  rfl

/-- Whether an input is delivered in one session or in two, the same comes of every line, the
same accounts are listed at the end, and the medium is left in the same state. -/
theorem course_append (takesHold : (b.connect m).1 = .ok () → held (b.connect m).2)
    (started : (start b genesis (Application.new (.new m) policy)).1 = .ok ())
    {early late : List (List UInt8)} (texts : ∀ line ∈ early ++ late, IsText line) :
    let first := course b genesis early (Application.new (.new m) policy)
    let second := course b genesis late (Application.new (.new (renew first.2.store.medium)) policy)
    let whole := course b genesis (early ++ late) (Application.new (.new m) policy)
    ∃ done rest between accounts, first.1 = .ok (some done, between) ∧
      second.1 = .ok (some rest, accounts) ∧
      whole.1 = .ok (some (done ++ rest.map (Delivery.further early.length)), accounts) ∧
      whole.2.store = second.2.store := by
  obtain ⟨hearly, hlate⟩ := List.forall_mem_append.mp texts
  have hbegun := Application.inSession_of_start resumes takesHold started
  have hstart : start b genesis (Application.new (.new m) policy) =
      (.ok (), (start b genesis (Application.new (.new m) policy)).2) := Prod.ext started rfl
  generalize (start b genesis (Application.new (.new m) policy)).2 = begun at hbegun hstart
  obtain ⟨done, between, hdone⟩ := exists_of_deliver b 1 begun hearly
  have hbetween := deliver_inSession resumes hbegun 1 hearly
  rw [hdone] at hbetween
  -- The second session starts where the first one ended, with nothing counted.
  let again : Application S := { between with tally := ⟨0, 0, 0⟩ }
  have hagain : InSession b held genesis policy again :=
    ⟨⟨hbetween.opened, hbetween.idle, hbetween.held, hbetween.seeded⟩, hbetween.followed,
      hbetween.keyed⟩
  have hrecounted : Recounted again between := ⟨rfl, rfl, rfl⟩
  obtain ⟨rest, after, hrest⟩ := exists_of_deliver b 1 again hlate
  have hafter := deliver_inSession resumes hagain 1 hlate
  obtain ⟨hnumbered, hleft⟩ := hrecounted.deliver (b := b) 1 early.length hlate
  rw [hrest] at hafter hnumbered hleft
  have hwhole : deliver b 1 (early ++ late) begun =
      (some (done ++ rest.map (Delivery.further early.length)),
        (deliver b (1 + early.length) late between).2) := by
    rw [deliver_append hearly]
    dsimp only
    rw [hdone]
    dsimp only
    rw [hnumbered]
    rfl
  have hended := deliver_inSession resumes hbegun 1 texts
  rw [hwhole] at hended
  have hfirst := course_of_delivered resumes hstart hdone hbetween
  have hsecond := course_of_delivered resumes (hbetween.start_again resumes) hrest hafter
  have hthird := course_of_delivered resumes hstart hwhole hended
  have hlisted : (Application.queryState b (deliver b (1 + early.length) late between).2).1 =
      (Application.queryState b after).1 :=
    congrArg (fun store => (Store.accounts b store).1) hleft.store
  dsimp only
  rw [hfirst, hthird]
  dsimp only [Store.new]
  rw [hlisted, hleft.store]
  refine ⟨done, rest, _, (Application.queryState b after).1, rfl, ?_, rfl, ?_⟩
  · exact congrArg Prod.fst hsecond
  · exact (congrArg (fun answer => answer.2.store) hsecond).symm

end

end Clearinghouse.Session
