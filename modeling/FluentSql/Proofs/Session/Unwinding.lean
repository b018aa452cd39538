import FluentSql.Proofs.Session.BulkInsert

/-!
# Faults on their way out of blocks

With which fault an insertion in bulk ends when its block failed. First the transaction is rolled
back, and a rollback that is refused puts its own fault in the place of the block's. With blocks
within blocks this happens at each of them, from the inside to the outside, so that the last refusal
is what is left. Pragmas that cannot be restored make no difference.
Main result: `Connection.ends_with_last_refusal`.
-/

namespace FluentSql

open Engine

variable {σ α : Type}

/-- The last fault among those that attempts came to. -/
def Engine.lastFault? (attempts : List Attempt) : Option FluentSql.Fault :=
  attempts.reverse.findSome? Attempt.fault?

theorem Engine.lastFault?_concat (attempts : List Attempt) (last : Attempt) :
    lastFault? (attempts ++ [last]) = last.fault?.or (lastFault? attempts) := by
  rw [lastFault?, List.reverse_concat, List.findSome?_cons]
  cases last.fault? <;> rfl

theorem Engine.lastFault?_eq_none_iff (attempts : List Attempt) :
    lastFault? attempts = none ↔ ∀ attempt ∈ attempts, attempt.fault? = none := by
  simp [lastFault?]

namespace Connection

/-- Inserting in bulk comes as far as its block: the tuned pragmas are read and written, and the
transaction is begun. -/
def Enters (c : Connection σ) (s entered : Session σ) : Prop :=
  ∃ tuned saved t, c.options.tuning = .pragmas tuned ∧
    (c.readTuned tuned).run.run s = (.ok saved, t) ∧ (c.begin tuned).run.run t = (.ok (), entered)

/-- The attempt to roll back in a session. -/
def rollbackIn (c : Connection σ) (s : Session σ) : Attempt :=
  ⟨rollbackRequest, (c.engine.answer rollbackRequest s.engine).1.outcome⟩

/-- A fault is raised in a block and leaves it, on the way out of blocks within, which are rolled back
by the given attempts, from the inside to the outside. -/
inductive Unwinds (c : Connection σ) (fault : Fault) :
    List Operation → Session σ → List Attempt → Prop
  /-- It is the fault that the block itself ends with. -/
  | raised {block : List Operation} {s : Session σ}
    (fails : ((c.operateAll block).run s).1.fault? = some fault) : Unwinds c fault block s []
  | later {operation : Operation} {rest : List Operation} {s : Session σ} {outcome : Outcome}
    {rollbacks : List Attempt}
    (succeeds : ((c.operate operation).run s).1.outcome = .ok outcome)
    (unwinds : Unwinds c fault rest ((c.operate operation).run s).2 rollbacks) :
    Unwinds c fault (operation :: rest) s rollbacks
  | inside {block rest : List Operation} {s entered : Session σ} {rollbacks : List Attempt}
    (enters : c.Enters s entered) (unwinds : Unwinds c fault block entered rollbacks) :
    Unwinds c fault (.bulkInsert block :: rest) s
      (rollbacks ++ [c.rollbackIn ((c.operateAll block).run entered).2])

/-! ### One block -/

/-- The fault of a block is what is left of it after the rollback, unless that is refused. -/
theorem rollback_run (c : Connection σ) (fault : Fault) (s : Session σ) :
    ∃ t, (c.finish (some fault)).run.run s =
      (.error ((c.rollbackIn s).fault?.getD fault), t) := by
  obtain ⟨attempt, t, run, request, leads⟩ := c.finish_run (some fault) s
  -- The attempt is the one request that is made, and what the engine says to it.
  obtain rfl : attempt = c.rollbackIn s := by
    have answers := leads.answers
    cases answers
    obtain rfl : _ = rollbackRequest := request
    rfl
  refine ⟨t, run.trans ?_⟩
  cases (c.rollbackIn s).fault? <;> rfl

/-- A block that fails is rolled back. If that is refused, its fault is what the whole ends with. -/
theorem bulkInsert_of_failed (c : Connection σ) {block : Effect σ (BlockEnd α)}
    {s entered : Session σ} {fault : Fault} (enters : c.Enters s entered)
    (fails : (block.run entered).1.fault? = some fault) :
    ((c.bulkInsert block).run s).1.fault? =
      some ((c.rollbackIn (block.run entered).2).fault?.getD fault) := by
  obtain ⟨tuned, saved, t, tuning, read, begun⟩ := enters
  rcases ran : block.run entered with ⟨ended, left⟩
  rw [ran] at fails
  obtain ⟨after, finished⟩ := c.rollback_run fault left
  have transacted : (c.transact tuned block).run t =
      ({ product? := some ended.product
         fault? := some ((c.rollbackIn left).fault?.getD fault) }, after) := by
    rw [← fails] at finished
    unfold transact
    rw [Effect.run_bind begun]
    simp only []
    rw [Effect.run_bind ran, Effect.run_bind finished]
    rfl
  -- The pragmas that are restored afterwards do not count.
  unfold bulkInsert
  rw [tuning]
  unfold bulkInsertWith
  rw [Effect.run_bind read]
  simp only []
  rw [Effect.run_bind transacted]
  rfl

theorem operate_of_failed (c : Connection σ) {block : List Operation} {s entered : Session σ}
    {fault : Fault} (enters : c.Enters s entered)
    (fails : ((c.operateAll block).run entered).1.fault? = some fault) :
    ((c.operate (.bulkInsert block)).run s).1.outcome =
      .error ((c.rollbackIn ((c.operateAll block).run entered).2).fault?.getD fault) := by
  rw [operate, StateT.run_map]
  change (bulkEnd ((c.bulkInsert (c.operateAll block)).run s).1).outcome = _
  rw [bulkEnd, c.bulkInsert_of_failed enters fails]

/-! ### Blocks within blocks -/

/-- The first operation that fails ends the block. -/
theorem operateAll_of_failed (c : Connection σ) {operation : Operation} {s : Session σ}
    {fault : Fault} (fails : ((c.operate operation).run s).1.outcome = .error fault)
    (rest : List Operation) : ((c.operateAll (operation :: rest)).run s).1.fault? = some fault := by
  rcases ran : (c.operate operation).run s with ⟨ended, left⟩
  rw [ran] at fails
  rw [operateAll, Effect.run_bind ran, fails]
  rfl

theorem operateAll_of_done (c : Connection σ) {operation : Operation} {s : Session σ}
    {outcome : Outcome} (succeeds : ((c.operate operation).run s).1.outcome = .ok outcome)
    (rest : List Operation) : ((c.operateAll (operation :: rest)).run s).1.fault? =
      ((c.operateAll rest).run ((c.operate operation).run s).2).1.fault? := by
  rcases ran : (c.operate operation).run s with ⟨ended, left⟩
  rw [ran] at succeeds
  rw [operateAll, Effect.run_bind ran, succeeds]
  rfl

/-- The fault that leaves a block is the last refusal on the way, or else the one that was raised. -/
theorem Unwinds.fault_eq {c : Connection σ} {fault : Fault} {block : List Operation} {s : Session σ}
    {rollbacks : List Attempt} (unwinds : c.Unwinds fault block s rollbacks) :
    ((c.operateAll block).run s).1.fault? = some ((lastFault? rollbacks).getD fault) := by
  -- By induction on the way out: each block that is left adds one rollback at the end.
  induction unwinds with
  | raised fails => exact fails
  | later succeeds _ ih => rw [c.operateAll_of_done succeeds, ih]
  | inside enters _ ih =>
    rw [c.operateAll_of_failed (c.operate_of_failed enters ih), lastFault?_concat, Option.getD_or]

/-- An insertion in bulk that came as far as its block and is left by a fault. Around any block, that
fault is what the whole ends with unless the rollback is refused, which puts its own in the place. Of
operations within one another the whole ends with the fault of the last rollback that was refused, its
own or one of a block within. It ends with the fault that was raised if all rollbacks were granted,
and otherwise only if the last refusal happens to be the same. -/
theorem ends_with_last_refusal (c : Connection σ) {s entered : Session σ} {fault : Fault}
    (enters : c.Enters s entered) :
    (∀ {α : Type} {block : Effect σ (BlockEnd α)}, (block.run entered).1.fault? = some fault →
      let rollback := c.rollbackIn (block.run entered).2
      let ending := ((c.bulkInsert block).run s).1
      ending.fault? = some (rollback.fault?.getD fault) ∧
      (ending.fault? = some fault ↔ rollback.fault? = none ∨ rollback.fault? = some fault)) ∧
    ∀ {block : List Operation} {within : List Attempt}, c.Unwinds fault block entered within →
      let rollbacks := within ++ [c.rollbackIn ((c.operateAll block).run entered).2]
      let outcome := ((c.operate (.bulkInsert block)).run s).1.outcome
      outcome = .error ((lastFault? rollbacks).getD fault) ∧
      (outcome = .error fault ↔ (∀ rollback ∈ rollbacks, rollback.fault? = none) ∨
        lastFault? rollbacks = some fault) := by
  constructor
  · intro α block fails rollback ending
    have ends : ending.fault? = some (rollback.fault?.getD fault) :=
      c.bulkInsert_of_failed enters fails
    refine ⟨ends, ?_⟩
    rw [ends, Option.some.injEq]
    -- Without a refusal the fault is the one that was raised.
    cases rollback.fault? <;> simp
  · intro block within unwinds rollbacks outcome
    have ends : outcome = .error ((lastFault? rollbacks).getD fault) := by
      rw [lastFault?_concat, Option.getD_or]
      exact c.operate_of_failed enters unwinds.fault_eq
    refine ⟨ends, ?_⟩
    rw [ends, Except.error.injEq, ← lastFault?_eq_none_iff]
    cases lastFault? rollbacks <;> simp

end Connection

/-- What an engine that has rolled back by itself says when it is asked to. -/
def rollbackRefusal : Engine.Fault :=
  { cls := .operational, message := "cannot rollback - no transaction is active" }

/-- It has done so once: a second rollback is granted. -/
def rolledBackAlready : Session Script :=
  { engine := { answers := [
      ("PRAGMA synchronous", .ok { rows := [[("synchronous", .int 2)]] }),
      ("ROLLBACK", .error rollbackRefusal)] } }

def enteredBlock (s : Session Script) : Session Script :=
  ((looseFile.begin looseTuning).run.run ((looseFile.readTuned looseTuning).run.run s).2).2

/-- A row is inserted, and then a block within is entered, which fails. -/
def nestedBlock : List Operation :=
  [insertRow, .bulkInsert halfDone]

def enteredNested : Session Script :=
  enteredBlock ((looseFile.operate insertRow).run (enteredBlock rolledBackAlready)).2

namespace Connection

/-- The block fails by itself, and what is reported is that it could not be rolled back. -/
theorem refused_rollback_hides_fault :
    let entered := enteredBlock rolledBackAlready
    looseFile.Enters rolledBackAlready entered ∧
    ((looseFile.operateAll halfDone).run entered).1.fault? = some (.raised "boom") ∧
    ((looseFile.operate (.bulkInsert halfDone)).run rolledBackAlready).1.outcome =
      .error (.engine rollbackRefusal) :=
  ⟨⟨looseTuning, _, _, rfl, rfl, rfl⟩, rfl, rfl⟩

theorem enteredNested_rollback :
    looseFile.rollbackIn ((looseFile.operateAll halfDone).run enteredNested).2 =
      ⟨rollbackRequest, .error rollbackRefusal⟩ :=
  rfl

theorem nestedBlock_unwinds :
    looseFile.Unwinds (.raised "boom") nestedBlock (enteredBlock rolledBackAlready)
      [⟨rollbackRequest, .error rollbackRefusal⟩] := by
  have inserted : ((looseFile.operate insertRow).run (enteredBlock rolledBackAlready)).1.outcome =
      .ok (.reply (.run { changes := 0, lastRowId := 0 })) := rfl
  have enters : looseFile.Enters
      ((looseFile.operate insertRow).run (enteredBlock rolledBackAlready)).2 enteredNested :=
    ⟨looseTuning, _, _, rfl, rfl, rfl⟩
  have fails : ((looseFile.operateAll halfDone).run enteredNested).1.fault? =
      some (.raised "boom") := rfl
  rw [← enteredNested_rollback]
  exact .later inserted (.inside enters (.raised fails))

theorem nestedBlock_rollback :
    (looseFile.rollbackIn
      ((looseFile.operateAll nestedBlock).run (enteredBlock rolledBackAlready)).2).fault? = none :=
  rfl

/-- The rollback of the block within is refused and the one around it granted: the refusal leaves
both. -/
theorem inner_refusal_leaves_both_blocks :
    looseFile.Enters rolledBackAlready (enteredBlock rolledBackAlready) ∧
    looseFile.Unwinds (.raised "boom") nestedBlock (enteredBlock rolledBackAlready)
      [⟨rollbackRequest, .error rollbackRefusal⟩] ∧
    ((looseFile.operate (.bulkInsert nestedBlock)).run rolledBackAlready).1.outcome =
      .error (.engine rollbackRefusal) := by
  have enters : looseFile.Enters rolledBackAlready (enteredBlock rolledBackAlready) :=
    ⟨looseTuning, _, _, rfl, rfl, rfl⟩
  have ends := ((looseFile.ends_with_last_refusal enters).2 nestedBlock_unwinds).1
  rw [lastFault?_concat, nestedBlock_rollback] at ends
  exact ⟨enters, nestedBlock_unwinds, ends⟩

end Connection

end FluentSql
