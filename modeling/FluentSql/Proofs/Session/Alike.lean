import FluentSql.Proofs.Builder.Run
import FluentSql.Session.Operation

/-!
# Sessions on engines that answer alike

What is done in a session depends on the engine by its answers alone. Main results:
`Connection.operate_alike` and `Connection.operateAll_alike`. When one engine answers as another
does, in states that are related before and after, every operation has the same result on both,
leaves the same log, and leaves the engines in related states.
-/

namespace FluentSql

variable {σ τ α β : Type}

namespace Engine

/-- What the log tells of a response. -/
def Response.entries (response : Response) : List LogEntry :=
  match response.traced with
  | some sql => [⟨.debug, .session, "SQL: " ++ sql.display⟩]
  | none => []

/-- Asking changes the state of the engine and, if it traces, the log. -/
theorem ask_run (e : Engine σ) (request : Request) (s : Session σ) :
    (e.ask request).run s = ((e.answer request s.engine).1.outcome,
      { engine := (e.answer request s.engine).2
        log := s.log ++ (e.answer request s.engine).1.entries }) := by
  simp only [StateT.run, ask, Response.entries]
  cases (e.answer request s.engine).1.traced with
  | some sql => rfl
  | none => simp

end Engine

theorem Effect.run_bind {x : Effect σ α} {f : α → Effect σ β} {s t : Session σ} {a : α}
    (first : x.run s = (a, t)) : (x >>= f).run s = (f a).run t := by
  rw [StateT.run_bind, first]
  rfl

theorem Act.run_bind_ok {x : Act σ α} {f : α → Act σ β} {s t : Session σ} {a : α}
    (first : x.run.run s = (.ok a, t)) : (x >>= f).run.run s = (f a).run.run t := by
  rw [ExceptT.run_bind]
  exact Effect.run_bind first

theorem Act.run_bind_error {x : Act σ α} {f : α → Act σ β} {s t : Session σ} {fault : Fault}
    (first : x.run.run s = (.error fault, t)) : (x >>= f).run.run s = (.error fault, t) := by
  rw [ExceptT.run_bind]
  exact Effect.run_bind first

/-- The engine answers as another one does, in states that are related before and after. -/
structure Engine.Simulates (R : σ → τ → Prop) (e : Engine σ) (e' : Engine τ) : Prop where
  answer : ∀ request s t, R s t →
    (e.answer request s).1 = (e'.answer request t).1 ∧
      R (e.answer request s).2 (e'.answer request t).2
  refusal : ∀ s t, R s t → e.refusal? s = e'.refusal? t

/-- Sessions with the same log, whose engines are in related states. -/
structure Session.Related (R : σ → τ → Prop) (s : Session σ) (t : Session τ) : Prop where
  engine : R s.engine t.engine
  log : s.log = t.log

/-- What is done in related sessions has the same result and leaves related sessions. -/
def Effect.Alike (R : σ → τ → Prop) (x : Effect σ α) (y : Effect τ α) : Prop :=
  ∀ s t, s.Related R t → (x.run s).1 = (y.run t).1 ∧ (x.run s).2.Related R (y.run t).2

namespace Effect.Alike

variable {R : σ → τ → Prop}

theorem pure (a : α) : Alike R (pure a) (pure a) :=
  fun _ _ related => ⟨rfl, related⟩

theorem bind {x : Effect σ α} {y : Effect τ α} {f : α → Effect σ β} {g : α → Effect τ β}
    (first : Alike R x y) (later : ∀ a, Alike R (f a) (g a)) : Alike R (x >>= f) (y >>= g) := by
  intro s t related
  obtain ⟨same, next⟩ := first s t related
  have rest := later (x.run s).1 _ _ next
  change ((f (x.run s).1).run (x.run s).2).1 = ((g (y.run t).1).run (y.run t).2).1 ∧
    Session.Related R ((f (x.run s).1).run (x.run s).2).2 ((g (y.run t).1).run (y.run t).2).2
  rw [← same]
  exact rest

theorem map {x : Effect σ α} {y : Effect τ α} (f : α → β) (first : Alike R x y) :
    Alike R (f <$> x) (f <$> y) := by
  intro s t related
  obtain ⟨same, next⟩ := first s t related
  exact ⟨congrArg f same, next⟩

theorem note (level : LogLevel) (message : String) :
    Alike R (Effect.note level message) (Effect.note level message) := by
  rintro s t ⟨engine, log⟩
  exact ⟨rfl, engine, congrArg (· ++ [_]) log⟩

theorem ask {e : Engine σ} {e' : Engine τ} (sim : e.Simulates R e') (request : Engine.Request) :
    Alike R (e.ask request) (e'.ask request) := by
  rintro s t ⟨engine, log⟩
  obtain ⟨same, next⟩ := sim.answer request _ _ engine
  rw [Engine.ask_run, Engine.ask_run, ← same, log]
  exact ⟨rfl, next, rfl⟩

end Effect.Alike

/-- The same for what may end in a fault. -/
def Act.Alike (R : σ → τ → Prop) (x : Act σ α) (y : Act τ α) : Prop :=
  Effect.Alike R x.run y.run

namespace Act.Alike

variable {R : σ → τ → Prop}

theorem pure (a : α) : Alike R (pure a) (pure a) :=
  Effect.Alike.pure _

theorem throw (fault : Fault) : Alike (α := α) R (throw fault) (throw fault) :=
  Effect.Alike.pure _

theorem bind {x : Act σ α} {y : Act τ α} {f : α → Act σ β} {g : α → Act τ β}
    (first : Alike R x y) (later : ∀ a, Alike R (f a) (g a)) : Alike R (x >>= f) (y >>= g) := by
  change Effect.Alike R (x.run >>= ExceptT.bindCont f) (y.run >>= ExceptT.bindCont g)
  refine Effect.Alike.bind first ?_
  intro outcome
  cases outcome with
  | ok a => exact later a
  | error fault => exact Effect.Alike.pure _

theorem map {x : Act σ α} {y : Act τ α} (f : α → β) (first : Alike R x y) :
    Alike R (f <$> x) (f <$> y) := by
  rw [Alike, ExceptT.run_map, ExceptT.run_map]
  exact Effect.Alike.map (Except.map f) first

theorem lift {x : Effect σ α} {y : Effect τ α} (alike : Effect.Alike R x y) :
    Alike R (ExceptT.lift x) (ExceptT.lift y) :=
  Effect.Alike.map Except.ok alike

theorem note (level : LogLevel) (message : String) :
    Alike R (Act.note level message) (Act.note level message) :=
  lift (.note level message)

theorem ofExcept (outcome : Except Fault α) :
    Alike R (Act.ofExcept outcome) (Act.ofExcept outcome) := by
  cases outcome with
  | ok a => exact pure a
  | error fault => exact throw fault

theorem ofCheck (check : Record.Check α) : Alike R (Act.ofCheck check) (Act.ofCheck check) := by
  cases check with
  | ok a => exact pure a
  | error issues => exact throw _

theorem request {e : Engine σ} {e' : Engine τ} (sim : e.Simulates R e') (request : Engine.Request) :
    Alike R (e.request request) (e'.request request) :=
  Effect.Alike.bind (.ask sim request) fun _ => .pure _

theorem mapM {f : α → Act σ β} {g : α → Act τ β} (each : ∀ a, Alike R (f a) (g a))
    (items : List α) : Alike R (items.mapM f) (items.mapM g) := by
  induction items with
  | nil => exact pure []
  | cons item rest ih =>
    rw [List.mapM_cons, List.mapM_cons]
    exact bind (each item) fun _ => bind ih fun _ => pure _

end Act.Alike

/-! ### Builders -/

/-- The executor answers as another one does, in states that are related before and after. -/
structure Executor.Simulates (S : σ → τ → Prop) (x : Executor σ) (y : Executor τ) : Prop where
  note : ∀ entry s t, S s t → S (x.note entry s) (y.note entry t)
  execute : ∀ demand s t, S s t → (x.execute demand s).1 = (y.execute demand t).1 ∧
    S (x.execute demand s).2 (y.execute demand t).2

/-- The same result and builder, and related states of the executors. -/
def Builder.SameEnd (S : σ → τ → Prop) (one : α × Builder × σ) (other : α × Builder × τ) : Prop :=
  one.1 = other.1 ∧ one.2.1 = other.2.1 ∧ S one.2.2 other.2.2

namespace Builder

variable {S : σ → τ → Prop} {x : Executor σ} {y : Executor τ} {s : σ} {t : τ}

theorem run_alike (sim : x.Simulates S y) (b : Builder) (runner : Runner) (related : S s t) :
    SameEnd S (b.run (some x) runner s) (b.run (some y) runner t) := by
  unfold Builder.run
  cases b.prepared runner with
  | error fault => exact ⟨rfl, rfl, related⟩
  | ok b =>
    simp only []
    cases runner.demand b.query with
    | error fault => exact ⟨rfl, rfl, related⟩
    | ok demand =>
      have noted := sim.note ⟨.debug, .builder, "Running " ++ runner.name ++ "() on " ++ b.table.shown⟩
        s t related
      obtain ⟨same, next⟩ := sim.execute demand _ _ noted
      exact ⟨congrArg (Except.bind · fun reply => runner.result reply) same, rfl, next⟩

theorem act_alike (sim : x.Simulates S y) (b : Builder) (action : Action) (related : S s t) :
    SameEnd S (b.act (some x) action s) (b.act (some y) action t) := by
  cases action with
  | call call =>
    rw [act_call, act_call]
    exact ⟨rfl, rfl, related⟩
  | run runner =>
    obtain ⟨same, left, next⟩ := run_alike sim b runner related
    exact ⟨congrArg (Except.map ActionResult.reply) same, left, next⟩
  | build | describe | table => exact ⟨rfl, rfl, related⟩

theorem follow_alike (sim : x.Simulates S y) (b : Builder) (last : ActionResult) (step : ChainStep)
    (related : S s t) :
    SameEnd S (b.follow (some x) last step s) (b.follow (some y) last step t) := by
  cases last with
  | builder => exact act_alike sim b step.action related
  | compiled | reply =>
    unfold follow
    cases step.action <;> exact ⟨rfl, rfl, related⟩

theorem chain_alike (sim : x.Simulates S y) (b : Builder) (last : ActionResult)
    (steps : List ChainStep) (related : S s t) :
    SameEnd S (b.chain (some x) last steps s) (b.chain (some y) last steps t) := by
  induction steps generalizing b last s t with
  | nil => exact ⟨rfl, rfl, related⟩
  | cons step rest ih =>
    have first := follow_alike sim b last step related
    simp only [chain]
    -- Only that the two ends are related matters from here on.
    generalize b.follow (some x) last step s = one at first ⊢
    generalize b.follow (some y) last step t = other at first ⊢
    obtain ⟨outcome, left, s⟩ := one
    obtain ⟨_, _, t⟩ := other
    obtain ⟨rfl, rfl, next⟩ := first
    cases outcome with
    | error fault => exact ⟨rfl, rfl, next⟩
    | ok result => exact ih left result next

end Builder

namespace Connection

/-- The connection with another engine. -/
def on (c : Connection σ) (engine : Engine τ) : Connection τ :=
  { path := c.path, options := c.options, engine }

/-- What reading parameters comes to: nothing is changed, and an engine that turns every statement
away says so first. -/
theorem readParameters_run (c : Connection σ) (params : Value) (s : Session σ) :
    (c.readParameters params).run.run s =
      ((parametersOf params).mapError fun fault =>
        ((c.engine.refusal? s.engine).map .engine).getD fault, s) := by
  unfold readParameters
  cases parametersOf params with
  | ok params => rfl
  | error fault =>
    have here : (get : Act σ (Session σ)).run.run s = (.ok s, s) := rfl
    simp only []
    rw [Act.run_bind_ok here]
    cases c.engine.refusal? s.engine <;> rfl

section

variable {R : σ → τ → Prop} {c : Connection σ} {e : Engine τ} (sim : c.engine.Simulates R e)

include sim

/-! ### Statements -/

theorem execute_alike (sql : Value) (params : Option (List Value)) :
    Act.Alike R (c.execute sql params) ((c.on e).execute sql params) :=
  .request sim _

theorem close_alike : Act.Alike R c.close (c.on e).close :=
  .bind (.request sim _) fun _ => .note _ _

theorem readParameters_alike (params : Value) :
    Act.Alike R (c.readParameters params) ((c.on e).readParameters params) := by
  intro s t related
  have refusal : c.engine.refusal? s.engine = (c.on e).engine.refusal? t.engine :=
    sim.refusal _ _ related.engine
  rw [readParameters_run, readParameters_run, refusal]
  exact ⟨rfl, related⟩

theorem fetch_alike (fetch : Fetch) (sql params : Value) :
    Act.Alike R (c.fetch fetch sql params) ((c.on e).fetch fetch sql params) :=
  .bind (readParameters_alike sim params) fun _ => .bind (execute_alike sim _ _) fun _ => .pure _

theorem rows_alike (sql : String) (params : List Value) :
    Act.Alike R (c.rows sql params) ((c.on e).rows sql params) :=
  .bind (execute_alike sim _ _) fun _ => .pure _

theorem firstRow_alike (sql : String) (params : List Value) :
    Act.Alike R (c.firstRow? sql params) ((c.on e).firstRow? sql params) :=
  .bind (rows_alike sim _ _) fun _ => .pure _

theorem bareRows_alike (sql params : Value) :
    Act.Alike R (c.bareRows sql params) ((c.on e).bareRows sql params) :=
  .bind (readParameters_alike sim params) fun _ => .bind (.request sim _) fun _ => .pure _

theorem fetchNoted_alike (fetch : Fetch) (sql params : Value) :
    Act.Alike R (c.fetchNoted fetch sql params) ((c.on e).fetchNoted fetch sql params) :=
  .bind (.note _ _) fun _ => fetch_alike sim fetch sql params

theorem runScript_alike (sql : Value) : Act.Alike R (c.runScript sql) ((c.on e).runScript sql) :=
  .bind (.request sim _) fun _ => .pure _

theorem runFile_alike (content : List UInt8) :
    Act.Alike R (c.runFile content) ((c.on e).runFile content) := by
  unfold runFile
  cases Text.decodeUtf8 content with
  | ok cs => exact runScript_alike sim _
  | error fault => exact .throw _

/-- What an executor logs and demands is logged and asked of the engine. -/
theorem executor_simulates : c.executor.Simulates (Session.Related R) (c.on e).executor where
  note := by
    rintro entry s t ⟨engine, log⟩
    exact ⟨engine, congrArg (· ++ [entry]) log⟩
  execute _ := fetchNoted_alike sim _ _ _

theorem chain_alike (table : Value) (steps : List ChainStep) :
    Act.Alike R (c.chain table steps) ((c.on e).chain table steps) := by
  unfold chain
  cases Builder.ofTable table with
  | error fault => exact .throw _
  | ok builder =>
    intro s t related
    obtain ⟨same, left, next⟩ :=
      Builder.chain_alike (executor_simulates sim) builder .builder steps related
    refine ⟨?_, next⟩
    change Except.map _ _ = Except.map _ _
    rw [same, left]

/-! ### The catalogue -/

omit sim in
theorem columnOf_alike (name : String) (rows : List Row) :
    Act.Alike R (columnOf (σ := σ) name rows) (columnOf (σ := τ) name rows) :=
  .ofExcept _

theorem tables_alike : Act.Alike R c.tables (c.on e).tables :=
  .bind (rows_alike sim _ _) fun _ => columnOf_alike _ _

theorem hasTable_alike (table : Value) :
    Act.Alike R (c.hasTable table) ((c.on e).hasTable table) :=
  .bind (firstRow_alike sim _ _) fun _ => .pure _

theorem columns_alike (table : Value) : Act.Alike R (c.columns table) ((c.on e).columns table) :=
  .bind (rows_alike sim _ _) fun _ => columnOf_alike _ _

omit sim in
theorem columnInfo_alike (row : Row) :
    Act.Alike R (columnInfo (σ := σ) row) (columnInfo (σ := τ) row) :=
  .bind (.ofExcept _) fun _ => .bind (.ofExcept _) fun _ => .bind (.ofExcept _) fun _ =>
    .bind (.ofExcept _) fun _ => .ofCheck _

omit sim in
theorem collectColumns_alike (found : List (Value × ColumnInfo)) (rows : List Row) :
    Act.Alike R (collectColumns (σ := σ) found rows) (collectColumns (σ := τ) found rows) := by
  induction rows generalizing found with
  | nil => exact .pure _
  | cons row rest ih =>
    exact .bind (.ofExcept _) fun _ => .bind (columnInfo_alike row) fun _ =>
      .bind (.ofExcept _) fun _ => ih _

theorem columnDetails_alike (table : Value) :
    Act.Alike R (c.columnDetails table) ((c.on e).columnDetails table) :=
  .bind (rows_alike sim _ _) fun _ => collectColumns_alike _ _

theorem tableList_alike (argument : Value) :
    Act.Alike R (c.tableList argument) ((c.on e).tableList argument) := by
  unfold tableList
  split
  · exact tables_alike sim
  · exact .pure _
  · exact .pure _
  · split
    · exact .pure _
    · exact .throw _

theorem definition_alike (table : Value) :
    Act.Alike R (c.definition? table) ((c.on e).definition? table) := by
  refine .bind (firstRow_alike sim _ _) ?_
  rintro (_ | row)
  · exact .pure _
  · refine .bind (.ofExcept _) fun sql => ?_
    split
    · exact .pure _
    · exact .throw _

theorem section_alike (table : Value) :
    Act.Alike R (c.section? table) ((c.on e).section? table) :=
  .bind (definition_alike sim table) fun _ => .pure _

theorem schema_alike (tables : Value) : Act.Alike R (c.schema tables) ((c.on e).schema tables) :=
  .bind (tableList_alike sim tables) fun names =>
    .bind (.mapM (section_alike sim) names) fun _ => .pure _

theorem indexes_alike (table : Value) : Act.Alike R (c.indexes table) ((c.on e).indexes table) := by
  have described (rows : List Row) : Act.Alike R
      (rows.mapM fun row => do
        let table ← Act.ofExcept (σ := σ) (row.column "table")
        let index ← Act.ofExcept (row.column "index")
        Act.ofCheck (IndexInfo.ofValues table index))
      (rows.mapM fun row => do
        let table ← Act.ofExcept (σ := τ) (row.column "table")
        let index ← Act.ofExcept (row.column "index")
        Act.ofCheck (IndexInfo.ofValues table index)) :=
    .mapM (fun _ => .bind (.ofExcept _) fun _ => .bind (.ofExcept _) fun _ => .ofCheck _) rows
  unfold indexes
  split
  · exact .bind (rows_alike sim _ _) described
  · exact .bind (rows_alike sim _ _) described

theorem countedColumn_alike (table : Value) :
    Act.Alike R (c.countedColumn table) ((c.on e).countedColumn table) := by
  refine .bind (firstRow_alike sim _ _) ?_
  rintro (_ | row)
  · exact .pure _
  · exact .bind (.ofExcept _) fun _ => .pure _

theorem rowCountOf_alike (table : Value) :
    Act.Alike R (c.rowCountOf table) ((c.on e).rowCountOf table) := by
  refine .bind (countedColumn_alike sim table) fun _ => .bind (firstRow_alike sim _ _) ?_
  rintro (_ | row)
  · exact .throw _
  · exact .ofExcept _

theorem collectCounts_alike (found : List (Value × Value)) (tables : List Value) :
    Act.Alike R (c.collectCounts found tables) ((c.on e).collectCounts found tables) := by
  induction tables generalizing found with
  | nil => exact .pure _
  | cons table rest ih =>
    exact .bind (rowCountOf_alike sim table) fun _ => .bind (.ofExcept _) fun _ => ih _

theorem rowCounts_alike (tables : Value) :
    Act.Alike R (c.rowCounts tables) ((c.on e).rowCounts tables) :=
  .bind (tableList_alike sim tables) fun _ => collectCounts_alike sim _ _

theorem isUnlocked_alike : Act.Alike R c.isUnlocked (c.on e).isUnlocked := by
  refine .bind (.lift (.ask sim _)) ?_
  rintro (fault | result)
  · simp only []
    split
    · exact .pure _
    · exact .throw _
  · exact .pure _

theorem rebuild_alike (table : Value) : Act.Alike R (c.rebuild? table) ((c.on e).rebuild? table) := by
  refine .bind (definition_alike sim table) ?_
  rintro (_ | schema)
  · exact .pure _
  · simp only []
    split
    · exact .throw _
    · refine .bind (columns_alike sim table) fun columns => ?_
      split
      · exact .throw _
      · exact .bind (.ofExcept _) fun _ => .pure _

/-! ### Backups -/

theorem copyTo_alike (target : String) :
    Effect.Alike R (c.copyTo target) ((c.on e).copyTo target) := by
  refine .bind (.ask sim _) ?_
  rintro (fault | result)
  · exact .pure _
  · refine .bind (.ask sim _) fun copied => .bind (.ask sim _) fun closed => ?_
    split <;> exact .pure _

theorem backup_alike (file directory : Value) (withTime : Bool) (now : Moment) :
    Act.Alike R (c.backup file directory withTime now)
      ((c.on e).backup file directory withTime now) := by
  unfold backup
  simp only [on]
  split
  · exact .throw _
  · refine .bind (.note _ _) fun _ => .bind (.lift (copyTo_alike sim _)) ?_
    rintro (fault | _)
    · exact .throw _
    · exact .pure _

/-! ### Insertion in bulk -/

theorem pragmaRows_alike (pragma : Value) :
    Act.Alike R (c.pragmaRows pragma) ((c.on e).pragmaRows pragma) :=
  .bind (execute_alike sim _ _) fun _ => .pure _

theorem pragmaValue_alike (pragma : Value) :
    Act.Alike R (c.pragmaValue pragma) ((c.on e).pragmaValue pragma) := by
  refine .bind (pragmaRows_alike sim pragma) fun rows => ?_
  split
  · exact .pure _
  · exact .throw _
  · exact .pure _

theorem writePragma_alike (name value : Value) :
    Act.Alike R (c.writePragma name value) ((c.on e).writePragma name value) :=
  .bind (execute_alike sim _ _) fun _ => .pure _

theorem readTuned_alike (tuned : List (Value × Value)) :
    Act.Alike R (c.readTuned tuned) ((c.on e).readTuned tuned) := by
  induction tuned with
  | nil => exact .pure _
  | cons entry rest ih =>
    exact .bind (pragmaValue_alike sim _) fun _ => .bind ih fun _ => .pure _

theorem writeAll_alike (entries : List (Value × Value)) :
    Act.Alike R (c.writeAll entries) ((c.on e).writeAll entries) := by
  induction entries with
  | nil => exact .pure _
  | cons entry rest ih => exact .bind (writePragma_alike sim _ _) fun _ => ih

theorem restoreOne_alike (name value : Value) :
    Effect.Alike R (c.restoreOne name value) ((c.on e).restoreOne name value) := by
  refine .bind (writePragma_alike sim name value) ?_
  rintro (fault | _)
  · exact .note _ _
  · exact .pure _

theorem restore_alike (saved : List (Value × Value)) :
    Effect.Alike R (c.restore saved) ((c.on e).restore saved) := by
  induction saved with
  | nil => exact .pure _
  | cons entry rest ih =>
    obtain ⟨name, value⟩ := entry
    cases value with
    | null => exact ih
    | _ => exact .bind (restoreOne_alike sim _ _) fun _ => ih

theorem begin_alike (tuned : List (Value × Value)) :
    Act.Alike R (c.begin tuned) ((c.on e).begin tuned) :=
  .bind (writeAll_alike sim tuned) fun _ => .bind (execute_alike sim _ _) fun _ => .note _ _

theorem finish_alike (fault? : Option Fault) :
    Act.Alike R (c.finish fault?) ((c.on e).finish fault?) := by
  cases fault? with
  | none => exact .bind (execute_alike sim _ _) fun _ => .note _ _
  | some fault =>
    exact .bind (execute_alike sim _ _) fun _ => .bind (.note _ _) fun _ => .throw _

variable {block : Effect σ (BlockEnd α)} {block' : Effect τ (BlockEnd α)}

theorem transact_alike (tuned : List (Value × Value)) (inside : Effect.Alike R block block') :
    Effect.Alike R (c.transact tuned block) ((c.on e).transact tuned block') := by
  refine .bind (begin_alike sim tuned) ?_
  rintro (fault | _)
  · exact .pure _
  · exact .bind inside fun _ => .bind (finish_alike sim _) fun _ => .pure _

theorem bulkInsertWith_alike (tuned : List (Value × Value)) (inside : Effect.Alike R block block') :
    Effect.Alike R (c.bulkInsertWith tuned block) ((c.on e).bulkInsertWith tuned block') := by
  refine .bind (readTuned_alike sim tuned) ?_
  rintro (fault | saved)
  · exact .pure _
  · exact .bind (transact_alike sim tuned inside) fun _ => .bind (restore_alike sim saved) fun _ =>
      .pure _

theorem collectPragmas_alike (found : List (Value × Value)) (names : List Value) :
    Act.Alike R (c.collectPragmas found names) ((c.on e).collectPragmas found names) := by
  induction names generalizing found with
  | nil => exact .pure _
  | cons name rest ih =>
    exact .bind (pragmaValue_alike sim name) fun _ => .bind (.ofExcept _) fun _ => ih _

theorem refuseTuning_alike (tuning : Value) :
    Effect.Alike R (c.refuseTuning tuning) ((c.on e).refuseTuning tuning) := by
  unfold refuseTuning
  split
  · exact .pure _
  · refine .bind (collectPragmas_alike sim [] _) ?_
    rintro (fault | saved)
    · exact .pure _
    · exact .bind (restore_alike sim saved) fun _ => .pure _

theorem bulkInsert_alike (inside : Effect.Alike R block block') :
    Effect.Alike R (c.bulkInsert block) ((c.on e).bulkInsert block') := by
  unfold bulkInsert
  simp only [on]
  split
  · exact bulkInsertWith_alike sim _ inside
  · exact .bind (refuseTuning_alike sim _) fun _ => .pure _

/-! ### Operations -/

theorem runPrepared_alike (sql : Value) (run : PreparedRun) :
    Act.Alike R (c.runPrepared sql run) ((c.on e).runPrepared sql run) := by
  cases run with
  | fetch fetch params => exact fetch_alike sim fetch sql params
  | bare params => exact .map _ (bareRows_alike sim sql params)

omit sim in
theorem freshBuilder_alike (table : Value) :
    Act.Alike R (freshBuilder (σ := σ) table) (freshBuilder (σ := τ) table) :=
  .ofExcept _

theorem perform_alike (task : Task) : Act.Alike R (c.perform task) ((c.on e).perform task) := by
  cases task with
  | call table =>
    simp only [perform]
    -- No table at all asks for the engine's own connection.
    split
    · exact freshBuilder_alike table
    · exact .pure _
  | raw | describe | enter => exact .pure _
  | table name => exact freshBuilder_alike name
  | leave | close => exact .bind (close_alike sim) fun _ => .pure _
  | fetch fetch sql params => exact .map _ (fetch_alike sim fetch sql params)
  | fetchNoted fetch sql params => exact .map _ (fetchNoted_alike sim fetch sql params)
  | bareRows sql params => exact .map _ (bareRows_alike sim sql params)
  | prepared sql runs => exact .map _ (.mapM (runPrepared_alike sim sql) runs)
  | script sql => exact .bind (runScript_alike sim sql) fun _ => .pure _
  | scriptFile content => exact .bind (runFile_alike sim content) fun _ => .pure _
  | pragma pragma => exact .map _ (pragmaRows_alike sim pragma)
  | pragmaValue pragma => exact .map _ (pragmaValue_alike sim pragma)
  | tables => exact .map _ (tables_alike sim)
  | hasTable table => exact .map _ (hasTable_alike sim table)
  | columns table => exact .map _ (columns_alike sim table)
  | columnDetails table => exact .map _ (columnDetails_alike sim table)
  | schema tables => exact .map _ (schema_alike sim tables)
  | indexes table => exact .map _ (indexes_alike sim table)
  | rowCounts tables => exact .map _ (rowCounts_alike sim tables)
  | rebuild table =>
    refine .bind (rebuild_alike sim table) ?_
    rintro (_ | script) <;> exact .pure _
  | isUnlocked => exact .map _ (isUnlocked_alike sim)
  | backup file directory withTime now => exact .map _ (backup_alike sim file directory withTime now)
  | chain table steps =>
    simp only [perform]
    split
    · exact .map _ (chain_alike sim table steps)
    -- Without a table there is no builder to begin with.
    · exact .pure _
  | raise message => exact .throw _

end

variable {R : σ → τ → Prop} {c : Connection σ} {e : Engine τ}

mutual

/-- An operation depends on the engine by its answers alone. -/
theorem operate_alike (sim : c.engine.Simulates R e) (operation : Operation) :
    Effect.Alike R (c.operate operation) ((c.on e).operate operation) := by
  cases operation with
  | task task =>
    simp only [operate]
    exact .bind (perform_alike sim task) fun _ => .pure _
  | bulkInsert block =>
    simp only [operate]
    exact .map _ (bulkInsert_alike sim (operateAll_alike sim block))

/-- And so does a block of operations. -/
theorem operateAll_alike (sim : c.engine.Simulates R e) (block : List Operation) :
    Effect.Alike R (c.operateAll block) ((c.on e).operateAll block) := by
  cases block with
  | nil =>
    simp only [operateAll]
    exact .pure _
  | cons operation rest =>
    simp only [operateAll]
    refine .bind (operate_alike sim operation) fun ended => ?_
    split
    · exact .pure _
    · exact .bind (operateAll_alike sim rest) fun _ => .pure _

end

end Connection

end FluentSql
