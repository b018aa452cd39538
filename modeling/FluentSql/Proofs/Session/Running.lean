import FluentSql.Proofs.Builder.Runners
import FluentSql.Proofs.Session.BulkInsert
import Mathlib.Data.List.Induction

/-!
# Running what was compiled

What becomes of a runner on its way from a builder through an executor to an engine. If it cannot be
compiled nothing sets out. Otherwise an executor is given one demand, and a connection that is the
executor has one statement executed, with the text and the parameters that were compiled.
Main results: `Builder.runs_exactly_what_it_compiles`, and `Connection.runners_meet_demands` for
runners called one after the other.
-/

namespace FluentSql

open Engine

variable {σ : Type}

namespace Runner

/-- What a runner has compiled. -/
def build : Runner → Build
  | first | all | byId _ => .select
  | count | present => .count
  | insert data => .insert data
  | upsert data conflict => .upsert data conflict
  | update data => .update data
  | delete => .delete

/-- How a runner has its statement executed. -/
def fetch : Runner → Fetch
  | first | byId _ | count | present => .first
  | all => .all
  | insert _ | upsert .. | update _ | delete => .run

/-- A runner demands the statement that is compiled for it, and nothing if there is none. -/
theorem demand_eq (runner : Runner) (q : Query) :
    match q.build runner.build with
    | .error fault => runner.demand q = .error fault
    | .ok (.statement statement) => runner.demand q = .ok ⟨runner.fetch, statement⟩
    | .ok (.conditions _) | .ok .noConditions => False := by
  cases runner with
  -- A runner demands what the compilation of its kind returns, and fails if it does.
  | first | all | byId value =>
    simp only [build, Query.build, demand]
    cases q.selection <;> rfl
  | delete =>
    simp only [build, Query.build, demand]
    cases q.deletion <;> rfl
  | count | present =>
    simp only [build, Query.build, demand]
    cases q.count <;> rfl
  | insert data =>
    simp only [build, Query.build, demand]
    cases q.insert data <;> rfl
  | upsert data conflict =>
    simp only [build, Query.build, demand]
    cases q.upsert data conflict <;> rfl
  | update data =>
    simp only [build, Query.build, demand]
    cases q.update data <;> rfl

end Runner

/-! ### Builders and executors -/

namespace Executor

/-- An executor answers under listing as it does without. -/
theorem listing_simulates (executor : Executor σ) :
    executor.Simulates (fun s listed => listed.1 = s) executor.listing where
  note := by
    rintro entry s listed rfl
    rfl
  execute := by
    rintro demand s listed rfl
    exact ⟨rfl, rfl⟩

end Executor

namespace Builder

/-- The builder that a runner leaves. -/
def leftBy (b : Builder) (runner : Runner) : Builder :=
  { b with query := b.query.withIds runner.id?.toList }

theorem prepared_eq_leftBy (b : Builder) (runner : Runner) :
    b.prepared runner = .ok (b.leftBy runner) :=
  b.prepared_eq runner

theorem demanded?_eq (b : Builder) (runner : Runner) :
    runner.demanded? b.query = (runner.demand (b.leftBy runner).query).toOption :=
  rfl

variable {b : Builder} {runner : Runner}

/-- If the compilation fails, the executor is never asked. -/
theorem run_of_refused {fault : Fault} (refused : runner.demand (b.leftBy runner).query = .error fault)
    (executor? : Option (Executor σ)) (s : σ) :
    b.run executor? runner s = (.error fault, b.leftBy runner, s) := by
  simp only [run, prepared_eq_leftBy, refused]

theorem run_of_compiled {demand : Demand}
    (compiled : runner.demand (b.leftBy runner).query = .ok demand)
    (executor? : Option (Executor σ)) (s : σ) :
    b.run executor? runner s = (((b.leftBy runner).execute executor? runner demand s).1,
      b.leftBy runner, ((b.leftBy runner).execute executor? runner demand s).2) := by
  simp only [run, prepared_eq_leftBy, compiled]

theorem run_listing {demand : Demand} (compiled : runner.demand (b.leftBy runner).query = .ok demand)
    (executor : Executor σ) (s : σ) (seen : List Demand) :
    b.run (some executor.listing) runner (s, seen) = ((b.run (some executor) runner s).1,
      b.leftBy runner, (b.run (some executor) runner s).2.2, seen ++ [demand]) := by
  -- Result and state are those of the executor itself. What is new is the list.
  obtain ⟨result, -, state⟩ := run_alike executor.listing_simulates b runner
    (s := s) (t := (s, seen)) rfl
  have listed := run_of_compiled compiled (some executor.listing) (s, seen)
  rw [listed] at result state ⊢
  rw [result, ← state]
  rfl

end Builder

/-! ### Connections -/

/-- It is an attempt to execute the statement of the demand, with its parameters. -/
def Engine.Attempt.Meets (attempt : Attempt) (demand : Demand) : Prop :=
  attempt.request = .execute (.text demand.statement.sql) (some demand.statement.params)

namespace Connection

/-- What is asked of the engine in the course of runners, called one after the other. -/
def runnerAttempts (c : Connection σ) (b : Builder) (runners : List Runner) (s : Session σ) :
    List Attempt :=
  (b.after (some c.watched.executor) (runners.map .run) s.watched).2.engine.attempts

/-- A demand is met by one request of its statement and its values. -/
theorem executor_run (c : Connection σ) (demand : Demand) (s : Session σ) :
    ∃ attempt t, c.executor.execute demand s = (attempt.result.map (reply · demand.fetch), t) ∧
      attempt.Meets demand ∧ s.Leads c.engine [attempt] [] t := by
  let sql := demand.statement.sql
  let params := demand.statement.params
  let entry : LogEntry := ⟨.debug, .session, fetchWord demand.fetch ++ ": " ++
    (Value.text sql).display ++ " " ++ (Value.list params).literal⟩
  -- The statement is noted, its parameters are read, and then it is executed.
  obtain ⟨attempt, t, run, request, leads⟩ :=
    c.execute_pure_run (.text sql) (some params) (reply · demand.fetch) (s.note entry)
  exact ⟨attempt, t, run, request, (Session.Leads.note entry s).trans leads⟩

theorem execute_run (c : Connection σ) (b : Builder) (runner : Runner) (demand : Demand)
    (s : Session σ) :
    ∃ attempt t, b.execute (some c.executor) runner demand s =
        ((attempt.result.map (reply · demand.fetch)).bind (runner.result ·), t) ∧
      attempt.Meets demand ∧ s.Leads c.engine [attempt] [] t := by
  let entry : LogEntry := ⟨.debug, .builder, "Running " ++ runner.name ++ "() on " ++ b.table.shown⟩
  obtain ⟨attempt, t, run, meets, leads⟩ := c.executor_run demand (s.note entry)
  have executed : b.execute (some c.executor) runner demand s =
      ((c.executor.execute demand (s.note entry)).1.bind (runner.result ·),
        (c.executor.execute demand (s.note entry)).2) := rfl
  rw [run] at executed
  exact ⟨attempt, t, executed, meets, (Session.Leads.note entry s).trans leads⟩

theorem run_of_compiled (c : Connection σ) {b : Builder} {runner : Runner} {demand : Demand}
    (compiled : runner.demand (b.leftBy runner).query = .ok demand) (s : Session σ) :
    ∃ attempt, (b.run (some c.executor) runner s).1 =
        (attempt.result.map (reply · demand.fetch)).bind (runner.result ·) ∧
      attempt.Meets demand ∧ c.runnerAttempts b [runner] s = [attempt] ∧
      c.engine.Answers s.engine [attempt] (b.run (some c.executor) runner s).2.2.engine := by
  have ran := Builder.run_of_compiled compiled (some c.watched.executor) s.watched
  obtain ⟨attempt, t, executed, meets, leads⟩ :=
    c.watched.execute_run (b.leftBy runner) runner demand s.watched
  rw [executed] at ran
  -- The engine is watched, and answers as it does when it is not.
  obtain ⟨same, -, ⟨-, answers⟩, -⟩ := Builder.run_alike
    (executor_simulates (c.engine.watched_simulates s.engine)) b runner
    (s := s) (t := s.watched) ⟨⟨rfl, .nil _⟩, rfl⟩
  have record : (b.run (some c.watched.executor) runner s.watched).2.2.engine.attempts =
      [attempt] := by
    rw [ran]
    exact leads.record
  change (b.run (some c.executor) runner s).1 = (b.run (some c.watched.executor) runner s.watched).1
    at same
  change c.engine.Answers s.engine
    (b.run (some c.watched.executor) runner s.watched).2.2.engine.attempts _ at answers
  rw [record] at answers
  refine ⟨attempt, ?_, meets, record, answers⟩
  rw [same, ran]

/-! ### Runners one after the other -/

theorem act_attempts (c : Connection σ) (b : Builder) (runner : Runner)
    (w : Session (Engine.Watched σ)) :
    ∃ attempts, (b.act (some c.watched.executor) (.run runner) w).2.2.engine.attempts =
        w.engine.attempts ++ attempts ∧
      List.Forall₂ Attempt.Meets attempts (runner.demanded? b.query).toList := by
  cases demanded : runner.demand (b.leftBy runner).query with
  | error fault =>
    -- Nothing was demanded, so that nothing was asked.
    refine ⟨[], ?_, ?_⟩
    · simp only [Builder.act, Builder.run_of_refused demanded, List.append_nil]
    · rw [Builder.demanded?_eq, demanded]
      exact .nil
  | ok demand =>
    obtain ⟨attempt, t, executed, meets, leads⟩ :=
      c.watched.execute_run (b.leftBy runner) runner demand w
    refine ⟨[attempt], ?_, ?_⟩
    · simp only [Builder.act, Builder.run_of_compiled demanded, executed]
      exact leads.record
    · rw [Builder.demanded?_eq, demanded]
      exact .cons meets .nil

/-- Of runners that are called one after the other, the engine is asked to execute what they demand
of the connection, each demand by one attempt and in the same order. -/
theorem runners_meet_demands (c : Connection σ) (b : Builder) (runners : List Runner)
    (s : Session σ) :
    List.Forall₂ Attempt.Meets (c.runnerAttempts b runners s)
      (b.demands (some c.executor) runners s) := by
  -- Induction from the end: the last runner finds the builder as the others have left it.
  induction runners using List.reverseRecOn with
  | nil => exact .nil
  | append_singleton runners runner ih =>
    obtain ⟨attempts, asked, meet⟩ := c.act_attempts
      (b.after (some c.watched.executor) (runners.map .run) s.watched).1 runner
      (b.after (some c.watched.executor) (runners.map .run) s.watched).2
    have more : c.runnerAttempts b (runners ++ [runner]) s =
        c.runnerAttempts b runners s ++ attempts := by
      rw [runnerAttempts, List.map_append, Builder.after_append]
      exact asked
    rw [Builder.after_runners] at meet
    rw [more, Builder.demands_concat]
    exact List.rel_append ih meet

end Connection

/-- Each runner executes what it has compiled, or nothing. If the compilation fails, the runner ends
with its fault and no executor is touched, bound or not. Otherwise a builder without an executor says
that it has none, and one with an executor gives it one demand: the compiled statement, to be
executed in the way of the runner. A connection meets it by one attempt, and the result is what the
runner makes of the engine's reply. -/
theorem Builder.runs_exactly_what_it_compiles (b : Builder) (runner : Runner) :
    match (b.leftBy runner).query.build runner.build with
    | .error fault => ∀ {σ : Type} (executor? : Option (Executor σ)) (s : σ),
      b.run executor? runner s = (.error fault, b.leftBy runner, s)
    | .ok (.statement statement) =>
      (∀ {σ : Type} (s : σ), b.run none runner s =
        (.error (.detached runner.name), b.leftBy runner, s)) ∧
      (∀ {σ : Type} (executor : Executor σ) (s : σ) (seen : List Demand),
        b.run (some executor.listing) runner (s, seen) = ((b.run (some executor) runner s).1,
          b.leftBy runner, (b.run (some executor) runner s).2.2,
          seen ++ [⟨runner.fetch, statement⟩])) ∧
      ∀ {σ : Type} (c : Connection σ) (s : Session σ), ∃ attempt,
        attempt.request = .execute (.text statement.sql) (some statement.params) ∧
        c.runnerAttempts b [runner] s = [attempt] ∧
        c.engine.Answers s.engine [attempt] (b.run (some c.executor) runner s).2.2.engine ∧
        (b.run (some c.executor) runner s).1 =
          (attempt.result.map (Connection.reply · runner.fetch)).bind (runner.result ·)
    | .ok (.conditions _) | .ok .noConditions => False := by
  have demands := runner.demand_eq (b.leftBy runner).query
  cases compiles : (b.leftBy runner).query.build runner.build with
  | error fault =>
    rw [compiles] at demands
    intro σ executor? s
    exact run_of_refused demands executor? s
  | ok compiled =>
    rw [compiles] at demands
    cases compiled with
    | statement statement =>
      refine ⟨run_of_compiled demands none, run_listing demands, ?_⟩
      intro σ c s
      obtain ⟨attempt, result, meets, asked, answers⟩ := c.run_of_compiled demands s
      exact ⟨attempt, meets, asked, answers, result⟩
    -- No runner compiles conditions by themselves.
    | conditions | noConditions => exact demands

end FluentSql
