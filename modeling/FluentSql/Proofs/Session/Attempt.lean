import FluentSql.Proofs.Session.Alike

/-!
# Attempts

What is asked of an engine while something is done in a session. `Engine.Answers` says that attempts
are what an engine answers in turn, from one of its states to another; `Session.Leads` says the same
of sessions, with the warnings that are logged on the way. To see the attempts of a whole operation
the engine is watched: it answers as before and keeps a record. Watching changes neither the result
nor the session (`Effect.Watches.run`), and the record holds what the engine answered in turn
(`Effect.Watches.answered`), after what it held before (`Effect.Watches.attempts`).
-/

namespace FluentSql

variable {σ α : Type}

namespace Engine

/-- A request with what came of it, whether or not it was granted. -/
structure Attempt where
  request : Request
  outcome : Except Fault Result

/-- The engine answers the attempts one after the other, from one state to another. -/
inductive Answers (e : Engine σ) : σ → List Attempt → σ → Prop where
  | nil (s : σ) : Answers e s [] s
  | cons {s t : σ} {later : List Attempt} (request : Request)
      (rest : Answers e (e.answer request s).2 later t) :
      Answers e s (⟨request, (e.answer request s).1.outcome⟩ :: later) t

namespace Answers

variable {e : Engine σ} {s t u : σ} {first later : List Attempt}

theorem single (request : Request) (s : σ) :
    e.Answers s [⟨request, (e.answer request s).1.outcome⟩] (e.answer request s).2 :=
  .cons request (.nil _)

theorem append (before : e.Answers s first t) (after : e.Answers t later u) :
    e.Answers s (first ++ later) u := by
  induction before with
  | nil => exact after
  | cons request _ ih => exact .cons request (ih after)

end Answers

structure Watched (σ : Type) where
  state : σ
  attempts : List Attempt := []

/-- The engine, answering as before and keeping a record. -/
def watched (e : Engine σ) : Engine (Watched σ) where
  answer request w :=
    ((e.answer request w.state).1,
      { state := (e.answer request w.state).2
        attempts := w.attempts ++ [⟨request, (e.answer request w.state).1.outcome⟩] })
  refusal? w := e.refusal? w.state

/-- The record is of what was answered, and the engine does not know of it. -/
theorem Answers.unwatched {e : Engine σ} {w w' : Watched σ} {attempts : List Attempt}
    (answers : e.watched.Answers w attempts w') :
    e.Answers w.state attempts w'.state ∧ w'.attempts = w.attempts ++ attempts := by
  induction answers with
  | nil w => exact ⟨.nil _, (List.append_nil _).symm⟩
  | cons request _ ih =>
    obtain ⟨rest, record⟩ := ih
    refine ⟨.cons request rest, ?_⟩
    rw [record]
    exact List.append_assoc _ _ _

/-- The record never strays from what was answered since the state `start`. -/
theorem watched_simulates (e : Engine σ) (start : σ) :
    e.Simulates (fun s w => w.state = s ∧ e.Answers start w.attempts s) e.watched where
  answer := by
    rintro request s w ⟨rfl, answers⟩
    exact ⟨rfl, rfl, answers.append (.single request _)⟩
  refusal := by
    rintro s w ⟨rfl, _⟩
    rfl

/-- What the record holds already makes no difference to what is added to it. -/
theorem watched_simulates_watched (e : Engine σ) (seen : List Attempt) :
    e.watched.Simulates (fun w w' => w'.state = w.state ∧ w'.attempts = seen ++ w.attempts)
      e.watched where
  answer := by
    rintro request w w' ⟨state, record⟩
    simp only [watched, state, record, List.append_assoc, and_self]
  refusal := by
    rintro w w' ⟨state, _⟩
    exact congrArg e.refusal? state.symm

end Engine

/-! ### Sessions -/

namespace Session

def watched (s : Session σ) : Session (Engine.Watched σ) :=
  { engine := { state := s.engine }, log := s.log }

def unwatched (w : Session (Engine.Watched σ)) : Session σ :=
  { engine := w.engine.state, log := w.log }

/-- From one session to another by the given attempts, with the given warnings on the way. -/
structure Leads (e : Engine σ) (s : Session σ) (attempts : List Engine.Attempt)
    (warnings : List LogEntry) (t : Session σ) : Prop where
  answers : e.Answers s.engine attempts t.engine
  log : ∃ notes, t.log = s.log ++ notes ∧ notes.filter (·.level = .warning) = warnings

namespace Leads

variable {e : Engine σ} {s t u : Session σ} {first later : List Engine.Attempt}
  {warned warned' : List LogEntry}

theorem refl (s : Session σ) : s.Leads e [] [] s :=
  ⟨.nil _, [], (List.append_nil _).symm, rfl⟩

theorem trans (before : s.Leads e first warned t) (after : t.Leads e later warned' u) :
    s.Leads e (first ++ later) (warned ++ warned') u := by
  obtain ⟨answers, notes, log, rfl⟩ := before
  obtain ⟨answers', notes', log', rfl⟩ := after
  refine ⟨answers.append answers', notes ++ notes', ?_, List.filter_append ..⟩
  rw [log', log, List.append_assoc]

theorem note (entry : LogEntry) (s : Session σ) :
    s.Leads e [] ([entry].filter (·.level = .warning)) (s.note entry) :=
  ⟨.nil _, [entry], rfl, rfl⟩

/-- Asking is one attempt, without a warning. -/
theorem ask (e : Engine σ) (request : Engine.Request) (s : Session σ) :
    s.Leads e [⟨request, (e.answer request s.engine).1.outcome⟩] [] ((e.ask request).run s).2 := by
  rw [Engine.ask_run]
  refine ⟨.single request _, _, rfl, ?_⟩
  -- what the engine traces is no warning
  unfold Engine.Response.entries
  split <;> rfl

theorem unwatched {e : Engine σ} {w w' : Session (Engine.Watched σ)}
    {attempts : List Engine.Attempt} (leads : w.Leads e.watched attempts warned w') :
    w.unwatched.Leads e attempts warned w'.unwatched :=
  ⟨leads.answers.unwatched.1, leads.log⟩

theorem record {e : Engine σ} {w w' : Session (Engine.Watched σ)}
    {attempts : List Engine.Attempt} (leads : w.Leads e.watched attempts warned w') :
    w'.engine.attempts = w.engine.attempts ++ attempts :=
  leads.answers.unwatched.2

end Leads

end Session

/-! ### Operations under watch -/

/-- Under watch `y` does what `x` does: the record tells what was answered, and nothing depends on
what it held before. -/
structure Effect.Watches (e : Engine σ) (x : Effect σ α) (y : Effect (Engine.Watched σ) α) :
    Prop where
  answers : ∀ start, Alike (fun s w => w.state = s ∧ e.Answers start w.attempts s) x y
  record : ∀ seen, Alike (fun w w' => w'.state = w.state ∧ w'.attempts = seen ++ w.attempts) y y

namespace Effect.Watches

variable {e : Engine σ} {x : Effect σ α} {y : Effect (Engine.Watched σ) α}

theorem answered (watches : Watches e x y) (s : Session σ) :
    e.Answers s.engine (y.run s.watched).2.engine.attempts (x.run s).2.engine := by
  obtain ⟨_, ⟨_, answers⟩, _⟩ := watches.answers s.engine s s.watched ⟨⟨rfl, .nil _⟩, rfl⟩
  exact answers

theorem attempts (watches : Watches e x y) (w : Session (Engine.Watched σ)) :
    (y.run w).2.engine.attempts =
      w.engine.attempts ++ (y.run w.unwatched.watched).2.engine.attempts := by
  obtain ⟨_, ⟨_, record⟩, _⟩ := watches.record w.engine.attempts w.unwatched.watched w
    ⟨⟨rfl, (List.append_nil _).symm⟩, rfl⟩
  exact record

/-- Watching changes neither the result nor the session. -/
theorem run (watches : Watches e x y) (w : Session (Engine.Watched σ)) :
    x.run w.unwatched = ((y.run w).1, (y.run w).2.unwatched) := by
  -- by way of the session with a fresh record
  obtain ⟨plain, ⟨state, _⟩, log⟩ :=
    watches.answers w.engine.state w.unwatched w.unwatched.watched ⟨⟨rfl, .nil _⟩, rfl⟩
  obtain ⟨shifted, ⟨state', _⟩, log'⟩ := watches.record w.engine.attempts w.unwatched.watched w
    ⟨⟨rfl, (List.append_nil _).symm⟩, rfl⟩
  refine Prod.ext (plain.trans shifted) ?_
  change (x.run w.unwatched).2 = ⟨(y.run w).2.engine.state, (y.run w).2.log⟩
  rw [state', state, ← log', ← log]

end Effect.Watches

/-- What is asked of the engine in the course of what is done under watch. -/
def Effect.asked (y : Effect (Engine.Watched σ) α) (s : Session σ) : List Engine.Attempt :=
  (y.run s.watched).2.engine.attempts

namespace Connection

def watched (c : Connection σ) : Connection (Engine.Watched σ) :=
  c.on c.engine.watched

/-- What is asked of the engine in the course of an operation. -/
def attempts (c : Connection σ) (operation : Operation) (s : Session σ) : List Engine.Attempt :=
  (c.watched.operate operation).asked s

/-- What is asked of the engine in the course of a block. -/
def blockAttempts (c : Connection σ) (block : List Operation) (s : Session σ) :
    List Engine.Attempt :=
  (c.watched.operateAll block).asked s

theorem bulkInsert_watches (c : Connection σ) {block : Effect σ (BlockEnd α)}
    {block' : Effect (Engine.Watched σ) (BlockEnd α)} (inside : Effect.Watches c.engine block block') :
    Effect.Watches c.engine (c.bulkInsert block) (c.watched.bulkInsert block') where
  answers start := bulkInsert_alike (c.engine.watched_simulates start) (inside.answers start)
  record seen :=
    bulkInsert_alike (c := c.watched) (c.engine.watched_simulates_watched seen) (inside.record seen)

theorem operate_watches (c : Connection σ) (operation : Operation) :
    Effect.Watches c.engine (c.operate operation) (c.watched.operate operation) where
  answers start := operate_alike (c.engine.watched_simulates start) operation
  record seen := operate_alike (c := c.watched) (c.engine.watched_simulates_watched seen) operation

theorem operateAll_watches (c : Connection σ) (block : List Operation) :
    Effect.Watches c.engine (c.operateAll block) (c.watched.operateAll block) where
  answers start := operateAll_alike (c.engine.watched_simulates start) block
  record seen := operateAll_alike (c := c.watched) (c.engine.watched_simulates_watched seen) block

/-- The attempts of an operation are what the engine answers in turn, from the state in which the
operation finds it to the state in which it leaves it. -/
theorem attempts_answered (c : Connection σ) (operation : Operation) (s : Session σ) :
    c.engine.Answers s.engine (c.attempts operation s) ((c.operate operation).run s).2.engine :=
  (c.operate_watches operation).answered s

end Connection

end FluentSql
