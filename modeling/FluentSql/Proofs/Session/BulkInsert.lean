import FluentSql.Proofs.Session.Attempt

/-!
# Insertion in bulk, request by request

What an insertion in bulk asks of its engine, whatever the engine answers and whatever the block
does. A `BulkRun` holds the attempts phase by phase. `BulkRun.Disciplined` says which requests they
are, `BulkRun.Happens` that they happened, with the block run once between the phases that lead into
it and out of it, and `BulkRun.ending` what the whole comes to. Main result:
`Connection.bulkInsert_disciplined`, of any block and so of every operation that inserts in bulk;
blocks within blocks are no special case.
-/

namespace FluentSql

variable {σ α β : Type}

/-! ### Requests and what comes of them -/

namespace Engine

def readRequest (name : Value) : Request :=
  .execute (.text ("PRAGMA " ++ name.display)) none

def writeRequest (name value : Value) : Request :=
  .execute (.text ("PRAGMA " ++ name.display ++ "=" ++ value.display)) none

def beginRequest : Request :=
  .execute (.text "BEGIN TRANSACTION") none

def commitRequest : Request :=
  .execute (.text "COMMIT") none

def rollbackRequest : Request :=
  .execute (.text "ROLLBACK") none

def closingRequest : Option FluentSql.Fault → Request
  | none => commitRequest
  | some _ => rollbackRequest

def openingRequests (tuned : List (Value × Value)) : List Request :=
  tuned.map (fun entry => writeRequest entry.1 entry.2) ++ [beginRequest]

namespace Attempt

/-- What an attempt comes to for those who made it. -/
def result (attempt : Attempt) : Except FluentSql.Fault Result :=
  attempt.outcome.mapError .engine

def fault? (attempt : Attempt) : Option FluentSql.Fault :=
  Connection.faultOf? attempt.result

/-- The value that the attempt to read a pragma gives: null if there is no row, none if the first
row is empty. -/
def reading (attempt : Attempt) : Except FluentSql.Fault Value := do
  match (← attempt.result).rows with
  | [] => return .null
  | [] :: _ => throw .emptyRow
  | ((_, value) :: _) :: _ => return value

def readFault? (attempt : Attempt) : Option FluentSql.Fault :=
  Connection.faultOf? attempt.reading

/-- The value read, null if there is none. -/
def value (attempt : Attempt) : Value :=
  match attempt.reading with
  | .ok value => value
  | .error _ => .null

end Attempt

/-- The requests are made one after the other, up to the first that comes to a fault. -/
inductive InTurn (fault? : Attempt → Option FluentSql.Fault) :
    List Request → List Attempt → Prop where
  | done : InTurn fault? [] []
  | stopped {attempt : Attempt} {fault : FluentSql.Fault} (later : List Request)
      (failed : fault? attempt = some fault) : InTurn fault? (attempt.request :: later) [attempt]
  | next {attempt : Attempt} {later : List Request} {attempts : List Attempt}
      (succeeded : fault? attempt = none) (rest : InTurn fault? later attempts) :
      InTurn fault? (attempt.request :: later) (attempt :: attempts)

namespace InTurn

variable {fault? : Attempt → Option FluentSql.Fault} {requests later : List Request}
  {attempts attempts' : List Attempt} {fault : FluentSql.Fault}

theorem request_mem (inTurn : InTurn fault? requests attempts) {attempt : Attempt}
    (member : attempt ∈ attempts) : attempt.request ∈ requests := by
  induction inTurn with
  | done => simp at member
  | stopped later _ =>
    rw [List.mem_singleton.mp member]
    exact List.mem_cons_self
  | next _ _ ih =>
    rcases List.mem_cons.mp member with rfl | member
    · exact List.mem_cons_self
    · exact List.mem_cons_of_mem _ (ih member)

/-- The last request is not made unless those before it were granted. -/
theorem succeeded_of_last {last : Request} (once : last ∉ requests)
    (inTurn : InTurn fault? (requests ++ [last]) attempts) {attempt : Attempt}
    (member : attempt ∈ attempts) (request : attempt.request = last)
    (granted : fault? attempt = none) : attempts.findSome? fault? = none := by
  induction requests generalizing attempts with
  | nil =>
    cases inTurn with
    -- A request that was not granted is the last, and this one was granted.
    | stopped _ failed => simp [List.mem_singleton.mp member ▸ granted] at failed
    | next succeeded rest =>
      cases rest
      simp [succeeded]
  | cons first rest ih =>
    rw [List.mem_cons, not_or] at once
    cases inTurn with
    | stopped _ failed => simp [List.mem_singleton.mp member ▸ granted] at failed
    | next succeeded inTurn =>
      rcases List.mem_cons.mp member with rfl | member
      -- The first request is another one.
      · exact absurd request.symm once.1
      · rw [List.findSome?_cons_of_isNone (by simp [succeeded])]
        exact ih once.2 inTurn member

theorem requests_eq (inTurn : InTurn fault? requests attempts)
    (succeeded : attempts.findSome? fault? = none) :
    attempts.map (·.request) = requests := by
  induction inTurn with
  | done => rfl
  | stopped later failed => simp [failed] at succeeded
  | next first rest ih =>
    rw [List.findSome?_cons_of_isNone (by simp [first])] at succeeded
    simp [ih succeeded]

theorem append (inTurn : InTurn fault? requests attempts)
    (succeeded : attempts.findSome? fault? = none) (rest : InTurn fault? later attempts') :
    InTurn fault? (requests ++ later) (attempts ++ attempts') := by
  induction inTurn with
  | done => exact rest
  | stopped later failed => simp [failed] at succeeded
  | next first _ ih =>
    rw [List.findSome?_cons_of_isNone (by simp [first])] at succeeded
    exact .next first (ih succeeded)

theorem append_of_failed (inTurn : InTurn fault? requests attempts)
    (failed : attempts.findSome? fault? = some fault) (later : List Request) :
    InTurn fault? (requests ++ later) attempts := by
  induction inTurn with
  | done => simp at failed
  | stopped rest first => exact .stopped _ first
  | next first _ ih =>
    rw [List.findSome?_cons_of_isNone (by simp [first])] at failed
    exact .next first (ih failed)

theorem single (attempt : Attempt) : InTurn fault? [attempt.request] [attempt] := by
  cases failed : fault? attempt with
  | none => exact .next failed .done
  | some fault => exact .stopped [] failed

end InTurn

end Engine

open Engine

/-! ### Runs -/

def notNull (values : List (Value × Value)) : List (Value × Value) :=
  values.filter fun entry => !entry.2 matches .null

theorem notNull_cons {name value : Value} (kept : value ≠ .null) (rest : List (Value × Value)) :
    notNull ((name, value) :: rest) = (name, value) :: notNull rest := by
  cases value with
  | null => exact absurd rfl kept
  | _ => rfl

/-- What the reading of the tuned pragmas gives. -/
def readings (tuned : List (Value × Value)) (reads : List Attempt) : List (Value × Value) :=
  List.zipWith (fun entry read => (entry.1, read.value)) tuned reads

/-- The report of a pragma that could not be written back. -/
def restoreWarning (name value : Value) (fault : Fault) : LogEntry :=
  ⟨.warning, .session,
    "Could not restore pragma " ++ name.display ++ "=" ++ value.literal ++ ": " ++ fault.message⟩

def restoreWarnings (saved : List (Value × Value)) (restores : List Attempt) : List LogEntry :=
  (List.zipWith (fun entry restore => (restore.fault?.map (restoreWarning entry.1 entry.2)).toList)
    saved restores).flatten

/-- An insertion in bulk: what was asked of the engine in each phase, and how the block ended if it
was entered. -/
structure BulkRun (α : Type) where
  reads : List Attempt
  opening : List Attempt
  block? : Option (Connection.BlockEnd α)
  closing? : Option Attempt
  restores : List Attempt

namespace BulkRun

def readFault? (r : BulkRun α) : Option Fault :=
  r.reads.findSome? Attempt.readFault?

def openingFault? (r : BulkRun α) : Option Fault :=
  r.opening.findSome? Attempt.fault?

/-- The fault of the whole: that of a failed read, write or begin, that of a failed commit or
rollback, or that of the block. It does not depend on what is restored. -/
def fault? (r : BulkRun α) : Option Fault :=
  r.readFault?.or <| r.openingFault?.or <| (r.closing?.bind Attempt.fault?).or <|
    r.block?.bind (·.fault?)

def ending (r : BulkRun α) : Connection.GuardedEnd α :=
  { product? := r.block?.map (·.product), fault? := r.fault? }

/-- The tuned pragmas that were read as something else than null. -/
def saved (tuned : List (Value × Value)) (r : BulkRun α) : List (Value × Value) :=
  notNull (readings tuned r.reads)

/-- All attempts, given those of the block. -/
def attempts (r : BulkRun α) (inside : List Attempt) : List Attempt :=
  r.reads ++ r.opening ++ (if r.block?.isSome then inside else []) ++
    (r.closing?.toList ++ r.restores)

/-- The requests are those of an insertion in bulk with the given tuning. -/
structure Disciplined (tuned : List (Value × Value)) (r : BulkRun α) : Prop where
  reads : InTurn Attempt.readFault? (tuned.map fun entry => readRequest entry.1) r.reads
  unread : r.readFault? ≠ none → r.opening = [] ∧ r.restores = []
  opening : r.readFault? = none → InTurn Attempt.fault? (openingRequests tuned) r.opening
  block : r.block?.isSome ↔ r.readFault? = none ∧ r.openingFault? = none
  closing : r.closing?.map (·.request) = r.block?.map fun ended => closingRequest ended.fault?
  restores : r.readFault? = none →
    r.restores.map (·.request) = (r.saved tuned).map fun entry => writeRequest entry.1 entry.2

/-- The block is run once from one session to another, if it is entered. -/
def Between (block : Effect σ (Connection.BlockEnd α)) (block? : Option (Connection.BlockEnd α))
    (entered left : Session σ) : Prop :=
  match block? with
  | none => left = entered
  | some ended => block.run entered = (ended, left)

/-- The run happens, from `s` to `after`: the block is entered in one session and left in another,
and every failed restore is reported, but nothing else is. -/
structure Happens (tuned : List (Value × Value)) (r : BulkRun α) (e : Engine σ)
    (block : Effect σ (Connection.BlockEnd α)) (s entered left after : Session σ) : Prop where
  entry : s.Leads e (r.reads ++ r.opening) [] entered
  block : Between block r.block? entered left
  exit : left.Leads e (r.closing?.toList ++ r.restores)
    (restoreWarnings (r.saved tuned) r.restores) after

end BulkRun

/-! ### Results of acts -/

def concluded (fault? : Option Fault) (a : α) : Except Fault α :=
  match fault? with
  | none => .ok a
  | some fault => .error fault

theorem faultOf_concluded (fault? : Option Fault) (a : α) :
    Connection.faultOf? (concluded fault? a) = fault? := by
  cases fault? <;> rfl

theorem concluded_faultOf (outcome : Except Fault β) (a : α) :
    concluded (Connection.faultOf? outcome) a = outcome.map fun _ => a := by
  cases outcome <;> rfl

/-! ### Requests -/

theorem Engine.request_run (e : Engine σ) (request : Request) (s : Session σ) :
    ∃ attempt t, (e.request request).run.run s = (attempt.result, t) ∧
      attempt.request = request ∧ s.Leads e [attempt] [] t := by
  refine ⟨_, _, ?_, rfl, .ask e request s⟩
  change (((e.ask request).run s).1.mapError Fault.engine, _) = _
  rw [congrArg Prod.fst (e.ask_run request s)]
  rfl

/-- What comes next is done if the request is granted. -/
theorem Engine.request_bind_run (e : Engine σ) (request : Request) (next : Result → Act σ β)
    (s : Session σ) :
    ∃ attempt t, (e.request request >>= next).run.run s =
        (match attempt.result with
          | .error fault => (.error fault, t)
          | .ok result => (next result).run.run t) ∧
      attempt.request = request ∧ s.Leads e [attempt] [] t := by
  obtain ⟨attempt, t, run, asked, leads⟩ := e.request_run request s
  refine ⟨attempt, t, ?_, asked, leads⟩
  cases outcome : attempt.result with
  | error fault =>
    rw [outcome] at run
    exact Act.run_bind_error run
  | ok result =>
    rw [outcome] at run
    exact Act.run_bind_ok run

namespace Connection

theorem execute_pure_run (c : Connection σ) (sql : Value) (params : Option (List Value))
    (f : Result → β) (s : Session σ) :
    ∃ attempt t, (c.execute sql params >>= fun result => pure (f result)).run.run s =
        (attempt.result.map f, t) ∧
      attempt.request = .execute sql params ∧ s.Leads c.engine [attempt] [] t := by
  obtain ⟨attempt, t, run, request, leads⟩ :=
    c.engine.request_bind_run (.execute sql params) (fun result => pure (f result)) s
  refine ⟨attempt, t, run.trans ?_, request, leads⟩
  cases attempt.result with
  | error fault => rfl
  | ok result => rfl

theorem pragmaRows_run (c : Connection σ) (pragma : Value) (s : Session σ) :
    ∃ attempt t, (c.pragmaRows pragma).run.run s = (attempt.result.map (·.rows), t) ∧
      attempt.request = readRequest pragma ∧ s.Leads c.engine [attempt] [] t :=
  c.execute_pure_run _ none (·.rows) s

theorem pragmaValue_run (c : Connection σ) (name : Value) (s : Session σ) :
    ∃ attempt t, (c.pragmaValue name).run.run s = (attempt.reading, t) ∧
      attempt.request = readRequest name ∧ s.Leads c.engine [attempt] [] t := by
  obtain ⟨attempt, t, run, request, leads⟩ := c.pragmaRows_run name s
  refine ⟨attempt, t, ?_, request, leads⟩
  unfold pragmaValue Attempt.reading
  cases outcome : attempt.result with
  | error fault =>
    rw [outcome] at run
    exact Act.run_bind_error run
  | ok result =>
    rw [outcome] at run
    rw [Act.run_bind_ok run]
    obtain ⟨rows, _, _⟩ := result
    rcases rows with _ | ⟨_ | ⟨⟨_, value⟩, _⟩, _⟩ <;> rfl

theorem writePragma_run (c : Connection σ) (name value : Value) (s : Session σ) :
    ∃ attempt t, (c.writePragma name value).run.run s = (concluded attempt.fault? (), t) ∧
      attempt.request = writeRequest name value ∧ s.Leads c.engine [attempt] [] t := by
  obtain ⟨attempt, t, run, request, leads⟩ :=
    c.execute_pure_run (.text ("PRAGMA " ++ name.display ++ "=" ++ value.display)) none
      (fun _ => ()) s
  refine ⟨attempt, t, ?_, request, leads⟩
  rw [Attempt.fault?, concluded_faultOf]
  exact run

/-! ### Phases -/

theorem readTuned_run (c : Connection σ) (tuned : List (Value × Value)) (s : Session σ) :
    ∃ reads t, (c.readTuned tuned).run.run s =
        (concluded (reads.findSome? Attempt.readFault?) (readings tuned reads), t) ∧
      InTurn Attempt.readFault? (tuned.map fun entry => readRequest entry.1) reads ∧
      s.Leads c.engine reads [] t := by
  induction tuned generalizing s with
  | nil => exact ⟨[], s, rfl, .done, .refl s⟩
  | cons entry rest ih =>
    obtain ⟨name, _⟩ := entry
    obtain ⟨attempt, t, run, request, leads⟩ := c.pragmaValue_run name s
    rw [List.map_cons, ← request]
    unfold readTuned
    cases reading : attempt.reading with
    | error fault =>
      have failed : attempt.readFault? = some fault := congrArg faultOf? reading
      refine ⟨[attempt], t, ?_, .stopped _ failed, leads⟩
      rw [reading] at run
      rw [Act.run_bind_error run, List.findSome?_cons, failed]
      rfl
    | ok value =>
      have succeeded : attempt.readFault? = none := congrArg faultOf? reading
      obtain ⟨reads, u, runs, inTurn, leads'⟩ := ih t
      refine ⟨attempt :: reads, u, ?_, .next succeeded inTurn, leads.trans leads'⟩
      rw [reading] at run
      rw [Act.run_bind_ok run, List.findSome?_cons, succeeded]
      have value_eq : attempt.value = value := by simp [Attempt.value, reading]
      -- Whether the reading goes on to the end is up to the later reads.
      cases fault : reads.findSome? Attempt.readFault? with
      | some fault =>
        rw [fault] at runs
        exact Act.run_bind_error runs
      | none =>
        rw [fault] at runs
        rw [Act.run_bind_ok runs]
        simp only [readings, List.zipWith_cons_cons, value_eq]
        rfl

theorem writeAll_run (c : Connection σ) (entries : List (Value × Value)) (s : Session σ) :
    ∃ writes t, (c.writeAll entries).run.run s =
        (concluded (writes.findSome? Attempt.fault?) (), t) ∧
      InTurn Attempt.fault? (entries.map fun entry => writeRequest entry.1 entry.2) writes ∧
      s.Leads c.engine writes [] t := by
  induction entries generalizing s with
  | nil => exact ⟨[], s, rfl, .done, .refl s⟩
  | cons entry rest ih =>
    obtain ⟨name, value⟩ := entry
    obtain ⟨attempt, t, run, request, leads⟩ := c.writePragma_run name value s
    rw [List.map_cons, ← request]
    unfold writeAll
    cases ended : attempt.fault? with
    -- The writes after this one are not attempted.
    | some fault =>
      refine ⟨[attempt], t, ?_, .stopped _ ended, leads⟩
      rw [ended] at run
      rw [Act.run_bind_error run, List.findSome?_cons, ended]
      rfl
    | none =>
      obtain ⟨writes, u, runs, inTurn, leads'⟩ := ih t
      refine ⟨attempt :: writes, u, ?_, .next ended inTurn, leads.trans leads'⟩
      rw [ended] at run
      rw [Act.run_bind_ok run, List.findSome?_cons, ended]
      exact runs

def executeNoted (c : Connection σ) (sql message : String) : Act σ Unit := do
  let _ ← c.execute (.text sql) none
  Act.note .info message

theorem executeNoted_run (c : Connection σ) (sql message : String) (s : Session σ) :
    ∃ attempt t, (c.executeNoted sql message).run.run s = (concluded attempt.fault? (), t) ∧
      attempt.request = .execute (.text sql) none ∧ s.Leads c.engine [attempt] [] t := by
  obtain ⟨attempt, t, run, request, leads⟩ :=
    c.engine.request_bind_run (.execute (.text sql) none) (fun _ => Act.note .info message) s
  have ended : concluded attempt.fault? () = attempt.result.map fun _ => () :=
    concluded_faultOf _ _
  cases outcome : attempt.result with
  | error fault =>
    rw [outcome] at run ended
    exact ⟨attempt, t, ended ▸ run, request, leads⟩
  | ok result =>
    rw [outcome] at run ended
    exact ⟨attempt, t.note ⟨.info, .session, message⟩, ended ▸ run, request,
      leads.trans (.note ⟨.info, .session, message⟩ t)⟩

theorem begin_run (c : Connection σ) (tuned : List (Value × Value)) (s : Session σ) :
    ∃ opening t, (c.begin tuned).run.run s =
        (concluded (opening.findSome? Attempt.fault?) (), t) ∧
      InTurn Attempt.fault? (openingRequests tuned) opening ∧ s.Leads c.engine opening [] t := by
  obtain ⟨writes, t, run, inTurn, leads⟩ := c.writeAll_run tuned s
  unfold begin
  cases ended : writes.findSome? Attempt.fault? with
  -- The transaction is not begun.
  | some fault =>
    rw [ended] at run
    refine ⟨writes, t, ?_, inTurn.append_of_failed ended _, leads⟩
    rw [Act.run_bind_error run, ended]
    rfl
  | none =>
    rw [ended] at run
    obtain ⟨attempt, u, begun, request, leads'⟩ :=
      c.executeNoted_run "BEGIN TRANSACTION" ("Bulk insert started on " ++ c.path) t
    refine ⟨writes ++ [attempt], u, ?_, ?_, leads.trans leads'⟩
    · rw [Act.run_bind_ok run, List.findSome?_append, ended, List.findSome?_singleton]
      exact begun
    · change attempt.request = beginRequest at request
      rw [openingRequests, ← request]
      exact inTurn.append ended (.single attempt)

theorem finish_run (c : Connection σ) (fault? : Option Fault) (s : Session σ) :
    ∃ attempt t, (c.finish fault?).run.run s = (concluded (attempt.fault?.or fault?) (), t) ∧
      attempt.request = closingRequest fault? ∧ s.Leads c.engine [attempt] [] t := by
  cases fault? with
  | none =>
    obtain ⟨attempt, t, run, request, leads⟩ :=
      c.executeNoted_run "COMMIT" ("Bulk insert committed on " ++ c.path) s
    refine ⟨attempt, t, ?_, request, leads⟩
    rw [Option.or_none]
    exact run
  | some fault =>
    obtain ⟨attempt, t, run, request, leads⟩ :=
      c.executeNoted_run "ROLLBACK" ("Bulk insert rolled back on " ++ c.path) s
    refine ⟨attempt, t, ?_, request, leads⟩
    -- the block's fault comes up again once the rollback is noted
    have again : c.finish (some fault) =
        c.executeNoted "ROLLBACK" ("Bulk insert rolled back on " ++ c.path) >>=
          fun _ => throw fault := (bind_assoc ..).symm
    rw [again]
    cases ended : attempt.fault? with
    | none =>
      rw [ended] at run
      exact Act.run_bind_ok run
    | some closing =>
      rw [ended] at run
      exact Act.run_bind_error run

theorem restoreOne_run (c : Connection σ) (name value : Value) (s : Session σ) :
    ∃ attempt t, (c.restoreOne name value).run s = ((), t) ∧
      attempt.request = writeRequest name value ∧
      s.Leads c.engine [attempt] (attempt.fault?.map (restoreWarning name value)).toList t := by
  obtain ⟨attempt, t, run, request, leads⟩ := c.writePragma_run name value s
  unfold restoreOne
  cases ended : attempt.fault? with
  | none =>
    rw [ended] at run
    refine ⟨attempt, t, Effect.run_bind run, request, ?_⟩
    rw [ended]
    exact leads
  | some fault =>
    rw [ended] at run
    refine ⟨attempt, t.note (restoreWarning name value fault), Effect.run_bind run, request, ?_⟩
    rw [ended]
    -- The report is the only warning, and the restoring goes on.
    exact leads.trans (.note (restoreWarning name value fault) t)

theorem restore_cons (c : Connection σ) {name value : Value} (kept : value ≠ .null)
    (rest : List (Value × Value)) :
    c.restore ((name, value) :: rest) = c.restoreOne name value >>= fun _ => c.restore rest := by
  cases value with
  | null => exact absurd rfl kept
  | _ => rfl

theorem restore_run (c : Connection σ) (values : List (Value × Value)) (s : Session σ) :
    ∃ restores t, (c.restore values).run s = ((), t) ∧
      restores.map (·.request) = (notNull values).map (fun entry => writeRequest entry.1 entry.2) ∧
      s.Leads c.engine restores (restoreWarnings (notNull values) restores) t := by
  induction values generalizing s with
  | nil => exact ⟨[], s, rfl, rfl, .refl s⟩
  | cons entry rest ih =>
    obtain ⟨name, value⟩ := entry
    by_cases null : value = .null
    · -- passed over by the loop and by the list of what is kept
      subst null
      exact ih s
    · obtain ⟨attempt, t, run, request, leads⟩ := c.restoreOne_run name value s
      obtain ⟨restores, u, runs, requests, leads'⟩ := ih t
      rw [restore_cons c null, notNull_cons null]
      refine ⟨attempt :: restores, u, (Effect.run_bind run).trans runs, ?_, leads.trans leads'⟩
      rw [List.map_cons, List.map_cons, request, requests]

/-! ### The whole -/

theorem transact_run (c : Connection σ) (tuned : List (Value × Value))
    (block : Effect σ (BlockEnd α)) (s : Session σ) :
    ∃ (opening : List Attempt) (block? : Option (BlockEnd α)) (closing? : Option Attempt)
      (entered left after : Session σ),
      (c.transact tuned block).run s =
        ({ product? := block?.map (·.product)
           fault? := (opening.findSome? Attempt.fault?).or <| (closing?.bind Attempt.fault?).or <|
             block?.bind (·.fault?) }, after) ∧
      InTurn Attempt.fault? (openingRequests tuned) opening ∧
      (block?.isSome ↔ opening.findSome? Attempt.fault? = none) ∧
      closing?.map (·.request) = block?.map (fun ended => closingRequest ended.fault?) ∧
      s.Leads c.engine opening [] entered ∧ BulkRun.Between block block? entered left ∧
      left.Leads c.engine closing?.toList [] after := by
  obtain ⟨opening, entered, run, inTurn, leads⟩ := c.begin_run tuned s
  unfold transact
  cases begun : opening.findSome? Attempt.fault? with
  | some fault =>
    -- the block is not entered, and there is nothing to close
    rw [begun] at run
    refine ⟨opening, none, none, entered, entered, entered, ?_, inTurn, ?_, rfl, leads, rfl,
      .refl _⟩
    · rw [Effect.run_bind run, begun]
      rfl
    · simp [begun]
  | none =>
    rw [begun] at run
    rcases ran : block.run entered with ⟨ended, left⟩
    obtain ⟨attempt, after, finished, request, leads'⟩ := c.finish_run ended.fault? left
    refine ⟨opening, some ended, some attempt, entered, left, after, ?_, inTurn, ?_,
      congrArg some request, leads, ran, leads'⟩
    · rw [Effect.run_bind run, begun]
      simp only [concluded]
      rw [Effect.run_bind ran, Effect.run_bind finished, faultOf_concluded]
      rfl
    · simp [begun]

theorem bulkInsertWith_run (c : Connection σ) (tuned : List (Value × Value))
    (block : Effect σ (BlockEnd α)) (s : Session σ) :
    ∃ (r : BulkRun α) (entered left after : Session σ),
      r.Disciplined tuned ∧ r.Happens tuned c.engine block s entered left after ∧
      (c.bulkInsertWith tuned block).run s = (r.ending, after) := by
  obtain ⟨reads, t, run, inTurn, leads⟩ := c.readTuned_run tuned s
  unfold bulkInsertWith
  cases failed : reads.findSome? Attempt.readFault? with
  | some fault =>
    -- nothing was set, so that nothing is restored
    rw [failed] at run
    let r : BulkRun α := { reads, opening := [], block? := none, closing? := none, restores := [] }
    have unread : r.readFault? = some fault := failed
    refine ⟨r, t, t, t, ⟨inTurn, fun _ => ⟨rfl, rfl⟩, ?_, ?_, rfl, ?_⟩, ⟨?_, rfl, ?_⟩, ?_⟩
    · simp [unread]
    · simp [unread, r]
    · simp [unread]
    · simpa [r] using leads
    · have silent : restoreWarnings (r.saved tuned) [] = [] := by simp [restoreWarnings]
      exact silent ▸ .refl t
    · rw [Effect.run_bind run, BulkRun.ending, BulkRun.fault?, unread]
      rfl
  | none =>
    rw [failed] at run
    obtain ⟨opening, block?, closing?, entered, left, u, transacted, opens, enters, closes, entry,
      between, exit⟩ := c.transact_run tuned block t
    obtain ⟨restores, after, restored, requests, leads'⟩ := c.restore_run (readings tuned reads) u
    let r : BulkRun α := { reads, opening, block?, closing?, restores }
    have read : r.readFault? = none := failed
    refine ⟨r, entered, left, after,
      ⟨inTurn, fun unread => absurd read unread, fun _ => opens, ?_, closes, fun _ => requests⟩,
      ⟨leads.trans entry, between, exit.trans leads'⟩, ?_⟩
    · exact enters.trans (iff_and_self.mpr fun _ => read)
    · rw [Effect.run_bind run, BulkRun.ending, BulkRun.fault?, read]
      simp only [concluded]
      rw [Effect.run_bind transacted, Effect.run_bind restored]
      rfl

end Connection

/-! ### Operations that insert in bulk -/

/-- What happens under watch happens, and the record gains the attempts of all phases. -/
theorem BulkRun.Happens.unwatched {tuned : List (Value × Value)} {r : BulkRun α} {e : Engine σ}
    {block : Effect σ (Connection.BlockEnd α)}
    {block' : Effect (Engine.Watched σ) (Connection.BlockEnd α)}
    {s entered left after : Session (Engine.Watched σ)} (watches : Effect.Watches e block block')
    (happens : r.Happens tuned e.watched block' s entered left after) :
    r.Happens tuned e block s.unwatched entered.unwatched left.unwatched after.unwatched ∧
      after.engine.attempts = s.engine.attempts ++
        r.attempts (block'.run entered.unwatched.watched).2.engine.attempts := by
  obtain ⟨entry, between, exit⟩ := happens
  -- the record before the block is that of the entry, and the block adds to it what it would to none
  have recorded := watches.attempts entered
  rw [entry.record] at recorded
  rw [exit.record]
  unfold Between at between
  unfold attempts
  cases ended : r.block? with
  | none =>
    simp only [ended] at between
    subst between
    refine ⟨⟨entry.unwatched, ?_, exit.unwatched⟩, ?_⟩
    · rw [ended]
      rfl
    · rw [entry.record]
      simp
  | some blockEnd =>
    simp only [ended] at between
    have run := watches.run entered
    rw [between] at run recorded
    refine ⟨⟨entry.unwatched, ?_, exit.unwatched⟩, ?_⟩
    · rw [ended]
      exact run
    · rw [recorded]
      simp

namespace Connection

theorem bulkInsert_run (c : Connection σ) {tuned : List (Value × Value)}
    (tuning : c.options.tuning = .pragmas tuned) (block : Effect σ (BlockEnd α)) (s : Session σ) :
    ∃ (r : BulkRun α) (entered left after : Session σ),
      r.Disciplined tuned ∧ r.Happens tuned c.engine block s entered left after ∧
      (c.bulkInsert block).run s = (r.ending, after) := by
  rw [bulkInsert, tuning]
  exact c.bulkInsertWith_run tuned block s

/-- What is asked of the engine when a block is run in bulk, given the block under watch. -/
theorem bulkInsert_asked (c : Connection σ) {tuned : List (Value × Value)}
    (tuning : c.options.tuning = .pragmas tuned) {block : Effect σ (BlockEnd α)}
    {block' : Effect (Watched σ) (BlockEnd α)} (watches : Effect.Watches c.engine block block')
    (s : Session σ) :
    ∃ (r : BulkRun α) (entered left after : Session σ),
      r.Disciplined tuned ∧ r.Happens tuned c.engine block s entered left after ∧
      (c.bulkInsert block).run s = (r.ending, after) ∧
      (c.watched.bulkInsert block').asked s = r.attempts (block'.asked entered) ∧
      c.engine.Answers s.engine ((c.watched.bulkInsert block').asked s) after.engine := by
  obtain ⟨r, entered, left, after, disciplined, happens, run⟩ :=
    c.watched.bulkInsert_run tuning block' s.watched
  obtain ⟨happens, record⟩ := happens.unwatched watches
  have whole := c.bulkInsert_watches watches
  have plain := whole.run s.watched
  rw [run] at plain
  refine ⟨r, entered.unwatched, left.unwatched, after.unwatched, disciplined, happens, plain, ?_, ?_⟩
  · rw [Effect.asked, run]
    exact record
  · have answered := whole.answered s
    rwa [show (c.bulkInsert block).run s = _ from plain] at answered

end Connection

/-! ### A file with two tuned pragmas, one of which has no value to go back to -/

def looseTuning : List (Value × Value) :=
  [(.text "synchronous", .text "OFF"), (.text "temp_store", .text "MEMORY")]

def looseFile : Connection Script :=
  { path := "f.db", options := { tuning := .pragmas looseTuning }, engine := Script.engine }

def insertRow : Operation :=
  .task (.fetch .run (.text "INSERT INTO t VALUES (1)") (.tuple []))

def halfDone : List Operation :=
  [insertRow, .task (.raise "boom")]

namespace Connection

/-- A block that goes on after a row, whether or not the row was refused. -/
def insertTwice (c : Connection σ) : Effect σ (BlockEnd Unit) := do
  let _ ← c.operate insertRow
  let _ ← c.operate insertRow
  return { product := (), fault? := none }

theorem insertTwice_watches (c : Connection σ) :
    Effect.Watches c.engine c.insertTwice c.watched.insertTwice where
  answers start :=
    have row := (c.operate_watches insertRow).answers start
    row.bind fun _ => row.bind fun _ => .pure _
  record seen :=
    have row := (c.operate_watches insertRow).record seen
    row.bind fun _ => row.bind fun _ => .pure _

end Connection

end FluentSql
