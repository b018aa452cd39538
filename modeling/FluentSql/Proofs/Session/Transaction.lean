import FluentSql.Proofs.Session.BulkInsert
import Mathlib.Data.List.Basic

/-!
# Transactions that are left open

When the transaction of an insertion in bulk is still open at the end. That is so exactly if its
commit fails: a block that fails is rolled back and every other path closes the transaction or never
began it, but after a failed commit nothing is asked for except the pragmas that are restored. Main
result: `Connection.left_open_iff_commit_failed`.
-/

namespace FluentSql

open Engine

variable {σ α : Type}

namespace Engine

namespace Attempt

def Begins (attempt : Attempt) : Prop :=
  attempt.request = beginRequest ∧ attempt.fault? = none

/-- A commit is granted, or a rollback is asked for. -/
def Closes (attempt : Attempt) : Prop :=
  attempt.request = commitRequest ∧ attempt.fault? = none ∨ attempt.request = rollbackRequest

def IsPragma (attempt : Attempt) : Prop :=
  ∃ text, attempt.request = .execute (.text ("PRAGMA " ++ text)) none

/-- A pragma is no statement that begins with another letter. -/
theorem IsPragma.request_ne {attempt : Attempt} (pragma : attempt.IsPragma) {sql : String}
    (other : sql.toList.head? ≠ some 'P') : attempt.request ≠ .execute (.text sql) none := by
  obtain ⟨text, request⟩ := pragma
  intro same
  rw [request, Request.execute.injEq, Value.text.injEq] at same
  apply other
  rw [← same.1]
  simp

theorem IsPragma.not_begins {attempt : Attempt} (pragma : attempt.IsPragma) : ¬ attempt.Begins :=
  fun begins => pragma.request_ne (by decide) begins.1

theorem IsPragma.not_closes {attempt : Attempt} (pragma : attempt.IsPragma) :
    ¬ attempt.Closes := by
  rintro (⟨commit, _⟩ | rollback)
  · exact pragma.request_ne (by decide) commit
  · exact pragma.request_ne (by decide) rollback

theorem closing_not_begins {attempt : Attempt} {fault? : Option FluentSql.Fault}
    (request : attempt.request = closingRequest fault?) : ¬ attempt.Begins := by
  intro begins
  have same := request.symm.trans begins.1
  cases fault? <;> simp [closingRequest, commitRequest, rollbackRequest, beginRequest] at same

end Attempt

/-- A transaction is begun, after which no commit is granted and no rollback asked for. -/
def LeftOpen (attempts : List Attempt) : Prop :=
  ∃ before begun after, attempts = before ++ begun :: after ∧ begun.Begins ∧
    ∀ attempt ∈ after, ¬ attempt.Closes

/-- What is begun later is left open, or what was begun before and is not closed since. -/
theorem leftOpen_append (first later : List Attempt) :
    LeftOpen (first ++ later) ↔
      LeftOpen later ∨ LeftOpen first ∧ ∀ attempt ∈ later, ¬ attempt.Closes := by
  constructor
  · rintro ⟨before, begun, after, split, begins, quiet⟩
    -- What was begun stands in one of the two parts, with all that follows it.
    rcases List.append_eq_append_iff.mp split with ⟨middle, _, tail⟩ | ⟨middle, head, tail⟩
    · exact .inl ⟨middle, begun, after, tail, begins, quiet⟩
    · cases middle with
      | nil => exact .inl ⟨[], begun, after, tail.symm, begins, quiet⟩
      | cons other middle =>
        obtain ⟨rfl, rfl⟩ := List.cons.inj tail
        refine .inr ⟨⟨before, begun, middle, head, begins, fun attempt member => ?_⟩,
          fun attempt member => ?_⟩
        · exact quiet attempt (List.mem_append_left _ member)
        · exact quiet attempt (List.mem_append_right _ member)
  · rintro (⟨before, begun, after, rfl, begins, quiet⟩ |
      ⟨⟨before, begun, after, rfl, begins, quiet⟩, later_quiet⟩)
    · exact ⟨first ++ before, begun, after, (List.append_assoc ..).symm, begins, quiet⟩
    · refine ⟨before, begun, after ++ later, by simp, begins, fun attempt member => ?_⟩
      rcases List.mem_append.mp member with member | member
      · exact quiet attempt member
      · exact later_quiet attempt member

theorem not_leftOpen {attempts : List Attempt}
    (never : ∀ attempt ∈ attempts, ¬ attempt.Begins) : ¬ LeftOpen attempts := by
  rintro ⟨before, begun, after, rfl, begins, _⟩
  exact never begun (by simp) begins

theorem leftOpen_single {attempt : Attempt} (begins : attempt.Begins) : LeftOpen [attempt] :=
  ⟨[], attempt, [], rfl, begins, by simp⟩

theorem isPragma_of_write {attempt : Attempt} {name value : Value}
    (request : attempt.request = writeRequest name value) : attempt.IsPragma :=
  ⟨name.display ++ "=" ++ value.display, by
    rw [request, writeRequest, String.append_assoc, String.append_assoc, String.append_assoc]⟩

end Engine

namespace BulkRun.Disciplined

variable {tuned : List (Value × Value)} {r : BulkRun α} (disciplined : r.Disciplined tuned)

include disciplined

theorem isPragma_of_mem_reads {attempt : Attempt} (member : attempt ∈ r.reads) :
    attempt.IsPragma := by
  obtain ⟨entry, _, request⟩ := List.mem_map.mp (disciplined.reads.request_mem member)
  exact ⟨_, request.symm⟩

theorem write_of_mem_restores {attempt : Attempt} (member : attempt ∈ r.restores) :
    ∃ name value, attempt.request = writeRequest name value := by
  by_cases read : r.readFault? = none
  · have request := List.mem_map_of_mem (f := (·.request)) member
    rw [disciplined.restores read] at request
    obtain ⟨entry, _, request⟩ := List.mem_map.mp request
    exact ⟨_, _, request.symm⟩
  · rw [(disciplined.unread read).2] at member
    simp at member

theorem isPragma_of_mem_restores {attempt : Attempt} (member : attempt ∈ r.restores) :
    attempt.IsPragma := by
  obtain ⟨_, _, request⟩ := disciplined.write_of_mem_restores member
  exact isPragma_of_write request

theorem mem_opening {attempt : Attempt} (member : attempt ∈ r.opening) :
    attempt.IsPragma ∨ attempt.request = beginRequest := by
  by_cases read : r.readFault? = none
  · rcases List.mem_append.mp ((disciplined.opening read).request_mem member) with write | begins
    · obtain ⟨entry, _, request⟩ := List.mem_map.mp write
      exact .inl (isPragma_of_write request.symm)
    · exact .inr (List.mem_singleton.mp begins)
  · rw [(disciplined.unread read).1] at member
    simp at member

/-- If the block is entered, the transaction has begun, and nothing follows in the opening. -/
theorem leftOpen_opening (entered : r.block?.isSome) : LeftOpen r.opening := by
  obtain ⟨read, opened⟩ := disciplined.block.mp entered
  -- all requests of the opening were made, the last of which begins the transaction
  have requests := (disciplined.opening read).requests_eq opened
  obtain ⟨writes, last, split, _, request⟩ := List.map_eq_append_iff.mp requests
  obtain ⟨begun, rest, rfl, begins, nothing⟩ := List.map_eq_cons_iff.mp request
  obtain rfl := List.map_eq_nil_iff.mp nothing
  have granted : begun.fault? = none := List.findSome?_eq_none_iff.mp opened begun (by simp [split])
  rw [split]
  exact (leftOpen_append _ _).mpr (.inl (leftOpen_single ⟨begins, granted⟩))

/-- The transaction begins only if all writes were granted, so that the block is entered. -/
theorem entered_of_begins {attempt : Attempt} (member : attempt ∈ r.opening)
    (begins : attempt.Begins) : r.block?.isSome := by
  by_cases read : r.readFault? = none
  · -- it is begun last, so that all writes were granted before
    refine disciplined.block.mpr ⟨read, ?_⟩
    refine (disciplined.opening read).succeeded_of_last ?_ member begins.1 begins.2
    intro write
    obtain ⟨entry, _, request⟩ := List.mem_map.mp write
    exact (isPragma_of_write (begins.1.trans request.symm)).not_begins begins
  · rw [(disciplined.unread read).1] at member
    simp at member

theorem closing_request {closing : Attempt} (closes : r.closing? = some closing) :
    ∃ ended, r.block? = some ended ∧ closing.request = closingRequest ended.fault? := by
  have request := disciplined.closing
  rw [closes, Option.map_some, eq_comm, Option.map_eq_some_iff] at request
  obtain ⟨ended, entered, request⟩ := request
  exact ⟨ended, entered, request.symm⟩

theorem closing_of_entered {ended : Connection.BlockEnd α} (entered : r.block? = some ended) :
    ∃ closing, r.closing? = some closing ∧ closing.request = closingRequest ended.fault? := by
  have request := disciplined.closing
  rw [entered, Option.map_some, Option.map_eq_some_iff] at request
  exact request

theorem tail_not_begins {attempt : Attempt} (member : attempt ∈ r.closing?.toList ++ r.restores) :
    ¬ attempt.Begins := by
  rcases List.mem_append.mp member with closes | restore
  · obtain ⟨_, _, request⟩ := disciplined.closing_request (Option.mem_toList.mp closes)
    exact Attempt.closing_not_begins request
  · exact (disciplined.isPragma_of_mem_restores restore).not_begins

theorem entered_of_leftOpen (leftOpen : LeftOpen (r.reads ++ r.opening)) : r.block?.isSome := by
  rcases (leftOpen_append _ _).mp leftOpen with ⟨_, begun, _, split, begins, _⟩ | ⟨early, _⟩
  · exact disciplined.entered_of_begins (by simp [split]) begins
  · exact absurd early <|
      not_leftOpen fun _ member => (disciplined.isPragma_of_mem_reads member).not_begins

/-- A transaction that is left open is one whose commit failed. -/
theorem commit_failed {inside : List Attempt} (leftOpen : LeftOpen (r.attempts inside)) :
    ∃ fault, r.closing? = some ⟨commitRequest, .error fault⟩ := by
  unfold BulkRun.attempts at leftOpen
  rcases (leftOpen_append _ _).mp leftOpen with inTail | ⟨earlier, quiet⟩
  · exact absurd inTail (not_leftOpen fun _ => disciplined.tail_not_begins)
  have entered : r.block?.isSome := by
    by_contra out
    rw [if_neg out, List.append_nil] at earlier
    exact out (disciplined.entered_of_leftOpen earlier)
  obtain ⟨ended, entered⟩ := Option.isSome_iff_exists.mp entered
  obtain ⟨closing, closes, request⟩ := disciplined.closing_of_entered entered
  have unclosed : ¬ closing.Closes := quiet closing (by simp [closes])
  obtain ⟨_, outcome⟩ := closing
  -- neither a rollback nor a commit that was granted leaves it open
  cases failed : ended.fault? with
  | some fault =>
    rw [failed] at request
    exact absurd (.inr request) unclosed
  | none =>
    rw [failed] at request
    obtain rfl : _ = commitRequest := request
    cases outcome with
    | ok result => exact absurd (.inl ⟨rfl, rfl⟩) unclosed
    | error fault => exact ⟨fault, closes⟩

theorem leftOpen_of_commit_failed {inside : List Attempt} {fault : Engine.Fault}
    (quiet : ∀ attempt ∈ inside, ¬ attempt.Closes)
    (closes : r.closing? = some ⟨commitRequest, .error fault⟩) : LeftOpen (r.attempts inside) := by
  obtain ⟨ended, entered, _⟩ := disciplined.closing_request closes
  have entered : r.block?.isSome := by simp [entered]
  have opened : LeftOpen (r.reads ++ r.opening) :=
    (leftOpen_append _ _).mpr (.inl (disciplined.leftOpen_opening entered))
  rw [BulkRun.attempts, if_pos entered]
  refine (leftOpen_append _ _).mpr (.inr ⟨(leftOpen_append _ _).mpr (.inr ⟨opened, quiet⟩), ?_⟩)
  intro attempt member
  -- What follows is the commit that failed and the pragmas that are restored.
  rcases List.mem_append.mp member with closing | restore
  · rw [closes, Option.toList_some, List.mem_singleton] at closing
    subst closing
    rintro (⟨_, granted⟩ | rollback)
    · cases granted
    · simp [commitRequest, rollbackRequest] at rollback
  · exact (disciplined.isPragma_of_mem_restores restore).not_closes

/-- No commit is asked for before the block is left. -/
theorem request_ne_commit {inside : List Attempt}
    (quiet : ∀ attempt ∈ inside, attempt.request ≠ commitRequest) {attempt : Attempt}
    (member : attempt ∈ r.reads ++ r.opening ++ (if r.block?.isSome then inside else [])) :
    attempt.request ≠ commitRequest := by
  rw [List.mem_append, List.mem_append] at member
  rcases member with (read | opening) | inner
  · exact (disciplined.isPragma_of_mem_reads read).request_ne (by decide)
  · rcases disciplined.mem_opening opening with pragma | begins
    · exact pragma.request_ne (by decide)
    · rw [begins]
      simp [beginRequest, commitRequest]
  · split at inner
    · exact quiet attempt inner
    · simp at inner

/-- Unless the block commits, a commit that fails is what closes the run, and after it there is
nothing but what is restored. -/
theorem after_failed_commit {inside before after : List Attempt} {fault : Engine.Fault}
    (quiet : ∀ attempt ∈ inside, attempt.request ≠ commitRequest)
    (split : r.attempts inside = before ++ ⟨commitRequest, .error fault⟩ :: after) :
    r.closing? = some ⟨commitRequest, .error fault⟩ ∧ after = r.restores := by
  have late : ∀ attempt ∈ r.restores, attempt.request ≠ commitRequest :=
    fun _ member => (disciplined.isPragma_of_mem_restores member).request_ne (by decide)
  unfold BulkRun.attempts at split
  cases closes : r.closing? with
  | none =>
    -- without a closing there is no commit at all
    rw [closes, Option.toList_none, List.nil_append] at split
    have member : ⟨commitRequest, .error fault⟩ ∈ _ ++ r.restores :=
      split ▸ List.mem_append_right before List.mem_cons_self
    rcases List.mem_append.mp member with member | member
    · exact absurd rfl (disciplined.request_ne_commit quiet member)
    · exact absurd rfl (late _ member)
  | some closing =>
    rw [closes, Option.toList_some, List.singleton_append] at split
    obtain ⟨_, rfl, rfl⟩ := (List.append_cons_inj_of_notMem
      (fun member => disciplined.request_ne_commit quiet member rfl)
      (fun member => late _ member rfl)).mp split
    exact ⟨rfl, rfl⟩

theorem fault_of_commit {fault : Engine.Fault}
    (closes : r.closing? = some ⟨commitRequest, .error fault⟩) : r.fault? = some (.engine fault) := by
  obtain ⟨ended, entered, _⟩ := disciplined.closing_request closes
  obtain ⟨read, opened⟩ := disciplined.block.mp (by simp [entered])
  rw [BulkRun.fault?, read, opened, closes]
  rfl

end BulkRun.Disciplined

/-- Wherever it begins, what is done under watch asks for no commit and no rollback of its own. -/
def Effect.Quiet (y : Effect (Watched σ) α) : Prop :=
  ∀ s, ∀ attempt ∈ y.asked s,
    attempt.request ≠ commitRequest ∧ attempt.request ≠ rollbackRequest

namespace Connection

def Quiet (c : Connection σ) (block : List Operation) : Prop :=
  (c.watched.operateAll block).Quiet

theorem operate_fetch_run (c : Connection σ) (fetch : Fetch) (sql : Value) {params : Value}
    {given : Option (List Value)} (read : parametersOf params = .ok given) (s : Session σ) :
    ∃ attempt t, (c.operate (.task (.fetch fetch sql params))).run s =
        ({ outcome := (attempt.result.map (reply · fetch)).map .reply }, t) ∧
      attempt.request = .execute sql given ∧ s.Leads c.engine [attempt] [] t := by
  obtain ⟨attempt, t, run, request, leads⟩ := c.execute_pure_run sql given (reply · fetch) s
  refine ⟨attempt, t, ?_, request, leads⟩
  have fetched : (c.fetch fetch sql params).run.run s = (attempt.result.map (reply · fetch), t) := by
    unfold Connection.fetch readParameters
    rw [read]
    exact run
  have performed : (c.perform (.fetch fetch sql params)).run.run s =
      ((attempt.result.map (reply · fetch)).map .reply, t) := by
    rw [perform, ExceptT.run_map, StateT.run_map, fetched]
    rfl
  rw [operate]
  exact Effect.run_bind performed

theorem blockAttempts_statement (c : Connection σ) (fetch : Fetch) (sql : Value) {params : Value}
    {given : Option (List Value)} (read : parametersOf params = .ok given) (s : Session σ) :
    ∃ attempt, c.blockAttempts [.task (.fetch fetch sql params)] s = [attempt] ∧
      attempt.request = .execute sql given := by
  obtain ⟨attempt, t, operated, request, leads⟩ :=
    c.watched.operate_fetch_run fetch sql read s.watched
  refine ⟨attempt, ?_, request⟩
  rw [blockAttempts, Effect.asked, operateAll, Effect.run_bind operated]
  cases attempt.result with
  | error fault => exact leads.record
  | ok result =>
    simp only [Except.map, operateAll]
    exact leads.record

/-- A block of one statement asks for that statement and nothing else. -/
theorem quiet_statement (c : Connection σ) (fetch : Fetch) {sql : String} {params : Value}
    {given : Option (List Value)} (read : parametersOf params = .ok given)
    (commit : sql ≠ "COMMIT") (rollback : sql ≠ "ROLLBACK") :
    c.Quiet [.task (.fetch fetch (.text sql) params)] := by
  intro s attempt member
  obtain ⟨statement, single, request⟩ := c.blockAttempts_statement fetch (.text sql) read s
  change attempt ∈ c.blockAttempts _ s at member
  rw [single, List.mem_singleton] at member
  rw [member, request]
  simp [commitRequest, rollbackRequest, commit, rollback]

theorem bulkInsert_leftOpen_iff (c : Connection σ) {tuned : List (Value × Value)}
    (tuning : c.options.tuning = .pragmas tuned) {block : Effect σ (BlockEnd α)}
    {block' : Effect (Watched σ) (BlockEnd α)} (watches : Effect.Watches c.engine block block')
    (quiet : block'.Quiet) (s : Session σ) :
    (LeftOpen ((c.watched.bulkInsert block').asked s) ↔
      ∃ fault, ⟨commitRequest, .error fault⟩ ∈ (c.watched.bulkInsert block').asked s) ∧
    ∀ before fault after,
      (c.watched.bulkInsert block').asked s = before ++ ⟨commitRequest, .error fault⟩ :: after →
      (∀ attempt ∈ after, ∃ name value, attempt.request = writeRequest name value) ∧
      ((c.bulkInsert block).run s).1.fault? = some (.engine fault) := by
  obtain ⟨r, entered, left, after, disciplined, happens, run, asked, _⟩ :=
    c.bulkInsert_asked tuning watches s
  have inside := quiet entered
  have noCommit := fun attempt member => (inside attempt member).1
  rw [asked]
  -- Only the closing can commit, since the block is quiet.
  refine ⟨⟨fun leftOpen => ?_, ?_⟩, ?_⟩
  · obtain ⟨fault, closes⟩ := disciplined.commit_failed leftOpen
    exact ⟨fault, by simp [BulkRun.attempts, closes]⟩
  · rintro ⟨fault, member⟩
    obtain ⟨before, after, split⟩ := List.append_of_mem member
    obtain ⟨closes, _⟩ := disciplined.after_failed_commit noCommit split
    refine disciplined.leftOpen_of_commit_failed ?_ closes
    rintro attempt member (⟨commit, _⟩ | rollback)
    · exact (inside attempt member).1 commit
    · exact (inside attempt member).2 rollback
  · intro before fault after split
    obtain ⟨closes, rfl⟩ := disciplined.after_failed_commit noCommit split
    refine ⟨fun attempt => disciplined.write_of_mem_restores, ?_⟩
    rw [run]
    exact disciplined.fault_of_commit closes

/-- Around any block that asks for no commit and no rollback of its own, and in particular around
operations one after the other, the transaction is left open exactly if the commit fails. After that
nothing is asked for except the pragmas that are restored, and the whole fails as the commit did. -/
theorem left_open_iff_commit_failed (c : Connection σ) {tuned : List (Value × Value)}
    (tuning : c.options.tuning = .pragmas tuned) :
    (∀ {α : Type} {block : Effect σ (BlockEnd α)} {block' : Effect (Watched σ) (BlockEnd α)},
      Effect.Watches c.engine block block' → block'.Quiet → ∀ s : Session σ,
      (LeftOpen ((c.watched.bulkInsert block').asked s) ↔
        ∃ fault, ⟨commitRequest, .error fault⟩ ∈ (c.watched.bulkInsert block').asked s) ∧
      ∀ before fault after,
        (c.watched.bulkInsert block').asked s = before ++ ⟨commitRequest, .error fault⟩ :: after →
        (∀ attempt ∈ after, ∃ name value, attempt.request = writeRequest name value) ∧
        ((c.bulkInsert block).run s).1.fault? = some (.engine fault)) ∧
    ∀ {block : List Operation}, c.Quiet block → ∀ s : Session σ,
      (LeftOpen (c.attempts (.bulkInsert block) s) ↔
        ∃ fault, ⟨commitRequest, .error fault⟩ ∈ c.attempts (.bulkInsert block) s) ∧
      ∀ before fault after,
        c.attempts (.bulkInsert block) s = before ++ ⟨commitRequest, .error fault⟩ :: after →
        (∀ attempt ∈ after, ∃ name value, attempt.request = writeRequest name value) ∧
        ((c.operate (.bulkInsert block)).run s).1.outcome = .error (.engine fault) := by
  refine ⟨c.bulkInsert_leftOpen_iff tuning, fun {block} quiet s => ?_⟩
  obtain ⟨leftOpen, failed⟩ :=
    c.bulkInsert_leftOpen_iff tuning (c.operateAll_watches block) quiet s
  refine ⟨leftOpen, fun before fault after split => ?_⟩
  obtain ⟨restores, fails⟩ := failed before fault after split
  refine ⟨restores, ?_⟩
  rw [operate, StateT.run_map]
  change (bulkEnd ((c.bulkInsert (c.operateAll block)).run s).1).outcome = _
  rw [bulkEnd, fails]

end Connection

/-- An engine that is busy when it should commit. -/
def busyAtCommit : Session Script :=
  { engine := { answers := [
      ("PRAGMA synchronous", .ok { rows := [[("synchronous", .int 2)]] }),
      ("COMMIT", .error { cls := .operational, message := "database is locked" })] } }

namespace Connection

/-- One row is inserted, the commit is refused, and the transaction stays open. -/
theorem busy_commit_leaves_open :
    ¬ ∀ (c : Connection Script) (tuned : List (Value × Value)) (block : List Operation)
      (s : Session Script), c.options.tuning = .pragmas tuned → c.Quiet block →
      ¬ LeftOpen (c.attempts (.bulkInsert block) s) := by
  intro never
  have asked : looseFile.attempts (.bulkInsert [insertRow]) busyAtCommit =
      [⟨readRequest (.text "synchronous"), .ok { rows := [[("synchronous", .int 2)]] }⟩,
        ⟨readRequest (.text "temp_store"), .ok {}⟩,
        ⟨writeRequest (.text "synchronous") (.text "OFF"), .ok {}⟩,
        ⟨writeRequest (.text "temp_store") (.text "MEMORY"), .ok {}⟩] ++
      ⟨beginRequest, .ok {}⟩ ::
      [⟨.execute (.text "INSERT INTO t VALUES (1)") (some []), .ok {}⟩,
        ⟨commitRequest, .error { cls := .operational, message := "database is locked" }⟩,
        ⟨writeRequest (.text "synchronous") (.int 2), .ok {}⟩] := rfl
  refine never looseFile looseTuning [insertRow] busyAtCommit rfl
    (quiet_statement _ _ rfl (by decide) (by decide)) ⟨_, _, _, asked, ⟨rfl, rfl⟩, ?_⟩
  -- Neither the row nor the commit that failed nor the pragma closes the transaction.
  intro attempt member closes
  simp only [List.mem_cons, List.not_mem_nil, or_false] at member
  rcases member with rfl | rfl | rfl
  · simp [Attempt.Closes, commitRequest, rollbackRequest] at closes
  · rcases closes with ⟨_, granted⟩ | rollback
    · cases granted
    · simp [commitRequest, rollbackRequest] at rollback
  · exact (isPragma_of_write rfl).not_closes closes

theorem insertTwice_quiet (c : Connection σ) : c.watched.insertTwice.Quiet := by
  intro s attempt member
  have bare : parametersOf (.tuple []) = .ok (some []) := rfl
  obtain ⟨first, t, once, request, leads⟩ :=
    c.watched.operate_fetch_run .run (.text "INSERT INTO t VALUES (1)") bare s.watched
  obtain ⟨second, u, twice, request', leads'⟩ :=
    c.watched.operate_fetch_run .run (.text "INSERT INTO t VALUES (1)") bare t
  -- The block asks for one row after the other and fails at neither.
  have run : c.watched.insertTwice.run s.watched = ({ product := (), fault? := none }, u) :=
    (Effect.run_bind once).trans (Effect.run_bind twice)
  have asked : c.watched.insertTwice.asked s = [first, second] := by
    rw [Effect.asked, run]
    exact (leads.trans leads').record
  rw [asked, List.mem_pair] at member
  rcases member with rfl | rfl
  · simp [request, commitRequest, rollbackRequest]
  · simp [request', commitRequest, rollbackRequest]

theorem busy_commit_is_last :
    looseFile.options.tuning = .pragmas looseTuning ∧ looseFile.Quiet [insertRow] ∧
      ((LeftOpen (looseFile.attempts (.bulkInsert [insertRow]) busyAtCommit) ↔
        ∃ fault, ⟨commitRequest, .error fault⟩ ∈
          looseFile.attempts (.bulkInsert [insertRow]) busyAtCommit) ∧
      ∀ before fault after,
        looseFile.attempts (.bulkInsert [insertRow]) busyAtCommit =
          before ++ ⟨commitRequest, .error fault⟩ :: after →
        (∀ attempt ∈ after, ∃ name value, attempt.request = writeRequest name value) ∧
        ((looseFile.operate (.bulkInsert [insertRow])).run busyAtCommit).1.outcome =
          .error (.engine fault)) ∧
      Effect.Watches looseFile.engine looseFile.insertTwice looseFile.watched.insertTwice ∧
      looseFile.watched.insertTwice.Quiet ∧
      (LeftOpen ((looseFile.watched.bulkInsert looseFile.watched.insertTwice).asked busyAtCommit) ↔
        ∃ fault, ⟨commitRequest, .error fault⟩ ∈
          (looseFile.watched.bulkInsert looseFile.watched.insertTwice).asked busyAtCommit) :=
  have left := looseFile.left_open_iff_commit_failed rfl
  have quiet := quiet_statement looseFile .run rfl (by decide) (by decide)
  have watches := looseFile.insertTwice_watches
  have twice := looseFile.insertTwice_quiet
  ⟨rfl, quiet, left.2 quiet busyAtCommit, watches, twice, (left.1 watches twice busyAtCommit).1⟩

end Connection

end FluentSql
