import FluentSql.Proofs.Builder.FaultKinds
import FluentSql.Proofs.FilePath
import FluentSql.Proofs.Number
import FluentSql.Proofs.Session.BulkInsert

/-!
# Backups

Where a backup goes if no file is given for it, and what it asks of its engine, whatever the engine
answers.
Main results: `Backup.derived_target_keeps_name` and `Connection.backup_closes_copy`.
-/

namespace FluentSql

/-! ### Targets -/

namespace Backup

/-- The argument for a path, which is null if none is given. -/
def given (path? : Option Name) : Value :=
  match path? with
  | none => .null
  | some path => path.toValue

/-- No target is given, and the database has no file whose name could lead to one. -/
def Targetless (path : String) (file? : Option Name) : Prop :=
  file? = none ∧ (path = memoryPath ∨ path = "")

theorem target_given (path : String) (file : Name) (directory : Value) (stamp : String) :
    target path (given (some file)) directory stamp = .ok (FilePath.ofText file.shown) := by
  cases file <;> rfl

theorem target_derived {path : String} (named : ¬(path = memoryPath ∨ path = ""))
    (directory? : Option Name) (stamp : String) :
    target path .null (given directory?) stamp =
      .ok ((directory?.elim (FilePath.ofText path).parent fun d => FilePath.ofText d.shown).child
        (fileName (FilePath.ofText path) stamp)) := by
  simp only [target, derivedTarget, if_neg named]
  cases directory? with
  | none => rfl
  | some directory => cases directory <;> rfl

theorem target_of_targetless {path : String} {file? : Option Name}
    (targetless : Targetless path file?) (directory : Value) (stamp : String) :
    target path (given file?) directory stamp = .error (.noBackupTarget path) := by
  obtain ⟨rfl, unnamed⟩ := targetless
  exact if_pos unnamed

theorem exists_target {path : String} {file? : Option Name} (some_target : ¬Targetless path file?)
    (directory? : Option Name) (stamp : String) :
    ∃ p, target path (given file?) (given directory?) stamp = .ok p := by
  cases file? with
  | none => exact ⟨_, target_derived (fun unnamed => some_target ⟨rfl, unnamed⟩) directory? stamp⟩
  | some file => exact ⟨_, target_given path file _ stamp⟩

end Backup

/-! ### Names of backups

The stamp of the date holds neither slashes nor dots, so that the name with the stamp in it is a
single part of a path: the target lies directly in its directory, and without the stamp its name is
that of the database.
-/

theorem isDigit_of_mem_paddedDecimal {width n : Nat} {c : Char}
    (member : c ∈ (paddedDecimal width n).toList) : c.isDigit = true := by
  rw [paddedDecimal, String.toList_ofList] at member
  rcases List.mem_append.mp member with padding | digit
  · rw [List.eq_of_mem_replicate padding]
    decide
  · exact Nat.isDigit_of_mem_toDigits (by decide) (by decide) digit

/-- A stamp is made of digits and hyphens. -/
theorem Moment.mem_stamp {m : Moment} {withTime : Bool} {c : Char}
    (member : c ∈ (m.stamp withTime).toList) : c = '-' ∨ c.isDigit = true := by
  -- Only the year is written without a least width.
  obtain ⟨numbers, parts⟩ : ∃ numbers : List Nat, m.stamp withTime =
      "-".intercalate (toString m.year :: numbers.map (paddedDecimal 2)) := by
    cases withTime with
    | false => exact ⟨[m.month, m.day], rfl⟩
    | true => exact ⟨[m.month, m.day, m.hour, m.minute, m.second], rfl⟩
  rw [parts, toList_intercalate] at member
  rcases mem_separatedText member with hyphen | ⟨part, here, digit⟩
  · exact .inl (by simpa using hyphen)
  · right
    rcases List.mem_cons.mp here with rfl | padded
    · exact (Value.decimal_of_nonneg m.year (Int.natCast_nonneg _)).2 c digit
    · obtain ⟨n, _, rfl⟩ := List.mem_map.mp padded
      exact isDigit_of_mem_paddedDecimal digit

namespace Backup

/-- The name of a backup is longer than the database's own, by the stamp and the mark before it. -/
theorem length_fileName (source : FilePath) (stamp : String) :
    (fileName source stamp).toList.length = source.name.toList.length + stamp.toList.length + 2 := by
  rw [← source.stem_append_suffix]
  simp only [fileName, stampMark, String.toList_append, List.length_append]
  have mark : "--".toList.length = 2 := rfl
  omega

/-- The name with the stamp is a part of a path again. -/
theorem fileName_isPart {source : FilePath} (normal : source.Normal) (m : Moment) (withTime : Bool) :
    FilePath.IsPart (fileName source (m.stamp withTime)) := by
  have length := length_fileName source (m.stamp withTime)
  constructor
  -- The mark alone makes the name longer than a text that is no part.
  · intro empty
    rw [empty, String.toList_empty, List.length_nil] at length
    omega
  · have plain := normal.slash_not_mem_name
    rw [← source.stem_append_suffix, String.toList_append, List.mem_append, not_or] at plain
    have stamped : '/' ∉ (m.stamp withTime).toList := fun member =>
      absurd (Moment.mem_stamp member) (by decide)
    -- Neither stem, stamp nor suffix holds a slash.
    simp [fileName, stampMark, plain, stamped]
  · intro dot
    rw [dot, show ".".toList.length = 1 from rfl] at length
    omega

/-- The target of a backup for which no file is given lies directly in the given directory, or in
that of the database if none is given. Its name is the database's with the mark and the stamp put
between stem and suffix, and so is the database's again without them. It is not the path of the
database, neither as it is written nor as it is read. -/
theorem derived_target_keeps_name {path : String} (stored : path ≠ memoryPath) (named : path ≠ "")
    (directory? : Option Name) (withTime : Bool) (now : Moment) :
    let source := FilePath.ofText path
    let stamp := now.stamp withTime
    (source.parts ≠ [] → source.LiesIn source.parent) ∧
    ∃ p, target path .null (given directory?) stamp = .ok p ∧
      p.LiesIn (directory?.elim source.parent fun d => FilePath.ofText d.shown) ∧
      p.name = source.stem ++ ("--" ++ stamp) ++ source.suffix ∧
      source.stem ++ source.suffix = source.name ∧ p ≠ source ∧ p.toText ≠ path := by
  intro source stamp
  have normal : source.Normal := FilePath.ofText_normal path
  refine ⟨normal.liesIn_parent, ?_⟩
  generalize inside : directory?.elim source.parent (fun d => FilePath.ofText d.shown) = directory
  have derived := target_derived (not_or.mpr ⟨stored, named⟩) directory? stamp
  have isPart : FilePath.IsPart (fileName source stamp) := fileName_isPart normal now withTime
  rw [inside] at derived
  have lies := directory.child_liesIn isPart
  have name := directory.name_child isPart
  have apart : directory.child (fileName source stamp) ≠ source := by
    -- The mark alone makes the name longer.
    intro same
    have length := length_fileName source stamp
    rw [← name, same] at length
    omega
  refine ⟨_, derived, lies, ?_, source.stem_append_suffix, apart, fun written => apart ?_⟩
  · rw [name, fileName, stampMark]
    simp only [String.append_assoc]
  · -- Its text would be read back as the path of the database.
    have directory_normal : directory.Normal := by
      rw [← inside]
      cases directory? with
      | none => exact normal.parent
      | some d => exact FilePath.ofText_normal d.shown
    rw [← (lies.normal directory_normal).ofText_toText, written]

/-- A path with a dot in front and several more, written with slashes and dots that do not count. -/
theorem dotted_name_keeps_extension :
    let path := "data//./.app.v2.db"
    let now : Moment := ⟨2027, 9, 16, 14, 3, 59⟩
    path ≠ memoryPath ∧ path ≠ "" ∧
    (target path .null .null (now.stamp true)).map FilePath.toText =
      .ok "data/.app.v2--2027-09-16-14-03-59.db" ∧
    ∃ p, target path .null .null (now.stamp true) = .ok p ∧
      p.LiesIn (FilePath.ofText path).parent ∧ p ≠ FilePath.ofText path ∧ p.toText ≠ path := by
  intro path now
  have stored : path ≠ memoryPath := by decide
  have named : path ≠ "" := by decide
  obtain ⟨-, p, derived, lies, -, -, apart, unwritten⟩ :=
    derived_target_keeps_name stored named none true now
  exact ⟨stored, named, congrArg Except.ok (by decide), p, derived, lies, apart, unwritten⟩

end Backup

/-! ### Copies of the database, request by request

The target of a backup is opened once; if that is granted the database is copied once, and the target
is closed whatever came of the copy. Every fault on the way comes up as that of a backup that failed,
with the source and the target.
-/

open Engine

variable {σ : Type}

namespace Engine

def Granted (attempts : List Attempt) (request : Request) : Prop :=
  ∃ result, ⟨request, .ok result⟩ ∈ attempts

def Refused (attempts : List Attempt) (request : Request) : Prop :=
  ∃ fault, ⟨request, .error fault⟩ ∈ attempts

end Engine

namespace Backup

/-- How a backup with a target goes: what is asked for, each time with what comes of it, and the end
of the whole. -/
inductive Course (source : String) (target : FilePath) :
    List Attempt → Except Fault FilePath → Prop where
  | unopened (cause : Engine.Fault) :
    Course source target [⟨.connectCopy target.toText, .error cause⟩]
      (.error (.backupFailed source target.toText cause))
  | uncopied (opened closed : Result) (cause : Engine.Fault) :
    Course source target
      [⟨.connectCopy target.toText, .ok opened⟩, ⟨.copy, .error cause⟩, ⟨.closeCopy, .ok closed⟩]
      (.error (.backupFailed source target.toText cause))
  | unclosed (opened : Result) (copied : Except Engine.Fault Result) (cause : Engine.Fault) :
    Course source target
      [⟨.connectCopy target.toText, .ok opened⟩, ⟨.copy, copied⟩, ⟨.closeCopy, .error cause⟩]
      (.error (.backupFailed source target.toText cause))
  | done (opened copied closed : Result) :
    Course source target
      [⟨.connectCopy target.toText, .ok opened⟩, ⟨.copy, .ok copied⟩, ⟨.closeCopy, .ok closed⟩]
      (.ok target)

/-! ### Courses -/

namespace Course

variable {source : String} {target : FilePath} {attempts : List Attempt}
  {outcome : Except Fault FilePath}

/-- The course of a backup tells whether its target is returned. -/
theorem returned_iff (course : Course source target attempts outcome) :
    outcome = .ok target ↔ Granted attempts (.connectCopy target.toText) ∧
      Granted attempts .copy ∧ ¬Refused attempts .closeCopy := by
  cases course with
  | unopened | uncopied | unclosed => simp [Granted, Refused]
  | done => simp [Granted, Refused]

theorem fault_eq (course : Course source target attempts outcome) {fault : Fault}
    (failed : outcome = .error fault) : ∃ cause, fault = .backupFailed source target.toText cause := by
  cases course with
  | unopened cause | uncopied _ _ cause | unclosed _ _ cause =>
    cases failed
    exact ⟨cause, rfl⟩
  | done => cases failed

end Course

end Backup

/-! ### Runs -/

theorem Engine.ask_leads (e : Engine σ) (request : Request) (s : Session σ) :
    ∃ outcome t, (e.ask request).run s = (outcome, t) ∧ s.Leads e [⟨request, outcome⟩] [] t := by
  have asked := Session.Leads.ask e request s
  have outcome : (e.answer request s.engine).1.outcome = ((e.ask request).run s).1 :=
    (congrArg Prod.fst (e.ask_run request s)).symm
  rw [outcome] at asked
  exact ⟨_, _, rfl, asked⟩

namespace Connection

/-- Once the target is open it is closed, whatever the copy came to. -/
theorem copyTo_run (c : Connection σ) (target : FilePath) (s : Session σ) :
    ∃ attempts copied t, (c.copyTo target.toText).run s = (copied, t) ∧
      Backup.Course c.path target attempts
        ((copied.map fun _ => target).mapError (.backupFailed c.path target.toText)) ∧
      s.Leads c.engine attempts [] t := by
  obtain ⟨opened, t, opens, leads⟩ := c.engine.ask_leads (.connectCopy target.toText) s
  unfold copyTo
  cases opened with
  | error cause =>
    exact ⟨_, .error cause, t, Effect.run_bind opens, .unopened cause, leads⟩
  | ok opened =>
    -- Whatever comes of the copy, closing its target is asked for next.
    obtain ⟨copied, u, copies, leads'⟩ := c.engine.ask_leads .copy t
    obtain ⟨closed, v, closes, leads''⟩ := c.engine.ask_leads .closeCopy u
    have all := leads.trans (leads'.trans leads'')
    rw [Effect.run_bind opens]
    simp only []
    rw [Effect.run_bind copies, Effect.run_bind closes]
    cases closed with
    | error cause => exact ⟨_, .error cause, v, rfl, .unclosed opened copied cause, all⟩
    | ok closed =>
      cases copied with
      | error cause => exact ⟨_, .error cause, v, rfl, .uncopied opened closed cause, all⟩
      | ok copied => exact ⟨_, .ok (), v, rfl, .done opened copied closed, all⟩

theorem backup_run (c : Connection σ) {file directory : Value} {withTime : Bool} {now : Moment}
    {target : FilePath}
    (derived : Backup.target c.path file directory (now.stamp withTime) = .ok target)
    (s : Session σ) :
    ∃ attempts outcome t, (c.backup file directory withTime now).run.run s = (outcome, t) ∧
      Backup.Course c.path target attempts outcome ∧ s.Leads c.engine attempts [] t := by
  let entry : LogEntry :=
    ⟨.info, .session, "Backing up " ++ c.path ++ " to " ++ target.toText⟩
  obtain ⟨attempts, copied, t, run, course, leads⟩ := c.copyTo_run target (s.note entry)
  have noted : (Act.note (σ := σ) .info entry.message).run.run s = (.ok (), s.note entry) := rfl
  -- The copy itself cannot fail: what came of it is looked at afterwards.
  have lifted : (ExceptT.lift (c.copyTo target.toText) : Act σ _).run.run (s.note entry) =
      (.ok copied, t) := by
    rw [ExceptT.run_lift, StateT.run_map, run]
    rfl
  refine ⟨attempts, _, t, ?_, course, (Session.Leads.note entry s).trans leads⟩
  unfold backup
  rw [derived]
  simp only []
  rw [Act.run_bind_ok noted]
  refine (Act.run_bind_ok lifted).trans ?_
  cases copied <;> rfl

/-- Without a target nothing is asked of the engine. -/
theorem backup_targetless (c : Connection σ) {file? : Option Name}
    (targetless : Backup.Targetless c.path file?) (directory : Value) (withTime : Bool) (now : Moment)
    (s : Session σ) :
    (c.backup (Backup.given file?) directory withTime now).run.run s =
      (.error (.noBackupTarget c.path), s) := by
  unfold backup
  rw [Backup.target_of_targetless targetless]
  rfl

theorem operate_backup_run {c : Connection σ} {file directory : Value} {withTime : Bool}
    {now : Moment} {s t : Session σ} {outcome : Except Fault FilePath}
    (run : (c.backup file directory withTime now).run.run s = (outcome, t)) :
    (c.operate (.task (.backup file directory withTime now))).run s =
      ({ outcome := outcome.map .path }, t) := by
  have performed : (c.perform (.backup file directory withTime now)).run.run s =
      (outcome.map .path, t) := by
    rw [perform, ExceptT.run_map, StateT.run_map, run]
    rfl
  rw [operate]
  exact Effect.run_bind performed

/-- A backup without a target asks for nothing and notes nothing. Otherwise its target is the given
file, or the derived name in the given directory or beside the database. The target is opened once,
and if that is granted it is closed once, after one attempt to copy, however that went. The path is
returned if opening and copying are granted and closing is not refused, and whatever fault leaves it
is one of the library's own that names the source and the target. -/
theorem backup_closes_copy (c : Connection σ) (file? directory? : Option Name) (withTime : Bool)
    (now : Moment) (s : Session σ) :
    let backup := Operation.task
      (.backup (Backup.given file?) (Backup.given directory?) withTime now)
    let attempts := c.attempts backup s
    let ended := (c.operate backup).run s
    let source := FilePath.ofText c.path
    let directory := directory?.elim source.parent fun d => FilePath.ofText d.shown
    c.engine.Answers s.engine attempts ended.2.engine ∧
    (∀ fault, ended.1.outcome = .error fault → fault.kind? = some .database) ∧
    (Backup.Targetless c.path file? →
      attempts = [] ∧ ended.2 = s ∧ ended.1.outcome = .error (.noBackupTarget c.path)) ∧
    (¬Backup.Targetless c.path file? → ∃ target outcome,
      Backup.target c.path (Backup.given file?) (Backup.given directory?) (now.stamp withTime) =
        .ok target ∧
      (∀ file, file? = some file → target = FilePath.ofText file.shown) ∧
      (file? = none → target = directory.child (Backup.fileName source (now.stamp withTime))) ∧
      ended.1.outcome = outcome.map .path ∧ Backup.Course c.path target attempts outcome ∧
      (outcome = .ok target ↔ Granted attempts (.connectCopy target.toText) ∧
        Granted attempts .copy ∧ ¬Refused attempts .closeCopy)) := by
  intro backup attempts ended source directory
  have answers := c.attempts_answered backup s
  by_cases targetless : Backup.Targetless c.path file?
  · have run : ended = ({ outcome := .error (.noBackupTarget c.path) }, s) :=
      operate_backup_run (c.backup_targetless targetless _ withTime now s)
    have asked : attempts = [] := congrArg (·.2.engine.attempts) <|
      operate_backup_run (c.watched.backup_targetless targetless _ withTime now s.watched)
    refine ⟨answers, ?_, fun _ => ⟨asked, by rw [run], by rw [run]⟩,
      fun some_target => absurd targetless some_target⟩
    rw [run]
    rintro _ ⟨⟩
    rfl
  · obtain ⟨target, derived⟩ :=
      Backup.exists_target targetless directory? (now.stamp withTime)
    -- What is asked for shows under watch, which changes nothing.
    obtain ⟨asked, outcome, t, run, course, leads⟩ := c.watched.backup_run derived s.watched
    have record : attempts = asked := by
      change ((c.watched.operate backup).run s.watched).2.engine.attempts = asked
      rw [operate_backup_run run]
      exact leads.record
    have left : ended.1 = { outcome := outcome.map .path } := by
      have plain := (c.operate_watches backup).run s.watched
      rw [operate_backup_run run] at plain
      exact congrArg Prod.fst plain
    refine ⟨answers, ?_, fun no_target => absurd no_target targetless, fun _ => ?_⟩
    · intro fault failed
      rw [left] at failed
      obtain ⟨_, rfl⟩ := course.fault_eq ((Outcome.map_eq_error_iff _ _ _).mp failed)
      rfl
    · rw [record, left]
      refine ⟨target, outcome, derived, ?_, ?_, rfl, course, course.returned_iff⟩
      · rintro file rfl
        exact Except.ok.inj (derived.symm.trans (Backup.target_given c.path file _ _))
      · rintro rfl
        have named : ¬(c.path = memoryPath ∨ c.path = "") := fun unnamed => targetless ⟨rfl, unnamed⟩
        exact Except.ok.inj (derived.symm.trans (Backup.target_derived named directory? _))

/-- A connection that is closed has nothing to copy, but closes the copy all the same. -/
example :
    let c : Connection Script := { path := "f.db", options := {}, engine := Script.engine }
    let s : Session Script := { engine := { isClosed := true } }
    (c.attempts (.task (.backup (.text "copy.db") .null true ⟨2027, 9, 16, 14, 3, 59⟩)) s).map
      (·.request) = [.connectCopy "copy.db", .copy, .closeCopy] := by
  rfl

end Connection

end FluentSql
