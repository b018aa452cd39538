import FluentSql.Proofs.Builder.Run
import FluentSql.Proofs.Query.Grouping
import FluentSql.Proofs.Query.JoinCondition
import FluentSql.Proofs.Statement.Text

/-!
# Kinds of faults

The library has its own kinds of faults, and each call and each compilation fails with certain ones
of them. There are four ways past these: a number of rows that is infinite, a conflict target that
has no elements, something else than a name where names are joined, and an integer of too many digits
where it is written into a statement or into the wording of a fault.
Main result: `Builder.own_faults_iff`.
-/

namespace FluentSql

/-- The outcome is a result or a fault of one of the given kinds. -/
def FailsOnly {α : Type} (kinds : List FaultKind) (x : Except Fault α) : Prop :=
  ∀ fault, x = .error fault → ∃ kind ∈ kinds, fault.kind? = some kind

/-- The kinds of faults that a call is for. -/
def Call.kinds : Call → List FaultKind
  | .select _ | .isIn .. | .isNotIn .. | .isNull _ | .isNotNull _ | .limit _ | .offset _ =>
    [.invalidArgument]
  | .join .. => [.invalidArgument, .invalidJoin]
  | .compare .. => [.invalidArgument, .invalidOperator]
  | .order .. => [.invalidArgument, .invalidDirection]
  | .byId _ | .reset => []

/-- The kinds of faults that a compilation is for. -/
def Build.kinds : Build → List FaultKind
  | .select | .conditions | .delete => []
  | .count => [.unsupportedOperation]
  | .insert _ | .update _ | .upsert .. => [.invalidArgument]

/-- A call for an infinite number of rows. -/
def Call.CountsInfinity : Call → Prop
  | .limit value | .offset value => ∃ negative, value = .float (.infinity negative)
  | _ => False

/-- A truth value, an integer or a float: what is neither null nor a collection of elements. -/
def Value.isNumber : Value → Bool
  | .bool _ | .int _ | .float _ => true
  | _ => false

/-- A compilation that joins names of which one is none, or asks a number for names. -/
def Build.JoinsNonNames : Build → Prop
  | .insert data => ∃ entries, data = .map entries ∧ ∃ entry ∈ entries, entry.1.name? = none
  | .upsert data conflict => ∃ entries, data = .map entries ∧ entries ≠ [] ∧
      (conflict.isNumber = true ∨
        (∃ targets, conflict.elements? = some targets ∧ ∃ target ∈ targets, target.name? = none) ∨
        ∃ entry ∈ entries, entry.1.name? = none)
  | _ => False

/-- A compilation that writes an integer of too many digits: as a number of rows, or for a field. -/
def Query.WritesTooManyDigits (q : Query) : Build → Prop
  | .select | .delete => ∃ v ∈ q.rowNumbers, v.isWritable = false
  | .update data => ∃ entries, data = .map entries ∧ entries ≠ [] ∧
      ∃ v ∈ entries.map (·.1) ++ q.rowNumbers, v.isWritable = false
  | _ => False

/-! ### What calls are charged with -/

/-- A value in the given role that is no name, or else what comes after the name. -/
inductive NameOffence (role : String) (value : Value) (next : Name → Fault → Prop) : Fault → Prop
  | unnamed (unnamed : value.name? = none) : NameOffence role value next (.notAName role value)
  | next {name : Name} {offence : Fault} (named : value.name? = some name)
    (charged : next name offence) : NameOffence role value next offence

/-- What a number of rows is charged with: that it is infinite, no integer, or negative. -/
inductive CountOffence (clause : CountClause) : Value → Fault → Prop
  | infinite (negative : Bool) : CountOffence clause (.float (.infinity negative)) .infiniteCount
  | unread {value : Value} (finite : ∀ negative, value ≠ .float (.infinity negative))
    (unread : ∀ n, integerOf clause value ≠ .ok n) :
      CountOffence clause value (.invalidCount clause value)
  | negative {value : Value} {n : Int} (read : integerOf clause value = .ok n) (below : n < 0) :
    CountOffence clause value (.negativeCount clause n value)

open Argument (leavesOf) in
/-- The fault that a call is charged with for its arguments, before it is put into words. -/
def Call.Offends (offence : Fault) : Call → Prop
  | .select arguments => Argument.FirstOffence Argument.Leaf.AsksFor Argument.Leaf.AskFault
      (leavesOf (fun _ => true) arguments) offence
  | .isNull arguments | .isNotNull arguments => Argument.FirstOffence Argument.Leaf.NamesField
      Argument.Leaf.FieldFault (leavesOf Value.truthy arguments) offence
  | .compare _ arguments => Predicate.FirstOffence arguments offence
  | .join _ table condition => NameOffence "Table" table (fun _ offence =>
      (¬∃ found, JoinCondition.Names condition found) ∧ offence = .invalidJoin condition) offence
  | .isIn field values | .isNotIn field values => NameOffence "Field" field (fun name offence =>
      (∀ members, membersOf name.shown values ≠ .ok members) ∧
        offence = .invalidMembers name.shown values) offence
  | .order field direction => NameOffence "Field" field (fun _ offence =>
      (∀ found, SortDirection.ofValue direction ≠ .ok found) ∧
        offence = .invalidDirection direction) offence
  | .limit value => CountOffence .limit value offence
  | .offset value => CountOffence .offset value offence
  | .byId _ | .reset => False

/-- A call that is charged with a fault whose wording would show an integer of too many digits. -/
def Call.ShowsTooManyDigits (call : Call) : Prop :=
  ∃ offence, call.Offends offence ∧ ∃ v ∈ offence.shown, v.isWritable = false

/-! ### Outcomes -/

namespace FailsOnly

variable {α β : Type} {kinds : List FaultKind}

theorem ok (a : α) : FailsOnly kinds (.ok a) :=
  fun _ fails => nomatch fails

theorem error {fault : Fault} {kind : FaultKind} (member : kind ∈ kinds)
    (own : fault.kind? = some kind) : FailsOnly kinds (.error fault : Except Fault α) := by
  intro other equal
  cases equal
  exact ⟨kind, member, own⟩

/-- What comes second counts only where the first succeeds. -/
theorem bind_iff {x : Except Fault α} {f : α → Except Fault β} :
    FailsOnly kinds (x >>= f) ↔ FailsOnly kinds x ∧ ∀ a, x = .ok a → FailsOnly kinds (f a) := by
  simp only [FailsOnly, Outcome.bind_eq_error_iff]
  constructor
  · intro own
    exact ⟨fun fault failed => own fault (.inl failed),
      fun a read fault failed => own fault (.inr ⟨a, read, failed⟩)⟩
  · rintro ⟨first, next⟩ fault (failed | ⟨a, read, failed⟩)
    · exact first fault failed
    · exact next a read fault failed

theorem bind {x : Except Fault α} {f : α → Except Fault β} (first : FailsOnly kinds x)
    (next : ∀ a, x = .ok a → FailsOnly kinds (f a)) : FailsOnly kinds (x >>= f) :=
  bind_iff.mpr ⟨first, next⟩

theorem map_iff {x : Except Fault α} (f : α → β) :
    FailsOnly kinds (x.map f) ↔ FailsOnly kinds x := by
  simp only [FailsOnly, Outcome.map_eq_error_iff]

theorem map {x : Except Fault α} (f : α → β) (first : FailsOnly kinds x) :
    FailsOnly kinds (x.map f) :=
  (map_iff f).mpr first

theorem mapM {f : α → Except Fault β} (each : ∀ a, FailsOnly kinds (f a)) (items : List α) :
    FailsOnly kinds (items.mapM f) := by
  intro fault fails
  obtain ⟨_, item, _, _, _, failed⟩ := (Outcome.mapM_eq_error_iff _ _ _).mp fails
  exact each item fault failed

/-- What fails with no fault of any kind succeeds. -/
theorem nil_iff {x : Except Fault α} : FailsOnly [] x ↔ ∃ a, x = .ok a := by
  cases x with
  | ok a => simp [FailsOnly]
  | error fault => simp [FailsOnly]

end FailsOnly

/-! ### Arguments of calls -/

/-- What comes after a name is looked at only if there is one. -/
theorem requireName_bind_eq_error_iff {α : Type} {role : String} {value : Value}
    {f : Name → Except Fault α} {next : Name → Fault → Prop}
    (each : ∀ name fault, f name = .error fault ↔
      ∃ offence, next name offence ∧ fault = offence.worded) (fault : Fault) :
    (requireName role value >>= f) = .error fault ↔
      ∃ offence, NameOffence role value next offence ∧ fault = offence.worded := by
  -- A value that is no name is charged at once, and any other by what comes after it.
  cases named : value.name? with
  | none =>
    have refused : requireName role value = .error (Fault.notAName role value).worded := by
      simp only [requireName, named]
    rw [refused]
    constructor
    · rintro ⟨⟩
      exact ⟨_, .unnamed named, rfl⟩
    · rintro ⟨offence, charged, rfl⟩
      cases charged with
      | unnamed => rfl
      | next found => simp [named] at found
  | some name =>
    have read : requireName role value = .ok name := by simp only [requireName, named]
    rw [read]
    refine (each name fault).trans ⟨?_, ?_⟩
    · rintro ⟨offence, charged, worded⟩
      exact ⟨offence, .next named charged, worded⟩
    · rintro ⟨offence, charged, worded⟩
      cases charged with
      | unnamed unnamed => simp [named] at unnamed
      | next found charged =>
        cases named.symm.trans found
        exact ⟨offence, charged, worded⟩

theorem membersOf_eq_error_iff (field : String) (values : Value) (fault : Fault) :
    membersOf field values = .error fault ↔ (∀ members, membersOf field values ≠ .ok members) ∧
      fault = (Fault.invalidMembers field values).worded := by
  unfold membersOf
  split <;> simp [eq_comm]

theorem SortDirection.ofValue_eq_error_iff (direction : Value) (fault : Fault) :
    SortDirection.ofValue direction = .error fault ↔
      (∀ found, SortDirection.ofValue direction ≠ .ok found) ∧
        fault = (Fault.invalidDirection direction).worded := by
  unfold SortDirection.ofValue
  split <;> simp [eq_comm]

/-- What is no integer is refused as it is, unless it is infinite. -/
theorem integerOf_eq_error_iff (clause : CountClause) (value : Value) (fault : Fault) :
    integerOf clause value = .error fault ↔
      (∃ negative, value = .float (.infinity negative) ∧ fault = .infiniteCount) ∨
      (∀ negative, value ≠ .float (.infinity negative)) ∧ (∀ n, integerOf clause value ≠ .ok n) ∧
        fault = (Fault.invalidCount clause value).worded := by
  unfold integerOf
  cases value with
  | float x => cases x <;> simp [eq_comm]
  | text | bytes | buffer =>
    dsimp only
    split <;> simp [eq_comm]
  | _ => simp [eq_comm]

/-- A number of rows fails with what it is charged with, put into words. -/
theorem rowCount_eq_error_iff (clause : CountClause) (value : Value) (fault : Fault) :
    rowCount clause value = .error fault ↔
      ∃ offence, CountOffence clause value offence ∧ fault = offence.worded := by
  unfold rowCount
  rw [Outcome.bind_eq_error_iff, integerOf_eq_error_iff]
  constructor
  -- Infinite, not read as an integer, or read and below zero.
  · rintro ((⟨negative, rfl, rfl⟩ | ⟨finite, unread, rfl⟩) | ⟨n, read, failed⟩)
    · exact ⟨_, .infinite negative, rfl⟩
    · exact ⟨_, .unread finite unread, rfl⟩
    · split at failed
      next below =>
        cases failed
        exact ⟨_, .negative read below, rfl⟩
      · cases failed
  · rintro ⟨offence, charged, rfl⟩
    cases charged with
    | infinite negative => exact .inl (.inl ⟨negative, rfl, rfl⟩)
    | unread finite unread => exact .inl (.inr ⟨finite, unread, rfl⟩)
    | negative read below => exact .inr ⟨_, read, if_pos below⟩

/-- A call raises what it is charged with, put into words. -/
theorem Query.apply_eq_error_iff (q : Query) (call : Call) (fault : Fault) :
    q.apply call = .error fault ↔ ∃ offence, call.Offends offence ∧ fault = offence.worded := by
  rw [Query.apply_eq_read, Outcome.map_eq_error_iff]
  cases call with
  | select arguments =>
    rw [Call.read, Outcome.map_eq_error_iff, (Column.listOf_inOrder arguments).error_iff]
    simp only [← Fault.eq_worded_iff, Call.Offends]
  | isNull arguments | isNotNull arguments =>
    rw [Call.read, Outcome.map_eq_error_iff, (NullField.listOf_inOrder arguments).error_iff]
    simp only [← Fault.eq_worded_iff, Call.Offends]
  | compare default arguments =>
    rw [Call.read, Outcome.map_eq_error_iff, Predicate.comparisons_eq,
      Predicate.comparisonsFrom_eq_error_iff]
    rfl
  -- The table is looked at before the condition.
  | join kind table condition =>
    rw [Call.read, Outcome.map_eq_error_iff]
    refine requireName_bind_eq_error_iff (fun name fault => ?_) fault
    rw [Outcome.bind_pure_eq_error_iff, JoinCondition.ofArgument_eq_error_iff]
    constructor
    · exact fun ⟨unread, equal⟩ => ⟨_, ⟨unread, rfl⟩, equal⟩
    · rintro ⟨_, ⟨unread, rfl⟩, worded⟩
      exact ⟨unread, worded⟩
  | isIn field values | isNotIn field values =>
    rw [Call.read, Outcome.map_eq_error_iff]
    refine requireName_bind_eq_error_iff (fun name fault => ?_) fault
    rw [Outcome.bind_pure_eq_error_iff, membersOf_eq_error_iff]
    simp
  | order field direction =>
    rw [Call.read, Outcome.map_eq_error_iff]
    refine requireName_bind_eq_error_iff (fun name fault => ?_) fault
    rw [Outcome.bind_pure_eq_error_iff, SortDirection.ofValue_eq_error_iff]
    simp
  | limit value | offset value =>
    rw [Call.read, Outcome.map_eq_error_iff, rowCount_eq_error_iff]
    rfl
  -- These cannot fail.
  | byId | reset => exact ⟨nofun, fun ⟨_, never, _⟩ => never.elim⟩

/-- What cannot be put into words is not raised, whatever it is. -/
theorem Query.apply_tooManyDigits (q : Query) {call : Call} (long : call.ShowsTooManyDigits) :
    q.apply call = .error .tooManyDigits := by
  obtain ⟨offence, offends, unwritable⟩ := long
  exact (q.apply_eq_error_iff call _).mpr
    ⟨offence, offends, (Fault.eq_worded_iff _ _).mpr (.inr ⟨unwritable, rfl⟩)⟩

theorem NameOffence.kind {role : String} {value : Value} {next : Name → Fault → Prop}
    {offence : Fault} {kinds : List FaultKind} (charged : NameOffence role value next offence)
    (argument : .invalidArgument ∈ kinds)
    (later : ∀ name offence, next name offence → ∃ kind ∈ kinds, offence.kind? = some kind) :
    ∃ kind ∈ kinds, offence.kind? = some kind := by
  cases charged with
  | unnamed => exact ⟨_, argument, rfl⟩
  | next _ charged => exact later _ _ charged

/-- The fault that a call is charged with is of a kind that it is for, unless it is for infinitely
many rows. -/
theorem Call.Offends.kind {call : Call} {offence : Fault} (offends : call.Offends offence) :
    (∃ kind ∈ call.kinds, offence.kind? = some kind) ∨ call.CountsInfinity := by
  cases call with
  | select =>
    obtain ⟨_, _, _, _, _, fails⟩ := offends
    exact .inl (by cases fails <;> exact ⟨_, List.mem_singleton_self _, rfl⟩)
  | isNull | isNotNull =>
    obtain ⟨_, _, _, _, _, fails⟩ := offends
    exact .inl (by cases fails <;> exact ⟨_, List.mem_singleton_self _, rfl⟩)
  | compare =>
    obtain ⟨_, _, _, _, _, fails⟩ := offends
    left
    -- Three parts can be wrong in two ways, everything else in one.
    cases fails with
    | key | field | shape => exact ⟨.invalidArgument, by simp [Call.kinds], rfl⟩
    | operator => exact ⟨.invalidOperator, by simp [Call.kinds], rfl⟩
  | join =>
    refine .inl (NameOffence.kind offends (by simp [Call.kinds]) ?_)
    rintro _ _ ⟨_, rfl⟩
    exact ⟨.invalidJoin, by simp [Call.kinds], rfl⟩
  | isIn | isNotIn =>
    refine .inl (NameOffence.kind offends (by simp [Call.kinds]) ?_)
    rintro _ _ ⟨_, rfl⟩
    exact ⟨.invalidArgument, by simp [Call.kinds], rfl⟩
  | order =>
    refine .inl (NameOffence.kind offends (by simp [Call.kinds]) ?_)
    rintro _ _ ⟨_, rfl⟩
    exact ⟨.invalidDirection, by simp [Call.kinds], rfl⟩
  | limit | offset =>
    cases offends with
    -- An infinite number is none of the kinds.
    | infinite negative => exact .inr ⟨negative, rfl⟩
    | unread | negative => exact .inl ⟨_, List.mem_singleton_self _, rfl⟩
  | byId | reset => cases offends

/-- A call fails with nothing but the faults it is for, unless it is for infinitely many rows or its
fault shows an integer of too many digits. -/
theorem Query.apply_fails_iff (q : Query) (call : Call) :
    FailsOnly call.kinds (q.apply call) ↔ ¬call.CountsInfinity ∧ ¬call.ShowsTooManyDigits := by
  constructor
  · intro own
    constructor
    · intro infinite
      cases call with
      | limit | offset =>
        obtain ⟨negative, rfl⟩ := infinite
        -- The fault is the one of the conversion, which is of no kind.
        obtain ⟨kind, _, foreign⟩ := own .infiniteCount rfl
        cases foreign
      | _ => exact infinite
    · intro long
      obtain ⟨kind, _, foreign⟩ := own _ (q.apply_tooManyDigits long)
      cases foreign
  · rintro ⟨finite, short⟩ fault failed
    obtain ⟨offence, offends, worded⟩ := (q.apply_eq_error_iff call fault).mp failed
    rcases (Fault.eq_worded_iff _ _).mp worded with ⟨_, rfl⟩ | ⟨long, _⟩
    · exact offends.kind.resolve_right finite
    · exact absurd ⟨offence, offends, long⟩ short

/-! ### Row data and conflict targets -/

/-- Joining names has two ends: all of them are names, or the first that is none is at fault. -/
theorem namesToJoin_ok_or_error (values : List Value) :
    (∃ names, namesToJoin values = .ok names ∧ ∀ value ∈ values, value.name? ≠ none) ∨
      ∃ index, ∃ value ∈ values,
        namesToJoin values = .error (.notJoinable index value) ∧ value.name? = none := by
  -- The induction is on the values behind some index, and only the fault knows the index.
  suffices ∀ index,
      (∃ names, namesToJoin.go index values = .ok names ∧ ∀ value ∈ values, value.name? ≠ none) ∨
        ∃ found, ∃ value ∈ values,
          namesToJoin.go index values = .error (.notJoinable found value) ∧ value.name? = none
    from this 0
  intro index
  induction values generalizing index with
  | nil => exact .inl ⟨[], rfl, by simp⟩
  | cons value rest ih =>
    cases named : value.name? with
    | none =>
      refine .inr ⟨index, value, by simp, ?_, named⟩
      simp only [namesToJoin.go, named]
    | some name =>
      rcases ih (index + 1) with ⟨names, joined, all⟩ | ⟨found, other, member, failed, unnamed⟩
      · refine .inl ⟨name :: names, ?_, ?_⟩
        · simp only [namesToJoin.go, named, joined, Except.map]
        · simpa [named] using all
      · refine .inr ⟨found, other, List.mem_cons_of_mem _ member, ?_, unnamed⟩
        simp only [namesToJoin.go, named, failed, Except.map]

/-- A fault of joining is of no kind of the library, so that it is among none of the given kinds. -/
theorem namesToJoin_fails_iff (kinds : List FaultKind) (values : List Value) :
    FailsOnly kinds (namesToJoin values) ↔ ∀ value ∈ values, value.name? ≠ none := by
  rcases namesToJoin_ok_or_error values with ⟨names, joined, all⟩ | ⟨index, value, member, failed,
    unnamed⟩
  · rw [joined]
    exact ⟨fun _ => all, fun _ => .ok names⟩
  · rw [failed]
    constructor
    · intro own
      obtain ⟨kind, _, foreign⟩ := own _ rfl
      cases foreign
    · exact fun all => absurd unnamed (all value member)

theorem fieldNames_fails_iff {α : Type} (kinds : List FaultKind) (entries : List (Value × Value))
    (f : List Name → α) :
    FailsOnly kinds (namesToJoin (entries.map (·.1)) >>= fun names => .ok (f names)) ↔
      ∀ entry ∈ entries, entry.1.name? ≠ none := by
  rw [FailsOnly.bind_iff, namesToJoin_fails_iff, List.forall_mem_map]
  exact ⟨And.left, fun named => ⟨named, fun names _ => .ok (f names)⟩⟩

/-- A number of too many digits is a fault of no kind of the library. -/
theorem requireWritable_fails_iff (kinds : List FaultKind) (values : List Value) :
    FailsOnly kinds (requireWritable values) ↔ ∀ v ∈ values, v.isWritable = true := by
  rw [← requireWritable_eq_ok_iff values ()]
  cases outcome : requireWritable values with
  | ok done => exact ⟨fun _ => rfl, fun _ => .ok done⟩
  | error fault =>
    obtain ⟨rfl, _⟩ := (requireWritable_eq_error_iff values fault).mp outcome
    refine ⟨fun own => ?_, nofun⟩
    obtain ⟨kind, _, foreign⟩ := own _ rfl
    cases foreign

/-- Fields that are names can be written, so that writing them first makes no difference. -/
theorem writtenNames_fails_iff {α : Type} (kinds : List FaultKind) (entries : List (Value × Value))
    (f : List Name → α) :
    FailsOnly kinds (requireWritable (entries.map (·.1)) >>= fun _ =>
        namesToJoin (entries.map (·.1)) >>= fun names => .ok (f names)) ↔
      ∀ entry ∈ entries, entry.1.name? ≠ none := by
  rw [FailsOnly.bind_iff, requireWritable_fails_iff, fieldNames_fails_iff, List.forall_mem_map]
  refine ⟨fun ⟨written, named⟩ => ?_, fun named => ⟨fun entry here => ?_, fun _ _ => named⟩⟩
  · exact named () ((requireWritable_eq_ok_iff _ _).mpr (List.forall_mem_map.mpr written))
  · obtain ⟨name, found⟩ := Option.ne_none_iff_exists'.mp (named entry here)
    exact Value.isWritable_of_name found

theorem rowData_fails (statement : RowStatement) (data : Value) :
    FailsOnly [.invalidArgument] (rowData statement data) := by
  unfold rowData
  split
  · exact .ok _
  · exact .error (by simp) rfl

theorem filledRowData_fails (statement : RowStatement) (data : Value) :
    FailsOnly [.invalidArgument] (filledRowData statement data) := by
  refine .bind (rowData_fails statement data) fun entries _ => ?_
  split
  · exact .error (by simp) rfl
  · exact .ok _

/-- A conflict target gives names unless it is a number or one of its elements is none. -/
theorem conflictNames_fails_iff (kinds : List FaultKind) (conflict : Value) :
    FailsOnly kinds (conflictTargets conflict >>= namesToJoin) ↔
      conflict.isNumber = false ∧
        ∀ targets, conflict.elements? = some targets → ∀ target ∈ targets, target.name? ≠ none := by
  simp only [FailsOnly.bind_iff, namesToJoin_fails_iff]
  cases conflict with
  | bool | int | float =>
    -- Such a value has no elements, and the fault of reading them is of no kind.
    simp only [Value.isNumber, Bool.true_eq_false, false_and, iff_false, not_and]
    intro own
    obtain ⟨kind, _, foreign⟩ := own _ rfl
    cases foreign
  | null =>
    -- Nothing is no target at all.
    simp [conflictTargets, FailsOnly, Value.isNumber, Value.elements?]
  | text s | direction d =>
    -- A text is one name here; read element by element, it would give names as well.
    simp [conflictTargets, FailsOnly, Value.isNumber, Value.elements?, Value.name?]
  | _ =>
    simp [conflictTargets, FailsOnly, Value.isNumber, Value.elements?]

/-! ### Compilations -/

namespace Query

theorem insert_fails_iff (q : Query) (data : Value) :
    FailsOnly [.invalidArgument] (q.insert data) ↔ ¬(Build.insert data).JoinsNonNames := by
  unfold insert
  simp only [FailsOnly.bind_iff, rowData_fails, rowData_eq_ok_iff, true_and, Build.JoinsNonNames,
    not_exists, not_and]
  refine forall₂_congr fun entries _ => ?_
  cases entries with
  | nil =>
    -- Without a field nothing is joined.
    simp only [List.not_mem_nil, false_implies, implies_true, iff_true]
    exact .ok _
  | cons entry rest => exact fieldNames_fails_iff _ (entry :: rest) _

theorem upsert_fails_iff (q : Query) (data conflict : Value) :
    FailsOnly [.invalidArgument] (q.upsert data conflict) ↔
      ¬(Build.upsert data conflict).JoinsNonNames := by
  -- Reading the target and joining it go together, because the lemma above is about both.
  have regrouped : q.upsert data conflict = filledRowData .upsert data >>= fun entries =>
      (conflictTargets conflict >>= namesToJoin) >>= fun targets =>
        requireWritable (entries.map (·.1)) >>= fun _ =>
          namesToJoin (entries.map (·.1)) >>= fun fields =>
            .ok (.ofParts [insertHead q.table fields (entries.map (·.2)),
              conflictClause targets fields]) := by
    simp only [upsert, bind_assoc, pure, Except.pure]
  rw [regrouped, FailsOnly.bind_iff]
  simp only [filledRowData_fails, filledRowData_eq_ok_iff, true_and, and_imp, Build.JoinsNonNames,
    not_exists, not_and]
  refine forall₃_congr fun entries _ _ => ?_
  rw [FailsOnly.bind_iff, conflictNames_fails_iff]
  simp only [writtenNames_fails_iff, not_or, Bool.not_eq_true, not_exists, not_and]
  constructor
  · rintro ⟨⟨noNumber, named⟩, fields⟩
    -- The target is read with no fault at all, so that the fields are joined as well.
    obtain ⟨targets, read⟩ :=
      FailsOnly.nil_iff.mp ((conflictNames_fails_iff [] conflict).mpr ⟨noNumber, named⟩)
    exact ⟨noNumber, named, fields targets read⟩
  · rintro ⟨noNumber, named, fields⟩
    exact ⟨⟨noNumber, named⟩, fun _ _ => fields⟩

/-- A compilation fails with nothing but the faults it is for, unless it joins what is no name or
writes an integer of too many digits. -/
theorem build_fails_iff (q : Query) (build : Build) :
    FailsOnly build.kinds (q.build build) ↔
      ¬build.JoinsNonNames ∧ ¬q.WritesTooManyDigits build := by
  cases build with
  -- These fail only where a number is written.
  | select | delete =>
    refine (FailsOnly.map_iff _).trans ((FailsOnly.map_iff _).trans ?_)
    simp [requireWritable_fails_iff, Build.JoinsNonNames, WritesTooManyDigits]
  | conditions => exact ⟨fun _ => ⟨id, id⟩, fun _ => .ok _⟩
  | count =>
    refine ⟨fun _ => ⟨id, id⟩, fun _ => .map _ ?_⟩
    unfold count
    split
    · exact .ok _
    · exact .error (by simp [Build.kinds]) rfl
  | update data =>
    refine (FailsOnly.map_iff _).trans ?_
    unfold update
    rw [FailsOnly.bind_iff]
    simp only [Build.kinds, filledRowData_fails, filledRowData_eq_ok_iff, true_and, and_imp,
      FailsOnly.bind_iff, requireWritable_fails_iff, Build.JoinsNonNames, WritesTooManyDigits,
      not_false_eq_true, not_exists, not_and, Bool.not_eq_false]
    -- Nothing is left to fail once the data are read and all keys can be written.
    exact forall₃_congr fun entries _ _ => and_iff_left fun _ _ => .ok _
  | insert data =>
    refine (FailsOnly.map_iff _).trans ((q.insert_fails_iff data).trans ?_)
    simp only [WritesTooManyDigits, not_false_eq_true, and_true]
  | upsert data conflict =>
    refine (FailsOnly.map_iff _).trans ((q.upsert_fails_iff data conflict).trans ?_)
    simp only [WritesTooManyDigits, not_false_eq_true, and_true]

end Query

/-- Whatever a builder has been through and whatever the arguments are, a call and a compilation
succeed or fail with one of the library's own kinds of faults that they are for. The exceptions are
just these: a call for infinitely many rows, a call whose fault would show an integer of too many
digits, a compilation that joins what is no name, and one that writes such an integer. -/
theorem Builder.own_faults_iff (b : Builder) :
    (∀ call, FailsOnly call.kinds (b.apply call) ↔
      ¬call.CountsInfinity ∧ ¬call.ShowsTooManyDigits) ∧
      ∀ build, FailsOnly build.kinds (b.query.build build) ↔
        ¬build.JoinsNonNames ∧ ¬b.query.WritesTooManyDigits build :=
  ⟨fun call => (FailsOnly.map_iff _).trans (b.query.apply_fails_iff call),
    b.query.build_fails_iff⟩

/-- An infinite limit, a field that is no name and a number as conflict target lead to faults that
are not of the library's own kinds, already on a fresh builder. So do long integers: a limit below
zero, a field, and a limit that is compiled. -/
theorem Builder.foreign_faults_on_fresh :
    let long : Value := .int (10 ^ Numeral.maxDigits)
    ∃ b, Builder.ofTable (.text "t") = .ok b ∧
      (∃ fault, b.apply (.limit (.float (.infinity false))) = .error fault ∧ fault.kind? = none) ∧
      (∃ fault, b.query.build (.insert (.map [(.int 1, .null)])) = .error fault ∧
        fault.kind? = none) ∧
      (∃ fault, b.query.build (.upsert (.map [(.text "a", .null)]) (.int 5)) = .error fault ∧
        fault.kind? = none) ∧
      (∃ fault, b.apply (.limit (.int (-10 ^ Numeral.maxDigits))) = .error fault ∧
        fault.kind? = none) ∧
      (∃ fault, b.apply (.compare .equal [long, .int 1]) = .error fault ∧ fault.kind? = none) ∧
      (∃ fault, b.query.build (.update (.map [(long, .int 1)])) = .error fault ∧
        fault.kind? = none) ∧
      ∃ b', b.apply (.limit long) = .ok b' ∧
        ∃ fault, b'.query.build .select = .error fault ∧ fault.kind? = none := by
  have long := Value.not_isWritable_power
  have negated_long := Value.not_isWritable_neg_power
  have positive : (0 : Int) < 10 ^ Numeral.maxDigits := Int.pow_pos (by decide)
  -- Only that there are too many digits matters from here on, not which.
  generalize (10 : Int) ^ Numeral.maxDigits = n at *
  refine ⟨_, rfl, ⟨_, rfl, rfl⟩, ⟨_, rfl, rfl⟩, ⟨_, rfl, rfl⟩, ⟨.tooManyDigits, ?_, rfl⟩,
    ⟨.tooManyDigits, ?_, rfl⟩, ⟨.tooManyDigits, ?_, rfl⟩, ?_⟩
  · refine (Outcome.map_eq_error_iff _ _ _).mpr (Query.apply_tooManyDigits _ ?_)
    exact ⟨_, .negative rfl (by omega), _, List.mem_singleton_self _, negated_long⟩
  · refine (Outcome.map_eq_error_iff _ _ _).mpr (Query.apply_tooManyDigits _ ?_)
    exact ⟨_, ⟨[], _, [], rfl, by simp, .field (.inl rfl) rfl⟩, _, List.mem_singleton_self _, long⟩
  · simp [Query.build, Query.update, filledRowData, rowData, requireWritable, long, Except.map, bind,
      Except.bind, pure, Except.pure]
  · -- The call keeps the limit, and only the compilation writes it.
    have kept : rowCount .limit (.int n) = .ok n := by
      simp only [rowCount, integerOf, bind, Except.bind]
      exact if_neg (Int.not_lt.mpr (Int.le_of_lt positive))
    refine ⟨⟨.text "t", { table := "t", limit := some n }⟩, ?_, .tooManyDigits, ?_, rfl⟩
    · simp [apply, Query.apply, kept, Except.map, bind, Except.bind, pure, Except.pure, Name.plain]
    · simp [Query.build, Query.selection, Query.rowNumbers, requireWritable, long, Except.map]

end FluentSql
