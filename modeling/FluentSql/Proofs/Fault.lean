import FluentSql.Fault
import Mathlib.Algebra.Ring.Int.Defs
import Mathlib.Data.Nat.Digits.Defs

/-!
# Kinds and wording of faults

The library has its own kinds of faults. A fault that is raised is of its kind only if it can be put
into words: a number of too many digits among the values it shows leads to a fault of no kind.
-/

namespace FluentSql

/-! ### Numbers of too many digits -/

namespace Value

/-- An integer is written if it has no more digits than the limit allows, whatever its sign. -/
theorem isWritable_int_iff (n : Int) :
    (int n).isWritable = true ↔ n.natAbs < 10 ^ Numeral.maxDigits := by
  rw [isWritable, decide_eq_true_iff]
  exact Nat.length_toDigits_le_iff (by decide) (by decide)

theorem isWritable_of_name {v : Value} {name : Name} (named : v.name? = some name) :
    v.isWritable = true := by
  cases v with
  | text | direction => rfl
  | _ => cases named

/-- The least integer of too many digits. -/
theorem not_isWritable_power : (int (10 ^ Numeral.maxDigits)).isWritable = false := by
  rw [← Bool.not_eq_true, isWritable_int_iff]
  simp [Int.natAbs_pow]

theorem not_isWritable_neg_power : (int (-10 ^ Numeral.maxDigits)).isWritable = false := by
  rw [← Bool.not_eq_true, isWritable_int_iff]
  simp [Int.natAbs_pow]

end Value

theorem requireWritable_eq_ok_iff (values : List Value) (done : Unit) :
    requireWritable values = .ok done ↔ ∀ v ∈ values, v.isWritable = true := by
  unfold requireWritable
  split
  next all => simpa using all
  next long => simpa using long

/-- One value that cannot be written is enough. -/
theorem requireWritable_eq_error_iff (values : List Value) (fault : Fault) :
    requireWritable values = .error fault ↔
      fault = .tooManyDigits ∧ ∃ v ∈ values, v.isWritable = false := by
  unfold requireWritable
  split
  next all =>
    rw [List.all_eq_true] at all
    simp only [reduceCtorEq, false_iff, not_and, not_exists]
    exact fun _ v here long => by simp [all v here] at long
  next long =>
    have some_long : ∃ v ∈ values, v.isWritable = false := by simpa using long
    refine ⟨fun failed => ?_, fun ⟨equal, _⟩ => by rw [equal]⟩
    cases failed
    exact ⟨rfl, some_long⟩

/-! ### Kinds -/

/-- The kinds of faults that are the library's own. -/
inductive FaultKind where
  | invalidArgument
  /-- An invalid argument in the place of a join condition. -/
  | invalidJoin
  | invalidOperator
  | invalidDirection
  | unsupportedOperation
  | detachedBuilder
  | database
  deriving DecidableEq, Repr

namespace Fault

/-- The kind of a fault, if it is one of the library's own. -/
def kind? : Fault → Option FaultKind
  | notAName .. | invalidColumn _ | invalidLabel .. | invalidPredicate _ | invalidNullField _
  | invalidCount .. | negativeCount .. | invalidMembers .. | notRowData .. | emptyRowData .. =>
    some .invalidArgument
  | invalidJoin _ => some .invalidJoin
  | invalidOperator _ => some .invalidOperator
  | invalidDirection _ => some .invalidDirection
  | countOverJoins => some .unsupportedOperation
  | detached _ => some .detachedBuilder
  | noBackupTarget _ | backupFailed .. => some .database
  -- Faults of other origin: of operations on values, of records, of the caller, and of the engine.
  | infiniteCount | tooManyDigits | notFieldNames | invalidRecord _ | notIterable _ | notSized _
  | notAKey _ | notJoinable .. | notAppendable _ | notPrependable _ | notComparable _ | notARow _
  | noColumn _ | emptyRow | noEntry _ | noAttribute .. | notAPath _ | noParenthesis | undecodable _
  | raised _ | engine _ => none

/-! ### Wording -/

theorem isWritable_eq_true_iff (fault : Fault) :
    fault.isWritable = true ↔ ∀ v ∈ fault.shown, v.isWritable = true :=
  List.all_eq_true

theorem isWritable_eq_false_iff (fault : Fault) :
    fault.isWritable = false ↔ ∃ v ∈ fault.shown, v.isWritable = false := by
  simp [isWritable]

/-- An offence is raised as it is if all that it shows can be written, and else as too many
digits. -/
theorem eq_worded_iff (fault offence : Fault) : fault = offence.worded ↔
    ((∀ v ∈ offence.shown, v.isWritable = true) ∧ fault = offence) ∨
      ((∃ v ∈ offence.shown, v.isWritable = false) ∧ fault = .tooManyDigits) := by
  rw [← isWritable_eq_true_iff, ← isWritable_eq_false_iff]
  cases writable : offence.isWritable <;> simp [worded, writable]

theorem worded_of_isWritable {fault : Fault} (writable : fault.isWritable = true) :
    fault.worded = fault :=
  if_pos writable

end Fault

end FluentSql
