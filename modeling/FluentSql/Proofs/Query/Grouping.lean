import FluentSql.Proofs.Query.Grammar

/-!
# Grouping of arguments

Columns and the fields of null predicates are read leaf by leaf. How lists and tuples group the
leaves makes no difference to what is declared, nor to which leaf is at fault.
Main result: `Argument.grouping_is_irrelevant`.
-/

namespace FluentSql

namespace Argument

/-! ### Leaves -/

/-- What is read by itself: a value that is no group, or an entry of a mapping. -/
inductive Leaf where
  | single (value : Value)
  | entry (key value : Value)

mutual

/-- The leaves of an argument, from left to right. Of the entries of a mapping only those are leaves
whose values pass the test. -/
def leaves (keeps : Value → Bool) : Value → List Leaf
  | .list items | .tuple items => leavesOf keeps items
  | .map entries =>
    (entries.filter fun entry => keeps entry.2).map fun entry => .entry entry.1 entry.2
  | value => [.single value]

/-- The leaves of several arguments, those of the first before those of the others. -/
def leavesOf (keeps : Value → Bool) : List Value → List Leaf
  | [] => []
  | value :: rest => leaves keeps value ++ leavesOf keeps rest

end

theorem leaves_of_single (keeps : Value → Bool) (value : Value) (single : value.isGroup = false) :
    leaves keeps value = [.single value] := by
  cases value with
  | list | tuple | map => cases single
  | _ =>
    unfold leaves
    rfl

/-! ### Walks -/

variable {α β : Type}

/-- A walk over arguments that keeps their grouping and reads each leaf by itself. -/
structure Walks (keeps : Value → Bool) (read : Leaf → Except Fault α)
    (one : Value → Except Fault (Nested α)) (all : List Value → Except Fault (List (Nested α))) :
    Prop where
  list : ∀ items, one (.list items) = (all items).map .group
  tuple : ∀ items, one (.tuple items) = (all items).map .group
  map : ∀ entries, one (.map entries) =
    ((entries.filter fun entry => keeps entry.2).mapM fun entry =>
      (read (.entry entry.1 entry.2)).map .leaf).map .group
  single : ∀ value, value.isGroup = false → one value = (read (.single value)).map .leaf
  nil : all [] = .ok []
  cons : ∀ value rest, all (value :: rest) = do return (← one value) :: (← all rest)

section

variable {keeps : Value → Bool} {read : Leaf → Except Fault α}
  {one : Value → Except Fault (Nested α)} {all : List Value → Except Fault (List (Nested α))}

mutual

/-- A walk comes upon the leaves of an argument from left to right. -/
theorem Walks.leaves (walks : Walks keeps read one all) (value : Value) :
    (one value).map Nested.leaves = (leaves keeps value).mapM read := by
  cases value with
  | list items =>
    unfold Argument.leaves
    rw [walks.list, Nested.map_group, walks.leavesOf items]
  | tuple items =>
    unfold Argument.leaves
    rw [walks.tuple, Nested.map_group, walks.leavesOf items]
  | map entries =>
    unfold Argument.leaves
    -- The entries of a mapping are its leaves, whatever they hold.
    rw [walks.map, Nested.map_group, Nested.mapM_leaf, List.mapM_map]
    rfl
  | _ =>
    rw [walks.single _ rfl, leaves_of_single _ _ rfl, Nested.map_leaf]
    simp

/-- A walk over arguments reads their leaves in order. -/
theorem Walks.leavesOf (walks : Walks keeps read one all) (arguments : List Value) :
    (all arguments).map Nested.leavesOf = (leavesOf keeps arguments).mapM read := by
  cases arguments with
  | nil =>
    unfold Argument.leavesOf
    rw [walks.nil]
    simp [Except.map, pure, Except.pure]
  | cons value rest =>
    unfold Argument.leavesOf
    rw [walks.cons, List.mapM_append, ← walks.leaves value, ← walks.leavesOf rest]
    exact Nested.map_cons (one value) (all rest)

end

end

/-! ### Outcomes -/

/-- The first leaf that stands for nothing, and the fault that it is charged with. -/
def FirstOffence (stands : Leaf → β → Prop) (fails : Leaf → Fault → Prop) (leaves : List Leaf)
    (offence : Fault) : Prop :=
  ∃ before leaf after, leaves = before ++ leaf :: after ∧ (∀ other ∈ before, ∃ b, stands other b) ∧
    fails leaf offence

/-- Reading leaves one by one gives what each of them stands for, or the fault of the first of them
that stands for nothing. That fault is raised as it is, unless an integer that it shows has too many
digits. -/
structure ReadInOrder (stands : Leaf → β → Prop) (fails : Leaf → Fault → Prop)
    (leaves : List Leaf) (outcome : Except Fault (List β)) : Prop where
  ok_iff : ∀ found, outcome = .ok found ↔ List.Forall₂ stands leaves found
  error_iff : ∀ fault, outcome = .error fault ↔ ∃ offence,
    FirstOffence stands fails leaves offence ∧
      (((∀ v ∈ offence.shown, v.isWritable = true) ∧ fault = offence) ∨
        ((∃ v ∈ offence.shown, v.isWritable = false) ∧ fault = .tooManyDigits))

/-- Reading in order stops at the first leaf that cannot be read. -/
theorem readInOrder_mapM {stands : Leaf → β → Prop} {fails : Leaf → Fault → Prop}
    {read : Leaf → Except Fault β} (reads : ∀ leaf b, read leaf = .ok b ↔ stands leaf b)
    (refuses : ∀ leaf fault, read leaf = .error fault ↔
      ∃ offence, fails leaf offence ∧ fault = offence.worded) (leaves : List Leaf) :
    ReadInOrder stands fails leaves (leaves.mapM read) where
  ok_iff found := by simp only [Outcome.mapM_eq_ok_iff, reads]
  error_iff fault := by
    simp only [Outcome.mapM_eq_error_iff, reads, refuses, ← Fault.eq_worded_iff, FirstOffence]
    constructor
    · rintro ⟨before, leaf, after, split, fine, offence, offends, worded⟩
      exact ⟨offence, ⟨before, leaf, after, split, fine, offends⟩, worded⟩
    · rintro ⟨offence, ⟨before, leaf, after, split, fine, offends⟩, worded⟩
      exact ⟨before, leaf, after, split, fine, offence, offends, worded⟩

namespace Leaf

inductive AsksFor : Leaf → Column → Prop
  | name {value : Value} {name : Name} (named : value.name? = some name) :
    AsksFor (.single value) ⟨name.plain, none⟩
  | bare {key : Value} {name : Name} (named : key.name? = some name) :
    AsksFor (.entry key (.bool true)) ⟨name.plain, none⟩
  | labelled {key label : Value} {name text : Name} (named : key.name? = some name)
    (labelled : label.name? = some text) : AsksFor (.entry key label) ⟨name.plain, some text.plain⟩

/-- The fault that a leaf is charged with that asks for no column. The label of an entry is looked
at before its key. -/
inductive AskFault : Leaf → Fault → Prop
  | single {value : Value} (unnamed : value.name? = none) :
    AskFault (.single value) (.invalidColumn value)
  | label {key label : Value} (other : label ≠ .bool true) (unnamed : label.name? = none) :
    AskFault (.entry key label) (.invalidLabel key label)
  | key {key label : Value} (labelled : label = .bool true ∨ label.name? ≠ none)
    (unnamed : key.name? = none) : AskFault (.entry key label) (.notAName "Field" key)

inductive NamesField : Leaf → Name → Prop
  | single {value : Value} {name : Name} (named : value.name? = some name) :
    NamesField (.single value) name
  | key {key flag : Value} {name : Name} (named : key.name? = some name) :
    NamesField (.entry key flag) name

/-- The fault that a leaf is charged with that names no field. -/
inductive FieldFault : Leaf → Fault → Prop
  | single {value : Value} (unnamed : value.name? = none) :
    FieldFault (.single value) (.invalidNullField value)
  | key {key flag : Value} (unnamed : key.name? = none) :
    FieldFault (.entry key flag) (.notAName "Field" key)

end Leaf

end Argument

/-! ### Columns -/

namespace ColumnChoice

open Argument

/-- The choice that a leaf is read as. -/
def ofLeaf : Leaf → Except Fault ColumnChoice
  | .single value =>
    match value.name? with
    | some name => .ok { name }
    | none => .error (Fault.invalidColumn value).worded
  | .entry key label => ofEntry (key, label)

theorem walks : Walks (fun _ => true) ofLeaf ofArgument ofArguments where
  list items := by rw [ofArgument]
  tuple items := by rw [ofArgument]
  map entries := by
    rw [ofArgument, ofEntries]
    simp [ofLeaf]
  single value single := by
    cases value with
    | list | tuple | map => cases single
    | _ =>
      unfold ofArgument
      rfl
  nil := by rw [ofArguments]
  cons value rest := by rw [ofArguments]

theorem ofEntry_named {key label : Value} {text : Name} (named : label.name? = some text) :
    ofEntry (key, label) = (requireField key).map fun name => { name, label := some text } := by
  cases label with
  | text | direction =>
    cases named
    rfl
  | _ => cases named

/-- The label is looked at before the name, so that the name makes no difference here. -/
theorem ofEntry_unnamed {key label : Value} (other : label ≠ .bool true)
    (unnamed : label.name? = none) :
    ofEntry (key, label) = .error (Fault.invalidLabel key label).worded := by
  cases label with
  | text | direction => cases unnamed
  | bool b =>
    cases b with
    | false => rfl
    | true => exact absurd rfl other
  | _ => rfl

theorem ofLeaf_eq_ok_iff (leaf : Leaf) (found : Column) :
    (ofLeaf leaf).map column = .ok found ↔ leaf.AsksFor found := by
  rw [Outcome.map_eq_ok_iff]
  constructor
  · rintro ⟨choice, read, rfl⟩
    cases leaf with
    | single value =>
      simp only [ofLeaf] at read
      split at read
      next named =>
        cases read
        exact .name named
      · cases read
    | entry key label =>
      by_cases bare : label = .bool true
      -- The label says no more than that the column is asked for.
      · subst bare
        obtain ⟨name, named, rfl⟩ := (Outcome.map_eq_ok_iff _ _ _).mp read
        exact .bare ((Predicate.requireField_eq_ok_iff _ _).mp named)
      · cases shown : label.name? with
        | none =>
          rw [ofLeaf, ofEntry_unnamed bare shown] at read
          cases read
        | some text =>
          rw [ofLeaf, ofEntry_named shown] at read
          obtain ⟨name, named, rfl⟩ := (Outcome.map_eq_ok_iff _ _ _).mp read
          exact .labelled ((Predicate.requireField_eq_ok_iff _ _).mp named) shown
  · intro asks
    cases asks with
    | @name value name named => exact ⟨{ name }, by simp only [ofLeaf, named], rfl⟩
    | bare named =>
      have field := (Predicate.requireField_eq_ok_iff _ _).mpr named
      exact ⟨_, (Outcome.map_eq_ok_iff _ _ _).mpr ⟨_, field, rfl⟩, rfl⟩
    | labelled named text =>
      have field := (Predicate.requireField_eq_ok_iff _ _).mpr named
      rw [ofLeaf, ofEntry_named text]
      exact ⟨_, (Outcome.map_eq_ok_iff _ _ _).mpr ⟨_, field, rfl⟩, rfl⟩

/-- The fault of a leaf shows what is wrong with it, so that it can be raised only if that can be
written. -/
theorem ofLeaf_eq_error_iff (leaf : Leaf) (fault : Fault) :
    ofLeaf leaf = .error fault ↔ ∃ offence, leaf.AskFault offence ∧ fault = offence.worded := by
  constructor
  · intro failed
    cases leaf with
    | single value =>
      simp only [ofLeaf] at failed
      split at failed
      · cases failed
      next unnamed =>
        cases failed
        exact ⟨_, .single unnamed, rfl⟩
    | entry key label =>
      by_cases bare : label = .bool true
      · subst bare
        obtain ⟨rfl, unnamed⟩ := (Predicate.requireField_eq_error_iff _ _).mp
          ((Outcome.map_eq_error_iff _ _ _).mp failed)
        exact ⟨_, .key (.inl rfl) unnamed, rfl⟩
      · cases text : label.name? with
        | none =>
          rw [ofLeaf, ofEntry_unnamed bare text] at failed
          cases failed
          exact ⟨_, .label bare text, rfl⟩
        | some name =>
          rw [ofLeaf, ofEntry_named text] at failed
          obtain ⟨rfl, unnamed⟩ := (Predicate.requireField_eq_error_iff _ _).mp
            ((Outcome.map_eq_error_iff _ _ _).mp failed)
          exact ⟨_, .key (.inr (by simp [text])) unnamed, rfl⟩
  · rintro ⟨offence, fails, rfl⟩
    cases fails with
    -- The reading takes the label first, as the ways to go wrong do.
    | single unnamed => simp only [ofLeaf, unnamed]
    | label other unnamed => exact ofEntry_unnamed other unnamed
    | @key key label labelled unnamed =>
      have refused := (Predicate.requireField_eq_error_iff _ _).mpr ⟨rfl, unnamed⟩
      rcases labelled with rfl | text
      · exact (Outcome.map_eq_error_iff _ _ _).mpr refused
      · obtain ⟨name, text⟩ := Option.ne_none_iff_exists'.mp text
        rw [ofLeaf, ofEntry_named text]
        exact (Outcome.map_eq_error_iff _ _ _).mpr refused

end ColumnChoice

/-- Columns are read leaf by leaf. -/
theorem Column.listOf_leaves (arguments : List Value) : Column.listOf arguments =
    (Argument.leavesOf (fun _ => true) arguments).mapM fun leaf =>
      (ColumnChoice.ofLeaf leaf).map ColumnChoice.column := by
  rw [Outcome.mapM_map, ← ColumnChoice.walks.leavesOf, Column.listOf]
  cases ColumnChoice.ofArguments arguments <;> rfl

theorem Column.listOf_inOrder (arguments : List Value) :
    Argument.ReadInOrder Argument.Leaf.AsksFor Argument.Leaf.AskFault
      (Argument.leavesOf (fun _ => true) arguments) (Column.listOf arguments) := by
  rw [Column.listOf_leaves]
  refine Argument.readInOrder_mapM ColumnChoice.ofLeaf_eq_ok_iff (fun leaf fault => ?_) _
  rw [Outcome.map_eq_error_iff, ColumnChoice.ofLeaf_eq_error_iff]

/-! ### Fields of null predicates -/

namespace NullField

open Argument

/-- The field that a leaf is read as. -/
def ofLeaf : Leaf → Except Fault Name
  | .single value =>
    match value.name? with
    | some name => .ok name
    | none => .error (Fault.invalidNullField value).worded
  | .entry key _ => requireField key

/-- Entries whose flags count as false are skipped, whatever their keys. -/
theorem walks : Walks Value.truthy ofLeaf ofArgument ofArguments where
  list items := by rw [ofArgument]
  tuple items := by rw [ofArgument]
  map entries := by rw [ofArgument, ofEntries]; rfl
  single value single := by
    cases value with
    | list | tuple | map => cases single
    | _ =>
      unfold ofArgument
      rfl
  nil := by rw [ofArguments]
  cons value rest := by rw [ofArguments]

theorem ofLeaf_eq_ok_iff (leaf : Leaf) (found : Name) :
    ofLeaf leaf = .ok found ↔ leaf.NamesField found := by
  constructor
  · intro read
    cases leaf with
    | single value =>
      simp only [ofLeaf] at read
      split at read
      next named =>
        cases read
        exact .single named
      · cases read
    -- The flag was looked at before: it decides whether the entry is a leaf.
    | entry key flag => exact .key ((Predicate.requireField_eq_ok_iff _ _).mp read)
  · intro names
    cases names with
    | single named => simp only [ofLeaf, named]
    | key named => exact (Predicate.requireField_eq_ok_iff _ _).mpr named

/-- There is one way to go wrong: what should name a field does not. -/
theorem ofLeaf_eq_error_iff (leaf : Leaf) (fault : Fault) :
    ofLeaf leaf = .error fault ↔ ∃ offence, leaf.FieldFault offence ∧ fault = offence.worded := by
  constructor
  · intro failed
    cases leaf with
    | single value =>
      simp only [ofLeaf] at failed
      split at failed
      · cases failed
      next unnamed =>
        cases failed
        exact ⟨_, .single unnamed, rfl⟩
    | entry key flag =>
      obtain ⟨rfl, unnamed⟩ := (Predicate.requireField_eq_error_iff _ _).mp failed
      exact ⟨_, .key unnamed, rfl⟩
  · rintro ⟨offence, fails, rfl⟩
    cases fails with
    | single unnamed => simp only [ofLeaf, unnamed]
    | key unnamed => exact (Predicate.requireField_eq_error_iff _ _).mpr ⟨rfl, unnamed⟩

theorem listOf_leaves (arguments : List Value) :
    listOf arguments = (leavesOf Value.truthy arguments).mapM ofLeaf :=
  walks.leavesOf arguments

theorem listOf_inOrder (arguments : List Value) :
    ReadInOrder Leaf.NamesField Leaf.FieldFault (leavesOf Value.truthy arguments)
      (listOf arguments) := by
  rw [listOf_leaves]
  exact readInOrder_mapM ofLeaf_eq_ok_iff ofLeaf_eq_error_iff _

end NullField

namespace Argument

/-- Grouping is irrelevant to selections and null predicates. Both read their arguments leaf by leaf,
in order: each leaf stands for one column or field, and the first that stands for none is at fault.
The fault is that of the leaf, provided that no integer that it shows has too many digits. So
arguments with the same leaves have the same outcome. -/
theorem grouping_is_irrelevant (arguments : List Value) :
    ReadInOrder Leaf.AsksFor Leaf.AskFault (leavesOf (fun _ => true) arguments)
      (Column.listOf arguments) ∧
    ReadInOrder Leaf.NamesField Leaf.FieldFault (leavesOf Value.truthy arguments)
      (NullField.listOf arguments) ∧
    ∀ regrouped, (leavesOf (fun _ => true) arguments = leavesOf (fun _ => true) regrouped →
        Column.listOf arguments = Column.listOf regrouped) ∧
      (leavesOf Value.truthy arguments = leavesOf Value.truthy regrouped →
        NullField.listOf arguments = NullField.listOf regrouped) := by
  refine ⟨Column.listOf_inOrder arguments, NullField.listOf_inOrder arguments,
    fun regrouped => ⟨fun same => ?_, fun same => ?_⟩⟩
  · rw [Column.listOf_leaves, Column.listOf_leaves, same]
  · rw [NullField.listOf_leaves, NullField.listOf_leaves, same]

/-- Two groupings of four leaves of which a selection refuses the last, and of which a null predicate
skips the last. -/
theorem regrouped_arguments_agree :
    let text (s : String) : Value := .text s
    let labels : Value := .map [(text "c", text "d"), (.int 1, .null)]
    let arguments := [.list [text "a", .tuple [text "b", .list []]], labels]
    let regrouped := [text "a", .list [.list [text "b"], .tuple [labels]]]
    leavesOf (fun _ => true) arguments = leavesOf (fun _ => true) regrouped ∧
    leavesOf Value.truthy arguments = leavesOf Value.truthy regrouped ∧
    Column.listOf arguments = .error (.invalidLabel (.int 1) .null) ∧
    NullField.listOf arguments = .ok [.text "a", .text "b", .text "c"] ∧
    Column.listOf arguments = Column.listOf regrouped ∧
    NullField.listOf arguments = NullField.listOf regrouped := by
  intro text labels arguments regrouped
  have columns : leavesOf (fun _ => true) arguments = leavesOf (fun _ => true) regrouped := rfl
  have fields : leavesOf Value.truthy arguments = leavesOf Value.truthy regrouped := rfl
  obtain ⟨_, _, agree⟩ := grouping_is_irrelevant arguments
  exact ⟨columns, fields, rfl, rfl, (agree regrouped).1 columns, (agree regrouped).2 fields⟩

/-- A long integer, which is no column and no field. Neither fault carries it. -/
theorem long_integers_are_not_carried :
    let long : Value := .int (10 ^ Numeral.maxDigits)
    FirstOffence Leaf.AsksFor Leaf.AskFault (leavesOf (fun _ => true) [long])
      (.invalidColumn long) ∧
    Column.listOf [long] = .error .tooManyDigits ∧
    FirstOffence Leaf.NamesField Leaf.FieldFault (leavesOf Value.truthy [long])
      (.invalidNullField long) ∧
    NullField.listOf [long] = .error .tooManyDigits := by
  intro long
  have unwritable : long.isWritable = false := Value.not_isWritable_power
  have column : FirstOffence Leaf.AsksFor Leaf.AskFault (leavesOf (fun _ => true) [long])
      (.invalidColumn long) := ⟨[], _, [], rfl, by simp, .single rfl⟩
  have field : FirstOffence Leaf.NamesField Leaf.FieldFault (leavesOf Value.truthy [long])
      (.invalidNullField long) := ⟨[], _, [], rfl, by simp, .single rfl⟩
  refine ⟨column, ((Column.listOf_inOrder _).error_iff _).mpr ⟨_, column, .inr ⟨?_, rfl⟩⟩,
    field, ((NullField.listOf_inOrder _).error_iff _).mpr ⟨_, field, .inr ⟨?_, rfl⟩⟩⟩
  · exact ⟨long, List.mem_singleton_self _, unwritable⟩
  · exact ⟨long, List.mem_singleton_self _, unwritable⟩

end Argument

end FluentSql
