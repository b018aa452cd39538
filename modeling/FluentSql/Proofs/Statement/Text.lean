import FluentSql.Proofs.Fault
import FluentSql.Proofs.Outcome
import FluentSql.Proofs.Text.Delimited
import FluentSql.Statement

/-!
# The text of statements

The two views of fragments and statements, part by part: after the head of a statement each part
follows a space, and the terminator follows the last. Then when a statement that takes row data is
compiled, and to what.
-/

namespace FluentSql

namespace Fragment

@[simp] theorem sql_text (s : String) : (text s).sql = s := by
  simp [sql, text, pieceSql]

@[simp] theorem sql_slot (v : Value) : (slot v).sql = "?" := by
  simp [sql, slot, pieceSql, placeholder]

@[simp] theorem sql_append (f g : Fragment) : (f ++ g).sql = f.sql ++ g.sql := by
  apply String.toList_inj.mp
  change (String.join ((f.pieces ++ g.pieces).map pieceSql)).toList = _
  simp [sql, String.toList_join]

@[simp] theorem params_text (s : String) : (text s).params = [] := rfl

@[simp] theorem params_slot (v : Value) : (slot v).params = [v] := rfl

@[simp] theorem params_append (f g : Fragment) : (f ++ g).params = f.params ++ g.params :=
  List.filterMap_append

theorem sql_joined (separator : String) (fs : List Fragment) :
    (joined separator fs).sql.toList = separatedText separator (fun f => f.sql.toList) fs := by
  fun_induction joined separator fs with
  | case1 => rfl
  | case2 single => simp [separatedText]
  | case3 first rest filled ih =>
    obtain ⟨second, others, rfl⟩ := List.exists_cons_of_ne_nil filled
    rw [sql_append, sql_append, String.toList_append, String.toList_append, ih, sql_text,
      separatedText_cons, separatedText_cons]
    simp

@[simp] theorem params_joined (separator : String) (fs : List Fragment) :
    (joined separator fs).params = fs.flatMap params := by
  fun_induction joined separator fs with
  | case1 => rfl
  | case2 => simp
  | case3 first rest _ ih => simp [ih]

@[simp] theorem params_slots (values : List Value) : (slots values).params = values := by
  simp [slots, List.flatMap_map]

end Fragment

/-- The text of parts that follow the head of a statement. -/
def Fragment.following (parts : List Fragment) : List Char :=
  parts.flatMap fun part => ' ' :: part.sql.toList

@[simp] theorem Fragment.following_append (parts more : List Fragment) :
    following (parts ++ more) = following parts ++ following more :=
  List.flatMap_append

namespace Statement

theorem sql_ofParts (head : Fragment) (parts : List Fragment) :
    (ofParts (head :: parts)).sql.toList =
      head.sql.toList ++ Fragment.following parts ++ [';'] := by
  rw [sql, ofParts, String.toList_append, Fragment.sql_joined, separatedText_cons]
  rfl

@[simp] theorem params_ofParts (parts : List Fragment) :
    (ofParts parts).params = parts.flatMap Fragment.params := by
  rw [params, ofParts, Fragment.params_joined]

end Statement

/-! ### Clauses -/

namespace Query

/-- A predicate has been declared if there is a condition to write. -/
theorem hasPredicates_iff (q : Query) : q.hasPredicates = true ↔ q.conditions ≠ [] := by
  simp only [hasPredicates, conditions, ne_eq, List.append_eq_nil_iff, List.map_eq_nil_iff,
    Bool.or_eq_true, Bool.not_eq_true', List.isEmpty_eq_false_iff]
  tauto

theorem orderClause_params (q : Query) : q.orderClause.flatMap Fragment.params = [] := by
  unfold orderClause
  split <;> rfl

theorem countClause_params (keyword : String) (number : Option Int) :
    (countClause keyword number).flatMap Fragment.params = [] := by
  cases number <;> rfl

end Query

/-! ### Statements with row data -/

@[simp] theorem Name.name?_toValue (name : Name) : name.toValue.name? = some name := by
  cases name <;> rfl

/-- Names are joined exactly when each of the values is one. -/
theorem namesToJoin_eq_ok_iff (values : List Value) (names : List Name) :
    namesToJoin values = .ok names ↔
      List.Forall₂ (fun value name => value.name? = some name) values names := by
  -- The index only goes into the fault, so that the statement holds from any index on.
  suffices ∀ index, namesToJoin.go index values = .ok names ↔
      List.Forall₂ (fun value name => value.name? = some name) values names from this 0
  intro index
  induction values generalizing index names with
  | nil => cases names <;> simp [namesToJoin.go]
  | cons value rest ih =>
    cases named : value.name? with
    | none =>
      -- What is no name has no place in the list of names.
      simp only [namesToJoin.go, named, reduceCtorEq, false_iff]
      intro all
      cases all with
      | cons found => simp [named] at found
    | some name =>
      simp only [namesToJoin.go, named, Outcome.map_eq_ok_iff, ih]
      constructor
      · rintro ⟨names, all, rfl⟩
        exact .cons named all
      · intro all
        cases all with
        | cons found all =>
          cases named.symm.trans found
          exact ⟨_, all, rfl⟩

/-- Names are written whatever numbers there are. -/
theorem requireWritable_of_namesToJoin {values : List Value} {names : List Name}
    (joined : namesToJoin values = .ok names) : requireWritable values = .ok () := by
  have named := (namesToJoin_eq_ok_iff values names).mp joined
  rw [requireWritable_eq_ok_iff]
  clear joined
  induction named with
  | nil => simp
  | cons first _ ih => exact List.forall_mem_cons.mpr ⟨Value.isWritable_of_name first, ih⟩

theorem filterMap_name? (values : List Value) (names : List Name)
    (named : List.Forall₂ (fun value name => value.name? = some name) values names) :
    values.filterMap Value.name? = names := by
  induction named with
  | nil => rfl
  | cons found _ ih => simp [found, ih]

theorem rowData_eq_ok_iff (statement : RowStatement) (data : Value)
    (entries : List (Value × Value)) : rowData statement data = .ok entries ↔ data = .map entries := by
  cases data <;> simp [rowData]

/-- Only a mapping that is not empty fills a row. -/
theorem filledRowData_eq_ok_iff (statement : RowStatement) (data : Value)
    (entries : List (Value × Value)) :
    filledRowData statement data = .ok entries ↔ data = .map entries ∧ entries ≠ [] := by
  simp only [filledRowData, Outcome.bind_eq_ok_iff, rowData_eq_ok_iff]
  constructor
  · rintro ⟨found, rfl, filled⟩
    split at filled
    · cases filled
    next some_entry =>
      cases filled
      exact ⟨rfl, by simpa using some_entry⟩
  · rintro ⟨rfl, some_entry⟩
    refine ⟨entries, rfl, ?_⟩
    rw [if_neg (by simpa using some_entry)]
    rfl

namespace Query

theorem count_eq_ok_iff (q : Query) (s : Statement) :
    q.count = .ok s ↔ q.joins = [] ∧ s = .ofParts
      (.text ("SELECT count(" ++ q.counted ++ ") AS count FROM " ++ q.table) :: q.whereClause) := by
  unfold count
  split
  next none => simp [List.isEmpty_iff.mp none, eq_comm]
  next some_join =>
    simp only [reduceCtorEq, false_iff, not_and]
    exact fun none => absurd (List.isEmpty_iff.mpr none) some_join

theorem insert_eq_ok_iff (q : Query) (data : Value) (s : Statement) :
    q.insert data = .ok s ↔ ∃ entries, data = .map entries ∧
      (entries = [] ∧ s = .ofParts [.text ("INSERT INTO " ++ q.table ++ " DEFAULT VALUES")] ∨
        entries ≠ [] ∧ ∃ fields, namesToJoin (entries.map (·.1)) = .ok fields ∧
          s = .ofParts [insertHead q.table fields (entries.map (·.2))]) := by
  simp only [insert, Outcome.bind_eq_ok_iff, rowData_eq_ok_iff]
  apply exists_congr
  intro entries
  apply and_congr_right
  rintro rfl
  -- Data without a field insert a row of defaults.
  cases entries with
  | nil => simp [pure, Except.pure, eq_comm (a := s)]
  | cons entry rest => simp [pure, Except.pure, Outcome.bind_eq_ok_iff, eq_comm (a := s)]

/-- What comes of a row that is filled, with names only among its fields and the targets. -/
theorem upsert_eq_ok_iff (q : Query) (data conflict : Value) (s : Statement) :
    q.upsert data conflict = .ok s ↔ ∃ entries, data = .map entries ∧ entries ≠ [] ∧
      ∃ values, conflictTargets conflict = .ok values ∧
      ∃ targets, namesToJoin values = .ok targets ∧
      ∃ fields, namesToJoin (entries.map (·.1)) = .ok fields ∧
        s = .ofParts [insertHead q.table fields (entries.map (·.2)),
          conflictClause targets fields] := by
  simp only [upsert, Outcome.bind_eq_ok_iff, filledRowData_eq_ok_iff, pure, Except.pure,
    Except.ok.injEq, eq_comm (a := s), and_assoc]
  -- Fields that are joined are names, and these can be written.
  constructor
  · rintro ⟨entries, data, filled, values, read, targets, joined, _, _, fields, named, equal⟩
    exact ⟨entries, data, filled, values, read, targets, joined, fields, named, equal⟩
  · rintro ⟨entries, data, filled, values, read, targets, joined, fields, named, equal⟩
    exact ⟨entries, data, filled, values, read, targets, joined, (),
      requireWritable_of_namesToJoin named, fields, named, equal⟩

/-- An update is compiled if its fields and the numbers in its tail can be written. -/
theorem update_eq_ok_iff (q : Query) (data : Value) (s : Statement) :
    q.update data = .ok s ↔ ∃ entries, data = .map entries ∧ entries ≠ [] ∧
      (∀ v ∈ entries.map (·.1) ++ q.rowNumbers, v.isWritable = true) ∧
      s = .ofParts ((.text ("UPDATE " ++ q.table ++ " SET ") ++
        Fragment.joined ", " (entries.map assignment)) :: q.tail) := by
  simp only [update, Outcome.bind_eq_ok_iff, filledRowData_eq_ok_iff, pure, Except.pure,
    Except.ok.injEq, eq_comm (a := s), and_assoc, requireWritable_eq_ok_iff, exists_const]

theorem selection_eq_ok_iff (q : Query) (s : Statement) :
    q.selection = .ok s ↔ (∀ v ∈ q.rowNumbers, v.isWritable = true) ∧ s = q.select := by
  rw [selection, Outcome.map_eq_ok_iff]
  simp only [requireWritable_eq_ok_iff, exists_and_left, exists_const, eq_comm (a := s)]

theorem deletion_eq_ok_iff (q : Query) (s : Statement) :
    q.deletion = .ok s ↔ (∀ v ∈ q.rowNumbers, v.isWritable = true) ∧ s = q.delete := by
  rw [deletion, Outcome.map_eq_ok_iff]
  simp only [requireWritable_eq_ok_iff, exists_and_left, exists_const, eq_comm (a := s)]

end Query

end FluentSql
