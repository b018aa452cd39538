import FluentSql.Record.Query
import Mathlib.Data.List.Basic

/-!
# Written records

A record can be written from a query and from each part of one, with a value for every field. The
checks find no issue with what is written, and read back what it was written from.
Main result: `Query.read_record`.
-/

namespace FluentSql

namespace Record

variable {α : Type}

/-! ### Fields -/

/-- The record whose fields have the given names and values. -/
def named (fields : List String) (values : List Value) : List (Value × Value) :=
  (fields.zip values).map fun field => (.text field.1, field.2)

/-- A record has no issue with its keys if they are the names of its fields. -/
theorem closed_named (fields : List String) (values : List Value) (check : Check α) :
    closed (named fields values) fields check = check := by
  have known : (named fields values).filterMap (fun entry => keyIssue? fields entry.1) = [] := by
    rw [List.filterMap_eq_nil_iff]
    intro entry member
    obtain ⟨⟨field, value⟩, paired, rfl⟩ := List.mem_map.mp member
    have here := (List.of_mem_zip paired).1
    simp [keyIssue?, Value.text?, here]
  rw [closed, known]

/-- A field is found under its name, behind fields of other names. -/
theorem checkField_named_cons (field name : String) (fields : List String) (value : Value)
    (values : List Value) (absent : Check α) (check : Value → Check α) :
    checkField (named (field :: fields) (value :: values)) name absent check =
      if field = name then within (.field name) (check value)
      else checkField (named fields values) name absent check := by
  by_cases same : field = name
  · simp [checkField, named, Value.text?, same]
  · simp [checkField, named, Value.text?, same]

@[simp] theorem within_ok (step : Step) (a : α) : within step (.ok a) = .ok a := rfl

@[simp] theorem map_ok {β : Type} (f : α → β) (a : α) :
    (Except.ok a : Check α).map f = .ok (f a) := rfl

@[simp] theorem both_ok {β : Type} (f : α → β) (a : α) : both (.ok f) (.ok a) = .ok (f a) := rfl

/-! ### Values -/

@[simp] theorem checkText_text (s : String) : checkText (.text s) = .ok s := rfl

/-- A list is read back item by item. -/
theorem checkList_map (write : α → Value) (check : Value → Check α) (items : List α)
    (each : ∀ a ∈ items, check (write a) = .ok a) :
    checkList check (.list (items.map write)) = .ok items := by
  -- The index only goes into the issues, so that the statement holds from any index on.
  suffices ∀ index, checkEach.go check index (items.map write) = .ok items from this 0
  intro index
  induction items generalizing index with
  | nil => rfl
  | cons a items ih =>
    have first := each a (by simp)
    have others := ih (fun b member => each b (List.mem_cons_of_mem a member)) (index + 1)
    simp [checkEach.go, first, others]

/-- A value for something that may be missing. -/
def ofOption (write : α → Value) (a? : Option α) : Value :=
  (a?.map write).getD .null

/-- What may be missing is read back, as long as nothing that is there is written as null. -/
theorem checkOptional_ofOption (write : α → Value) (check : Value → Check α) (a? : Option α)
    (some_value : ∀ a, write a ≠ .null) (each : ∀ a, check (write a) = .ok a) :
    checkOptional check (ofOption write a?) = .ok a? := by
  cases a? with
  | none => rfl
  | some a =>
    have reads : checkOptional check (write a) = (check (write a)).map some := by
      have filled := some_value a
      cases written : write a with
      | null => exact absurd written filled
      | _ => rfl
    rw [ofOption, Option.map_some, Option.getD_some, reads, each]
    rfl

end Record

open Record

/-! ### Parts of queries -/

/-- The record of a column. -/
def Column.record (c : Column) : List (Value × Value) :=
  named ["name", "alias"] [.text c.name, ofOption .text c.label]

theorem Column.ofRecord_record (c : Column) : ofRecord c.record = .ok c := by
  have label : checkOptional checkText (ofOption .text c.label) = .ok c.label :=
    checkOptional_ofOption .text checkText c.label (by simp) checkText_text
  rw [ofRecord, record, closed_named]
  simp [required, Record.optional, checkField_named_cons, label]

/-- The record of a join. -/
def Join.record (j : Join) : List (Value × Value) :=
  named ["kind", "table", "condition"] [.text j.kind.keyword, .text j.table, .text j.condition]

theorem Join.ofRecord_record (j : Join) : ofRecord j.record = .ok j := by
  have kind : checkKeyword JoinKind.ofKeyword? (.text j.kind.keyword) = .ok j.kind := by
    cases j.kind <;> rfl
  rw [ofRecord, record, closed_named]
  simp [required, checkField_named_cons, kind]

/-- The record of a comparison. -/
def Comparison.record (c : Comparison) : List (Value × Value) :=
  named ["field", "operator", "value"] [.text c.field, .text c.operator, c.value]

theorem Comparison.ofRecord_record (c : Comparison) : ofRecord c.record = .ok c := by
  rw [ofRecord, record, closed_named]
  simp [required, Record.optional, checkField_named_cons, checkAny]

/-- The record of a test of membership. -/
def Membership.record (m : Membership) : List (Value × Value) :=
  named ["field", "values"] [.text m.field, .list m.members]

theorem Membership.ofRecord_record (m : Membership) : ofRecord m.record = .ok m := by
  have members : checkList checkAny (.list m.members) = .ok m.members := by
    simpa using checkList_map id checkAny m.members fun _ _ => rfl
  rw [ofRecord, record, closed_named]
  simp [required, Record.optional, checkField_named_cons, members]

/-- The record of an order. -/
def Order.record (o : Order) : List (Value × Value) :=
  named ["field", "direction"] [.text o.field, .text o.direction.keyword]

theorem Order.ofRecord_record (o : Order) : ofRecord o.record = .ok o := by
  have direction : checkKeyword SortDirection.ofKeyword? (.text o.direction.keyword) =
      .ok o.direction := by
    cases o.direction <;> rfl
  rw [ofRecord, record, closed_named]
  simp [required, Record.optional, checkField_named_cons, direction]

/-! ### Queries -/

namespace Query

/-- The record of a query. -/
def record (q : Query) : List (Value × Value) :=
  named fieldNames [.text q.table, .list (q.columns.map fun c => .map c.record),
    .list (q.joins.map fun j => .map j.record), .list (q.comparisons.map fun c => .map c.record),
    .list (q.memberships.map fun m => .map m.record),
    .list (q.exclusions.map fun m => .map m.record), .list (q.nulls.map Name.toValue),
    .list (q.notNulls.map Name.toValue), ofOption (fun o => .map o.record) q.order,
    ofOption .int q.limit, ofOption .int q.offset]

/-- A text is read as the name that was written; a direction would come back as the text of its
keyword. -/
theorem checkNames_toValue (names : List Name) (texts : ∀ name ∈ names, ∃ s, name = .text s) :
    checkList (fun value => (checkText value).map Name.text) (.list (names.map Name.toValue)) =
      .ok names := by
  apply checkList_map
  intro name member
  obtain ⟨s, rfl⟩ := texts name member
  rfl

/-- The record of a query whose null predicates name their fields by texts is valid and describes
the query. -/
theorem read_record (q : Query) (nulls : ∀ name ∈ q.nulls, ∃ s, name = .text s)
    (notNulls : ∀ name ∈ q.notNulls, ∃ s, name = .text s) : read q.record = .ok q := by
  have keys : q.record.all (·.1.text?.isSome) = true := by
    simp [record, named, Value.text?]
  have order : checkOptional (checkRecord Order.ofRecord)
      (ofOption (fun o : Order => .map o.record) q.order) = .ok q.order :=
    checkOptional_ofOption _ _ _ (by simp) Order.ofRecord_record
  have number (n? : Option Int) : checkOptional checkInteger (ofOption .int n?) = .ok n? :=
    checkOptional_ofOption _ _ _ (by simp) fun _ => rfl
  -- Field by field, each part is read back as it was written.
  have parts : ofRecord q.record = .ok q := by
    rw [ofRecord, record, closed_named]
    simp [required, Record.optional, fieldNames, checkField_named_cons, order, number,
      checkList_map, checkRecord, Column.ofRecord_record, Join.ofRecord_record,
      Comparison.ofRecord_record, Membership.ofRecord_record, checkNames_toValue q.nulls nulls,
      checkNames_toValue q.notNulls notNulls]
  rw [read, if_pos keys, parts]
  rfl

end Query

end FluentSql
