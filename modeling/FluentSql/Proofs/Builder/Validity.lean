import FluentSql.Proofs.Builder.Runners
import FluentSql.Proofs.Query.Grouping
import FluentSql.Proofs.Record.Written

/-!
# Valid queries

Calls put what they declare into the query without a further check. What they declare is valid all
the same: the query is one that its own record describes, and every part of it is of the allowed
kind. Main result: `Builder.query_stays_valid`.
-/

namespace FluentSql

/-! ### Texts and directions -/

mutual

/-- Whether no text in a value, at any depth, is given by a sort direction. -/
def Value.textsOnly : Value → Bool
  | .direction _ => false
  | .list items | .tuple items | .bag items | .stream items => allTextsOnly items
  | .map entries => entriesTextsOnly entries
  | .null | .bool _ | .int _ | .float _ | .text _ | .bytes _ | .buffer _ => true

def Value.allTextsOnly : List Value → Bool
  | [] => true
  | value :: rest => value.textsOnly && allTextsOnly rest

def Value.entriesTextsOnly : List (Value × Value) → Bool
  | [] => true
  | (key, value) :: rest => key.textsOnly && value.textsOnly && entriesTextsOnly rest

end

/-- Whether the fields of a null predicate are given by texts. These names alone are kept as they
were handed over; every other name is kept as the text that it counts as. -/
def Call.namesByText : Call → Bool
  | .isNull arguments | .isNotNull arguments => Value.allTextsOnly arguments
  | _ => true

def Action.namesByText (action : Action) : Bool :=
  action.made?.all Call.namesByText

namespace Argument

/-- The value that names the column or field of a leaf. -/
def Leaf.naming : Leaf → Value
  | .single value => value
  | .entry key _ => key

theorem keys_textsOnly {entries : List (Value × Value)}
    (texts : Value.entriesTextsOnly entries = true) :
    ∀ entry ∈ entries, entry.1.textsOnly = true := by
  induction entries with
  | nil => simp
  | cons entry rest ih =>
    obtain ⟨⟨key, _⟩, others⟩ : (entry.1.textsOnly = true ∧ entry.2.textsOnly = true) ∧
        Value.entriesTextsOnly rest = true := by
      simpa [Value.entriesTextsOnly] using texts
    exact List.forall_mem_cons.mpr ⟨key, ih others⟩

variable (keeps : Value → Bool)

mutual

/-- Where no text is given by a direction, none of the leaves is named by one. -/
theorem leaves_textsOnly (value : Value) (texts : value.textsOnly = true) :
    ∀ leaf ∈ leaves keeps value, leaf.naming.textsOnly = true := by
  cases value with
  | list items | tuple items =>
    unfold leaves
    exact leavesOf_textsOnly items (by simpa [Value.textsOnly] using texts)
  | map entries =>
    unfold leaves
    intro leaf member
    obtain ⟨entry, kept, rfl⟩ := List.mem_map.mp member
    exact keys_textsOnly (by simpa [Value.textsOnly] using texts) entry (List.mem_of_mem_filter kept)
  | _ =>
    rw [leaves_of_single _ _ rfl]
    exact List.forall_mem_singleton.mpr texts

theorem leavesOf_textsOnly (arguments : List Value) (texts : Value.allTextsOnly arguments = true) :
    ∀ leaf ∈ leavesOf keeps arguments, leaf.naming.textsOnly = true := by
  cases arguments with
  | nil =>
    unfold leavesOf
    simp
  | cons value rest =>
    obtain ⟨first, others⟩ : value.textsOnly = true ∧ Value.allTextsOnly rest = true := by
      simpa [Value.allTextsOnly] using texts
    unfold leavesOf
    exact List.forall_mem_append.mpr ⟨leaves_textsOnly value first, leavesOf_textsOnly rest others⟩

end

/-- A name that is no direction is a text. -/
theorem Leaf.NamesField.text {leaf : Leaf} {name : Name} (names : leaf.NamesField name)
    (texts : leaf.naming.textsOnly = true) : ∃ s, name = .text s := by
  have named : leaf.naming.name? = some name := by
    cases names with
    | single named | key named => exact named
  cases naming : leaf.naming with
  | text s =>
    rw [naming] at named
    cases named
    exact ⟨s, rfl⟩
  -- A direction is a name too, but no text.
  | direction d =>
    rw [naming] at texts
    cases texts
  | _ =>
    rw [naming] at named
    cases named

end Argument

theorem NullField.listOf_texts {arguments : List Value} {fields : List Name}
    (texts : Value.allTextsOnly arguments = true) (read : listOf arguments = .ok fields) :
    ∀ name ∈ fields, ∃ s, name = .text s := by
  rw [listOf_leaves, Outcome.mapM_eq_ok_iff] at read
  have naming := Argument.leavesOf_textsOnly Value.truthy arguments texts
  generalize Argument.leavesOf Value.truthy arguments = leaves at read naming
  induction read with
  | nil => simp
  | cons first _ ih =>
    obtain ⟨text, others⟩ := List.forall_mem_cons.mp naming
    exact List.forall_mem_cons.mpr ⟨((ofLeaf_eq_ok_iff _ _).mp first).text text, ih others⟩

/-! ### Validity -/

/-- The text joins tables on columns that both have, at least one. -/
def SharesColumns (condition : String) : Prop :=
  ∃ columns : List String, columns ≠ [] ∧ condition = "USING (" ++ ", ".intercalate columns ++ ")"

/-- The text joins tables on pairs of columns that are equal, at least one. -/
def PairsColumns (condition : String) : Prop :=
  ∃ pairs : List (String × String), pairs ≠ [] ∧
    condition = "ON " ++ " AND ".intercalate (pairs.map fun p => p.1 ++ "=" ++ p.2)

/-- A query on the given table as its records may describe it, each part of an allowed kind. -/
structure Query.Valid (table : String) (q : Query) : Prop where
  table_eq : q.table = table
  operators : ∀ c ∈ q.comparisons,
    c.operator ∈ ["=", "==", "!=", "<>", ">", "<", ">=", "<=", "!<", "!>"]
  kinds : ∀ j ∈ q.joins, j.kind.keyword ∈ ["INNER JOIN", "LEFT OUTER JOIN"]
  conditions : ∀ j ∈ q.joins, SharesColumns j.condition ∨ PairsColumns j.condition
  directions : ∀ o ∈ q.order, o.direction.keyword ∈ ["ASC", "DESC"]
  limit : ∀ number ∈ q.limit, 0 ≤ number
  offset : ∀ number ∈ q.offset, 0 ≤ number
  fixed : Query.read q.record = .ok q

/-- The text of a condition begins as its shape says. -/
theorem JoinCondition.sql_form (condition : JoinCondition) (filled : condition.names ≠ []) :
    SharesColumns condition.sql ∨ PairsColumns condition.sql := by
  cases condition with
  | shared columns =>
    left
    exact ⟨columns.map Name.plain, by simpa [names] using filled, rfl⟩
  | paired pairs =>
    right
    refine ⟨pairs.map fun p => (p.1.shown, p.2.shown), ?_, ?_⟩
    · rintro none
      rw [List.map_eq_nil_iff] at none
      simp [names, none] at filled
    · rw [sql, List.map_map]
      rfl

namespace Query

/-- What holds of a query and is kept by each of the calls holds after all of them. -/
theorem after_induction {P : Query → Prop} {calls : List Call} {q : Query} (start : P q)
    (step : ∀ call ∈ calls, ∀ q q', P q → q.Declares call q' → P q') : P (q.after calls) := by
  induction calls generalizing q with
  | nil => exact start
  | cons call calls ih =>
    refine ih ?_ fun c member => step c (List.mem_cons_of_mem _ member)
    unfold onward
    split
    next left applied => exact step call (by simp) q left start ((apply_eq_ok_iff _ _ _).mp applied)
    · exact start

/-- What is needed besides soundness for a query to be read back from its record. -/
structure NullsByText (q : Query) : Prop where
  nulls : ∀ name ∈ q.nulls, ∃ s, name = .text s
  notNulls : ∀ name ∈ q.notNulls, ∃ s, name = .text s

/-- Only null predicates keep names as they are, and those of this call are texts. -/
theorem NullsByText.step {q q' : Query} {call : Call} (texts : q.NullsByText)
    (named : call.namesByText = true) (declares : q.Declares call q') : q'.NullsByText := by
  cases declares with
  | isNull read =>
    refine { texts with nulls := ?_ }
    intro name member
    rcases List.mem_append.mp member with old | new
    · exact texts.nulls name old
    · exact NullField.listOf_texts named read name new
  | isNotNull read =>
    refine { texts with notNulls := ?_ }
    intro name member
    rcases List.mem_append.mp member with old | new
    · exact texts.notNulls name old
    · exact NullField.listOf_texts named read name new
  | reset => exact ⟨by simp, by simp⟩
  -- No other call touches the null predicates.
  | _ => exact { texts with }

theorem Declares.table_eq {q q' : Query} {call : Call} (declares : q.Declares call q') :
    q'.table = q.table := by
  cases declares <;> rfl

/-- Sound queries are valid. -/
theorem Sound.valid {q : Query} (sound : q.Sound) (texts : q.NullsByText) : q.Valid q.table where
  table_eq := rfl
  operators := by
    intro c member
    obtain ⟨operator, symbol⟩ := sound.operators c member
    rw [symbol]
    cases operator <;> simp [Operator.symbol]
  kinds := by
    intro j _
    cases j.kind <;> simp [JoinKind.keyword]
  conditions := by
    intro j member
    obtain ⟨condition, text, filled⟩ := sound.conditions j member
    rw [text]
    exact condition.sql_form filled
  directions := by
    intro o _
    cases o.direction <;> simp [SortDirection.keyword]
  limit := sound.limit
  offset := sound.offset
  fixed := q.read_record texts.nulls texts.notNulls

end Query

namespace Builder

/-- A builder begins with nothing declared on the table of the name it was given. -/
theorem ofTable_fresh {table : Value} {b : Builder} (made : ofTable table = .ok b) :
    ∃ name, table.text? = some name ∧ b.query = { table := name } := by
  obtain ⟨name, named, equal⟩ := (Outcome.bind_eq_ok_iff _ _ _).mp made
  cases equal
  cases table with
  | text s | direction d =>
    cases named
    exact ⟨_, rfl, rfl⟩
  | _ => cases named

/-- Whatever is done with a builder, its query stays valid: on the builder's table, of allowed parts
only, and described by its own record, so that compiling what the record describes is the same as
compiling on the builder. -/
theorem query_stays_valid {σ : Type} (executor? : Option (Executor σ)) (s : σ) {table : Value}
    {b : Builder} (made : ofTable table = .ok b) {actions : List Action}
    (named : ∀ action ∈ actions, action.namesByText = true) :
    let q := (b.after executor? actions s).1.query
    (∃ name, table.text? = some name ∧ q.Valid name) ∧
    ∀ build, (Query.read q.record >>= fun described => described.build build) = q.build build := by
  intro q
  obtain ⟨name, text, fresh⟩ := ofTable_fresh made
  -- Each call keeps the table, keeps the query sound, and names fields by texts.
  have kept : q.table = name ∧ q.Sound ∧ q.NullsByText := by
    have left : q = b.query.after (actions.filterMap Action.made?) :=
      congrArg Builder.query (b.after_left executor? actions s)
    rw [left, fresh]
    refine Query.after_induction (P := fun q => q.table = name ∧ q.Sound ∧ q.NullsByText)
      ⟨rfl, .fresh name, by simp, by simp⟩ ?_
    rintro call member q q' ⟨same, sound, texts⟩ declares
    obtain ⟨action, here, makes⟩ := List.mem_filterMap.mp member
    have byText : call.namesByText = true := by
      simpa [Action.namesByText, makes] using named action here
    exact ⟨declares.table_eq.trans same, sound.step declares, texts.step byText declares⟩
  obtain ⟨same, sound, texts⟩ := kept
  have valid := sound.valid texts
  refine ⟨⟨name, text, same ▸ valid⟩, ?_⟩
  intro build
  rw [valid.fixed]
  rfl

/-- A run with calls of several kinds, some of which fail, and runners. -/
theorem mixed_run_stays_valid :
    let isNull : Call := .isNull [.list [.text "d"], .map [(.text "e", .bool true)]]
    let actions : List Action := [.call isNull, .call (.join .inner (.direction .ascending)
        (.map [(.text "x", .text "y"), (.text "v", .text "w")])), .run (.byId (.list [])),
      .call (.limit (.int (-1))), .call (.isIn (.text "c") (.stream [.null])), .run .count,
      .call (.order (.text "c") (.text "desc")), .build .select]
    let b : Builder := ⟨.text "t", { table := "t" }⟩
    let q := (b.after (some Recording.executor) actions {}).1.query
    ofTable (.text "t") = .ok b ∧ (∀ action ∈ actions, action.namesByText = true) ∧
    q.select.sql = "SELECT * FROM t INNER JOIN ASC ON x=y AND v=w WHERE id=? AND c IN (?) " ++
      "AND d IS NULL AND e IS NULL ORDER BY c DESC;" ∧
    (∃ name, (Value.text "t").text? = some name ∧ q.Valid name) ∧
    ∀ build, (Query.read q.record >>= fun described => described.build build) = q.build build := by
  intro isNull actions b q
  have made : ofTable (.text "t") = .ok b := rfl
  have named : ∀ action ∈ actions, action.namesByText = true := by decide
  exact ⟨made, named, by decide, query_stays_valid (some Recording.executor) {} made named⟩

-- A field that is named by a direction comes back as the text of the keyword.
example :
    let b : Builder := ⟨.text "t", { table := "t" }⟩
    let q := (b.after (σ := Unit) none [.call (.isNull [.direction .ascending])] ()).1.query
    q.nulls = [.direction .ascending] ∧
    (Query.read q.record).map Query.nulls = .ok [.text "ASC"] :=
  ⟨rfl, rfl⟩

end Builder

end FluentSql
