import FluentSql.Proofs.Session.Alike
import Mathlib.Data.List.Basic

/-!
# Databases behind an engine

What a database holds, and what is found out about it in a session. `Database.values` says what the
answer to a question is, as the text of the question has it; `Engine.Holds` that an engine answers so
in every state that it may be in. On such an engine `Act.Yields` tells the outcome of what is done,
whatever the session was before. There is one lemma for each question to the catalogue, and
`Database.engine_holds` gives an engine for a database.
-/

namespace FluentSql

open Connection

variable {σ α β : Type}

/-! ### Contents -/

inductive CatalogueKind where
  | table
  | index
  | view
  | trigger
  deriving DecidableEq, Repr

structure CatalogueEntry where
  kind : CatalogueKind
  name : String
  /-- The indexes that the engine makes by itself have none. -/
  definition? : Option String
  deriving DecidableEq, Repr

namespace CatalogueEntry

def definition (entry : CatalogueEntry) : Value :=
  entry.definition?.elim .null .text

/-- The definition as it is used: with the terminator. -/
def terminated (entry : CatalogueEntry) : Except Fault String :=
  match entry.definition? with
  | some text => .ok (text ++ terminator)
  | none => .error (.notAppendable .null)

end CatalogueEntry

structure TableColumn where
  name : String
  /-- The place in the primary key, zero if the column is not part of it. -/
  place : Nat
  deriving DecidableEq, Repr

/-- The catalogue in the order of its rows. The columns of a table and its rows go by the name of the
table, the cells of a row by the names of the columns. -/
structure Database where
  catalogue : List CatalogueEntry
  columns : String → List TableColumn
  rows : String → List (String → Value)

namespace Database

def tableNames (db : Database) : List String :=
  (db.catalogue.filter (·.kind = .table)).map (·.name)

/-- The first entry of the catalogue under a name. -/
def named? (db : Database) (name : String) : Option CatalogueEntry :=
  db.catalogue.find? (·.name = name)

def columnNames (db : Database) (table : String) : List String :=
  (db.columns table).map (·.name)

def firstKey? (db : Database) (table : String) : Option String :=
  ((db.columns table).find? (·.place = 1)).map (·.name)

/-- Whether a count over the expression counts a row: all rows for a star, for a column those that
hold something else than null there. -/
def counts (expression : String) (row : String → Value) : Bool :=
  expression == "*" || !row expression matches .null

def tally (db : Database) (expression table : String) : Nat :=
  (db.rows table).countP (counts expression)

end Database

/-! ### Questions -/

/-- What the catalogue and the tables are asked. -/
inductive Question where
  | tables
  | hasTable (name : String)
  | definition (name : String)
  | columns (table : String)
  | primaryKey (table : String)
  | rowCount (expression table : String)
  deriving DecidableEq, Repr

namespace Question

def sql : Question → String
  | tables => tablesSql
  | hasTable _ => hasTableSql
  | definition _ => definitionSql
  | columns _ => columnsSql
  | primaryKey _ => primaryKeySql
  | rowCount expression table => rowCountSql expression (.text table)

def params : Question → List Value
  | tables | rowCount _ _ => []
  | hasTable name | definition name | columns name | primaryKey name => [.text name]

/-- The column of the answer that is read. -/
def field : Question → String
  | tables | hasTable _ | columns _ | primaryKey _ => "name"
  | definition _ => "sql"
  | rowCount _ _ => "count"

end Question

namespace Database

/-- What the rows of the answer hold in the column that is read. -/
def values (db : Database) : Question → List Value
  | .tables => (db.tableNames.mergeSort (· ≤ ·)).map .text
  | .hasTable name => (db.tableNames.filter (· = name)).map .text
  | .definition name => (db.catalogue.filter (·.name = name)).map (·.definition)
  | .columns table => (db.columnNames table).map .text
  | .primaryKey table => ((db.columns table).filter (·.place = 1)).map fun column => .text column.name
  | .rowCount expression table => [.int (db.tally expression table)]

/-- A count is understood if there is the table, and the column in it. -/
def Understands (db : Database) : Question → Prop
  | .rowCount expression table =>
    table ∈ db.tableNames ∧ expression ∈ "*" :: db.columnNames table
  | _ => True

end Database

/-- The engine holds the database, as far as questions are `asked`: in every state that is `ready` it
answers each of them by what the database has to say, and is in such a state again. -/
structure Engine.Holds (e : Engine σ) (db : Database) (asked : Question → Prop) (ready : σ → Prop) :
    Prop where
  answers (q : Question) (asks : asked q) {s : σ} (now : ready s) :
    ∃ result, (e.answer (.execute (.text q.sql) (some q.params)) s).1.outcome = .ok result ∧
      result.rows.mapM (·.column q.field) = .ok (db.values q) ∧
      ready (e.answer (.execute (.text q.sql) (some q.params)) s).2

/-- An engine that answers some questions answers fewer of them as well. -/
theorem Engine.Holds.mono {e : Engine σ} {db : Database} {asked fewer : Question → Prop}
    {ready : σ → Prop} (held : e.Holds db asked ready) (among : ∀ q, fewer q → asked q) :
    e.Holds db fewer ready where
  answers q asks := held.answers q (among q asks)

/-! ### Outcomes on such an engine -/

/-- From every session on a ready engine, what is done has the outcome and leaves the engine ready.
-/
def Act.Yields (ready : σ → Prop) (x : Act σ α) (outcome : Except Fault α) : Prop :=
  ∀ s : Session σ, ready s.engine →
    (x.run.run s).1 = outcome ∧ ready (x.run.run s).2.engine

namespace Act.Yields

variable {ready : σ → Prop} {x : Act σ α} {f : α → Act σ β} {a : α} {outcome : Except Fault β}

theorem pure (a : α) : Yields ready (pure a) (.ok a) :=
  fun _ now => ⟨rfl, now⟩

theorem throw (fault : Fault) : Yields (α := α) ready (throw fault) (.error fault) :=
  fun _ now => ⟨rfl, now⟩

theorem ofOk {outcome : Except Fault α} (same : outcome = .ok a) :
    Yields ready (Act.ofExcept outcome) (.ok a) := by
  rw [same]
  exact .pure a

theorem bind (first : Yields ready x (.ok a)) (later : Yields ready (f a) outcome) :
    Yields ready (x >>= f) outcome := by
  intro s now
  obtain ⟨same, next⟩ := first s now
  rw [Act.run_bind_ok (Prod.ext same rfl)]
  exact later _ next

theorem bind_error {fault : Fault} (first : Yields ready x (.error fault)) :
    Yields ready (x >>= f) (.error fault) := by
  intro s now
  obtain ⟨same, next⟩ := first s now
  rw [Act.run_bind_error (Prod.ext same rfl)]
  exact ⟨rfl, next⟩

/-- There is one outcome only, if the engine can be ready at all. -/
theorem unique {one other : Except Fault α} {s : σ} (now : ready s) (first : Yields ready x one)
    (second : Yields ready x other) : one = other :=
  (first { engine := s } now).1.symm.trans (second { engine := s } now).1

end Act.Yields

namespace Connection

variable {c : Connection σ} {db : Database} {asked : Question → Prop} {ready : σ → Prop}

theorem rows_yields (held : c.engine.Holds db asked ready) (q : Question) (asks : asked q)
    {f : List Row → Act σ β} {outcome : Except Fault β}
    (later : ∀ rows, rows.mapM (·.column q.field) = .ok (db.values q) →
      Act.Yields ready (f rows) outcome) :
    Act.Yields ready (c.rows q.sql q.params >>= f) outcome := by
  intro s now
  obtain ⟨result, granted, shown, next⟩ := held.answers q asks now
  let t : Session σ := ((c.engine.ask (.execute (.text q.sql) (some q.params))).run s).2
  have answered : (c.engine.ask (.execute (.text q.sql) (some q.params))).run s = (.ok result, t) :=
    Prod.ext (by rw [Engine.ask_run]; exact granted) rfl
  have executed : (c.execute (.text q.sql) (some q.params)).run.run s = (.ok result, t) :=
    Effect.run_bind answered
  have found : (c.rows q.sql q.params).run.run s = (.ok result.rows, t) :=
    Act.run_bind_ok executed
  -- What is asked changes nothing about what is known of the engine.
  have still : ready t.engine := by
    simp only [t, Engine.ask_run]
    exact next
  rw [Act.run_bind_ok found]
  exact later result.rows shown t still

theorem columnOf_yields (held : c.engine.Holds db asked ready) (q : Question) (asks : asked q) :
    Act.Yields ready (c.rows q.sql q.params >>= columnOf q.field) (.ok (db.values q)) :=
  rows_yields held q asks fun _ shown => .ofOk shown

/-- What follows from the first row follows from the first value. -/
theorem firstRow_yields (held : c.engine.Holds db asked ready) (q : Question) (asks : asked q)
    {f : Option Row → Act σ β} {outcome : Except Fault β}
    (absent : (db.values q).head? = none → Act.Yields ready (f none) outcome)
    (present : ∀ row value, (db.values q).head? = some value → row.column q.field = .ok value →
      Act.Yields ready (f (some row)) outcome) :
    Act.Yields ready (c.firstRow? q.sql q.params >>= f) outcome := by
  rw [firstRow?, bind_assoc]
  refine rows_yields held q asks fun rows shown => ?_
  rw [Outcome.mapM_eq_ok_iff] at shown
  cases values : db.values q with
  | nil =>
    obtain rfl : rows = [] := by simpa [values] using shown
    exact (Act.Yields.pure none).bind (absent (by simp [values]))
  | cons value _ =>
    rw [values] at shown
    cases shown with
    | cons first _ => exact (Act.Yields.pure _).bind (present _ value (by simp [values]) first)

/-! ### Questions to the catalogue -/

theorem tables_yields (held : c.engine.Holds db asked ready) (asks : asked .tables) :
    Act.Yields ready c.tables (.ok ((db.tableNames.mergeSort (· ≤ ·)).map .text)) :=
  columnOf_yields held .tables asks

theorem columns_yields (held : c.engine.Holds db asked ready) {table : String}
    (asks : asked (.columns table)) :
    Act.Yields ready (c.columns (.text table)) (.ok ((db.columnNames table).map .text)) :=
  columnOf_yields held (.columns table) asks

theorem hasTable_yields (held : c.engine.Holds db asked ready) {name : String}
    (asks : asked (.hasTable name)) :
    Act.Yields ready (c.hasTable (.text name)) (.ok (decide (name ∈ db.tableNames))) := by
  refine firstRow_yields held (.hasTable name) asks (fun absent => ?_) (fun _ _ present _ => ?_)
  · have missing : name ∉ db.tableNames := by
      intro member
      simp only [Database.values, List.head?_eq_none_iff, List.map_eq_nil_iff,
        List.filter_eq_nil_iff, decide_eq_true_eq] at absent
      exact absent name member rfl
    rw [decide_eq_false missing]
    exact .pure false
  · have found : name ∈ db.tableNames := by
      obtain ⟨_, member, _⟩ := List.mem_map.mp (List.mem_of_head? present)
      obtain ⟨member, equal⟩ := List.mem_filter.mp member
      exact of_decide_eq_true equal ▸ member
    rw [decide_eq_true found]
    exact .pure true

theorem definition_yields (held : c.engine.Holds db asked ready) {name : String}
    (asks : asked (.definition name)) :
    Act.Yields ready (c.definition? (.text name))
      (match db.named? name with
        | none => .ok none
        | some entry => entry.terminated.map some) := by
  -- The first row is that of the first entry under the name.
  have first : (db.values (.definition name)).head? = (db.named? name).map (·.definition) := by
    rw [Database.values, List.head?_map, List.head?_filter]
    rfl
  refine firstRow_yields held (.definition name) asks (fun absent => ?_)
    (fun _ _ present shown => ?_)
  · rw [first, Option.map_eq_none_iff] at absent
    rw [absent]
    exact .pure none
  · rw [first, Option.map_eq_some_iff] at present
    obtain ⟨entry, found, rfl⟩ := present
    rw [found]
    refine Act.Yields.bind (.ofOk shown) ?_
    simp only [CatalogueEntry.definition, CatalogueEntry.terminated]
    cases entry.definition? with
    -- An index of the engine's own has no text that could be ended.
    | none => exact .throw _
    | some text => exact .pure _

theorem countedColumn_yields (held : c.engine.Holds db asked ready) {table : String}
    (asks : asked (.primaryKey table)) :
    Act.Yields ready (c.countedColumn (.text table)) (.ok ((db.firstKey? table).getD "*")) := by
  have first : (db.values (.primaryKey table)).head? = (db.firstKey? table).map .text := by
    rw [Database.values, List.head?_map, List.head?_filter, Database.firstKey?, Option.map_map]
    rfl
  refine firstRow_yields held (.primaryKey table) asks (fun absent => ?_)
    (fun _ _ present shown => ?_)
  · rw [first, Option.map_eq_none_iff] at absent
    rw [absent]
    exact .pure "*"
  · rw [first, Option.map_eq_some_iff] at present
    obtain ⟨key, found, rfl⟩ := present
    rw [found]
    exact Act.Yields.bind (.ofOk shown) (.pure key)

end Connection

/-! ### An engine for a database -/

namespace Database

/-- The questions with the given parameters that are understood. -/
def questions (db : Database) : List Value → List Question
  | [] => .tables :: db.tableNames.flatMap fun table =>
      ("*" :: db.columnNames table).map (.rowCount · table)
  | [.text name] => [.hasTable name, .definition name, .columns name, .primaryKey name]
  | _ => []

def reply (db : Database) (sql : String) (params : List Value) : List Row :=
  match (db.questions params).find? (·.sql = sql) with
  | some q => (db.values q).map fun value => [(q.field, value)]
  | none => []

/-- The engine that answers questions and does nothing else. -/
def engine (db : Database) : Engine Unit where
  answer request s :=
    match request with
    | .execute (.text sql) (some params) => ({ outcome := .ok { rows := db.reply sql params } }, s)
    | _ => ({ outcome := .ok {} }, s)

/-- No two questions without parameters read the same. -/
def Unambiguous (db : Database) : Prop :=
  ∀ q ∈ db.questions [], ∀ other ∈ db.questions [], other.sql = q.sql → other = q

instance (db : Database) : Decidable db.Unambiguous :=
  inferInstanceAs (Decidable (∀ q ∈ db.questions [], ∀ other ∈ db.questions [], _ → _))

theorem mem_questions {db : Database} {q : Question} (understood : db.Understands q) :
    q ∈ db.questions q.params := by
  cases q with
  | rowCount expression table =>
    refine List.mem_cons_of_mem _ (List.mem_flatMap.mpr ⟨table, understood.1, ?_⟩)
    exact List.mem_map_of_mem understood.2
  | _ => simp [questions, Question.params]

/-- The questions about a name differ by their texts. -/
theorem about_name_apart {db : Database} (name : String) :
    ∀ q ∈ db.questions [.text name], ∀ other ∈ db.questions [.text name],
      other.sql = q.sql → other = q := by
  simp [questions, Question.sql, hasTableSql, definitionSql, columnsSql, primaryKeySql]

theorem questions_apart {db : Database} (unambiguous : db.Unambiguous) {q other : Question}
    (member : q ∈ db.questions q.params) (among : other ∈ db.questions q.params)
    (same : other.sql = q.sql) : other = q := by
  cases q with
  | tables => exact unambiguous _ member _ among same
  | rowCount _ _ => exact unambiguous _ member _ among same
  | hasTable name => exact about_name_apart name _ member _ among same
  | definition name => exact about_name_apart name _ member _ among same
  | columns name => exact about_name_apart name _ member _ among same
  | primaryKey name => exact about_name_apart name _ member _ among same

theorem reply_eq {db : Database} (unambiguous : db.Unambiguous) {q : Question}
    (understood : db.Understands q) :
    db.reply q.sql q.params = (db.values q).map fun value => [(q.field, value)] := by
  have member := mem_questions understood
  cases found : (db.questions q.params).find? (·.sql = q.sql) with
  | none => exact absurd (List.find?_eq_none.mp found q member) (by simp)
  | some other =>
    have same : other.sql = q.sql := by simpa using List.find?_some found
    obtain rfl := questions_apart unambiguous member (List.mem_of_find?_eq_some found) same
    rw [reply, found]

theorem engine_holds {db : Database} (unambiguous : db.Unambiguous) :
    db.engine.Holds db db.Understands fun _ => True where
  answers q understood s _ := by
    refine ⟨_, rfl, ?_, trivial⟩
    rw [reply_eq unambiguous understood, Outcome.mapM_eq_ok_iff, List.forall₂_map_left_iff]
    exact List.forall₂_same.mpr fun value _ => by simp [Row.column]

end Database

end FluentSql
