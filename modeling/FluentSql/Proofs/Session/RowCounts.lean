import FluentSql.Proofs.Session.Database

/-!
# Numbers of rows

What a count of the rows of tables comes to on an engine that holds a database. Each requested table
is counted once, at the place where it is first named, by the column that comes first in its primary
key. A row that holds null there is missed, which every primary key allows but that of integers.
Main result: `Connection.rowCounts_miss_null_keys`.
-/

namespace FluentSql

open Connection

variable {σ : Type}

/-! ### Reports -/

/-- Each name once, where it first comes, with its number. -/
def countReport (count : String → Nat) (names : List String) : List (Value × Value) :=
  names.eraseDups.map fun name => (.text name, .int (count name))

theorem insertEntry_counted (count : String → Nat) (names : List String) (name : String) :
    Value.insertEntry (names.map fun name => (Value.text name, Value.int (count name)))
        (.text name) (.int (count name)) =
      (if name ∈ names then names else names ++ [name]).map fun name =>
        (.text name, .int (count name)) := by
  induction names with
  | nil => rfl
  | cons first rest ih =>
    rw [List.map_cons, Value.insertEntry]
    -- A name that is counted again keeps its place and its count.
    by_cases same : first = name
    · subst same
      simp [Value.sameKey, Value.text?]
    · have other : Value.sameKey (.text first) (.text name) = false := by
        simpa [Value.sameKey, Value.text?] using same
      rw [other, ih]
      by_cases member : name ∈ rest
      · simp [member]
      · simp [member, Ne.symm same]

theorem eraseDups_concat (names : List String) (name : String) :
    (names ++ [name]).eraseDups =
      if name ∈ names.eraseDups then names.eraseDups else names.eraseDups ++ [name] := by
  rw [List.eraseDups_append]
  by_cases member : name ∈ names
  · simp [member, List.removeAll]
  · simp [member, List.removeAll, List.eraseDups_cons]

theorem insertEntry_countReport (count : String → Nat) (names : List String) (name : String) :
    Value.insertEntry (countReport count names) (.text name) (.int (count name)) =
      countReport count (names ++ [name]) := by
  rw [countReport, countReport, insertEntry_counted, eraseDups_concat]

/-- A report is right if the number under each name is. -/
theorem countReport_eq_iff (count other : String → Nat) (names : List String) :
    countReport count names = countReport other names ↔ ∀ name ∈ names, count name = other name := by
  simp only [countReport, List.map_inj_left, List.mem_eraseDups, Prod.mk.injEq, Value.int.injEq,
    Int.natCast_inj, true_and]

/-! ### Requests -/

namespace Database

/-- What is counted in a table. -/
def counted (db : Database) (table : String) : String :=
  (db.firstKey? table).getD "*"

def size (db : Database) (table : String) : Nat :=
  (db.rows table).length

/-- The tables that an argument asks for: all of them, one, or those of a collection. -/
inductive Requested (db : Database) : Value → List String → Prop where
  | all : db.Requested .null (db.tableNames.mergeSort (· ≤ ·))
  | one {name : String} (known : name ∈ db.tableNames) : db.Requested (.text name) [name]
  | several {tables : Value} {names : List String} (known : ∀ name ∈ names, name ∈ db.tableNames)
      (elements : tables.elements? = some (names.map .text)) (collection : tables.text? = none) :
      db.Requested tables names

/-- All tables that are asked for are in the catalogue. -/
theorem Requested.known {db : Database} {tables : Value} {names : List String}
    (requested : db.Requested tables names) : ∀ name ∈ names, name ∈ db.tableNames := by
  cases requested with
  | all => exact fun name member => List.mem_mergeSort.mp member
  | one known => exact fun name member => List.mem_singleton.mp member ▸ known
  | several known => exact known

theorem counted_readable (db : Database) (table : String) :
    db.counted table ∈ "*" :: db.columnNames table := by
  unfold counted
  cases key : db.firstKey? table with
  | none => exact List.mem_cons_self
  | some name =>
    obtain ⟨column, found, rfl⟩ := Option.map_eq_some_iff.mp key
    exact List.mem_cons_of_mem _ (List.mem_map_of_mem (List.mem_of_find?_eq_some found))

/-- A row counts if it is counted whole, or else if it is not null in what is counted. -/
theorem counts_eq_true_iff (expression : String) (row : String → Value) :
    counts expression row = true ↔ expression = "*" ∨ row expression ≠ .null := by
  cases cell : row expression <;> simp [counts, cell]

/-- All rows are counted if there is no key, and else if none holds null in it. -/
theorem tally_eq_size_iff (db : Database) (table : String) :
    db.tally (db.counted table) table = db.size table ↔
      ∀ key, db.firstKey? table = some key → key ≠ "*" →
        ∀ row ∈ db.rows table, row key ≠ .null := by
  rw [tally, size, List.countP_eq_length]
  simp only [counts_eq_true_iff, counted]
  cases db.firstKey? table with
  | none => simp
  | some key =>
    by_cases star : key = "*"
    · simp [star]
    · simp [star]

end Database

/-! ### Counting -/

namespace Connection

variable {c : Connection σ} {db : Database} {ready : σ → Prop}

theorem tableList_yields (held : c.engine.Holds db db.Understands ready) {tables : Value}
    {names : List String}
    (requested : db.Requested tables names) :
    Act.Yields ready (c.tableList tables) (.ok (names.map .text)) := by
  cases requested with
  | all => exact tables_yields held trivial
  | one => exact .pure _
  | several known elements collection =>
    cases tables with
    | null => cases elements
    | text s => cases collection
    | direction d => cases collection
    | _ =>
      simp only [tableList, elements]
      exact .pure _

theorem rowCountOf_yields (held : c.engine.Holds db db.Understands ready) {table : String}
    (known : table ∈ db.tableNames) :
    Act.Yields ready (c.rowCountOf (.text table))
      (.ok (.int (db.tally (db.counted table) table))) := by
  refine (countedColumn_yields held trivial).bind ?_
  have asks : db.Understands (.rowCount (db.counted table) table) :=
    ⟨known, db.counted_readable table⟩
  refine firstRow_yields held (.rowCount (db.counted table) table) asks (fun absent => ?_)
    (fun _ _ present shown => ?_)
  · simp [Database.values] at absent
  · obtain rfl := Option.some.inj present
    exact .ofOk shown

/-- The invariant is that what was found so far is the report on the tables so far. -/
theorem collectCounts_yields (held : c.engine.Holds db db.Understands ready) (done : List String)
    {names : List String} (known : ∀ name ∈ names, name ∈ db.tableNames) :
    Act.Yields ready
      (c.collectCounts (countReport (fun table => db.tally (db.counted table) table) done)
        (names.map .text))
      (.ok (countReport (fun table => db.tally (db.counted table) table) (done ++ names))) := by
  induction names generalizing done with
  | nil =>
    rw [List.append_nil]
    exact .pure _
  | cons name names ih =>
    refine (rowCountOf_yields held (known name List.mem_cons_self)).bind ?_
    refine Act.Yields.bind (.ofOk (a := Value.text name) rfl) ?_
    rw [insertEntry_countReport, List.append_cons done name names]
    exact ih (done ++ [name]) fun other member => known other (List.mem_cons_of_mem _ member)

theorem rowCounts_yields (held : c.engine.Holds db db.Understands ready) {tables : Value}
    {names : List String}
    (requested : db.Requested tables names) :
    Act.Yields ready (c.rowCounts tables)
      (.ok (countReport (fun table => db.tally (db.counted table) table) names)) :=
  (tableList_yields held requested).bind (collectCounts_yields held [] requested.known)

/-- Every requested table is counted by its first key, or by whole rows if it has none. These are
the numbers of rows exactly if no requested table holds null in its first key. -/
theorem rowCounts_miss_null_keys (held : c.engine.Holds db db.Understands ready) {tables : Value}
    {names : List String} (requested : db.Requested tables names) :
    Act.Yields ready (c.rowCounts tables)
        (.ok (countReport (fun table => db.tally (db.counted table) table) names)) ∧
      (countReport (fun table => db.tally (db.counted table) table) names =
          countReport db.size names ↔
        ∀ table ∈ names, ∀ key, db.firstKey? table = some key → key ≠ "*" →
          ∀ row ∈ db.rows table, row key ≠ .null) := by
  refine ⟨rowCounts_yields held requested, ?_⟩
  rw [countReport_eq_iff]
  simp only [Database.tally_eq_size_iff]

end Connection

/-! ### Tags, one of which has no code -/

/-- A table whose key is a text, and one without a key. -/
def tagged : Database where
  catalogue :=
    [⟨.table, "notes", some "CREATE TABLE notes (body TEXT)"⟩,
      ⟨.table, "tags", some "CREATE TABLE tags (code TEXT PRIMARY KEY)"⟩]
  columns table := if table = "tags" then [⟨"code", 1⟩] else [⟨"body", 0⟩]
  rows table := if table = "tags" then [fun _ => .null, fun _ => .text "a"] else [fun _ => .null]

def tagFile : Connection Unit :=
  { path := "tags.db", options := {}, engine := tagged.engine }

theorem tagFile_holds : tagFile.engine.Holds tagged tagged.Understands fun _ => True :=
  Database.engine_holds (by decide)

namespace Connection

/-- A count that always gave the numbers of rows would find the tag without a code. -/
theorem null_key_is_missed :
    ¬ ∀ (c : Connection Unit) (db : Database) (ready : Unit → Prop) (tables : Value)
      (names : List String), c.engine.Holds db db.Understands ready → db.Requested tables names →
      Act.Yields ready (c.rowCounts tables) (.ok (countReport db.size names)) := by
  intro complete
  have requested : tagged.Requested (.text "tags") ["tags"] := .one (by decide)
  have right := complete tagFile tagged _ _ _ tagFile_holds requested
  have same := right.unique (s := ()) trivial (rowCounts_yields tagFile_holds requested)
  have counted := (countReport_eq_iff _ _ _).mp (Except.ok.inj same) "tags" (by simp)
  exact absurd counted (by decide)

theorem repeated_tables_are_counted_once :
    tagFile.engine.Holds tagged tagged.Understands (fun _ => True) ∧
      tagged.Requested (.list [.text "tags", .text "notes", .text "tags"])
        ["tags", "notes", "tags"] ∧
      (Act.Yields (fun _ => True)
          (tagFile.rowCounts (.list [.text "tags", .text "notes", .text "tags"]))
          (.ok (countReport (fun table => tagged.tally (tagged.counted table) table)
            ["tags", "notes", "tags"])) ∧
        (countReport (fun table => tagged.tally (tagged.counted table) table)
            ["tags", "notes", "tags"] = countReport tagged.size ["tags", "notes", "tags"] ↔
          ∀ table ∈ ["tags", "notes", "tags"], ∀ key, tagged.firstKey? table = some key →
            key ≠ "*" → ∀ row ∈ tagged.rows table, row key ≠ .null)) :=
  have requested : tagged.Requested (.list [.text "tags", .text "notes", .text "tags"])
      ["tags", "notes", "tags"] := .several (by decide) rfl rfl
  ⟨tagFile_holds, requested, rowCounts_miss_null_keys tagFile_holds requested⟩

end Connection

end FluentSql
