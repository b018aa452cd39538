import FluentSql.Proofs.Session.Database
import FluentSql.Proofs.Statement.Text

/-!
# What a rebuild script is made from

A rebuild script is made from the first entry of the catalogue under the name, of whatever kind the
entry is. So it agrees with the question whether there is such a table exactly if that entry leads to
the script of a table: `Connection.rebuild_agrees_iff`. Of a table's definition the script takes what
stands from the first opening to the last closing parenthesis. That is the whole body exactly if the
name of the table has no parenthesis and no options follow its columns:
`Connection.rebuild_keeps_body_iff`.
-/

namespace FluentSql

open Connection

variable {σ : Type}

/-! ### Scripts -/

/-- The script that an entry leads to. -/
def CatalogueEntry.script (entry : CatalogueEntry) (table : String) (columns : List String) :
    Except Fault String :=
  match entry.terminated with
  | .error fault => .error fault
  | .ok schema =>
    match parenthesized? schema.toList with
    | none => .error .noParenthesis
    | some body => .ok (rebuildScript (.text table) (String.ofList body) (columns.map .text))

def Database.rebuilt (db : Database) (name : String) : Except Fault (Option String) :=
  match db.named? name with
  | none => .ok none
  | some entry => (entry.script name (db.columnNames name)).map some

theorem namesToJoin_texts (texts : List String) :
    namesToJoin (texts.map .text) = .ok (texts.map .text) := by
  rw [namesToJoin_eq_ok_iff, List.forall₂_map_left_iff, List.forall₂_map_right_iff]
  exact List.forall₂_same.mpr fun _ _ => rfl

theorem Connection.rebuild_yields {c : Connection σ} {db : Database} {asked : Question → Prop}
    {ready : σ → Prop} (held : c.engine.Holds db asked ready) {name : String}
    (defines : asked (.definition name)) (lists : asked (.columns name)) :
    Act.Yields ready (c.rebuild? (.text name)) (db.rebuilt name) := by
  have answered := definition_yields held defines
  cases found : db.named? name with
  | none =>
    simp only [found] at answered
    rw [Database.rebuilt, found]
    exact answered.bind (.pure none)
  | some entry =>
    simp only [found] at answered
    simp only [Database.rebuilt, found, CatalogueEntry.script]
    cases defined : entry.terminated with
    | error fault =>
      rw [defined] at answered
      exact answered.bind_error
    | ok schema =>
      rw [defined] at answered
      refine answered.bind ?_
      cases cut : parenthesized? schema.toList with
      | none =>
        simp only [cut]
        exact .throw _
      | some body =>
        simp only [cut]
        exact (columns_yields held lists).bind ((Act.Yields.ofOk (namesToJoin_texts _)).bind (.pure _))

/-! ### Agreement on what a table is -/

/-- Whether there is a table and what the rebuild script is go together: no script for what is no
table, and for a table the script that one of its entries leads to. -/
structure AgreesOnTables (db : Database) (name : String) (isTable : Bool)
    (rebuilt : Except Fault (Option String)) : Prop where
  absent : rebuilt = .ok none ↔ isTable = false
  present : isTable = true → ∃ entry ∈ db.catalogue, entry.kind = .table ∧ entry.name = name ∧
    ∃ script, entry.script name (db.columnNames name) = .ok script ∧ rebuilt = .ok (some script)
  noFault : isTable = false → ∃ script?, rebuilt = .ok script?

namespace Database

/-- Any entry of the catalogue under the name is rebuilt, be it a table or not. -/
theorem rebuilt_eq_none_iff (db : Database) (name : String) :
    db.rebuilt name = .ok none ↔ ∀ entry ∈ db.catalogue, entry.name ≠ name := by
  have absent : db.named? name = none ↔ ∀ entry ∈ db.catalogue, entry.name ≠ name := by
    simp [named?]
  rw [← absent, rebuilt]
  cases db.named? name with
  | none => simp
  | some entry => simp [Outcome.map_eq_ok_iff]

theorem mem_tableNames_iff (db : Database) (name : String) :
    name ∈ db.tableNames ↔
      ∃ entry ∈ db.catalogue, entry.kind = .table ∧ entry.name = name := by
  simp [tableNames, and_assoc]

/-- The two answers agree if what has the name first gives the script of a table of that name. -/
theorem agrees_iff (db : Database) (name : String) :
    AgreesOnTables db name (decide (name ∈ db.tableNames)) (db.rebuilt name) ↔
      ∀ first, db.named? name = some first →
        ∃ entry ∈ db.catalogue, entry.kind = .table ∧ entry.name = name ∧
          ∃ script, entry.script name (db.columnNames name) = .ok script ∧
            first.script name (db.columnNames name) = .ok script := by
  constructor
  · intro agrees first found
    -- something has the name, so that the script is not none and there must be a table
    have listed : first ∈ db.catalogue ∧ first.name = name :=
      ⟨List.mem_of_find?_eq_some found, by simpa using List.find?_some found⟩
    have isTable : name ∈ db.tableNames := by
      by_contra missing
      have none := agrees.absent.mpr (decide_eq_false missing)
      exact (db.rebuilt_eq_none_iff name).mp none first listed.1 listed.2
    obtain ⟨entry, member, kind, named, script, leads, rebuilt⟩ :=
      agrees.present (decide_eq_true isTable)
    refine ⟨entry, member, kind, named, script, leads, ?_⟩
    rw [Database.rebuilt, found] at rebuilt
    obtain ⟨_, same, equal⟩ := (Outcome.map_eq_ok_iff _ _ _).mp rebuilt
    exact same.trans (congrArg Except.ok (Option.some.inj equal))
  · intro leads
    cases found : db.named? name with
    | none =>
      have rebuilt : db.rebuilt name = .ok none := by rw [Database.rebuilt, found]
      have missing : name ∉ db.tableNames := by
        rw [mem_tableNames_iff]
        rintro ⟨entry, member, _, named⟩
        exact (db.rebuilt_eq_none_iff name).mp rebuilt entry member named
      rw [decide_eq_false missing, rebuilt]
      exact ⟨by simp, by simp, fun _ => ⟨none, rfl⟩⟩
    | some first =>
      obtain ⟨entry, member, kind, named, script, leads, same⟩ := leads first found
      have isTable : name ∈ db.tableNames :=
        (db.mem_tableNames_iff name).mpr ⟨entry, member, kind, named⟩
      have rebuilt : db.rebuilt name = .ok (some script) := by
        rw [Database.rebuilt, found]
        simp only [same, Except.map]
      rw [decide_eq_true isTable, rebuilt]
      exact ⟨by simp, fun _ => ⟨entry, member, kind, named, script, leads, rfl⟩, by simp⟩

end Database

/-- Whether a name is that of a table, and the rebuild script for it. There is no script exactly if
nothing at all has the name, and the two agree exactly if what has the name first leads to the script
of a table. -/
theorem Connection.rebuild_agrees_iff {c : Connection σ} {db : Database} {ready : σ → Prop}
    {name : String}
    (held : c.engine.Holds db (· ∈ [.hasTable name, .definition name, .columns name]) ready) :
    Act.Yields ready (c.hasTable (.text name)) (.ok (decide (name ∈ db.tableNames))) ∧
      Act.Yields ready (c.rebuild? (.text name)) (db.rebuilt name) ∧
      (db.rebuilt name = .ok none ↔ ∀ entry ∈ db.catalogue, entry.name ≠ name) ∧
      (AgreesOnTables db name (decide (name ∈ db.tableNames)) (db.rebuilt name) ↔
        ∀ first, db.named? name = some first →
          ∃ entry ∈ db.catalogue, entry.kind = .table ∧ entry.name = name ∧
            ∃ script, entry.script name (db.columnNames name) = .ok script ∧
              first.script name (db.columnNames name) = .ok script) :=
  ⟨hasTable_yields held (by simp), rebuild_yields held (by simp) (by simp), db.rebuilt_eq_none_iff name,
    db.agrees_iff name⟩

/-! ### What is cut out of a definition -/

/-- The cut goes from the first opening to the last closing parenthesis. -/
theorem parenthesized?_eq {before inner after : List Char} (opening : '(' ∉ before)
    (closing : ')' ∉ after) :
    parenthesized? (before ++ '(' :: (inner ++ ')' :: after)) = some ('(' :: (inner ++ [')'])) := by
  have first : (before ++ '(' :: (inner ++ ')' :: after)).takeWhile (· != '(') = before :=
    takeWhile_upTo opening _
  -- Seen from behind, the last parenthesis is the first.
  have last : (before ++ '(' :: (inner ++ ')' :: after)).reverse.takeWhile (· != ')') =
      after.reverse := by
    have behind : (before ++ '(' :: (inner ++ ')' :: after)).reverse =
        after.reverse ++ ')' :: (before ++ '(' :: inner).reverse := by simp
    rw [behind]
    exact takeWhile_upTo (by simpa using closing) _
  have split : before ++ '(' :: (inner ++ ')' :: after) =
      before ++ '(' :: (inner ++ [')']) ++ after := by simp
  have upTo : (before ++ '(' :: (inner ++ [')']) ++ after).length - after.length =
      (before ++ '(' :: (inner ++ [')'])).length := by
    rw [List.length_append, Nat.add_sub_cancel]
  rw [parenthesized?, if_pos (by simp)]
  simp only [first, last, List.length_reverse]
  rw [split, upTo, List.take_left, List.drop_left]

/-- How a statement spells a name: as it is, or between quotes with its own quotes doubled. -/
inductive SpelledName (name : String) : List Char → Prop where
  | bare (plain : '(' ∉ name.toList) : SpelledName name name.toList
  | quoted : SpelledName name
      ('"' :: (name.toList.flatMap fun c => if c = '"' then ['"', '"'] else [c]) ++ ['"'])

theorem SpelledName.mem_iff {name : String} {spelling : List Char}
    (spelled : SpelledName name spelling) : '(' ∈ spelling ↔ '(' ∈ name.toList := by
  cases spelled with
  | bare => exact Iff.rfl
  | quoted =>
    have each (c : Char) : '(' ∈ (if c = '"' then ['"', '"'] else [c]) ↔ '(' = c := by
      by_cases quote : c = '"'
      · simp [quote]
      · simp [quote]
    simp [each]

/-- A definition as a catalogue stores it: the name, and behind blanks the parenthesized columns and
constraints with the options of the table. -/
structure TableDefinition (name : String) where
  spelling : List Char
  spelled : SpelledName name spelling
  gap : List Char
  blank : ∀ c ∈ gap, c.isWhitespace = true
  columns : List Char
  options : List Char
  unparenthesized : ')' ∉ options

namespace TableDefinition

variable {name : String} (d : TableDefinition name)

def body : List Char :=
  '(' :: (d.columns ++ ')' :: d.options)

def text : String :=
  "CREATE TABLE " ++ String.ofList (d.spelling ++ d.gap ++ d.body)

/-- What is cut out of the definition: from its first opening parenthesis, which may be one of the
name, to the end of the columns. -/
def kept : List Char :=
  (d.spelling ++ d.gap ++ '(' :: (d.columns ++ [')'])).dropWhile (· != '(')

/-- Between name and body there is white space only. -/
theorem opening_not_mem_gap : '(' ∉ d.gap :=
  fun member => absurd (d.blank _ member) (by decide)

/-- The first opening parenthesis, with what stands before it and behind it. -/
theorem split_at_opening : ∃ before inner, '(' ∉ before ∧
    d.spelling ++ d.gap ++ '(' :: d.columns = before ++ '(' :: inner ∧
    d.kept = '(' :: (inner ++ [')']) := by
  have member : '(' ∈ d.spelling ++ d.gap ++ '(' :: d.columns := by simp
  obtain ⟨before, inner, split, first⟩ := List.eq_append_cons_of_mem member
  refine ⟨before, inner, first, split, ?_⟩
  have closed : d.spelling ++ d.gap ++ '(' :: (d.columns ++ [')']) =
      before ++ '(' :: (inner ++ [')']) := by
    simpa using congrArg (· ++ [')']) split
  rw [kept, closed, dropWhile_upTo first]

theorem parenthesized?_text : parenthesized? (d.text ++ terminator).toList = some d.kept := by
  obtain ⟨before, inner, first, split, kept⟩ := d.split_at_opening
  have text : (d.text ++ terminator).toList =
      ("CREATE TABLE ".toList ++ before) ++ '(' :: (inner ++ ')' :: (d.options ++ [';'])) := by
    have tail := congrArg (· ++ ')' :: (d.options ++ [';'])) split
    simp only [List.append_assoc, List.cons_append] at tail
    simp [TableDefinition.text, TableDefinition.body, terminator, tail]
  rw [text, kept]
  refine parenthesized?_eq ?_ (by simp [d.unparenthesized])
  rw [List.mem_append, not_or]
  exact ⟨by decide, first⟩

/-- The cut is the body unless the name opens a parenthesis or options follow. -/
theorem kept_eq_body_iff : d.kept = d.body ↔ '(' ∉ name.toList ∧ d.options = [] := by
  rw [← d.spelled.mem_iff]
  constructor
  · intro whole
    obtain ⟨before, inner, first, split, kept⟩ := d.split_at_opening
    rw [kept, body, List.cons.injEq] at whole
    have options : d.options = [] := by
      -- what is kept ends with a parenthesis, which no option does
      rcases List.eq_nil_or_concat' d.options with none | ⟨front, last, concat⟩
      · exact none
      · rw [concat, ← List.cons_append, ← List.append_assoc] at whole
        have ends : [')'] = [last] := (List.append_inj' whole.2 rfl).2
        rw [List.singleton_inj] at ends
        subst ends
        exact absurd (by simp [concat]) d.unparenthesized
    rw [options, List.append_left_inj] at whole
    rw [whole.2, List.append_left_inj] at split
    refine ⟨fun member => first ?_, options⟩
    exact split ▸ List.mem_append_left _ member
  · rintro ⟨plain, options⟩
    have before : '(' ∉ d.spelling ++ d.gap := by simp [plain, d.opening_not_mem_gap]
    rw [kept, body, options, dropWhile_upTo before]

theorem rebuilt_eq {db : Database} {entry : CatalogueEntry} (first : db.named? name = some entry)
    (stored : entry.definition? = some d.text) :
    db.rebuilt name = .ok (some (rebuildScript (.text name) (String.ofList d.kept)
      ((db.columnNames name).map .text))) := by
  simp only [Database.rebuilt, first, CatalogueEntry.script, CatalogueEntry.terminated, stored,
    d.parenthesized?_text, Except.map]

end TableDefinition

/-! ### The statements of a script -/

/-- The statement that creates the copy of a table. -/
def createCopy (table : String) (body : List Char) : String :=
  "CREATE TABLE \"" ++ temporaryMark ++ table ++ "\" " ++ String.ofList body ++ ";"

/-- The statement that fills it. -/
def fillCopy (table : String) (columns : List String) : String :=
  "INSERT INTO \"" ++ temporaryMark ++ table ++ "\" SELECT \n" ++ ",\n".intercalate columns ++
    "\nFROM \"" ++ table ++ "\";"

theorem rebuildScript_eq (table : String) (body : List Char) (columns : List String) :
    ∃ before after, rebuildScript (.text table) (String.ofList body) (columns.map .text) =
      before ++ createCopy table body ++ "\n\n" ++ fillCopy table columns ++ after := by
  refine ⟨"-- alter: " ++ Text.toUpper table ++ "\n\n" ++ "BEGIN TRANSACTION;\n\n",
    "\n\n" ++ "DROP TABLE \"" ++ table ++ "\";\n" ++ "ALTER TABLE \"" ++ temporaryMark ++ table ++
      "\" RENAME TO \"" ++ table ++ "\";\n" ++ "COMMIT;\n" ++ "VACUUM;", ?_⟩
  have names : (columns.map Name.text).map Name.plain = columns := by
    rw [List.map_map]
    exact List.map_id _
  have created : ";\n\n" = ";" ++ "\n\n" := by decide
  have filled : "\";\n\n" = "\";" ++ "\n\n" := by decide
  have source : "\nFROM \"" = "\n" ++ "FROM \"" := by decide
  unfold rebuildScript createCopy fillCopy
  rw [names, created, filled, source]
  simp only [Name.plain, Name.shown, String.append_assoc]

/-- The script for a table whose definition is stored: it creates the copy with what is kept of the
definition and fills it with all columns in their order. What is kept is the whole body exactly if
the name of the table has no parenthesis and there are no options. -/
theorem Connection.rebuild_keeps_body_iff {c : Connection σ} {db : Database} {ready : σ → Prop}
    {name : String} (held : c.engine.Holds db (· ∈ [.definition name, .columns name]) ready)
    (d : TableDefinition name) {entry : CatalogueEntry} (first : db.named? name = some entry)
    (stored : entry.definition? = some d.text) :
    Act.Yields ready (c.columns (.text name)) (.ok ((db.columnNames name).map .text)) ∧
      (∃ before after, Act.Yields ready (c.rebuild? (.text name))
        (.ok (some (before ++ createCopy name d.kept ++ "\n\n" ++
          fillCopy name (db.columnNames name) ++ after)))) ∧
      (d.kept = d.body ↔ '(' ∉ name.toList ∧ d.options = []) := by
  refine ⟨columns_yields held (by simp), ?_, d.kept_eq_body_iff⟩
  obtain ⟨before, after, script⟩ := rebuildScript_eq name d.kept (db.columnNames name)
  refine ⟨before, after, ?_⟩
  rw [← script, ← d.rebuilt_eq first stored]
  exact rebuild_yields held (by simp) (by simp)

/-! ### Tables with options, and their indexes -/

/-- The definition of a table that needs quotes and has an option. -/
def oldTags : TableDefinition "tags (old)" where
  spelling := "\"tags (old)\"".toList
  spelled := .quoted
  gap := [' ']
  blank := by simp [Char.isWhitespace]
  columns := "code TEXT CHECK (code <> '')".toList
  options := " STRICT".toList
  unparenthesized := by decide

def tagsByCode : TableDefinition "tags" where
  spelling := "tags".toList
  spelled := .bare (by decide)
  gap := [' ']
  blank := by simp [Char.isWhitespace]
  columns := "code TEXT PRIMARY KEY".toList
  options := " WITHOUT ROWID".toList
  unparenthesized := by decide

def indexed : Database where
  catalogue :=
    [⟨.table, "tags", some tagsByCode.text⟩,
      ⟨.index, "by_code", some "CREATE INDEX by_code ON tags (code)"⟩,
      ⟨.index, "sqlite_autoindex_tags_1", none⟩,
      ⟨.table, "tags (old)", some oldTags.text⟩]
  columns _ := [⟨"code", 1⟩]
  rows _ := []

def indexedFile : Connection Unit :=
  { path := "tags.db", options := {}, engine := indexed.engine }

theorem indexedFile_holds : indexedFile.engine.Holds indexed indexed.Understands fun _ => True :=
  Database.engine_holds (by decide)

namespace Connection

/-- The copy of a table without row numbers has them. -/
theorem options_are_cut_off :
    ¬ ∀ (c : Connection Unit) (db : Database) (ready : Unit → Prop) (name : String)
      (d : TableDefinition name) (entry : CatalogueEntry), c.engine.Holds db db.Understands ready →
      db.named? name = some entry → entry.definition? = some d.text →
      ∃ before after, Act.Yields ready (c.rebuild? (.text name))
        (.ok (some (before ++ createCopy name d.body ++ after))) := by
  intro whole
  obtain ⟨before, after, yields⟩ := whole indexedFile indexed _ "tags" tagsByCode _
    indexedFile_holds rfl rfl
  have rebuilt := yields.unique (s := ()) trivial (rebuild_yields indexedFile_holds trivial trivial)
  rw [tagsByCode.rebuilt_eq rfl rfl, Except.ok.injEq, Option.some.injEq] at rebuilt
  -- nothing else in the script has the first letter of the option
  have option : 'W' ∈ (before ++ createCopy "tags" tagsByCode.body ++ after).toList := by
    have inside : 'W' ∈ tagsByCode.body := by decide
    unfold createCopy
    simp only [String.toList_append, String.toList_ofList, List.mem_append, inside, true_or,
      or_true]
  have missing : 'W' ∉ (rebuildScript (.text "tags") "(code TEXT PRIMARY KEY)"
      [.text "code"]).toList := by
    have heading : Text.toUpper "tags" = "TAGS" := by decide +kernel
    unfold rebuildScript
    simp only [Name.plain, Name.shown, temporaryMark, heading, String.toList_append,
      List.mem_append, List.map, String.intercalate_singleton]
    simp
  rw [rebuilt] at option
  exact missing option

theorem quoted_strict_table_is_cut :
    indexedFile.engine.Holds indexed (· ∈ [.definition "tags (old)", .columns "tags (old)"])
        (fun _ => True) ∧
      indexed.named? "tags (old)" = some ⟨.table, "tags (old)", some oldTags.text⟩ ∧
      (Act.Yields (fun _ => True) (indexedFile.columns (.text "tags (old)"))
          (.ok ((indexed.columnNames "tags (old)").map .text)) ∧
        (∃ before after, Act.Yields (fun _ => True) (indexedFile.rebuild? (.text "tags (old)"))
          (.ok (some (before ++ createCopy "tags (old)" oldTags.kept ++ "\n\n" ++
            fillCopy "tags (old)" (indexed.columnNames "tags (old)") ++ after)))) ∧
        (oldTags.kept = oldTags.body ↔ '(' ∉ "tags (old)".toList ∧ oldTags.options = [])) :=
  have held := indexedFile_holds.mono (by simp [Database.Understands])
  ⟨held, rfl, rebuild_keeps_body_iff held oldTags rfl rfl⟩

/-- An index gets a rebuild script. -/
theorem index_gets_script :
    ¬ ∀ (c : Connection Unit) (db : Database) (ready : Unit → Prop) (name : String),
      c.engine.Holds db db.Understands ready → ∃ isTable rebuilt,
        Act.Yields ready (c.hasTable (.text name)) (.ok isTable) ∧
        Act.Yields ready (c.rebuild? (.text name)) rebuilt ∧
        AgreesOnTables db name isTable rebuilt := by
  intro agree
  obtain ⟨isTable, rebuilt, asked, yields, agrees⟩ :=
    agree indexedFile indexed _ "by_code" indexedFile_holds
  have isTable := Except.ok.inj
    (asked.unique (s := ()) trivial (hasTable_yields indexedFile_holds trivial))
  have rebuilt := yields.unique (s := ()) trivial (rebuild_yields indexedFile_holds trivial trivial)
  subst isTable rebuilt
  obtain ⟨entry, member, kind, named, _⟩ := (indexed.agrees_iff "by_code").mp agrees _ rfl
  have missing : "by_code" ∉ indexed.tableNames := by decide
  exact missing ((indexed.mem_tableNames_iff "by_code").mpr ⟨entry, member, kind, named⟩)

theorem undefined_index_is_no_table :
    indexedFile.engine.Holds indexed
        (· ∈ [.hasTable "sqlite_autoindex_tags_1", .definition "sqlite_autoindex_tags_1",
          .columns "sqlite_autoindex_tags_1"]) (fun _ => True) ∧
      (Act.Yields (fun _ => True) (indexedFile.hasTable (.text "sqlite_autoindex_tags_1"))
          (.ok (decide ("sqlite_autoindex_tags_1" ∈ indexed.tableNames))) ∧
        Act.Yields (fun _ => True) (indexedFile.rebuild? (.text "sqlite_autoindex_tags_1"))
          (indexed.rebuilt "sqlite_autoindex_tags_1") ∧
        (indexed.rebuilt "sqlite_autoindex_tags_1" = .ok none ↔
          ∀ entry ∈ indexed.catalogue, entry.name ≠ "sqlite_autoindex_tags_1") ∧
        (AgreesOnTables indexed "sqlite_autoindex_tags_1"
            (decide ("sqlite_autoindex_tags_1" ∈ indexed.tableNames))
            (indexed.rebuilt "sqlite_autoindex_tags_1") ↔
          ∀ first, indexed.named? "sqlite_autoindex_tags_1" = some first →
            ∃ entry ∈ indexed.catalogue, entry.kind = .table ∧
              entry.name = "sqlite_autoindex_tags_1" ∧
              ∃ script, entry.script "sqlite_autoindex_tags_1"
                  (indexed.columnNames "sqlite_autoindex_tags_1") = .ok script ∧
                first.script "sqlite_autoindex_tags_1"
                  (indexed.columnNames "sqlite_autoindex_tags_1") = .ok script)) :=
  have held := indexedFile_holds.mono (by simp [Database.Understands])
  ⟨held, rebuild_agrees_iff held⟩

end Connection

end FluentSql
