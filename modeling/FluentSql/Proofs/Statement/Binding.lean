import FluentSql.Proofs.Builder.Run
import FluentSql.Proofs.Number
import FluentSql.Proofs.Statement.Text

/-!
# Positional binding

The engine binds the values of a statement to its question marks from left to right. The main
theorem says that this puts every value where the query and the row data declare it, for every
statement of every builder, as long as no name holds one of the two marks itself.
-/

namespace FluentSql

/-- A place of a statement whose values have been put in: a character of its text, or a value. -/
inductive Cell where
  | char (c : Char)
  | value (v : Value)

namespace Cell

/-- The cells of text alone. -/
def ofText (s : String) : List Cell := s.toList.map char

/-- Puts values in the places of the question marks of a text, from left to right. -/
def bind : List Char → List Value → List Cell
  | [], _ => []
  | c :: cs, [] => char c :: bind cs []
  | c :: cs, v :: vs => if c = '?' then value v :: bind cs vs else char c :: bind cs (v :: vs)

end Cell

/-! ### Statements with their values in place -/

/-- A comparison, its own value after the operator. -/
def Comparison.inPlace (c : Comparison) : List Cell :=
  Cell.ofText (c.field ++ c.operator) ++ [.value c.value]

/-- A membership test, its own members between the parentheses. -/
def Membership.inPlace (keywords : String) (m : Membership) : List Cell :=
  Cell.ofText (m.field ++ " " ++ keywords ++ " (") ++
    (Cell.ofText ",").intercalate (m.members.map fun v => [.value v]) ++ Cell.ofText ")"

/-- The parts of a statement with a space between each two and the terminator at the end. -/
def Cell.statement (parts : List (List Cell)) : List Cell :=
  (ofText " ").intercalate parts ++ ofText ";"

def Value.entries : Value → List (Value × Value)
  | .map entries => entries
  | _ => []

/-- An insertion, the value of each entry in the order of the fields. -/
def insertionInPlace (table : String) (entries : List (Value × Value)) : List Cell :=
  Cell.ofText ("INSERT INTO " ++ table ++ " (" ++
    ", ".intercalate (entries.map fun entry => entry.1.text?.getD "") ++ ") VALUES (") ++
    (Cell.ofText ",").intercalate (entries.map fun entry => [.value entry.2]) ++ Cell.ofText ")"

/-- An assignment, the value of the entry after its own field. -/
def assignmentInPlace (entry : Value × Value) : List Cell :=
  Cell.ofText (entry.1.display ++ "=") ++ [.value entry.2]

namespace Query

/-- Every condition with its own values. -/
def conditionsInPlace (q : Query) : List (List Cell) :=
  q.comparisons.map Comparison.inPlace ++
  q.memberships.map (Membership.inPlace "IN") ++
  q.exclusions.map (Membership.inPlace "NOT IN") ++
  q.nulls.map (fun field => Cell.ofText (field.shown ++ " IS NULL")) ++
  q.notNulls.map (fun field => Cell.ofText (field.shown ++ " IS NOT NULL"))

def whereInPlace (q : Query) : List (List Cell) :=
  if q.conditionsInPlace = [] then []
  else [Cell.ofText "WHERE " ++ (Cell.ofText " AND ").intercalate q.conditionsInPlace]

/-- The tail of a statement. Its last clauses hold no values. -/
def tailInPlace (q : Query) : List (List Cell) :=
  q.whereInPlace ++ (q.orderClause ++ countClause "LIMIT" q.limit ++
    countClause "OFFSET" q.offset).map fun clause => Cell.ofText clause.sql

/-- The statement that a query and row data declare, with every value in its own place. -/
def inPlace (q : Query) : Build → List Cell
  | .select =>
    let columns := if q.columns.isEmpty then "*" else ", ".intercalate (q.columns.map Column.sql)
    Cell.statement ([Cell.ofText ("SELECT " ++ columns ++ " FROM " ++ q.table)] ++
      q.joins.map (fun join => Cell.ofText join.clause.sql) ++ q.tailInPlace)
  | .count =>
    Cell.statement (Cell.ofText ("SELECT count(" ++ q.counted ++ ") AS count FROM " ++ q.table) ::
      q.whereInPlace)
  | .delete => Cell.statement (Cell.ofText ("DELETE FROM " ++ q.table) :: q.tailInPlace)
  | .insert data =>
    if data.entries = [] then
      Cell.statement [Cell.ofText ("INSERT INTO " ++ q.table ++ " DEFAULT VALUES")]
    else
      Cell.statement [insertionInPlace q.table data.entries]
  | .upsert data conflict =>
    let names (values : List Value) := values.filterMap Value.name?
    let targets := names ((conflictTargets conflict).toOption.getD [])
    Cell.statement [insertionInPlace q.table data.entries,
      Cell.ofText (conflictClause targets (names (data.entries.map (·.1)))).sql]
  | .update data =>
    Cell.statement ((Cell.ofText ("UPDATE " ++ q.table ++ " SET ") ++
      (Cell.ofText ", ").intercalate (data.entries.map assignmentInPlace)) :: q.tailInPlace)
  | .conditions => []

end Query

/-! ### Names without marks -/

/-- Whether a text holds neither the mark of a slot nor that of a statement's end. -/
def Unmarked (s : String) : Prop := '?' ∉ s.toList ∧ ';' ∉ s.toList

instance (s : String) : Decidable (Unmarked s) := inferInstanceAs (Decidable (_ ∧ _))

/-- No name in a query holds a mark. -/
structure Query.NamesUnmarked (q : Query) : Prop where
  table : Unmarked q.table
  columns : ∀ c ∈ q.columns, Unmarked c.name ∧ ∀ label ∈ c.label, Unmarked label
  joins : ∀ j ∈ q.joins, Unmarked j.table ∧ Unmarked j.condition
  comparisons : ∀ c ∈ q.comparisons, Unmarked c.field
  memberships : ∀ m ∈ q.memberships, Unmarked m.field
  exclusions : ∀ m ∈ q.exclusions, Unmarked m.field
  nulls : ∀ name ∈ q.nulls, Unmarked name.shown
  notNulls : ∀ name ∈ q.notNulls, Unmarked name.shown
  order : ∀ order ∈ q.order, Unmarked order.field

/-- No field of the row data and no conflict target holds a mark. -/
def Build.NamesUnmarked : Build → Prop
  | .insert data | .update data => ∀ entry ∈ data.entries, Unmarked entry.1.display
  | .upsert data conflict =>
    (∀ entry ∈ data.entries, Unmarked entry.1.display) ∧
      ∀ targets, conflictTargets conflict = .ok targets →
        ∀ target ∈ targets, Unmarked target.display
  | .select | .count | .delete | .conditions => True

theorem unmarked_append_iff (s t : String) : Unmarked (s ++ t) ↔ Unmarked s ∧ Unmarked t := by
  simp only [Unmarked, String.toList_append, List.mem_append, not_or]
  constructor
  · rintro ⟨⟨slot, slot'⟩, stop, stop'⟩
    exact ⟨⟨slot, stop⟩, slot', stop'⟩
  · rintro ⟨⟨slot, stop⟩, slot', stop'⟩
    exact ⟨⟨slot, slot'⟩, stop, stop'⟩

theorem unmarked_intercalate_iff (separator : String) (texts : List String)
    (between : Unmarked separator) :
    Unmarked (separator.intercalate texts) ↔ ∀ s ∈ texts, Unmarked s := by
  induction texts with
  | nil => simp [Unmarked]
  | cons first rest ih =>
    cases rest with
    | nil => simp
    | cons second rest =>
      rw [String.intercalate_cons_cons, unmarked_append_iff, unmarked_append_iff, ih]
      simp [between]

/-! ### Fragments and their cells -/

namespace Fragment

def pieceCells : Piece → List Cell
  | .text s => Cell.ofText s
  | .slot v => [.value v]

/-- The cells of a fragment, each slot filled with its value. -/
def cells (f : Fragment) : List Cell := f.pieces.flatMap pieceCells

/-- No text of a fragment holds a mark. -/
def TextUnmarked (f : Fragment) : Prop := ∀ s, Piece.text s ∈ f.pieces → Unmarked s

@[simp] theorem cells_text (s : String) : (text s).cells = Cell.ofText s := by
  simp [cells, text, pieceCells]

@[simp] theorem cells_slot (v : Value) : (slot v).cells = [.value v] := by
  simp [cells, slot, pieceCells]

@[simp] theorem cells_append (f g : Fragment) : (f ++ g).cells = f.cells ++ g.cells :=
  List.flatMap_append

@[simp] theorem cells_joined (separator : String) (fs : List Fragment) :
    (joined separator fs).cells = (Cell.ofText separator).intercalate (fs.map cells) := by
  fun_induction joined separator fs with
  | case1 => simp [cells]
  | case2 single => simp
  | case3 first rest filled ih =>
    rw [cells_append, cells_append, ih, List.map_cons,
      List.intercalate_cons_of_ne_nil (by simpa using filled), cells_text]

@[simp] theorem cells_slots (values : List Value) :
    (slots values).cells = (Cell.ofText ",").intercalate (values.map fun v => [.value v]) := by
  simp [slots, Function.comp_def]

@[simp] theorem textUnmarked_text (s : String) : (text s).TextUnmarked ↔ Unmarked s := by
  simp [TextUnmarked, text]

@[simp] theorem textUnmarked_slot (v : Value) : (slot v).TextUnmarked := by
  simp [TextUnmarked, slot]

@[simp] theorem textUnmarked_append (f g : Fragment) :
    (f ++ g).TextUnmarked ↔ f.TextUnmarked ∧ g.TextUnmarked := by
  constructor
  · intro both
    exact ⟨fun s member => both s (List.mem_append_left _ member),
      fun s member => both s (List.mem_append_right _ member)⟩
  · rintro ⟨left, right⟩ s member
    exact (List.mem_append.mp member).elim (left s) (right s)

theorem textUnmarked_joined (separator : String) (fs : List Fragment)
    (between : Unmarked separator) (each : ∀ f ∈ fs, f.TextUnmarked) :
    (joined separator fs).TextUnmarked := by
  fun_induction joined separator fs with
  | case1 => simp [TextUnmarked]
  | case2 single => exact each single (by simp)
  | case3 first rest _ ih =>
    have tail := ih fun f member => each f (List.mem_cons_of_mem _ member)
    simp only [textUnmarked_append, textUnmarked_text]
    exact ⟨⟨each first (by simp), between⟩, tail⟩

theorem textUnmarked_slots (values : List Value) : (slots values).TextUnmarked := by
  apply textUnmarked_joined _ _ (by decide)
  intro f member
  obtain ⟨v, _, rfl⟩ := List.mem_map.mp member
  exact textUnmarked_slot v

end Fragment

/-! ### Binding the values of a fragment -/

/-- Text without slots takes no value. -/
theorem Cell.bind_text (s cs : List Char) (vs : List Value) (unmarked : '?' ∉ s) :
    bind (s ++ cs) vs = s.map char ++ bind cs vs := by
  -- No character of the text takes a value away.
  induction s with
  | nil => rfl
  | cons c s ih =>
    simp only [List.mem_cons, not_or] at unmarked
    have tail := ih unmarked.2
    cases vs with
    | nil => simp [bind, tail]
    | cons v vs => simp [bind, Ne.symm unmarked.1, tail]

/-- In text whose only question marks are those of the slots, binding fills each slot with its own
value, whatever text and values follow. -/
theorem Cell.bind_sql_append (pieces : List Piece) (cs : List Char) (vs : List Value)
    (unmarked : ∀ s, Piece.text s ∈ pieces → Unmarked s) :
    bind ((pieces.map Fragment.pieceSql).flatMap String.toList ++ cs)
      (pieces.filterMap Fragment.pieceParam? ++ vs) =
        pieces.flatMap Fragment.pieceCells ++ bind cs vs := by
  -- Piece by piece: text passes unchanged, and a slot takes the first value, which is its own.
  induction pieces with
  | nil => simp
  | cons piece pieces ih =>
    have tail := ih fun s member => unmarked s (List.mem_cons_of_mem _ member)
    cases piece with
    | text s =>
      have here := unmarked s (by simp)
      simp [Fragment.pieceSql, Fragment.pieceParam?, Fragment.pieceCells, Cell.ofText,
        List.filterMap_cons, bind_text _ _ _ here.1, tail]
    | slot v =>
      simp [Fragment.pieceSql, Fragment.pieceParam?, Fragment.pieceCells, placeholder, bind, tail]

/-- In a fragment whose texts hold no mark the question marks are its slots. -/
theorem Fragment.count_placeholder (f : Fragment) (unmarked : f.TextUnmarked) :
    f.sql.toList.count '?' = f.params.length := by
  obtain ⟨pieces⟩ := f
  simp only [sql, params, String.toList_join]
  induction pieces with
  | nil => rfl
  | cons piece pieces ih =>
    have tail := ih fun s member => unmarked s (List.mem_cons_of_mem _ member)
    cases piece with
    | text s =>
      have absent : s.toList.count '?' = 0 := List.count_eq_zero.mpr (unmarked s (by simp)).1
      simp [pieceSql, pieceParam?, List.filterMap_cons, absent, tail]
    | slot v => simp [pieceSql, pieceParam?, placeholder, tail]

theorem Fragment.terminator_not_mem (f : Fragment) (unmarked : f.TextUnmarked) :
    ';' ∉ f.sql.toList := by
  simp only [sql, String.toList_join, List.mem_flatMap, List.mem_map, not_exists, not_and]
  rintro text ⟨piece, member, rfl⟩
  cases piece with
  | text s => exact (unmarked s member).2
  | slot v => simp [pieceSql, placeholder]

/-- What is said of the text and the values of a statement: as many slots as values, one mark of the
end at the end, and the given cells when the values are bound. -/
structure Statement.Binds (s : Statement) (cells : List Cell) : Prop where
  slots : s.sql.toList.count '?' = s.params.length
  ends : s.sql.toList.count ';' = 1
  last : s.sql.toList.getLast? = some ';'
  bound : Cell.bind s.sql.toList s.params = cells

/-- Parts whose texts hold no mark bind to their cells, one part after the other. -/
theorem Statement.binds_ofParts (parts : List Fragment)
    (unmarked : ∀ part ∈ parts, part.TextUnmarked) :
    (Statement.ofParts parts).Binds (Cell.statement (parts.map Fragment.cells)) := by
  have body : (Fragment.joined " " parts).TextUnmarked :=
    Fragment.textUnmarked_joined _ _ (by decide) unmarked
  refine ⟨?_, ?_, ?_, ?_⟩
  -- The terminator is no slot, and the body holds no terminator.
  · simp [sql, params, ofParts, terminator, Fragment.count_placeholder _ body]
  · have absent := List.count_eq_zero.mpr (Fragment.terminator_not_mem _ body)
    simp [sql, ofParts, terminator, absent]
  · simp [sql, ofParts, terminator]
  -- After the body no value is left, and the terminator passes as it is.
  · have bound := Cell.bind_sql_append (Fragment.joined " " parts).pieces [';'] [] body
    rw [Cell.statement, ← Fragment.cells_joined]
    simpa [sql, params, ofParts, terminator, Fragment.sql, Fragment.params, Fragment.cells,
      Cell.ofText, Cell.bind] using bound

theorem Statement.binds_headed (head : Fragment) (parts : List Fragment)
    (unmarked : head.TextUnmarked) (rest : ∀ part ∈ parts, part.TextUnmarked) :
    (Statement.ofParts (head :: parts)).Binds
      (Cell.statement (head.cells :: parts.map Fragment.cells)) := by
  rw [← List.map_cons]
  apply binds_ofParts
  intro part member
  rcases List.mem_cons.mp member with rfl | member
  · exact unmarked
  · exact rest part member

/-! ### The parts of statements -/

@[simp] theorem Comparison.condition_cells (c : Comparison) : c.condition.cells = c.inPlace := by
  simp [condition, inPlace]

@[simp] theorem Membership.condition_cells (keywords : String) (m : Membership) :
    (m.condition keywords).cells = m.inPlace keywords := by
  simp [condition, inPlace]

theorem Membership.condition_unmarked (keywords : String) (m : Membership)
    (between : Unmarked keywords) (field : Unmarked m.field) :
    (m.condition keywords).TextUnmarked := by
  have space : Unmarked " " := by decide
  have opening : Unmarked " (" := by decide
  have closing : Unmarked ")" := by decide
  simp [condition, unmarked_append_iff, Fragment.textUnmarked_slots, *]

theorem Join.clause_unmarked (j : Join) (table : Unmarked j.table)
    (condition : Unmarked j.condition) : j.clause.TextUnmarked := by
  have keyword : Unmarked j.kind.keyword := by cases j.kind <;> decide
  have space : Unmarked " " := by decide
  simp [clause, unmarked_append_iff, *]

theorem Column.sql_unmarked (c : Column) (name : Unmarked c.name)
    (label : ∀ label ∈ c.label, Unmarked label) : Unmarked c.sql := by
  have between : Unmarked " AS " := by decide
  unfold sql
  split
  next found =>
    have := label _ found
    simp [unmarked_append_iff, *]
  · exact name

namespace Query

/-- The conditions hold their own values, each behind its own field. -/
theorem conditions_cells (q : Query) : q.conditions.map Fragment.cells = q.conditionsInPlace := by
  simp [conditions, conditionsInPlace, Function.comp_def]

theorem whereClause_cells (q : Query) : q.whereClause.map Fragment.cells = q.whereInPlace := by
  have empty : q.conditionsInPlace = [] ↔ q.conditions = [] := by
    rw [← conditions_cells, List.map_eq_nil_iff]
  unfold whereClause whereInPlace
  by_cases none : q.conditions = []
  · have silent : ¬q.hasPredicates = true := fun some => q.hasPredicates_iff.mp some none
    rw [if_neg silent, if_pos (empty.mpr none)]
    rfl
  · rw [if_pos (q.hasPredicates_iff.mpr none), if_neg (mt empty.mp none)]
    simp [conditions_cells]

theorem tail_cells (q : Query) : q.tail.map Fragment.cells = q.tailInPlace := by
  have order : q.orderClause.map Fragment.cells =
      q.orderClause.map fun clause => Cell.ofText clause.sql := by
    unfold orderClause
    split <;> simp
  have count (keyword : String) (number : Option Int) :
      (countClause keyword number).map Fragment.cells =
        (countClause keyword number).map fun clause => Cell.ofText clause.sql := by
    unfold countClause
    split <;> simp
  simp [tail, tailInPlace, whereClause_cells, order, count]

/-- Besides names a condition holds an operator that exists, or a word of the library. -/
theorem conditions_unmarked (q : Query) (sound : q.Sound) (names : q.NamesUnmarked) :
    ∀ part ∈ q.conditions, part.TextUnmarked := by
  intro part member
  simp only [conditions, List.mem_append, List.mem_map] at member
  have absent : Unmarked " IS NULL" := by decide
  have present : Unmarked " IS NOT NULL" := by decide
  rcases member with (((⟨c, declared, rfl⟩ | ⟨m, declared, rfl⟩) | ⟨m, declared, rfl⟩) |
    ⟨field, declared, rfl⟩) | ⟨field, declared, rfl⟩
  -- The operator is the only text of a comparison that is no name.
  · obtain ⟨operator, named⟩ := sound.operators c declared
    have symbol : Unmarked operator.symbol := by cases operator <;> decide
    have field := names.comparisons c declared
    simp [Comparison.condition, unmarked_append_iff, *]
  · exact m.condition_unmarked _ (by decide) (names.memberships m declared)
  · exact m.condition_unmarked _ (by decide) (names.exclusions m declared)
  · have name := names.nulls field declared
    simp [unmarked_append_iff, *]
  · have name := names.notNulls field declared
    simp [unmarked_append_iff, *]

theorem whereClause_unmarked (q : Query) (sound : q.Sound) (names : q.NamesUnmarked) :
    ∀ part ∈ q.whereClause, part.TextUnmarked := by
  intro part member
  unfold whereClause at member
  split at member
  · obtain rfl := List.mem_singleton.mp member
    rw [Fragment.textUnmarked_append, Fragment.textUnmarked_text]
    refine ⟨by decide, Fragment.textUnmarked_joined _ _ (by decide) ?_⟩
    exact q.conditions_unmarked sound names
  · cases member

theorem countClause_unmarked (keyword : String) (number : Option Int)
    (unmarked : Unmarked keyword) : ∀ part ∈ countClause keyword number, part.TextUnmarked := by
  intro part member
  unfold countClause at member
  split at member
  next n =>
    obtain rfl := List.mem_singleton.mp member
    -- A number is written in digits, of which neither mark is one.
    have digits : Unmarked (Value.decimal n) := by
      constructor
      · intro mark
        rcases Value.isDigit_of_mem_decimal n _ mark with sign | digit
        · cases sign
        · cases digit
      · intro mark
        rcases Value.isDigit_of_mem_decimal n _ mark with sign | digit
        · cases sign
        · cases digit
    have space : Unmarked " " := by decide
    simp [unmarked_append_iff, *]
  · cases member

theorem tail_unmarked (q : Query) (sound : q.Sound) (names : q.NamesUnmarked) :
    ∀ part ∈ q.tail, part.TextUnmarked := by
  intro part member
  simp only [tail, List.mem_append] at member
  rcases member with ((conditions | order) | limit) | offset
  · exact q.whereClause_unmarked sound names part conditions
  · unfold orderClause at order
    split at order
    next declared found =>
      obtain rfl := List.mem_singleton.mp order
      -- Besides the field an order holds a keyword, a space and a direction.
      have keywords : Unmarked "ORDER BY " := by decide
      have space : Unmarked " " := by decide
      have field := names.order declared found
      have direction : Unmarked declared.direction.keyword := by
        cases declared.direction <;> decide
      simp [unmarked_append_iff, *]
    · cases order
  · exact countClause_unmarked _ _ (by decide) part limit
  · exact countClause_unmarked _ _ (by decide) part offset

end Query

/-! ### Names in row data -/

theorem Value.name?_unmarked (v : Value) (name : Name) (named : v.name? = some name)
    (unmarked : Unmarked v.display) : Unmarked name.plain ∧ Unmarked name.shown := by
  cases v with
  | text s =>
    cases named
    exact ⟨unmarked, unmarked⟩
  | direction d =>
    cases named
    cases d <;> decide
  | _ => cases named

theorem Value.text?_eq_plain (v : Value) (name : Name) (named : v.name? = some name) :
    v.text? = some name.plain := by
  cases v with
  | text s | direction d =>
    cases named
    rfl
  | _ => cases named

theorem names_unmarked (values : List Value) (names : List Name)
    (named : List.Forall₂ (fun value name => value.name? = some name) values names)
    (unmarked : ∀ value ∈ values, Unmarked value.display) :
    ∀ name ∈ names, Unmarked name.plain ∧ Unmarked name.shown := by
  induction named with
  | nil => simp
  | @cons value name values names found _ ih =>
    intro other member
    rcases List.mem_cons.mp member with rfl | member
    · exact value.name?_unmarked _ found (unmarked value (by simp))
    · exact ih (fun v here => unmarked v (List.mem_cons_of_mem _ here)) other member

theorem nameList_unmarked (names : List Name) (unmarked : ∀ name ∈ names, Unmarked name.plain) :
    Unmarked (nameList names) := by
  apply (unmarked_intercalate_iff _ _ (by decide)).mpr
  intro s member
  obtain ⟨name, here, rfl⟩ := List.mem_map.mp member
  exact unmarked name here

/-- The fields of an insertion and the slots for their values are in the same order. -/
theorem insertHead_cells (table : String) (entries : List (Value × Value)) (fields : List Name)
    (named : List.Forall₂ (fun value name => value.name? = some name) (entries.map (·.1)) fields) :
    (insertHead table fields (entries.map (·.2))).cells = insertionInPlace table entries := by
  -- The fields are listed in the order of the entries, by the texts of their keys.
  have plain : fields.map Name.plain = entries.map fun entry => entry.1.text?.getD "" := by
    induction entries generalizing fields with
    | nil =>
      cases named
      rfl
    | cons entry rest ih =>
      cases named with
      | cons found named =>
        simp [Value.text?_eq_plain _ _ found, ih _ named]
  simp [insertHead, insertionInPlace, nameList, plain, Function.comp_def]

theorem insertHead_unmarked (table : String) (fields : List Name) (values : List Value)
    (unmarked : Unmarked table) (names : ∀ name ∈ fields, Unmarked name.plain) :
    (insertHead table fields values).TextUnmarked := by
  have opening : Unmarked "INSERT INTO " := by decide
  have left : Unmarked " (" := by decide
  have middle : Unmarked ") VALUES (" := by decide
  have right : Unmarked ")" := by decide
  have list := nameList_unmarked fields names
  simp [insertHead, unmarked_append_iff, Fragment.textUnmarked_slots, *]

theorem conflictClause_unmarked (targets fields : List Name)
    (left : ∀ name ∈ targets, Unmarked name.plain) (right : ∀ name ∈ fields, Unmarked name.shown) :
    (conflictClause targets fields).TextUnmarked := by
  simp only [conflictClause, Fragment.textUnmarked_text, unmarked_append_iff]
  refine ⟨⟨by decide, ?_⟩, ?_⟩
  · split
    · decide
    · have list := nameList_unmarked targets left
      have opening : Unmarked "(" := by decide
      have closing : Unmarked ") " := by decide
      simp [unmarked_append_iff, *]
  · split
    · decide
    -- Each setting names one of the fields twice.
    · rw [unmarked_append_iff]
      refine ⟨by decide, (unmarked_intercalate_iff _ _ (by decide)).mpr ?_⟩
      intro s member
      obtain ⟨field, kept, rfl⟩ := List.mem_map.mp member
      have name := right field (List.mem_filter.mp kept).1
      have between : Unmarked "=excluded." := by decide
      simp [unmarked_append_iff, *]

/-! ### Every statement -/

namespace Query

/-- One statement after the other: the texts hold no mark, and the cells are those in place. -/
theorem select_binds (q : Query) (sound : q.Sound) (names : q.NamesUnmarked) :
    q.select.Binds (q.inPlace .select) := by
  have unmarked : ∀ part ∈ [Fragment.text ("SELECT " ++ (if q.columns.isEmpty then "*" else
      ", ".intercalate (q.columns.map Column.sql)) ++ " FROM " ++ q.table)] ++
      q.joins.map Join.clause ++ q.tail, part.TextUnmarked := by
    intro part member
    simp only [List.mem_append, List.mem_singleton, List.mem_map] at member
    -- A text that is selected from, a join, or a part of the tail.
    rcases member with (rfl | ⟨join, declared, rfl⟩) | tail
    · have keyword : Unmarked "SELECT " := by decide
      have between : Unmarked " FROM " := by decide
      have table := names.table
      have columns : Unmarked (if q.columns.isEmpty then "*" else
          ", ".intercalate (q.columns.map Column.sql)) := by
        split
        · decide
        · apply (unmarked_intercalate_iff _ _ (by decide)).mpr
          intro text member
          obtain ⟨column, declared, rfl⟩ := List.mem_map.mp member
          exact column.sql_unmarked (names.columns column declared).1
            (names.columns column declared).2
      simp only [Fragment.textUnmarked_text, unmarked_append_iff]
      exact ⟨⟨⟨keyword, columns⟩, between⟩, table⟩
    · exact join.clause_unmarked (names.joins join declared).1 (names.joins join declared).2
    · exact q.tail_unmarked sound names part tail
  have joins : q.joins.map (Fragment.cells ∘ Join.clause) =
      q.joins.map fun join => Cell.ofText join.clause.sql := by
    simp [Join.clause, Function.comp_def]
  have binds := Statement.binds_ofParts _ unmarked
  simpa [select, inPlace, tail_cells, joins] using binds

theorem count_binds (q : Query) (sound : q.Sound) (names : q.NamesUnmarked) (s : Statement)
    (counts : q.count = .ok s) : s.Binds (q.inPlace .count) := by
  obtain ⟨_, rfl⟩ := (q.count_eq_ok_iff s).mp counts
  -- What is counted is a star or the field of the first comparison.
  have field : Unmarked q.counted := by
    unfold Query.counted
    split
    · decide
    next first rest declared => exact names.comparisons first (by simp [declared])
  have opening : Unmarked "SELECT count(" := by decide
  have between : Unmarked ") AS count FROM " := by decide
  have table := names.table
  have binds := Statement.binds_headed
    (.text ("SELECT count(" ++ q.counted ++ ") AS count FROM " ++ q.table)) q.whereClause
    (by simp [unmarked_append_iff, *]) (q.whereClause_unmarked sound names)
  simpa [inPlace, whereClause_cells] using binds

theorem delete_binds (q : Query) (sound : q.Sound) (names : q.NamesUnmarked) :
    q.delete.Binds (q.inPlace .delete) := by
  have keyword : Unmarked "DELETE FROM " := by decide
  have table := names.table
  have binds := Statement.binds_headed (.text ("DELETE FROM " ++ q.table)) q.tail
    (by simp [unmarked_append_iff, *]) (q.tail_unmarked sound names)
  simpa [delete, inPlace, tail_cells] using binds

theorem insert_binds (q : Query) (data : Value) (names : q.NamesUnmarked)
    (unmarked : (Build.insert data).NamesUnmarked) (s : Statement)
    (inserts : q.insert data = .ok s) : s.Binds (q.inPlace (.insert data)) := by
  have table := names.table
  obtain ⟨entries, rfl, ⟨rfl, rfl⟩ | ⟨filled, fields, joined, rfl⟩⟩ :=
    (q.insert_eq_ok_iff data s).mp inserts
  · have opening : Unmarked "INSERT INTO " := by decide
    have closing : Unmarked " DEFAULT VALUES" := by decide
    have binds := Statement.binds_headed (.text ("INSERT INTO " ++ q.table ++ " DEFAULT VALUES")) []
      (by simp [unmarked_append_iff, *]) (by simp)
    simpa [inPlace, Value.entries] using binds
  -- Every field is a name, and each is followed by the slots in its order.
  · have named := (namesToJoin_eq_ok_iff _ _).mp joined
    have plain :=
      names_unmarked _ _ named (by simpa [Value.entries, Build.NamesUnmarked] using unmarked)
    have head := insertHead_unmarked q.table fields (entries.map (·.2)) table
      fun name member => (plain name member).1
    have binds := Statement.binds_headed _ [] head (by simp)
    simpa [inPlace, Value.entries, filled, insertHead_cells _ _ _ named] using binds

theorem upsert_binds (q : Query) (data conflict : Value) (names : q.NamesUnmarked)
    (unmarked : (Build.upsert data conflict).NamesUnmarked) (s : Statement)
    (upserts : q.upsert data conflict = .ok s) : s.Binds (q.inPlace (.upsert data conflict)) := by
  obtain ⟨entries, rfl, _, values, read, targets, targeted, fields, joined, rfl⟩ :=
    (q.upsert_eq_ok_iff data conflict s).mp upserts
  obtain ⟨unmarked, free⟩ := unmarked
  have named := (namesToJoin_eq_ok_iff _ _).mp joined
  have aimed := (namesToJoin_eq_ok_iff _ _).mp targeted
  have plain := names_unmarked _ _ named (by simpa [Value.entries, Build.NamesUnmarked] using unmarked)
  -- The targets are no fields of the row, so that they are charged by themselves.
  have aims := names_unmarked _ _ aimed (free values read)
  have head := insertHead_unmarked q.table fields (entries.map (·.2)) names.table
    fun name member => (plain name member).1
  have clause := conflictClause_unmarked targets fields
    (fun name member => (aims name member).1) fun name member => (plain name member).2
  have binds := Statement.binds_headed _ [conflictClause targets fields] head (by simpa using clause)
  simpa [inPlace, Value.entries, insertHead_cells _ _ _ named, read, Except.toOption,
    filterMap_name? _ _ named, filterMap_name? _ _ aimed, conflictClause] using binds

theorem update_binds (q : Query) (data : Value) (sound : q.Sound) (names : q.NamesUnmarked)
    (unmarked : (Build.update data).NamesUnmarked) (s : Statement)
    (updates : q.update data = .ok s) : s.Binds (q.inPlace (.update data)) := by
  obtain ⟨entries, rfl, _, _, rfl⟩ := (q.update_eq_ok_iff data s).mp updates
  have head : (Fragment.text ("UPDATE " ++ q.table ++ " SET ") ++
      Fragment.joined ", " (entries.map assignment)).TextUnmarked := by
    rw [Fragment.textUnmarked_append, Fragment.textUnmarked_text]
    have opening : Unmarked "UPDATE " := by decide
    have between : Unmarked " SET " := by decide
    have table := names.table
    refine ⟨by simp [unmarked_append_iff, *], Fragment.textUnmarked_joined _ _ (by decide) ?_⟩
    intro part member
    obtain ⟨entry, here, rfl⟩ := List.mem_map.mp member
    -- A field of an update is written whatever it is.
    have field := unmarked entry here
    have sign : Unmarked "=" := by decide
    simp [assignment, unmarked_append_iff, *]
  have binds := Statement.binds_headed _ q.tail head (q.tail_unmarked sound names)
  have each : Fragment.cells ∘ assignment = assignmentInPlace := by
    funext entry
    simp [assignment, assignmentInPlace]
  simpa [inPlace, Value.entries, tail_cells, each] using binds

end Query

/-- Values are bound where they are declared. For every statement of every builder that can be
reached, if no name holds a mark, then the text has one question mark for each value and ends with
its only semicolon, and binding the values from left to right puts each in its own place. -/
theorem Builder.Reachable.values_bound_in_place {b : Builder} (reachable : b.Reachable)
    (names : b.query.NamesUnmarked) (build : Build) (data : build.NamesUnmarked) (s : Statement)
    (returned : b.query.build build = .ok (.statement s)) :
    s.sql.toList.count '?' = s.params.length ∧
    s.sql.toList.count ';' = 1 ∧ s.sql.toList.getLast? = some ';' ∧
    Cell.bind s.sql.toList s.params = b.query.inPlace build := by
  have sound := reachable.sound
  have binds : s.Binds (b.query.inPlace build) := by
    cases build with
    | select =>
      obtain ⟨_, selects, equal⟩ := (Outcome.map_eq_ok_iff _ _ _).mp returned
      cases equal
      obtain ⟨_, rfl⟩ := (b.query.selection_eq_ok_iff s).mp selects
      exact b.query.select_binds sound names
    | count =>
      obtain ⟨_, counts, equal⟩ := (Outcome.map_eq_ok_iff _ _ _).mp returned
      cases equal
      exact b.query.count_binds sound names s counts
    | delete =>
      obtain ⟨_, deletes, equal⟩ := (Outcome.map_eq_ok_iff _ _ _).mp returned
      cases equal
      obtain ⟨_, rfl⟩ := (b.query.deletion_eq_ok_iff s).mp deletes
      exact b.query.delete_binds sound names
    | insert data' =>
      obtain ⟨_, inserts, equal⟩ := (Outcome.map_eq_ok_iff _ _ _).mp returned
      cases equal
      exact b.query.insert_binds data' names data s inserts
    | upsert data' conflict =>
      obtain ⟨_, upserts, equal⟩ := (Outcome.map_eq_ok_iff _ _ _).mp returned
      cases equal
      exact b.query.upsert_binds data' conflict names data s upserts
    | update data' =>
      obtain ⟨_, updates, equal⟩ := (Outcome.map_eq_ok_iff _ _ _).mp returned
      cases equal
      exact b.query.update_binds data' sound names data s updates
    | conditions =>
      -- The conditions alone are no statement.
      simp only [Query.build] at returned
      split at returned <;> cases returned
  exact ⟨binds.slots, binds.ends, binds.last, binds.bound⟩

/-- An update under conditions of three kinds, one of them over no members. -/
theorem update_bound_in_place :
    ∃ (b : Builder) (s : Statement), b.Reachable ∧ b.query.NamesUnmarked ∧
      (Build.update (.map [(.text "x", .int 9)])).NamesUnmarked ∧
      b.query.build (.update (.map [(.text "x", .int 9)])) = .ok (.statement s) ∧
      s.sql = "UPDATE t SET x=? WHERE a>? AND b IN (?,?) AND c IN () AND d IS NULL;" ∧
      s.sql.toList.count '?' = s.params.length ∧
      s.sql.toList.count ';' = 1 ∧ s.sql.toList.getLast? = some ';' ∧
      Cell.bind s.sql.toList s.params = b.query.inPlace (.update (.map [(.text "x", .int 9)])) := by
  let b : Builder := ⟨.text "t", {
    table := "t"
    comparisons := [⟨"a", ">", .int 1⟩]
    memberships := [⟨"b", [.int 2, .int 3]⟩, ⟨"c", []⟩]
    nulls := [.text "d"] }⟩
  -- Four calls, of which the third adds a test without members.
  have reachable : b.Reachable := by
    have made : Builder.ofTable (.text "t") = .ok ⟨.text "t", { table := "t" }⟩ := rfl
    have fresh := Builder.Reachable.fresh made
    have first := fresh.act (σ := Unit) none
      (.call (.compare .equal [.text "a", .text ">", .int 1])) ()
    have second := first.act (σ := Unit) none
      (.call (.isIn (.text "b") (.list [.int 2, .int 3]))) ()
    have third := second.act (σ := Unit) none (.call (.isIn (.text "c") (.tuple []))) ()
    exact third.act (σ := Unit) none (.call (.isNull [.text "d"])) ()
  have names : b.query.NamesUnmarked := {
    table := by decide
    columns := nofun
    joins := nofun
    comparisons := by simp [b, Unmarked]
    memberships := by simp [b, Unmarked]
    exclusions := nofun
    nulls := by simp [b, Unmarked, Name.shown]
    notNulls := nofun
    order := nofun }
  have data : (Build.update (.map [(.text "x", .int 9)])).NamesUnmarked := by
    simp [Build.NamesUnmarked, Value.entries, Value.display, Unmarked]
  exact ⟨b, _, reachable, names, data, rfl, by decide,
    reachable.values_bound_in_place names _ data _ rfl⟩

end FluentSql
