import FluentSql.Proofs.Builder.FaultKinds
import FluentSql.Proofs.Statement.SelectText

/-!
# Counting

A statement read the way an engine reads it: which expression it counts, and the chain of conditions
that a row must pass. Names and values are read whole, so that a keyword inside a name is none.
On every table, the statement that counts finds the rows that pass the conditions of the selection.
Main result: `Builder.Reachable.count_counts_selected`.
-/

namespace FluentSql

/-! ### Reading statements -/

def Piece.isText (s : String) : Piece → Bool
  | .text t => t == s
  | .slot _ => false

namespace Statement

def hasWhere (s : Statement) : Bool := s.body.pieces.any (Piece.isText "WHERE ")

/-- The pieces between the keyword and the next clause. -/
def conditionPieces (s : Statement) : List Piece :=
  (s.body.pieces.dropWhile fun p => !p.isText "WHERE ").tail.takeWhile fun p => !p.isText " "

/-- The text of the conditions, if there are any. -/
def whereSql? (s : Statement) : Option String :=
  if s.hasWhere then some (Fragment.mk s.conditionPieces).sql else none

/-- The links of the chain of conditions. -/
def conditions (s : Statement) : List Fragment :=
  if s.hasWhere then (s.conditionPieces.splitOnP (Piece.isText " AND ")).map Fragment.mk else []

def counted? (s : Statement) : Option String :=
  match s.body.pieces with
  | .text head :: _ =>
    (head.toList.dropPrefix? "SELECT count(".toList).map fun rest =>
      String.ofList (rest.takeWhile (· != ')'))
  | _ => none

end Statement

/-! ### Evaluating statements -/

def Value.isNull : Value → Bool
  | .null => true
  | _ => false

/-- What an engine makes of rows. Nothing is assumed of how it decides a condition, except that a
comparison with a null on one of its sides is not true. -/
structure Evaluation (ρ : Type) where
  /-- The names of columns that can stand in SQL as they are. -/
  IsColumn : String → Prop
  plain : ∀ name, IsColumn name → name ≠ "*" ∧ ')' ∉ name.toList
  column : ρ → String → Value
  /-- Whether a condition with these values for its question marks is true of a row. -/
  isTrue : ρ → String → List Value → Bool
  comparison_null : ∀ row name (operator : Operator) value, IsColumn name →
    (column row name).isNull = true ∨ value.isNull = true →
    isTrue row (name ++ operator.symbol ++ "?") [value] = false

namespace Evaluation

variable {ρ : Type} (e : Evaluation ρ)

/-- A row is kept if every condition is true of it. -/
def keeps (s : Statement) (row : ρ) : Bool :=
  s.conditions.all fun condition => e.isTrue row condition.sql condition.params

/-- The number that a counting statement finds: of all rows that are kept, or of those of them in
which the counted column is not null. -/
def number? (s : Statement) (rows : List ρ) : Option Nat :=
  s.counted?.map fun counted => rows.countP fun row =>
    e.keeps s row && (counted == "*" || !(e.column row counted).isNull)

end Evaluation

/-! ### Pieces -/

theorem Fragment.joined_pieces (separator : String) (first : Fragment) (rest : List Fragment) :
    (joined separator (first :: rest)).pieces =
      first.pieces ++ rest.flatMap fun f => .text separator :: f.pieces := by
  induction rest generalizing first with
  | nil => simp [joined]
  | cons second rest ih =>
    change first.pieces ++ [.text separator] ++ (joined separator (second :: rest)).pieces = _
    rw [ih]
    simp

theorem Fragment.mem_joined_pieces {separator : String} {fs : List Fragment} {p : Piece}
    (member : p ∈ (joined separator fs).pieces) : p = .text separator ∨ ∃ f ∈ fs, p ∈ f.pieces := by
  cases fs with
  | nil => cases member
  | cons first rest =>
    simp only [joined_pieces, List.mem_append, List.mem_flatMap, List.mem_cons] at member
    rcases member with here | ⟨f, among, rfl | here⟩
    · exact .inr ⟨first, by simp, here⟩
    · exact .inl rfl
    · exact .inr ⟨f, List.mem_cons_of_mem _ among, here⟩

/-- A chain is taken apart at its separators if no link holds one. -/
theorem Fragment.splitOnP_joined (separator : String) (first : Fragment) (rest : List Fragment)
    (apart : ∀ f ∈ first :: rest, ∀ p ∈ f.pieces, p.isText separator = false) :
    (joined separator (first :: rest)).pieces.splitOnP (Piece.isText separator) =
      (first :: rest).map Fragment.pieces := by
  induction rest generalizing first with
  | nil =>
    rw [joined_pieces, List.flatMap_nil, List.append_nil]
    exact List.splitOnP_eq_singleton (apart first (by simp))
  | cons second rest ih =>
    have cut : (joined separator (first :: second :: rest)).pieces =
        first.pieces ++ .text separator :: (joined separator (second :: rest)).pieces := by
      simp [joined_pieces]
    rw [cut, List.splitOnP_append_cons_of_forall_mem (apart first (by simp)) _
      (by simp [Piece.isText]), ih second fun f member => apart f (List.mem_cons_of_mem _ member)]
    rfl

/-- The first piece that is the mark divides the pieces. -/
theorem Piece.split_at_text {mark : String} {pieces : List Piece}
    (found : pieces.any (isText mark) = true) :
    ∃ before behind, pieces = before ++ .text mark :: behind ∧
      ∀ p ∈ before, p.isText mark = false := by
  induction pieces with
  | nil => cases found
  | cons p pieces ih =>
    cases here : p.isText mark with
    | false =>
      rw [List.any_cons, here, Bool.false_or] at found
      obtain ⟨before, behind, rfl, early⟩ := ih found
      exact ⟨p :: before, behind, rfl, by simpa [here] using early⟩
    | true =>
      -- Only a text can be the mark.
      cases p with
      | slot => cases here
      | text s =>
        obtain rfl : s = mark := by simpa [isText] using here
        exact ⟨[], pieces, rfl, by simp⟩

/-- Whether a piece is a text that ends in a blank, as keywords and separators do. -/
def Piece.endsBlank : Piece → Bool
  | .text s => s.toList.getLast? == some ' '
  | .slot _ => false

theorem Piece.isText_eq_false {p : Piece} {mark : String} (full : p.endsBlank = false)
    (blank : mark.toList.getLast? = some ' ') : p.isText mark = false := by
  cases p with
  | slot => rfl
  | text s =>
    simp only [isText, beq_eq_false_iff_ne]
    rintro rfl
    simp [endsBlank, blank] at full

theorem Piece.endsBlank_append (s t : String) (filled : t.toList ≠ []) :
    (text (s ++ t)).endsBlank = (text t).endsBlank := by
  simp only [endsBlank, String.toList_append, List.getLast?_append_of_ne_nil _ filled]

/-- No keyword and no separator is among the slots of a list of values. -/
theorem Fragment.slots_full (values : List Value) :
    ∀ p ∈ (slots values).pieces, p.endsBlank = false := by
  intro p member
  rcases mem_joined_pieces member with rfl | ⟨f, among, here⟩
  · rfl
  · obtain ⟨value, _, rfl⟩ := List.mem_map.mp among
    cases List.mem_singleton.mp here
    rfl

namespace Query

/-- No piece of a condition ends in a blank. -/
theorem conditions_full (q : Query) (sound : q.Sound) :
    ∀ condition ∈ q.conditions, ∀ p ∈ condition.pieces, p.endsBlank = false := by
  -- A membership test ends its words in a parenthesis, and its slots hold no text but commas.
  have membership (keywords : String) (m : Membership) :
      ∀ p ∈ (Membership.condition keywords m).pieces, p.endsBlank = false := by
    intro p member
    rcases List.mem_append.mp member with member | member
    · rcases List.mem_append.mp member with member | member
      · cases List.mem_singleton.mp member
        exact Piece.endsBlank_append _ " (" (by decide)
      · exact Fragment.slots_full m.members p member
    · cases List.mem_singleton.mp member
      rfl
  intro condition member
  simp only [conditions, List.mem_append, List.mem_map] at member
  rcases member with (((⟨c, member, rfl⟩ | ⟨m, _, rfl⟩) | ⟨m, _, rfl⟩) | ⟨name, _, rfl⟩) |
    ⟨name, _, rfl⟩
  · -- Behind the field of a comparison stands an operator that exists.
    obtain ⟨operator, symbol⟩ := sound.operators c member
    intro p member
    rcases List.mem_append.mp member with member | member
    · cases List.mem_singleton.mp member
      rw [symbol]
      cases operator <;> exact Piece.endsBlank_append _ _ (by decide)
    · cases List.mem_singleton.mp member
      rfl
  · exact membership "IN" m
  · exact membership "NOT IN" m
  · intro p member
    cases List.mem_singleton.mp member
    exact Piece.endsBlank_append _ " IS NULL" (by decide)
  · intro p member
    cases List.mem_singleton.mp member
    exact Piece.endsBlank_append _ " IS NOT NULL" (by decide)

/-- No mark that ends in a blank is a piece of a condition. -/
theorem conditions_apart (q : Query) (sound : q.Sound) (mark : String)
    (blank : mark.toList.getLast? = some ' ') :
    ∀ condition ∈ q.conditions, ∀ p ∈ condition.pieces, p.isText mark = false :=
  fun condition here p member =>
    Piece.isText_eq_false (q.conditions_full sound condition here p member) blank

end Query

/-! ### The conditions of a statement -/

namespace Statement

variable {s : Statement}

/-- Without the keyword there are no conditions. -/
theorem hasWhere_eq_false (silent : ∀ p ∈ s.body.pieces, p.isText "WHERE " = false) :
    s.hasWhere = false := by
  rw [hasWhere, List.any_eq_false]
  simpa using silent

theorem conditionPieces_eq {before behind : List Piece}
    (cut : s.body.pieces = before ++ .text "WHERE " :: behind)
    (early : ∀ p ∈ before, p.isText "WHERE " = false) :
    s.conditionPieces = behind.takeWhile fun p => !p.isText " " := by
  rw [conditionPieces, cut, List.dropWhile_append_of_pos (by simpa using early),
    List.dropWhile_cons_of_neg (by simp [Piece.isText]), List.tail_cons]

/-- The conditions end at the blank before the next clause, or with the statement. -/
theorem reads_chain (before chain behind : List Piece)
    (cut : s.body.pieces = before ++ .text "WHERE " :: (chain ++ behind))
    (early : ∀ p ∈ before, p.isText "WHERE " = false) (inside : ∀ p ∈ chain, p.isText " " = false)
    (stop : ∀ p ∈ behind.head?, p.isText " " = true) :
    s.hasWhere = true ∧ s.conditionPieces = chain := by
  have stops : behind.takeWhile (fun p => !p.isText " ") = [] := by
    cases behind with
    | nil => rfl
    | cons p ps => simp [stop p (by simp)]
  constructor
  · simp [hasWhere, cut, Piece.isText]
  · rw [conditionPieces_eq cut early, List.takeWhile_append_of_pos (by simpa using inside), stops,
      List.append_nil]

/-- What is read as conditions stands behind the keyword in the text of the statement. -/
theorem whereSql?_infix {conditions : String} (read : s.whereSql? = some conditions) :
    ("WHERE " ++ conditions).toList <:+: s.sql.toList := by
  unfold whereSql? at read
  split at read
  next keyword =>
    cases read
    obtain ⟨before, behind, cut, early⟩ := Piece.split_at_text keyword
    rw [conditionPieces_eq cut early]
    -- Behind the keyword come the conditions and what is left of the statement.
    let chain : Fragment := ⟨behind.takeWhile fun p => !p.isText " "⟩
    let left : Fragment := ⟨behind.dropWhile fun p => !p.isText " "⟩
    have body : s.body = Fragment.mk before ++ (Fragment.text "WHERE " ++ (chain ++ left)) := by
      change Fragment.mk s.body.pieces = ⟨before ++ .text "WHERE " :: (chain.pieces ++ left.pieces)⟩
      rw [cut, List.takeWhile_append_dropWhile]
    refine ⟨(Fragment.mk before).sql.toList, left.sql.toList ++ terminator.toList, ?_⟩
    simp [sql, body, chain]
  · cases read

end Statement

namespace Query

/-- The text of the conditions of a query, if it has some. -/
def whereSql? (q : Query) : Option String :=
  if q.hasPredicates then some (Fragment.joined " AND " q.conditions).sql else none

/-- A statement has the conditions of a query if they stand behind its head and no other piece looks
like their keyword. -/
theorem conditions_ofParts (q : Query) (sound : q.Sound) {head : String} {rest : List Fragment}
    (headed : head ≠ "WHERE ")
    (silent : ∀ part ∈ rest, ∀ p ∈ part.pieces, p.isText "WHERE " = false) :
    let s := Statement.ofParts (.text head :: (q.whereClause ++ rest))
    s.conditions = q.conditions ∧ s.whereSql? = q.whereSql? := by
  intro s
  have pieces : s.body.pieces = .text head :: (q.whereClause ++ rest).flatMap
      fun part => .text " " :: part.pieces := Fragment.joined_pieces " " _ _
  have first : (Piece.text head).isText "WHERE " = false := by simpa [Piece.isText] using headed
  have chained := q.conditions_apart sound " AND " (by decide)
  have unbroken := q.conditions_apart sound " " (by decide)
  have declared := q.hasPredicates_iff
  cases conditions : q.conditions with
  | nil =>
    -- The keyword is nowhere: not in the head, not between the parts, not in what follows.
    have bare : q.hasPredicates = false := by simpa [conditions] using declared
    have without : s.hasWhere = false := by
      apply Statement.hasWhere_eq_false
      intro p member
      rw [pieces, whereClause, if_neg (by simp [bare]), List.nil_append] at member
      rcases List.mem_cons.mp member with rfl | member
      · exact first
      · obtain ⟨part, here, member⟩ := List.mem_flatMap.mp member
        rcases List.mem_cons.mp member with rfl | member
        · rfl
        · exact silent part here p member
    simp [Statement.conditions, Statement.whereSql?, whereSql?, without, bare]
  | cons condition others =>
    have filled : q.hasPredicates = true := declared.mpr (by simp [conditions])
    rw [conditions] at chained unbroken
    obtain ⟨keyword, chain⟩ : s.hasWhere = true ∧
        s.conditionPieces = (Fragment.joined " AND " (condition :: others)).pieces := by
      refine Statement.reads_chain [.text head, .text " "] _
        (rest.flatMap fun part => .text " " :: part.pieces) ?_ ?_ ?_ ?_
      · rw [pieces, whereClause, if_pos filled, conditions]
        rfl
      · simpa using ⟨first, rfl⟩
      · intro p member
        rcases Fragment.mem_joined_pieces member with rfl | ⟨f, here, member⟩
        · rfl
        · exact unbroken f here p member
      · -- What follows the conditions is nothing or starts with a blank.
        cases rest with
        | nil => simp
        | cons part parts => simp [Piece.isText]
    constructor
    · rw [Statement.conditions, if_pos keyword, chain, Fragment.splitOnP_joined _ _ _ chained,
        List.map_map]
      exact List.map_id _
    · rw [Statement.whereSql?, if_pos keyword, chain, whereSql?, if_pos filled, conditions]

/-- No order can be taken for the beginning of conditions. -/
theorem orderClause_silent (q : Query) :
    ∀ part ∈ q.orderClause, ∀ p ∈ part.pieces, p.isText "WHERE " = false := by
  intro part member p here
  unfold orderClause at member
  split at member
  · cases List.mem_singleton.mp member
    cases List.mem_singleton.mp here
    simp [Piece.isText, ← String.toList_inj]
  · cases member

/-- Neither can a number of rows. -/
theorem countClause_silent (clause : CountClause) (number : Option Int) :
    ∀ part ∈ countClause clause.keyword number, ∀ p ∈ part.pieces, p.isText "WHERE " = false := by
  intro part member p here
  cases number with
  | none => cases member
  | some n =>
    cases List.mem_singleton.mp member
    cases List.mem_singleton.mp here
    have other : clause.keyword ++ " " ++ Value.decimal n ≠ "WHERE " := by
      intro equal
      have first := congrArg (fun s => s.toList.head?) equal
      cases clause <;> simp [CountClause.keyword] at first
    simpa [Piece.isText] using other

/-- The conditions can be read off the selection of a query without joins. -/
theorem select_conditions (q : Query) (sound : q.Sound) (alone : q.joins = []) :
    q.select.conditions = q.conditions ∧ q.select.whereSql? = q.whereSql? := by
  have shape : q.select = .ofParts (.text ("SELECT " ++ (if q.columns.isEmpty then "*" else
      ", ".intercalate (q.columns.map Column.sql)) ++ " FROM " ++ q.table) :: (q.whereClause ++
        (q.orderClause ++ (countClause "LIMIT" q.limit ++ countClause "OFFSET" q.offset)))) := by
    simp [select, alone, tail]
  rw [shape]
  apply q.conditions_ofParts sound
  -- The head of a selection is not the keyword.
  · intro equal
    simpa using congrArg String.toList equal
  · intro part member
    rcases List.mem_append.mp member with member | member
    · exact q.orderClause_silent part member
    rcases List.mem_append.mp member with member | member
    · exact countClause_silent .limit q.limit part member
    · exact countClause_silent .offset q.offset part member

/-- They can be read off its count all the same. -/
theorem count_conditions (q : Query) (sound : q.Sound) {s : Statement} (counts : q.count = .ok s) :
    s.conditions = q.conditions ∧ s.whereSql? = q.whereSql? := by
  obtain ⟨_, rfl⟩ := (q.count_eq_ok_iff s).mp counts
  rw [← List.append_nil q.whereClause]
  apply q.conditions_ofParts sound
  · intro equal
    simpa using congrArg String.toList equal
  · simp

theorem count_params (q : Query) {s : Statement} (counts : q.count = .ok s) :
    s.params = q.select.params := by
  obtain ⟨_, rfl⟩ := (q.count_eq_ok_iff s).mp counts
  rw [Statement.params_ofParts, List.flatMap_cons, whereClause_params, select_params]
  rfl

theorem count_counted (q : Query) {s : Statement} (counts : q.count = .ok s)
    (plain : ')' ∉ q.counted.toList) : s.counted? = some q.counted := by
  obtain ⟨_, rfl⟩ := (q.count_eq_ok_iff s).mp counts
  have head : ("SELECT count(" ++ q.counted ++ ") AS count FROM " ++ q.table).toList =
      "SELECT count(".toList ++ (q.counted.toList ++ (") AS count FROM " ++ q.table).toList) := by
    simp
  have upTo : (q.counted.toList ++ (") AS count FROM " ++ q.table).toList).takeWhile (· != ')') =
      q.counted.toList := by
    rw [String.toList_append]
    exact takeWhile_upTo plain _
  rw [Statement.counted?, Statement.ofParts, Fragment.joined_pieces]
  simp only [Fragment.text, List.cons_append]
  rw [head, List.dropPrefix?_append_of_beq _ (by simp), Option.map_some, upTo,
    String.ofList_toList]

end Query

/-! ### Rows -/

namespace Evaluation

variable {ρ : Type} (e : Evaluation ρ)

/-- A row is judged by the conditions alone. -/
theorem keeps_congr {s t : Statement} (same : s.conditions = t.conditions) :
    e.keeps s = e.keeps t := by
  funext row
  rw [keeps, keeps, same]

/-- In a row that is kept, no field is null that is compared with a value. -/
theorem not_null_of_keeps (q : Query) (sound : q.Sound) {s : Statement}
    (same : s.conditions = q.conditions) {row : ρ} (kept : e.keeps s row = true) {c : Comparison}
    (member : c ∈ q.comparisons) (named : e.IsColumn c.field) :
    (e.column row c.field).isNull = false := by
  -- Its condition is one of those that are true of the row, and would not be with a null.
  have isTrue : e.isTrue row c.condition.sql c.condition.params = true := by
    rw [keeps, same, List.all_eq_true] at kept
    exact kept c.condition (by simp [Query.conditions, List.mem_map_of_mem, member])
  obtain ⟨operator, symbol⟩ := sound.operators c member
  by_contra null
  have untrue := e.comparison_null row c.field operator c.value named (.inl (by simpa using null))
  rw [← symbol] at untrue
  simp [Comparison.condition, untrue] at isTrue

/-- A count finds the rows that are kept, because what it counts is not null in them. -/
theorem number?_eq (q : Query) (sound : q.Sound) (names : ∀ c ∈ q.comparisons, e.IsColumn c.field)
    {s : Statement} (counts : q.count = .ok s) (rows : List ρ) :
    e.number? s rows = some (rows.countP (e.keeps s)) := by
  have same := (q.count_conditions sound counts).1
  unfold number?
  cases comparisons : q.comparisons with
  | nil =>
    -- Without a comparison whole rows are counted.
    have counted : q.counted = "*" := by rw [Query.counted, comparisons]
    rw [q.count_counted counts (by simp [counted]), counted]
    simp
  | cons first others =>
    have counted : q.counted = first.field := by rw [Query.counted, comparisons]
    have member : first ∈ q.comparisons := by simp [comparisons]
    have named := names first member
    rw [q.count_counted counts (by rw [counted]; exact (e.plain _ named).2), counted,
      Option.map_some, Option.some_inj]
    -- The test of the counted column excludes no further row.
    refine List.countP_congr fun row _ => ?_
    rw [Bool.and_eq_true, and_iff_left_iff_imp]
    intro kept
    simp [e.not_null_of_keeps q sound same kept member named]

end Evaluation

/-- The count of a query without joins carries the conditions of its selection, in text and values,
and on every table it finds the rows that pass these conditions. With joins a count is refused. -/
theorem Builder.Reachable.count_counts_selected {b : Builder} (reachable : b.Reachable) :
    (b.query.joins = [] → ∃ s, b.query.count = .ok s ∧
      s.whereSql? = b.query.select.whereSql? ∧ s.params = b.query.select.params ∧
      (∀ conditions, s.whereSql? = some conditions →
        ("WHERE " ++ conditions).toList <:+: s.sql.toList ∧
        ("WHERE " ++ conditions).toList <:+: b.query.select.sql.toList) ∧
      ∀ {ρ : Type} (e : Evaluation ρ), (∀ c ∈ b.query.comparisons, e.IsColumn c.field) →
        ∀ rows, e.number? s rows = some (rows.countP (e.keeps b.query.select))) ∧
    (b.query.joins ≠ [] → ∃ fault, b.query.count = .error fault ∧
      fault.kind? = some .unsupportedOperation) := by
  have sound := reachable.sound
  constructor
  · intro alone
    have counts := (b.query.count_eq_ok_iff _).mpr ⟨alone, rfl⟩
    obtain ⟨selected, selectedText⟩ := b.query.select_conditions sound alone
    obtain ⟨counted, countedText⟩ := b.query.count_conditions sound counts
    have same := countedText.trans selectedText.symm
    refine ⟨_, counts, same, b.query.count_params counts, ?_, ?_⟩
    · intro conditions read
      exact ⟨Statement.whereSql?_infix read, Statement.whereSql?_infix (same ▸ read)⟩
    -- A row is kept by the one exactly if it is kept by the other.
    · intro ρ e names rows
      rw [e.number?_eq b.query sound names counts, e.keeps_congr (counted.trans selected.symm)]
  · intro joined
    refine ⟨.countOverJoins, ?_, rfl⟩
    rw [Query.count, if_neg (by simpa using joined)]

/-- An engine that knows two columns of numbers or nulls, and two conditions on them. -/
def Evaluation.twoColumns : Evaluation (Option Int × Option Int) where
  IsColumn name := name = "a"
  plain := by
    rintro _ rfl
    decide
  column row _ := row.1.elim .null .int
  isTrue row condition values :=
    if condition = "a!=?" then
      match row.1, values with
      | some m, [.int n] => m != n
      | _, _ => false
    else
      condition == "b IS NULL" && row.2.isNone
  comparison_null := by
    rintro ⟨a, b⟩ _ operator value rfl null
    split
    · rcases null with null | null
      · cases a with
        | none => rfl
        | some => cases null
      · cases value with
        | null => cases a <;> rfl
        | _ => cases null
    · rw [Bool.and_eq_false_iff]
      left
      cases operator <;> decide

/-- A table with nulls in both columns: of the four rows with a number in the compared column, two
are selected and counted. -/
theorem Builder.nulls_are_not_counted :
    let rows : List (Option Int × Option Int) :=
      [(none, none), (some 0, none), (some 1, none), (some 2, some 0), (some 3, none)]
    ∃ b : Builder, b.Reachable ∧ b.query.joins = [] ∧
      (∀ c ∈ b.query.comparisons, Evaluation.twoColumns.IsColumn c.field) ∧
      ∃ s, b.query.count = .ok s ∧
        s.sql = "SELECT count(a) AS count FROM t WHERE a!=? AND b IS NULL;" ∧
        Evaluation.twoColumns.number? s rows = some 2 ∧
        rows.countP (Evaluation.twoColumns.keeps b.query.select) = 2 := by
  intro rows
  let b : Builder := ⟨.text "t", {
    table := "t"
    comparisons := [⟨"a", "!=", .int 1⟩]
    nulls := [.text "b"] }⟩
  have reachable : b.Reachable := by
    have made : Builder.ofTable (.text "t") = .ok ⟨.text "t", { table := "t" }⟩ := rfl
    have first := (Builder.Reachable.fresh made).act (σ := Unit) none
      (.call (.compare .notEqual [.text "a", .int 1])) ()
    exact first.act (σ := Unit) none (.call (.isNull [.text "b"])) ()
  have names : ∀ c ∈ b.query.comparisons, Evaluation.twoColumns.IsColumn c.field := by
    simp [b, Evaluation.twoColumns]
  -- Of the five rows two are kept, and in both of them the counted column has a value.
  have kept : rows.countP (Evaluation.twoColumns.keeps b.query.select) = 2 := by
    decide +kernel
  obtain ⟨s, counts, _, _, _, found⟩ := reachable.count_counts_selected.1 rfl
  refine ⟨b, reachable, rfl, names, s, counts, ?_, ?_, kept⟩
  · obtain ⟨_, rfl⟩ := (b.query.count_eq_ok_iff s).mp counts
    decide +kernel
  · rw [found Evaluation.twoColumns names rows, kept]

end FluentSql
