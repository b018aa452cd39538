import FluentSql.Proofs.Number
import FluentSql.Proofs.Query.JoinCondition
import FluentSql.Proofs.Statement.ConditionText

/-!
# The text of selections

A selection is written clause by clause. In every place where a keyword can stand, what may stand
there otherwise begins in another way, so that names that look like keywords do no harm.
-/

namespace FluentSql

/-! ### Columns -/

/-- The name of a column and its label, if it has one, are plain. -/
def Column.Plain (c : Column) : Prop := PlainName c.name ∧ ∀ label ∈ c.label, PlainName label

/-- A column ends at a comma or at the table, as no plain name holds a space. -/
theorem Column.delimited : Delimited Column.Plain (fun c => c.sql.toList) [", ", " FROM "] := by
  have written (c : Column) : c.sql.toList =
      c.name.toList ++ c.label.toList.flatMap fun label => " AS ".toList ++ label.toList := by
    unfold sql
    split <;> simp [*]
  -- Behind the name stands a label, a further column or the table.
  have name : Delimited PlainName String.toList [" AS ", ", ", " FROM "] := .name (by decide)
  have label := Clause.optionalBehind " AS " name (by decide)
  intro a b r r' plain plain' opens opens' equal
  simp only [written, List.append_assoc] at equal
  obtain ⟨named, rest⟩ := name a.name b.name _ _ plain.1 plain'.1
    (label.continues a.label r plain.2 opens) (label.continues b.label r' plain'.2 opens') equal
  obtain ⟨labelled, rfl⟩ := label.delimited a.label b.label r r' plain.2 plain'.2 opens opens' rest
  refine ⟨?_, rfl⟩
  cases a
  cases b
  simp_all

def columnList (columns : List Column) : String :=
  if columns.isEmpty then "*" else ", ".intercalate (columns.map Column.sql)

/-- Columns can be read back; no column is named by the asterisk. -/
theorem delimited_columnList :
    Delimited (fun columns => ∀ c ∈ columns, Column.Plain c)
      (fun columns => (columnList columns).toList) [" FROM "] := by
  have listed (c : Column) (cs : List Column) : (columnList (c :: cs)).toList =
      separatedText ", " (fun c => c.sql.toList) (c :: cs) := by
    rw [columnList, List.isEmpty_cons, if_neg (by decide), toList_intercalate_map]
  -- The star for all columns is no name.
  have begins (c : Column) (cs : List Column) (r : List Char) (plain : c.Plain) :
      ¬Opens ["*"] ((columnList (c :: cs)).toList ++ r) := by
    have named : ∃ more, c.sql.toList = c.name.toList ++ more := by
      unfold Column.sql
      split
      · exact ⟨_, by rw [String.append_assoc, String.toList_append]⟩
      · exact ⟨[], by rw [List.append_nil]⟩
    obtain ⟨more, named⟩ := named
    rw [listed, separatedText_cons, named, List.append_assoc, List.append_assoc]
    exact plain.1.not_opens (by decide) _
  intro as bs r r' left right opens opens' equal
  cases as with
  | nil =>
    cases bs with
    | nil => exact ⟨rfl, List.append_cancel_left equal⟩
    | cons b bs =>
      have star : Opens ["*"] ((columnList []).toList ++ r) := opens_append "*" _ (by simp) r
      exact absurd (equal ▸ star) (begins b bs r' (right b List.mem_cons_self))
  | cons a as =>
    cases bs with
    | nil =>
      have star : Opens ["*"] ((columnList []).toList ++ r') := opens_append "*" _ (by simp) r'
      exact absurd (equal ▸ star) (begins a as r (left a List.mem_cons_self))
    | cons b bs =>
      simp only [listed] at equal
      exact Column.delimited.separated ", " (by decide) (a :: as) (b :: bs) r r' ⟨by simp, left⟩
        ⟨by simp, right⟩ opens opens' equal

/-! ### Joins and the clauses behind them -/

/-- How the clauses behind the joins begin. -/
def tailOpenings : List String := [" WHERE ", " ORDER BY ", " LIMIT ", " OFFSET ", ";"]

/-- The table and the names of the condition are plain, and the condition has names. -/
def Join.Plain (j : Join) : Prop :=
  PlainName j.table ∧ ∃ condition : JoinCondition, j.condition = condition.sql ∧
    condition.names ≠ [] ∧ ∀ name ∈ condition.names, PlainName name.shown

def Join.text (j : Join) : List Char := " ".toList ++ j.clause.sql.toList

/-- How a join of the given kind begins. -/
def JoinKind.opening : JoinKind → String
  | .inner => " INNER JOIN "
  | .leftOuter => " LEFT OUTER JOIN "

theorem Join.text_eq (j : Join) : j.text =
    j.kind.opening.toList ++ (j.table.toList ++ (" ".toList ++ j.condition.toList)) := by
  obtain ⟨kind, table, condition⟩ := j
  cases kind <;> simp [text, clause, JoinKind.keyword, JoinKind.opening]

/-- A join ends where the next one begins, or the tail. -/
theorem Join.delimited :
    Delimited Join.Plain Join.text ([" INNER JOIN ", " LEFT OUTER JOIN "] ++ tailOpenings) := by
  rintro ⟨kind, table, _⟩ ⟨kind', table', _⟩ r r' ⟨plain, condition, rfl, filled, names⟩
    ⟨plain', condition', rfl, filled', names'⟩ opens opens' equal
  simp only [text_eq, List.append_assoc] at equal
  -- The kind shows in the keyword, and the table ends at the blank before the condition.
  have kinds : kind = kind' := by
    have apart : Apart [JoinKind.inner.opening] [JoinKind.leftOuter.opening] := by decide
    have begins (kind : JoinKind) (rest : List Char) :
        Opens [kind.opening] (kind.opening.toList ++ rest) := opens_append _ _ (by simp) rest
    have left := begins kind (table.toList ++ (" ".toList ++ (condition.sql.toList ++ r)))
    have right := begins kind' (table'.toList ++ (" ".toList ++ (condition'.sql.toList ++ r')))
    rw [equal] at left
    cases kind <;> cases kind'
    · rfl
    · exact absurd right (apart.not_opens left)
    · exact absurd left (apart.not_opens right)
    · rfl
  subst kinds
  have name : Delimited PlainName String.toList [" "] := .name (by decide)
  obtain ⟨tables, rest⟩ := name table table' _ _ plain plain' (opens_append " " _ (by simp) _)
    (opens_append " " _ (by simp) _) (List.append_cancel_left equal)
  rw [condition.sql_eq_text, condition'.sql_eq_text] at rest
  obtain ⟨texts, rfl⟩ := JoinCondition.Texts.delimited (by decide) (by decide) condition.texts
    condition'.texts r r' (condition.texts_plain filled names)
    (condition'.texts_plain filled' names') opens opens' (List.append_cancel_left rest)
  exact ⟨by rw [tables, condition.sql_eq_text, condition'.sql_eq_text, texts], rfl⟩

theorem Join.begins (j : Join) (r : List Char) :
    Opens [" INNER JOIN ", " LEFT OUTER JOIN "] (j.text ++ r) := by
  rw [text_eq, List.append_assoc]
  exact opens_append _ _ (by cases j.kind <;> simp [JoinKind.opening]) _

def Order.text (o : Order) : List Char :=
  o.field.toList ++ (" ".toList ++ o.direction.keyword.toList)

theorem Order.delimited {next : List String} (stops : StopsNames next) :
    Delimited (fun o : Order => PlainName o.field) Order.text next := by
  rintro ⟨field, direction⟩ ⟨field', direction'⟩ r r' plain plain' opens opens' equal
  simp only [text, List.append_assoc] at equal
  have name : Delimited PlainName String.toList [" "] := .name (by decide)
  obtain ⟨fields, rest⟩ := name field field' _ _ plain plain' (opens_append " " _ (by simp) _)
    (opens_append " " _ (by simp) _) equal
  have keyword (d : SortDirection) : PlainName d.keyword := by cases d <;> decide
  obtain ⟨keywords, rfl⟩ := Delimited.name stops direction.keyword direction'.keyword r r'
    (keyword _) (keyword _) opens opens' (List.append_cancel_left rest)
  have directions : direction = direction' := by
    revert keywords
    cases direction <;> cases direction' <;> decide
  exact ⟨by rw [fields, directions], rfl⟩

/-- A number that is not negative ends at what is no digit. -/
theorem delimited_decimal {next : List String} (stops : StopsNames next) :
    Delimited (fun n : Int => 0 ≤ n) (fun n => (Value.decimal n).toList) next := by
  have plain (n : Int) (nonneg : 0 ≤ n) : PlainName (Value.decimal n) := by
    obtain ⟨filled, digits⟩ := Value.decimal_of_nonneg n nonneg
    exact ⟨filled, fun c member => by simp [isNameChar, Char.isAlphanum, digits c member]⟩
  intro m n r r' left right opens opens' equal
  obtain ⟨same, rfl⟩ := Delimited.name stops (Value.decimal m) (Value.decimal n) r r' (plain m left)
    (plain n right) opens opens' equal
  exact ⟨Value.decimal_inj_of_nonneg m n left right (by rw [same]), rfl⟩

/-! ### Selections -/

/-- What a selection shows behind the table: joins, conditions, order and numbers of rows. -/
abbrev Behind := List Join × List Condition × Option Order × Option Int × Option Int

/-- All that is shown has plain names, operators that exist, and numbers that are not negative. -/
def Behind.Plain : Behind → Prop
  | (joins, conditions, order, limit, offset) =>
    (∀ j ∈ joins, j.Plain) ∧ (∀ c ∈ conditions, c.Plain) ∧ (∀ o ∈ order, PlainName o.field) ∧
      (∀ n ∈ limit, 0 ≤ n) ∧ ∀ n ∈ offset, 0 ≤ n

def Behind.text : Behind → List Char
  | (joins, conditions, order, limit, offset) =>
    joins.flatMap Join.text ++
      (headedText " WHERE " " AND " (fun c => c.text.toList) conditions ++
        ((order.toList.flatMap fun o => " ORDER BY ".toList ++ o.text) ++
          ((limit.toList.flatMap fun n => " LIMIT ".toList ++ (Value.decimal n).toList) ++
            offset.toList.flatMap fun n => " OFFSET ".toList ++ (Value.decimal n).toList)))

/-- All that stands behind the table can be read back, clause by clause. -/
theorem Behind.clause : Clause Behind.Plain Behind.text
    ([" INNER JOIN ", " LEFT OUTER JOIN "] ++
      ([" WHERE "] ++ ([" ORDER BY "] ++ ([" LIMIT "] ++ [" OFFSET "])))) [";"] := by
  have offset := Clause.optionalBehind " OFFSET "
    (delimited_decimal (show StopsNames [" OFFSET ", ";"] by decide)) (by decide)
  have limit := Clause.optionalBehind " LIMIT "
    (delimited_decimal (show StopsNames [" LIMIT ", " OFFSET ", ";"] by decide)) (by decide)
  have order := Clause.optionalBehind " ORDER BY "
    (Order.delimited (show StopsNames [" ORDER BY ", " LIMIT ", " OFFSET ", ";"] by decide))
    (by decide)
  have conditions := Clause.headed " WHERE " " AND "
    (Condition.delimited [" AND ", " ORDER BY ", " LIMIT ", " OFFSET ", ";"]) (by decide)
    (by decide)
  -- Behind a join stands a further join, which no other clause begins like.
  have joins := Clause.repeated Join.delimited (by decide) fun j r _ => j.begins r
  exact joins.andThen (conditions.andThen (order.andThen (limit.andThen offset)))

namespace Query

/-- What the selection of a query shows behind the table. -/
def behind (q : Query) : Behind := (q.joins, q.asked, q.order, q.limit, q.offset)

theorem following_whereClause (q : Query) : Fragment.following q.whereClause =
    headedText " WHERE " " AND " (fun c => c.text.toList) q.asked := by
  have texts : separatedText " AND " (fun f => f.sql.toList) q.conditions =
      separatedText " AND " (fun c => c.text.toList) q.asked := by
    have same := congrArg (List.map String.toList) q.conditions_sql
    rw [List.map_map, List.map_map] at same
    rw [separatedText, separatedText]
    exact congrArg _ same
  -- The clause is there exactly if there is a condition to write.
  have shown := q.conditions_sql
  cases asked : q.asked with
  | nil =>
    have none : q.conditions = [] := by simpa [asked] using shown
    have silent : ¬q.hasPredicates = true := fun some => q.hasPredicates_iff.mp some none
    rw [whereClause, if_neg silent]
    rfl
  | cons c cs =>
    have some : q.conditions ≠ [] := by
      rintro none
      simp [asked, none] at shown
    rw [asked] at texts
    rw [whereClause, if_pos (q.hasPredicates_iff.mpr some), headedText, ← texts,
      ← Fragment.sql_joined]
    simp [Fragment.following]

theorem following_orderClause (q : Query) : Fragment.following q.orderClause =
    q.order.toList.flatMap fun o => " ORDER BY ".toList ++ o.text := by
  unfold orderClause
  cases q.order <;> simp [Fragment.following, Order.text]

theorem following_countClause (keyword : String) (number : Option Int) :
    Fragment.following (countClause keyword number) =
      number.toList.flatMap fun n => (" " ++ keyword ++ " ").toList ++ (Value.decimal n).toList := by
  cases number <;> simp [Fragment.following, countClause]

/-- The text of a selection, part by part. -/
theorem select_sql (q : Query) : q.select.sql.toList =
    "SELECT ".toList ++ ((columnList q.columns).toList ++ (" FROM ".toList ++ (q.table.toList ++
      (q.behind.text ++ ";".toList)))) := by
  have joins : Fragment.following (q.joins.map Join.clause) = q.joins.flatMap Join.text := by
    rw [Fragment.following, List.flatMap_map]
    rfl
  simp only [select]
  rw [List.singleton_append, List.cons_append, Statement.sql_ofParts, Fragment.following_append,
    joins, tail]
  simp only [Fragment.following_append, following_whereClause, following_orderClause,
    following_countClause, behind, Behind.text, columnList]
  simp

theorem whereClause_params (q : Query) : q.whereClause.flatMap Fragment.params =
    q.comparisons.map Comparison.value ++ (q.memberships.flatMap Membership.members ++
      q.exclusions.flatMap Membership.members) := by
  have values : q.conditions.flatMap Fragment.params = q.comparisons.map Comparison.value ++
      (q.memberships.flatMap Membership.members ++ q.exclusions.flatMap Membership.members) := by
    have silent (names : List Name) : names.flatMap (fun _ => ([] : List Value)) = [] := by
      rw [List.flatMap_eq_nil_iff]
      simp
    have single (cs : List Comparison) : cs.flatMap (fun c => [c.value]) = cs.map Comparison.value :=
      List.map_eq_flatMap.symm
    simp [conditions, List.flatMap_map, Comparison.condition, Membership.condition, silent, single]
  rw [← values, whereClause]
  split
  · simp
  next none =>
    -- Without predicates there are no conditions.
    have empty : q.conditions = [] := by
      by_contra some
      exact none (q.hasPredicates_iff.mpr some)
    simp [empty]

/-- A selection binds the values of its predicates, kind by kind. -/
theorem select_params (q : Query) : q.select.params =
    q.comparisons.map Comparison.value ++ (q.memberships.flatMap Membership.members ++
      q.exclusions.flatMap Membership.members) := by
  have joins : (q.joins.map Join.clause).flatMap Fragment.params = [] := by
    simp [Join.clause]
  rw [← whereClause_params]
  simp [select, joins, tail, orderClause_params, countClause_params]

end Query

end FluentSql
