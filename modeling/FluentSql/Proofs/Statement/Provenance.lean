import FluentSql.Proofs.Query.Grouping
import FluentSql.Proofs.Query.JoinCondition
import FluentSql.Proofs.Statement.Binding

/-!
# Where the text of statements comes from

A statement that holds no number of rows is put together from the library's own words and from texts
of the caller: names, each from a place where a name is asked for, and the fields of an update. What
is bound, and whatever else a caller hands over, is in none of these places.
-/

namespace FluentSql

/-! ### Words and given texts -/

/-- The library's own words in a statement, with the spaces around them. -/
def Statement.words : List String :=
  ["SELECT ", "*", ", ", " AS ", " FROM ", "SELECT count(", ") AS count FROM ", " ", ";", "?", ",",
    "INNER JOIN", "LEFT OUTER JOIN", "USING (", ")", "ON ", " AND ", "=", "==", "!=", "<>", ">", "<",
    ">=", "<=", "!<", "!>", "id", "IN", "NOT IN", " (", " IS NULL", " IS NOT NULL", "WHERE ",
    "ORDER BY ", "ASC", "DESC", "INSERT INTO ", " DEFAULT VALUES", ") VALUES (", "ON CONFLICT ", "(",
    ") ", "DO NOTHING", "DO UPDATE SET ", "=excluded.", "UPDATE ", " SET ", "DELETE FROM "]

/-- A text that is put together from the library's own words and from given texts. -/
inductive Assembled (given : String → Prop) : String → Prop
  | empty : Assembled given ""
  | word {s : String} (own : s ∈ Statement.words) : Assembled given s
  | given {s : String} (handed : given s) : Assembled given s
  | append {s t : String} (left : Assembled given s) (right : Assembled given t) :
    Assembled given (s ++ t)

theorem Statement.words_without_digits :
    ∀ word ∈ words, ∀ c ∈ word.toList, c.isDigit = false := by
  have each : words.all (fun word => word.toList.all fun c => !c.isDigit) = true := by decide
  simpa only [List.all_eq_true, Bool.not_eq_true'] using each

namespace Assembled

variable {given : String → Prop}

/-- Every digit stands in a given text. -/
theorem digit {s : String} (assembled : Assembled given s) {c : Char} (member : c ∈ s.toList)
    (digit : c.isDigit = true) : ∃ text, given text ∧ c ∈ text.toList := by
  induction assembled with
  | empty => simp at member
  | word own => simp [Statement.words_without_digits _ own c member] at digit
  | given handed => exact ⟨_, handed, member⟩
  | append _ _ left right =>
    rw [String.toList_append, List.mem_append] at member
    exact member.elim left right

theorem intercalate {separator : String} (own : separator ∈ Statement.words) {texts : List String}
    (each : ∀ s ∈ texts, Assembled given s) : Assembled given (separator.intercalate texts) := by
  induction texts with
  | nil => exact .empty
  | cons first rest ih =>
    obtain ⟨head, others⟩ := List.forall_mem_cons.mp each
    cases rest with
    | nil => simpa using head
    | cons second rest =>
      rw [String.intercalate_cons_cons]
      exact (head.append (.word own)).append (ih others)

end Assembled

/-! ### Places for names -/

/-- The values of a leaf of a selection: a column by itself, or with its label. -/
def Argument.Leaf.values : Argument.Leaf → List Value
  | single value => [value]
  | entry key label => [key, label]

/-- The value of a leaf that names a field. -/
def Argument.Leaf.field : Argument.Leaf → Value
  | single value => value
  | entry key _ => key

/-- The first part of a leaf of predicates, which names its field. -/
def Predicate.Leaf.fields : Predicate.Leaf → List Value
  | entry field _ => [field]
  | parts values => values.take 1

/-- The values that a join condition is made of. -/
def JoinCondition.parts : Value → List Value
  | .list items | .tuple items => items
  | .map entries => entries.flatMap fun entry => [entry.1, entry.2]
  | value => [value]

/-- The values that a call has in the places of names. The values of predicates, the members of
membership tests and numbers of rows are not among them. -/
def Call.places : Call → List Value
  | .select arguments =>
    (Argument.leavesOf (fun _ => true) arguments).flatMap Argument.Leaf.values
  | .join _ table condition => table :: JoinCondition.parts condition
  | .compare _ arguments => (Predicate.Leaf.ofArguments arguments).flatMap Predicate.Leaf.fields
  | .isIn field _ | .isNotIn field _ | .order field _ => [field]
  | .isNull arguments | .isNotNull arguments =>
    (Argument.leavesOf Value.truthy arguments).map Argument.Leaf.field
  | .limit _ | .offset _ | .byId _ | .reset => []

/-- The values that a compilation has in the places of names: fields and conflict targets. -/
def Build.places : Build → List Value
  | .insert data => data.entries.map (·.1)
  | .upsert data conflict =>
    data.entries.map (·.1) ++ (conflictTargets conflict).toOption.getD []
  | .select | .count | .conditions | .delete | .update _ => []

/-- The texts of a caller that may be in a statement: the names in the given places, as they are or
written in full, and the fields of an update, which are written whatever they are. -/
inductive Handed (places : List Value) (build : Build) : String → Prop
  | plain {v : Value} {name : Name} (place : v ∈ places) (named : v.name? = some name) :
    Handed places build name.plain
  | shown {v : Value} {name : Name} (place : v ∈ places) (named : v.name? = some name) :
    Handed places build name.shown
  | field {entries : List (Value × Value)} {entry : Value × Value}
    (updates : build = .update (.map entries)) (member : entry ∈ entries) :
    Handed places build entry.1.display

/-- A compilation whose text is put together from words and given texts. -/
def Compiled.AssembledFrom (given : String → Prop) : Compiled → Prop
  | .statement s => Assembled given s.sql
  | .conditions parts => ∀ part ∈ parts, Assembled given part.sql
  | .noConditions => True

/-! ### Calls -/

/-- The names in the given places are given texts, both as they are and written in full. -/
def NamesGiven (given : String → Prop) (places : List Value) : Prop :=
  ∀ v ∈ places, ∀ name, v.name? = some name → given name.plain ∧ given name.shown

/-- Every name in a query is a given text, or put together from words and given texts. -/
structure Query.Given (given : String → Prop) (q : Query) : Prop where
  table : given q.table
  columns : ∀ c ∈ q.columns, given c.name ∧ ∀ label ∈ c.label, given label
  joins : ∀ j ∈ q.joins, given j.table ∧ Assembled given j.condition
  comparisons : ∀ c ∈ q.comparisons, Assembled given c.field
  memberships : ∀ m ∈ q.memberships, given m.field
  exclusions : ∀ m ∈ q.exclusions, given m.field
  nulls : ∀ name ∈ q.nulls, given name.shown
  notNulls : ∀ name ∈ q.notNulls, given name.shown
  order : ∀ order ∈ q.order, given order.field

section

variable {given : String → Prop}

/-- What stands on the right is related to something on the left. -/
theorem exists_of_mem_right {α β : Type} {S : α → β → Prop} {xs : List α} {ys : List β}
    (each : List.Forall₂ S xs ys) {y : β} (member : y ∈ ys) : ∃ x ∈ xs, S x y := by
  induction each with
  | nil => cases member
  | cons first _ ih =>
    rcases List.mem_cons.mp member with rfl | member
    · exact ⟨_, List.mem_cons_self, first⟩
    · obtain ⟨x, here, related⟩ := ih member
      exact ⟨x, List.mem_cons_of_mem _ here, related⟩

theorem Column.listOf_given {arguments : List Value} {columns : List Column}
    (names : NamesGiven given (Call.select arguments).places)
    (read : Column.listOf arguments = .ok columns) :
    ∀ c ∈ columns, given c.name ∧ ∀ label ∈ c.label, given label := by
  intro c member
  obtain ⟨leaf, here, asks⟩ :=
    exists_of_mem_right (((Column.listOf_inOrder arguments).ok_iff columns).mp read) member
  have named (v : Value) (inside : v ∈ leaf.values) :=
    names v (List.mem_flatMap.mpr ⟨leaf, here, inside⟩)
  cases asks with
  | name found | bare found => exact ⟨(named _ (by simp [Argument.Leaf.values]) _ found).1, by simp⟩
  | labelled found label =>
    refine ⟨(named _ (by simp [Argument.Leaf.values]) _ found).1, ?_⟩
    rintro _ ⟨⟩
    exact (named _ (by simp [Argument.Leaf.values]) _ label).1

theorem NullField.listOf_given {arguments : List Value} {fields : List Name}
    (names : NamesGiven given (Call.isNull arguments).places)
    (read : NullField.listOf arguments = .ok fields) : ∀ name ∈ fields, given name.shown := by
  intro name member
  obtain ⟨leaf, here, names_field⟩ :=
    exists_of_mem_right (((NullField.listOf_inOrder arguments).ok_iff fields).mp read) member
  have named := names leaf.field (List.mem_map_of_mem here)
  cases names_field with
  | single found | key found => exact (named _ found).2

theorem Predicate.comparisons_given {default : Operator} {arguments : List Value}
    {found : List Comparison} (names : NamesGiven given (Call.compare default arguments).places)
    (read : comparisons default arguments = .ok found) : ∀ c ∈ found, given c.field := by
  rw [comparisons_eq, comparisonsFrom_eq_ok_iff] at read
  intro c member
  obtain ⟨leaf, here, declares⟩ := exists_of_mem_right read member
  have named (v : Value) (inside : v ∈ leaf.fields) :=
    names v (List.mem_flatMap.mpr ⟨leaf, here, inside⟩)
  cases declares with
  | entry found | pair found | triple _ found =>
    exact (named _ (by simp [Leaf.fields]) _ found).1

/-- The names of a condition are among the parts of the value that stands for it. -/
theorem JoinCondition.names_given {value : Value} {condition : JoinCondition}
    (given_names : NamesGiven given (parts value)) (names : Names value condition) :
    ∀ name ∈ condition.names, given name.plain ∧ given name.shown := by
  intro name member
  cases names with
  | @text _ column named filled =>
    obtain rfl := List.mem_singleton.mp member
    refine given_names value ?_ name named
    -- A group is no name, so that the value is its own only part.
    cases value with
    | list | tuple | map => cases named
    | _ => exact List.mem_singleton_self _
  | sequence holds filled each =>
    obtain ⟨item, here, named⟩ := exists_of_mem_right each member
    refine given_names item ?_ name named
    rcases holds with rfl | rfl <;> exact here
  | map filled each =>
    obtain ⟨pair, paired, side⟩ := List.mem_flatMap.mp member
    obtain ⟨entry, here, left, right⟩ := exists_of_mem_right each paired
    have inside (v : Value) (part : v ∈ [entry.1, entry.2]) :=
      given_names v (List.mem_flatMap.mpr ⟨entry, here, part⟩)
    rcases List.mem_pair.mp side with rfl | rfl
    · exact inside _ (by simp) _ left
    · exact inside _ (by simp) _ right

theorem JoinCondition.sql_assembled (condition : JoinCondition)
    (names : ∀ name ∈ condition.names, given name.plain ∧ given name.shown) :
    Assembled given condition.sql := by
  cases condition with
  | shared columns =>
    have all : Assembled given (", ".intercalate (columns.map Name.plain)) :=
      .intercalate (by decide) (List.forall_mem_map.mpr fun name member => .given (names name member).1)
    exact (Assembled.append (.word (by decide)) all).append (.word (by decide))
  | paired pairs =>
    refine .append (.word (by decide)) (.intercalate (by decide) (List.forall_mem_map.mpr ?_))
    intro pair member
    have inside (name : Name) (side : name ∈ [pair.1, pair.2]) :=
      names name (List.mem_flatMap.mpr ⟨pair, member, side⟩)
    exact (Assembled.append (.given (inside _ (by simp)).2) (.word (by decide))).append
      (.given (inside _ (by simp)).2)

theorem Join.ofArguments_given {kind : JoinKind} {table condition : Value} {join : Join}
    (names : NamesGiven given (Call.join kind table condition).places)
    (read : ofArguments kind table condition = .ok join) :
    given join.table ∧ Assembled given join.condition := by
  obtain ⟨name, named, read⟩ := (Outcome.bind_eq_ok_iff _ _ _).mp read
  obtain ⟨found, accepted, equal⟩ := (Outcome.bind_eq_ok_iff _ _ _).mp read
  cases equal
  have table_named := (Predicate.requireName_eq_ok_iff _ _ _).mp named
  have condition_names := (JoinCondition.ofArgument_eq_ok_iff _ _).mp accepted
  refine ⟨(names table (by simp [Call.places]) name table_named).1, found.sql_assembled ?_⟩
  exact JoinCondition.names_given (fun v part => names v (List.mem_cons_of_mem _ part)) condition_names

theorem Membership.ofArguments_given {field values : Value} {test : Membership}
    (names : NamesGiven given [field]) (read : ofArguments field values = .ok test) :
    given test.field := by
  obtain ⟨name, named, read⟩ := (Outcome.bind_eq_ok_iff _ _ _).mp read
  obtain ⟨_, _, equal⟩ := (Outcome.bind_eq_ok_iff _ _ _).mp read
  cases equal
  exact (names field (by simp) name ((Predicate.requireField_eq_ok_iff _ _).mp named)).1

theorem Order.ofArguments_given {field direction : Value} {order : Order}
    (names : NamesGiven given [field]) (read : ofArguments field direction = .ok order) :
    given order.field := by
  obtain ⟨name, named, read⟩ := (Outcome.bind_eq_ok_iff _ _ _).mp read
  obtain ⟨_, _, equal⟩ := (Outcome.bind_eq_ok_iff _ _ _).mp read
  cases equal
  exact (names field (by simp) name ((Predicate.requireField_eq_ok_iff _ _).mp named)).1

/-- Every call keeps it so that the names in a query are given, if its own are. -/
theorem Query.Given.step {q q' : Query} {call : Call} (held : q.Given given)
    (names : NamesGiven given call.places) (declares : q.Declares call q') : q'.Given given := by
  have one_more {α : Type} {P : α → Prop} {items : List α} {item : α}
      (each : ∀ a ∈ items, P a) (new : P item) : ∀ a ∈ items ++ [item], P a :=
    List.forall_mem_append.mpr ⟨each, List.forall_mem_singleton.mpr new⟩
  cases declares with
  | select read => exact { held with columns := Column.listOf_given names read }
  | join read => exact { held with joins := one_more held.joins (Join.ofArguments_given names read) }
  | compare read =>
    refine { held with comparisons := List.forall_mem_append.mpr ⟨held.comparisons, ?_⟩ }
    exact fun c member => .given (Predicate.comparisons_given names read c member)
  | byId read =>
    -- The field is one of the library's own words.
    have own : "id" ∈ Statement.words := by decide
    cases read
    exact { held with comparisons := one_more held.comparisons (.word own) }
  | isIn read =>
    exact { held with
      memberships := one_more held.memberships (Membership.ofArguments_given names read) }
  | isNotIn read =>
    exact { held with exclusions := one_more held.exclusions (Membership.ofArguments_given names read) }
  | isNull read =>
    have fields := NullField.listOf_given names read
    exact { held with nulls := List.forall_mem_append.mpr ⟨held.nulls, fields⟩ }
  | isNotNull read =>
    have fields := NullField.listOf_given names read
    exact { held with notNulls := List.forall_mem_append.mpr ⟨held.notNulls, fields⟩ }
  | order read =>
    refine { held with order := ?_ }
    rintro _ ⟨⟩
    exact Order.ofArguments_given names read
  | limit | offset => exact { held with }
  | reset => exact ⟨held.table, nofun, nofun, nofun, nofun, nofun, nofun, nofun, nofun⟩

/-- Any actions keep it so, if the names in their calls are given. -/
theorem Builder.after_given {σ : Type} (executor? : Option (Executor σ)) (actions : List Action)
    (names : NamesGiven given ((actions.flatMap Action.calls).flatMap Call.places)) {b : Builder}
    (held : b.query.Given given) (s : σ) :
    (b.after executor? actions s).1.query.Given given := by
  induction actions generalizing b s with
  | nil => exact held
  | cons action rest ih =>
    have one (v : Value) (call : Call) (made : call ∈ action.calls) (place : v ∈ call.places) :=
      names v (List.mem_flatMap.mpr ⟨call, by simp [made], place⟩)
    have others : NamesGiven given ((rest.flatMap Action.calls).flatMap Call.places) := by
      refine fun v place => names v ?_
      rw [List.flatMap_cons, List.flatMap_append]
      exact List.mem_append_right _ place
    have first : (b.act executor? action s).2.1.query.Given given := by
      -- An action changes the query by one of its own calls, or not at all.
      rcases Builder.act_query b executor? action s with same | ⟨call, made, q, declares, changed⟩
      · rwa [same]
      · rw [changed]
        exact held.step (fun v place => one v call made place) declares
    exact ih others first _

end

/-! ### Fragments -/

namespace Fragment

variable {given : String → Prop}

theorem assembled_joined {separator : String} (own : separator ∈ Statement.words)
    {parts : List Fragment} (each : ∀ part ∈ parts, Assembled given part.sql) :
    Assembled given (joined separator parts).sql := by
  fun_induction joined separator parts with
  | case1 => exact .empty
  | case2 single => exact each single (by simp)
  | case3 first rest filled ih =>
    obtain ⟨head, others⟩ := List.forall_mem_cons.mp each
    rw [sql_append, sql_append, sql_text]
    exact (head.append (.word own)).append (ih others)

theorem assembled_slots (values : List Value) : Assembled given (slots values).sql := by
  refine assembled_joined (by decide) (List.forall_mem_map.mpr fun v _ => ?_)
  rw [sql_slot]
  exact .word (by decide)

end Fragment

theorem Statement.assembled_ofParts {given : String → Prop} {parts : List Fragment}
    (each : ∀ part ∈ parts, Assembled given part.sql) : Assembled given (ofParts parts).sql :=
  (Fragment.assembled_joined (by decide) each).append (.word (by decide))

theorem Operator.symbol_own (operator : Operator) : operator.symbol ∈ Statement.words := by
  cases operator <;> decide

/-! ### Clauses -/

namespace Query.Given

variable {given : String → Prop} {q : Query}

/-- A condition is a field, a word, and slots in the place of values. -/
theorem conditions (held : q.Given given) (sound : q.Sound) :
    ∀ part ∈ q.conditions, Assembled given part.sql := by
  have membership (keywords : String) (own : keywords ∈ Statement.words) (m : Membership)
      (field : given m.field) : Assembled given (m.condition keywords).sql := by
    have opening : Assembled given (m.field ++ " " ++ keywords ++ " (") :=
      (((Assembled.given field).append (.word (by decide))).append (.word own)).append
        (.word (by decide))
    simpa [Membership.condition] using
      (opening.append (Fragment.assembled_slots m.members)).append (.word (by decide))
  have null (name : Name) (suffix : String) (own : suffix ∈ Statement.words)
      (field : given name.shown) : Assembled given (name.shown ++ suffix) :=
    (Assembled.given field).append (.word own)
  simp only [Query.conditions, List.forall_mem_append, List.forall_mem_map, Fragment.sql_text]
  refine ⟨⟨⟨⟨fun c member => ?_, fun m member => ?_⟩, fun m member => ?_⟩, fun name member => ?_⟩,
    fun name member => ?_⟩
  -- The operator of a comparison is one of the words.
  · obtain ⟨operator, symbol⟩ := sound.operators c member
    rw [Comparison.condition, Fragment.sql_append, Fragment.sql_text, Fragment.sql_slot, symbol]
    exact ((held.comparisons c member).append (.word operator.symbol_own)).append (.word (by decide))
  · exact membership "IN" (by decide) m (held.memberships m member)
  · exact membership "NOT IN" (by decide) m (held.exclusions m member)
  · exact null name " IS NULL" (by decide) (held.nulls name member)
  · exact null name " IS NOT NULL" (by decide) (held.notNulls name member)

theorem whereClause (held : q.Given given) (sound : q.Sound) :
    ∀ part ∈ q.whereClause, Assembled given part.sql := by
  unfold Query.whereClause
  split
  · refine List.forall_mem_singleton.mpr ?_
    rw [Fragment.sql_append, Fragment.sql_text]
    exact (Assembled.word (by decide)).append (Fragment.assembled_joined (by decide) (held.conditions sound))
  · exact nofun

theorem orderClause (held : q.Given given) : ∀ part ∈ q.orderClause, Assembled given part.sql := by
  unfold Query.orderClause
  split
  next order declared =>
    refine List.forall_mem_singleton.mpr ?_
    have direction : order.direction.keyword ∈ Statement.words := by cases order.direction <;> decide
    rw [Fragment.sql_text]
    exact (((Assembled.word (by decide)).append (.given (held.order order declared))).append
      (.word (by decide))).append (.word direction)
  · exact nofun

/-- Only the numbers of rows in a tail are not assembled. -/
theorem tail (held : q.Given given) (sound : q.Sound) (bare : q.limit = none ∧ q.offset = none) :
    ∀ part ∈ q.tail, Assembled given part.sql := by
  rw [Query.tail, bare.1, bare.2]
  simp only [Query.countClause, List.append_nil, List.forall_mem_append]
  exact ⟨held.whereClause sound, held.orderClause⟩

/-! ### Statements -/

theorem columns_assembled (held : q.Given given) : Assembled given
    (if q.columns.isEmpty then "*" else ", ".intercalate (q.columns.map Column.sql)) := by
  split
  · exact .word (by decide)
  · refine .intercalate (by decide) (List.forall_mem_map.mpr fun c member => ?_)
    obtain ⟨name, label⟩ := held.columns c member
    unfold Column.sql
    split
    next text labelled =>
      exact ((Assembled.given name).append (.word (by decide))).append (.given (label text labelled))
    · exact .given name

theorem select (held : q.Given given) (sound : q.Sound) (bare : q.limit = none ∧ q.offset = none) :
    Assembled given q.select.sql := by
  refine Statement.assembled_ofParts ?_
  simp only [List.forall_mem_append, List.forall_mem_singleton, List.forall_mem_map, Fragment.sql_text]
  refine ⟨⟨?_, fun j member => ?_⟩, held.tail sound bare⟩
  · exact (((Assembled.word (by decide)).append held.columns_assembled).append
      (.word (by decide))).append (.given held.table)
  · have keyword : j.kind.keyword ∈ Statement.words := by cases j.kind <;> decide
    obtain ⟨table, condition⟩ := held.joins j member
    rw [Join.clause, Fragment.sql_text]
    exact ((((Assembled.word keyword).append (.word (by decide))).append (.given table)).append
      (.word (by decide))).append condition

theorem counted (held : q.Given given) : Assembled given q.counted := by
  unfold Query.counted
  split
  · exact .word (by decide)
  next first rest declared => exact held.comparisons first (by simp [declared])

theorem count (held : q.Given given) (sound : q.Sound) {s : Statement} (counts : q.count = .ok s) :
    Assembled given s.sql := by
  obtain ⟨_, rfl⟩ := (q.count_eq_ok_iff s).mp counts
  refine Statement.assembled_ofParts (List.forall_mem_cons.mpr ⟨?_, held.whereClause sound⟩)
  rw [Fragment.sql_text]
  exact (((Assembled.word (by decide)).append held.counted).append (.word (by decide))).append
    (.given held.table)

theorem delete (held : q.Given given) (sound : q.Sound) (bare : q.limit = none ∧ q.offset = none) :
    Assembled given q.delete.sql := by
  refine Statement.assembled_ofParts (List.forall_mem_cons.mpr ⟨?_, held.tail sound bare⟩)
  rw [Fragment.sql_text]
  exact (Assembled.word (by decide)).append (.given held.table)

/-- The fields of an update are written whatever they are; nothing else of its entries is. -/
theorem update (held : q.Given given) (sound : q.Sound) (bare : q.limit = none ∧ q.offset = none)
    {entries : List (Value × Value)} (fields : ∀ entry ∈ entries, given entry.1.display)
    {s : Statement} (updates : q.update (.map entries) = .ok s) : Assembled given s.sql := by
  obtain ⟨_, ⟨⟩, _, _, rfl⟩ := (q.update_eq_ok_iff _ s).mp updates
  refine Statement.assembled_ofParts (List.forall_mem_cons.mpr ⟨?_, held.tail sound bare⟩)
  rw [Fragment.sql_append, Fragment.sql_text]
  refine (((Assembled.word (by decide)).append (.given held.table)).append (.word (by decide))).append
    (Fragment.assembled_joined (by decide) (List.forall_mem_map.mpr fun entry member => ?_))
  rw [assignment, Fragment.sql_append, Fragment.sql_text, Fragment.sql_slot]
  exact ((Assembled.given (fields entry member)).append (.word (by decide))).append (.word (by decide))

end Query.Given

section

variable {given : String → Prop}

theorem namesToJoin_given {values : List Value} (places : NamesGiven given values)
    {names : List Name} (joined : namesToJoin values = .ok names) :
    ∀ name ∈ names, given name.plain ∧ given name.shown := by
  intro name member
  obtain ⟨v, place, named⟩ := exists_of_mem_right ((namesToJoin_eq_ok_iff _ _).mp joined) member
  exact places v place name named

theorem nameList_assembled {names : List Name}
    (each : ∀ name ∈ names, given name.plain ∧ given name.shown) : Assembled given (nameList names) :=
  .intercalate (by decide) (List.forall_mem_map.mpr fun name member => .given (each name member).1)

theorem insertHead_assembled {table : String} (named : given table) {fields : List Name}
    (each : ∀ name ∈ fields, given name.plain ∧ given name.shown) (values : List Value) :
    Assembled given (insertHead table fields values).sql := by
  rw [insertHead, Fragment.sql_append, Fragment.sql_append, Fragment.sql_text, Fragment.sql_text]
  exact ((((((Assembled.word (by decide)).append (.given named)).append (.word (by decide))).append
    (nameList_assembled each)).append (.word (by decide))).append
    (Fragment.assembled_slots values)).append (.word (by decide))

/-- Each field that is set is written twice, the second time behind the word for the new row. -/
theorem conflictClause_assembled {targets fields : List Name}
    (aims : ∀ name ∈ targets, given name.plain ∧ given name.shown)
    (each : ∀ name ∈ fields, given name.plain ∧ given name.shown) :
    Assembled given (conflictClause targets fields).sql := by
  rw [conflictClause, Fragment.sql_text]
  refine ((Assembled.word (by decide)).append ?_).append ?_
  · split
    · exact .empty
    · exact ((Assembled.word (by decide)).append (nameList_assembled aims)).append (.word (by decide))
  · split
    · exact .word (by decide)
    · refine (Assembled.word (by decide)).append
        (.intercalate (by decide) (List.forall_mem_map.mpr fun name member => ?_))
      have written : Assembled given name.shown := .given (each name (List.mem_filter.mp member).1).2
      exact (written.append (.word (by decide))).append written

namespace Query.Given

variable {q : Query}

theorem insert (held : q.Given given) {data : Value}
    (places : NamesGiven given (Build.insert data).places) {s : Statement}
    (inserts : q.insert data = .ok s) : Assembled given s.sql := by
  obtain ⟨entries, rfl, ⟨_, rfl⟩ | ⟨_, fields, joined, rfl⟩⟩ := (q.insert_eq_ok_iff data s).mp inserts
  · refine Statement.assembled_ofParts (List.forall_mem_singleton.mpr ?_)
    rw [Fragment.sql_text]
    exact ((Assembled.word (by decide)).append (.given held.table)).append (.word (by decide))
  · exact Statement.assembled_ofParts (List.forall_mem_singleton.mpr
      (insertHead_assembled held.table (namesToJoin_given places joined) _))

theorem upsert (held : q.Given given) {data conflict : Value}
    (places : NamesGiven given (Build.upsert data conflict).places) {s : Statement}
    (upserts : q.upsert data conflict = .ok s) : Assembled given s.sql := by
  obtain ⟨entries, rfl, _, values, read, targets, targeted, fields, joined, rfl⟩ :=
    (q.upsert_eq_ok_iff data conflict s).mp upserts
  simp only [Build.places, read, Except.toOption, Option.getD_some] at places
  have each := namesToJoin_given (fun v place => places v (List.mem_append_left _ place)) joined
  have aims := namesToJoin_given (fun v place => places v (List.mem_append_right _ place)) targeted
  refine Statement.assembled_ofParts
    (List.forall_mem_cons.mpr ⟨insertHead_assembled held.table each _, ?_⟩)
  exact List.forall_mem_singleton.mpr (conflictClause_assembled aims each)

/-- Whatever is compiled from a query without numbers of rows is assembled from what is given. -/
theorem build (held : q.Given given) (sound : q.Sound) (bare : q.limit = none ∧ q.offset = none)
    {build : Build} (places : NamesGiven given build.places)
    (fields : ∀ entries, build = .update (.map entries) → ∀ entry ∈ entries, given entry.1.display)
    {compiled : Compiled} (returned : q.build build = .ok compiled) :
    compiled.AssembledFrom given := by
  cases build with
  | conditions =>
    cases returned
    split
    · exact held.conditions sound
    · trivial
  | select =>
    obtain ⟨s, selects, rfl⟩ := (Outcome.map_eq_ok_iff _ _ _).mp returned
    obtain ⟨_, rfl⟩ := (q.selection_eq_ok_iff s).mp selects
    exact held.select sound bare
  | count =>
    obtain ⟨s, counts, rfl⟩ := (Outcome.map_eq_ok_iff _ _ _).mp returned
    exact held.count sound counts
  | delete =>
    obtain ⟨s, deletes, rfl⟩ := (Outcome.map_eq_ok_iff _ _ _).mp returned
    obtain ⟨_, rfl⟩ := (q.deletion_eq_ok_iff s).mp deletes
    exact held.delete sound bare
  | insert data =>
    obtain ⟨s, inserts, rfl⟩ := (Outcome.map_eq_ok_iff _ _ _).mp returned
    exact held.insert places inserts
  | upsert data conflict =>
    obtain ⟨s, upserts, rfl⟩ := (Outcome.map_eq_ok_iff _ _ _).mp returned
    exact held.upsert places upserts
  | update data =>
    obtain ⟨s, updates, rfl⟩ := (Outcome.map_eq_ok_iff _ _ _).mp returned
    -- The fields that were given are those of the entries that are written.
    obtain ⟨entries, rfl, _⟩ := (q.update_eq_ok_iff data s).mp updates
    exact held.update sound bare (fields entries rfl) updates

end Query.Given

end

/-! ### Runs -/

/-- After any actions, every name in the query is one that the caller handed over in its place. -/
theorem Builder.handed_after {σ : Type} (executor? : Option (Executor σ)) (s : σ) {table : Value}
    {b : Builder} (made : ofTable table = .ok b) (run : List Action) (build : Build) :
    (b.after executor? run s).1.query.Given
      (Handed (table :: (run.flatMap Action.calls).flatMap Call.places ++ build.places) build) := by
  obtain ⟨name, named, equal⟩ := (Outcome.bind_eq_ok_iff _ _ _).mp made
  cases equal
  have found := (Predicate.requireName_eq_ok_iff _ _ _).mp named
  refine after_given executor? run (fun v place name named => ?_) ?_ s
  · have handed : v ∈ table :: (run.flatMap Action.calls).flatMap Call.places ++ build.places :=
      List.mem_append_left _ (List.mem_cons_of_mem _ place)
    exact ⟨.plain handed named, .shown handed named⟩
  · exact ⟨.plain (by simp) found, nofun, nofun, nofun, nofun, nofun, nofun, nofun, nofun⟩

end FluentSql
