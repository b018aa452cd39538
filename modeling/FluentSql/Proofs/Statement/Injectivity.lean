import FluentSql.Proofs.Query.Alike
import FluentSql.Proofs.Statement.SelectText

/-!
# Selections lose nothing

The text of a selection together with the bound values determines the query, if all names are plain.
-/

namespace FluentSql

namespace Query

structure PlainNames (q : Query) : Prop where
  table : PlainName q.table
  columns : ∀ c ∈ q.columns, c.Plain
  joins : ∀ j ∈ q.joins, j.Plain
  comparisons : ∀ c ∈ q.comparisons, PlainName c.field
  memberships : ∀ m ∈ q.memberships, PlainName m.field
  exclusions : ∀ m ∈ q.exclusions, PlainName m.field
  nulls : ∀ name ∈ q.nulls, ∃ s, name = .text s ∧ PlainName s
  notNulls : ∀ name ∈ q.notNulls, ∃ s, name = .text s ∧ PlainName s
  order : ∀ o ∈ q.order, PlainName o.field

theorem PlainNames.behind {q : Query} (names : q.PlainNames) (sound : q.Sound) :
    q.behind.Plain := by
  refine ⟨names.joins, ?_, names.order, sound.limit, sound.offset⟩
  intro c member
  simp only [asked, List.mem_append, List.mem_map] at member
  -- Comparisons need an operator that exists; the other tests need nothing.
  rcases member with (((compared | tested) | tested) | tested) | tested
  · obtain ⟨comparison, here, rfl⟩ := compared
    exact ⟨names.comparisons comparison here, sound.operators comparison here⟩
  · obtain ⟨m, here, rfl⟩ := tested
    exact ⟨names.memberships m here, trivial⟩
  · obtain ⟨m, here, rfl⟩ := tested
    exact ⟨names.exclusions m here, trivial⟩
  · obtain ⟨name, here, rfl⟩ := tested
    obtain ⟨s, rfl, plain⟩ := names.nulls name here
    exact ⟨plain, trivial⟩
  · obtain ⟨name, here, rfl⟩ := tested
    obtain ⟨s, rfl, plain⟩ := names.notNulls name here
    exact ⟨plain, trivial⟩

/-- The text of a selection determines all that is in it. -/
theorem select_sql_injective {q q' : Query} (sound : q.Sound) (sound' : q'.Sound)
    (names : q.PlainNames) (names' : q'.PlainNames) (equal : q.select.sql = q'.select.sql) :
    q.columns = q'.columns ∧ q.table = q'.table ∧ q.behind = q'.behind := by
  have texts := congrArg String.toList equal
  rw [select_sql, select_sql] at texts
  have last : Opens [";"] ";".toList := ⟨_, List.mem_singleton_self _, List.prefix_refl _⟩
  -- Part by part from the front: the columns, the table, and what stands behind it.
  obtain ⟨columns, rest⟩ := delimited_columnList q.columns q'.columns _ _ names.columns
    names'.columns (opens_append " FROM " _ (by simp) _) (opens_append " FROM " _ (by simp) _)
    (List.append_cancel_left texts)
  have name : Delimited PlainName String.toList ([" INNER JOIN ", " LEFT OUTER JOIN ", " WHERE ",
    " ORDER BY ", " LIMIT ", " OFFSET ", ";"]) := .name (by decide)
  have plain := names.behind sound
  have plain' := names'.behind sound'
  obtain ⟨table, rest⟩ := name q.table q'.table _ _ names.table names'.table
    (Behind.clause.continues q.behind _ plain last) (Behind.clause.continues q'.behind _ plain' last)
    (List.append_cancel_left rest)
  obtain ⟨behind, _⟩ := Behind.clause.delimited q.behind q'.behind _ _ plain plain' last last rest
  exact ⟨columns, table, behind⟩

/-- The conditions of a statement determine the predicates of each kind, but for the values. -/
theorem predicates_of_asked {q q' : Query} (equal : q.asked = q'.asked) :
    q.comparisons.map (fun c => (c.field, c.operator)) =
      q'.comparisons.map (fun c => (c.field, c.operator)) ∧
    q.memberships.map (fun m => (m.field, m.members.length)) =
      q'.memberships.map (fun m => (m.field, m.members.length)) ∧
    q.exclusions.map (fun m => (m.field, m.members.length)) =
      q'.exclusions.map (fun m => (m.field, m.members.length)) ∧
    q.nulls.map Name.shown = q'.nulls.map Name.shown ∧
    q.notNulls.map Name.shown = q'.notNulls.map Name.shown := by
  -- Each kind of test picks the predicates of its kind out of the chain, in order.
  have only {β : Type} (f : Condition → Option β) : q.asked.filterMap f = q'.asked.filterMap f := by
    rw [equal]
  simp only [asked, List.filterMap_append, List.filterMap_map, Function.comp_def] at only
  refine ⟨?_, ?_, ?_, ?_, ?_⟩
  · simpa [Test.operator?] using only fun c => c.test.operator?.map (c.field, ·)
  · simpa [Test.inside?] using only fun c => c.test.inside?.map (c.field, ·)
  · simpa [Test.outside?] using only fun c => c.test.outside?.map (c.field, ·)
  · simpa using only fun c => if c.test = .isNull then some c.field else none
  · simpa using only fun c => if c.test = .isNotNull then some c.field else none

end Query

/-! ### Values of predicates -/

section Values

variable {R : Value → Value → Prop}

/-- The values of two chains can be told apart by the number of the first. -/
theorem forall₂_of_append {xs xs' ys ys' : List Value} (same : xs.length = xs'.length)
    (each : List.Forall₂ R (xs ++ ys) (xs' ++ ys')) :
    List.Forall₂ R xs xs' ∧ List.Forall₂ R ys ys' := by
  have first := List.forall₂_take_append _ _ _ each
  have second := List.forall₂_drop_append _ _ _ each
  rw [← same] at first second
  rw [List.take_left] at first
  rw [List.drop_left] at second
  exact ⟨first, second⟩

theorem comparisons_alike_of_values (cs cs' : List Comparison)
    (shown : cs.map (fun c => (c.field, c.operator)) = cs'.map (fun c => (c.field, c.operator)))
    (values : List.Forall₂ R (cs.map Comparison.value) (cs'.map Comparison.value)) :
    List.Forall₂ (Comparison.Alike R) cs cs' := by
  rw [List.forall₂_map_left_iff, List.forall₂_map_right_iff] at values
  induction values with
  | nil => exact .nil
  | cons value _ ih =>
    rw [List.map_cons, List.map_cons, List.cons.injEq, Prod.mk.injEq] at shown
    exact .cons ⟨shown.1.1, shown.1.2, value⟩ (ih shown.2)

/-- Members that follow each other are cut apart again by the number of marks in each test. -/
theorem memberships_alike_of_values (ms ms' : List Membership)
    (shown : ms.map (fun m => (m.field, m.members.length)) =
      ms'.map (fun m => (m.field, m.members.length)))
    (values : List.Forall₂ R (ms.flatMap Membership.members) (ms'.flatMap Membership.members)) :
    List.Forall₂ (Membership.Alike R) ms ms' := by
  induction ms generalizing ms' with
  | nil =>
    cases ms' with
    | nil => exact .nil
    | cons => simp at shown
  | cons m ms ih =>
    cases ms' with
    | nil => simp at shown
    | cons m' ms' =>
      rw [List.map_cons, List.map_cons, List.cons.injEq, Prod.mk.injEq] at shown
      obtain ⟨⟨field, size⟩, others⟩ := shown
      rw [List.flatMap_cons, List.flatMap_cons] at values
      -- The first test has as many members on both sides, so that the others begin together.
      obtain ⟨members, rest⟩ := forall₂_of_append size values
      exact .cons ⟨field, members⟩ (ih ms' others rest)

theorem memberships_length (ms ms' : List Membership)
    (shown : ms.map (fun m => (m.field, m.members.length)) =
      ms'.map (fun m => (m.field, m.members.length))) :
    (ms.flatMap Membership.members).length = (ms'.flatMap Membership.members).length := by
  have sizes := congrArg (List.map Prod.snd) shown
  rw [List.map_map, List.map_map] at sizes
  rw [List.length_flatMap, List.length_flatMap]
  exact congrArg List.sum sizes

/-- Plain names are equal if they are written alike. -/
theorem names_eq_of_shown (names names' : List Name)
    (plain : ∀ name ∈ names, ∃ s, name = .text s ∧ PlainName s)
    (plain' : ∀ name ∈ names', ∃ s, name = .text s ∧ PlainName s)
    (shown : names.map Name.shown = names'.map Name.shown) : names = names' := by
  have inverse (texts : List Name) (all : ∀ name ∈ texts, ∃ s, name = .text s ∧ PlainName s) :
      (texts.map Name.shown).map Name.text = texts := by
    rw [List.map_map]
    refine (List.map_congr_left fun name member => ?_).trans (List.map_id _)
    obtain ⟨s, rfl, _⟩ := all name member
    rfl
  rw [← inverse names plain, shown, inverse names' plain']

end Values

/-- Queries with plain names whose selections have the same text, and related values bound to it,
are the same but for related values. -/
theorem Query.alike_of_select {R : Value → Value → Prop} {q q' : Query} (sound : q.Sound)
    (sound' : q'.Sound) (names : q.PlainNames) (names' : q'.PlainNames)
    (sql : q.select.sql = q'.select.sql) (params : List.Forall₂ R q.select.params q'.select.params) :
    q.Alike R q' := by
  obtain ⟨columns, table, behind⟩ := select_sql_injective sound sound' names names' sql
  simp only [Query.behind, Prod.mk.injEq] at behind
  obtain ⟨joins, asked, order, limit, offset⟩ := behind
  obtain ⟨compared, isIn, isNotIn, nulls, notNulls⟩ := predicates_of_asked asked
  rw [select_params, select_params] at params
  -- The values follow each other kind by kind; the text tells how many belong to each.
  have size : (q.comparisons.map Comparison.value).length =
      (q'.comparisons.map Comparison.value).length := by
    simpa using congrArg List.length compared
  obtain ⟨values, members⟩ := forall₂_of_append size params
  obtain ⟨inside, outside⟩ := forall₂_of_append (memberships_length _ _ isIn) members
  exact {
    table, columns, joins, order, limit, offset
    comparisons := comparisons_alike_of_values _ _ compared values
    memberships := memberships_alike_of_values _ _ isIn inside
    exclusions := memberships_alike_of_values _ _ isNotIn outside
    nulls := names_eq_of_shown _ _ names.nulls names'.nulls nulls
    notNulls := names_eq_of_shown _ _ names.notNulls names'.notNulls notNulls }

/-- Queries that agree up to equal values are equal. -/
theorem Query.Alike.eq {q q' : Query} (same : q.Alike Eq q') : q = q' := by
  obtain ⟨table, columns, joins, comparisons, memberships, exclusions, nulls, notNulls, order, limit,
    offset⟩ := same
  -- With equality for the relation, tests are related only to themselves.
  have tests (ms ms' : List Membership) (each : List.Forall₂ (Membership.Alike Eq) ms ms') :
      ms = ms' := by
    rw [← List.forall₂_eq_eq_eq]
    refine each.imp fun m m' same => ?_
    obtain ⟨field, members⟩ := same
    rw [List.forall₂_eq_eq_eq] at members
    cases m
    cases m'
    simp_all
  have compared : q.comparisons = q'.comparisons := by
    rw [← List.forall₂_eq_eq_eq]
    refine comparisons.imp fun c c' same => ?_
    obtain ⟨field, operator, value⟩ := same
    cases c
    cases c'
    simp_all
  have inside := tests _ _ memberships
  have outside := tests _ _ exclusions
  cases q
  cases q'
  simp_all

/-- A selection loses nothing. Two builders that can be reached, with plain names, whose selections
have the same text and values are builders of the same query. Whatever relation `R` counts as equality
between values, the queries are equal in its sense. -/
theorem Builder.Reachable.select_injective {b b' : Builder} (reachable : b.Reachable)
    (reachable' : b'.Reachable) (names : b.query.PlainNames) (names' : b'.query.PlainNames)
    (sql : b.query.select.sql = b'.query.select.sql) :
    (∀ R : Value → Value → Prop, List.Forall₂ R b.query.select.params b'.query.select.params →
      b.query.Alike R b'.query) ∧
    (b.query.select.params = b'.query.select.params → b.query = b'.query) := by
  have alike (R : Value → Value → Prop)
      (params : List.Forall₂ R b.query.select.params b'.query.select.params) :
      b.query.Alike R b'.query :=
    Query.alike_of_select reachable.sound reachable'.sound names names' sql params
  refine ⟨alike, fun params => (alike Eq ?_).eq⟩
  rw [List.forall₂_eq_eq_eq]
  exact params

/-- Two builders of one query but for a value, all of whose names look like keywords. -/
theorem keywords_as_names_are_read_back :
    let b (v : Value) : Builder := ⟨.text "AS", {
      table := "AS"
      columns := [⟨"FROM", none⟩]
      joins := [⟨.inner, "AND", "ON WHERE=IN"⟩]
      comparisons := [⟨"NOT", "<", v⟩]
      memberships := [⟨"IN", []⟩] }⟩
    (b .null).Reachable ∧ (b (.int 1)).Reachable ∧
    (b .null).query.PlainNames ∧ (b (.int 1)).query.PlainNames ∧
    (b .null).query.select.sql = (b (.int 1)).query.select.sql ∧
    (b .null).query.select.sql =
      "SELECT FROM FROM AS INNER JOIN AND ON WHERE=IN WHERE NOT<? AND IN IN ();" ∧
    (∀ R : Value → Value → Prop,
      List.Forall₂ R (b .null).query.select.params (b (.int 1)).query.select.params →
        (b .null).query.Alike R (b (.int 1)).query) ∧
    ((b .null).query.select.params = (b (.int 1)).query.select.params →
      (b .null).query = (b (.int 1)).query) := by
  intro b
  have reachable (v : Value) : (b v).Reachable := by
    have made : Builder.ofTable (.text "AS") = .ok ⟨.text "AS", { table := "AS" }⟩ := rfl
    have first := (Builder.Reachable.fresh made).act (σ := Unit) none
      (.call (.select [.text "FROM"])) ()
    have second := first.act (σ := Unit) none
      (.call (.compare .equal [.text "NOT", .text "<", v])) ()
    have third := second.act (σ := Unit) none (.call (.isIn (.text "IN") (.list []))) ()
    exact third.act (σ := Unit) none
      (.call (.join .inner (.text "AND") (.map [(.text "WHERE", .text "IN")]))) ()
  -- Keywords are plain names, as they are made of letters.
  have names (v : Value) : (b v).query.PlainNames := {
    table := by simp only [b]; decide
    columns := by simp only [b, List.mem_singleton, forall_eq, Column.Plain]; decide
    joins := by
      simp only [b, List.mem_singleton, forall_eq, Join.Plain]
      exact ⟨by decide, .paired [(.text "WHERE", .text "IN")], by decide, by decide,
        by decide⟩
    comparisons := by simp only [b, List.mem_singleton, forall_eq]; decide
    memberships := by simp only [b, List.mem_singleton, forall_eq]; decide
    exclusions := nofun
    nulls := nofun
    notNulls := nofun
    order := nofun }
  have sql : (b .null).query.select.sql =
      "SELECT FROM FROM AS INNER JOIN AND ON WHERE=IN WHERE NOT<? AND IN IN ();" := by decide
  have same : (b .null).query.select.sql = (b (.int 1)).query.select.sql := by decide
  exact ⟨reachable _, reachable _, names _, names _, same, sql,
    (reachable .null).select_injective (reachable (.int 1)) (names _) (names _) same⟩

end FluentSql
