import FluentSql.Proofs.Builder.FaultKinds
import FluentSql.Proofs.Statement.SelectText

/-!
# Joins in statements

What becomes of the joins of a query when it is compiled. A selection shows all of them, in their
order and in one place; a count is refused as soon as there is one; an update and a deletion are
those of the query without its joins.
Main result: `Builder.Reachable.joins_lost_on_changes`.
-/

namespace FluentSql

def Query.withoutJoins (q : Query) : Query := { q with joins := [] }

/-- The statement is another one with the joins put into it: one after the other, each once, in one
place. They bring no values. -/
structure Statement.Shows (s : Statement) (joins : List Join) (without : Statement) : Prop where
  sql : ∃ head tail, without.sql.toList = head ++ tail ∧
    s.sql.toList = head ++ (joins.flatMap Join.text ++ tail)
  params : s.params = without.params

/-- A compilation heeds the joins of a query: it shows them, or it is refused as unsupported. -/
inductive Query.Heeds (q : Query) (build : Build) : Prop
  | shown {s without : Statement} (compiled : q.build build = .ok (.statement s))
    (plain : q.withoutJoins.build build = .ok (.statement without))
    (shows : s.Shows q.joins without)
  | refused {fault : Fault} (fails : q.build build = .error fault)
    (kind : fault.kind? = some .unsupportedOperation)

/-- A statement holds joins within itself only if there are none. -/
theorem Statement.shows_self_iff (s : Statement) (joins : List Join) :
    s.Shows joins s ↔ joins = [] := by
  constructor
  · rintro ⟨⟨head, tail, without, shown⟩, _⟩
    rw [without] at shown
    -- A join has a text, which the statement has no room for.
    have nothing : joins.flatMap Join.text = [] :=
      List.append_left_eq_self.mp (List.append_cancel_left shown).symm
    rw [List.flatMap_eq_nil_iff] at nothing
    rw [List.eq_nil_iff_forall_not_mem]
    intro j member
    simpa [Join.text_eq, JoinKind.opening] using nothing j member
  · rintro rfl
    exact ⟨⟨s.sql.toList, [], by simp, by simp⟩, rfl⟩

namespace Query

variable (q : Query)

/-! ### Each compilation -/

theorem select_shows : q.select.Shows q.joins q.withoutJoins.select := by
  constructor
  · -- Before the joins stand the columns and the table, behind them all other clauses.
    refine ⟨"SELECT ".toList ++ ((columnList q.columns).toList ++ (" FROM ".toList ++
      q.table.toList)), q.withoutJoins.behind.text ++ ";".toList, ?_, ?_⟩
    · rw [select_sql]
      simp only [List.append_assoc]
      rfl
    · rw [select_sql]
      simp only [behind, Behind.text, List.append_assoc]
      rfl
  · rw [select_params, select_params]
    rfl

theorem count_refused (joined : q.joins ≠ []) : q.count = .error .countOverJoins := by
  rw [count, if_neg (by simpa using joined)]

/-- An update or a deletion writes the same with the joins as without them, or fails in both cases. -/
theorem changes_eq {entries : List (Value × Value)} (filled : entries ≠ []) {build : Build}
    (changes : build ∈ [Build.update (.map entries), Build.delete]) :
    ∃ written s, q.build build = (requireWritable written).map (fun _ => .statement s) ∧
      q.withoutJoins.build build = q.build build ∧
      (q.WritesTooManyDigits build ↔ ∃ v ∈ written, v.isWritable = false) := by
  rcases List.mem_pair.mp changes with rfl | rfl
  -- An update is made in two steps, of which only the second looks at numbers and keys.
  · have compiled (q : Query) : q.build (.update (.map entries)) =
        (requireWritable (entries.map (·.1) ++ q.rowNumbers)).map fun _ =>
          .statement (.ofParts ((.text ("UPDATE " ++ q.table ++ " SET ") ++
            Fragment.joined ", " (entries.map assignment)) :: q.tail)) := by
      have guarded (x : Except Fault Unit) (s : Statement) :
          (x >>= fun _ => pure s).map Compiled.statement = x.map fun _ => .statement s := by
        cases x <;> rfl
      rw [build, update, (filledRowData_eq_ok_iff _ _ _).mpr ⟨rfl, filled⟩]
      exact guarded _ _
    refine ⟨_, _, compiled q, (compiled q.withoutJoins).trans (compiled q).symm, ?_⟩
    simp [WritesTooManyDigits, filled]
  · refine ⟨q.rowNumbers, q.delete, ?_, rfl, Iff.rfl⟩
    rw [build, deletion]
    cases requireWritable q.rowNumbers <;> rfl

/-- A compilation that is the same without the joins does not heed them, unless it is refused for
them. -/
theorem not_heeds_of_same {build : Build} (joined : q.joins ≠ [])
    (same : q.withoutJoins.build build = q.build build)
    (supported : ∀ fault, q.build build = .error fault →
      fault.kind? ≠ some .unsupportedOperation) : ¬q.Heeds build := by
  rintro (⟨compiled, plain, shows⟩ | ⟨fails, kind⟩)
  · rw [same, compiled] at plain
    cases plain
    exact joined ((Statement.shows_self_iff _ _).mp shows)
  · exact supported _ fails kind

/-- A change is neither refused nor shows the joins. -/
theorem changes_not_heeds (joined : q.joins ≠ []) {entries : List (Value × Value)}
    (filled : entries ≠ []) {build : Build}
    (changes : build ∈ [Build.update (.map entries), Build.delete]) : ¬q.Heeds build := by
  obtain ⟨written, s, compiled, same, _⟩ := q.changes_eq filled changes
  refine q.not_heeds_of_same joined same fun fault fails => ?_
  rw [compiled, Outcome.map_eq_error_iff, requireWritable_eq_error_iff] at fails
  simp [fails.1, Fault.kind?]

end Query

/-- Once a join has been declared, a selection shows the joins, each by its keywords, its table and
its condition, and a count is refused. An update and a deletion neither show them nor are refused for
them: they are compiled as if none had been declared, with their conditions on the bare table, unless
a number that they write is too long. -/
theorem Builder.Reachable.joins_lost_on_changes {b : Builder} (reachable : b.Reachable)
    (joined : b.query.joins ≠ []) {entries : List (Value × Value)} (filled : entries ≠ []) :
    let q := b.query
    q.select.Shows q.joins q.withoutJoins.select ∧
    (∀ j ∈ q.joins, ∃ condition : JoinCondition, condition.names ≠ [] ∧
      j.text = (" " ++ j.kind.keyword ++ " " ++ j.table ++ " " ++ condition.sql).toList) ∧
    (∃ fault, q.count = .error fault ∧ fault.kind? = some .unsupportedOperation) ∧
    ∀ build ∈ [Build.update (.map entries), Build.delete], ¬q.Heeds build ∧
      q.withoutJoins.build build = q.build build ∧
      ((∃ s, q.build build = .ok (.statement s)) ↔ ¬q.WritesTooManyDigits build) := by
  intro q
  refine ⟨q.select_shows, ?_, ⟨_, q.count_refused joined, rfl⟩, ?_⟩
  · intro j member
    obtain ⟨condition, rendered, names⟩ := reachable.sound.conditions j member
    refine ⟨condition, names, ?_⟩
    rw [Join.text, Join.clause, Fragment.sql_text, ← rendered, ← String.toList_append]
    simp only [String.append_assoc]
  · intro build changes
    obtain ⟨written, s, compiled, same, long⟩ := q.changes_eq filled changes
    refine ⟨q.changes_not_heeds joined filled changes, same, ?_⟩
    rw [compiled, long]
    simp [Outcome.map_eq_ok_iff, requireWritable_eq_ok_iff]

/-! ### Users with their teams -/

namespace Builder

/-- The users from thirty on that are in a team, with the offices of their teams. -/
def teamMembers : Builder :=
  ⟨.text "users", {
    table := "users"
    joins := [⟨.inner, "teams", "USING (team_id)"⟩,
      ⟨.leftOuter, "offices", "ON teams.office=offices.id AND users.city=offices.city"⟩]
    comparisons := [⟨"age", ">=", .int 30⟩] }⟩

theorem teamMembers_reachable : teamMembers.Reachable := by
  have made : ofTable (.text "users") = .ok ⟨.text "users", { table := "users" }⟩ := rfl
  have first := (Reachable.fresh made).act (σ := Unit) none
    (.call (.join .inner (.text "teams") (.text "team_id"))) ()
  have second := first.act (σ := Unit) none (.call (.join .leftOuter (.text "offices")
    (.map [(.text "teams.office", .text "offices.id"),
      (.text "users.city", .text "offices.city")]))) ()
  exact second.act (σ := Unit) none
    (.call (.compare .equal [.text "age", .text ">=", .int 30])) ()

/-- A user without a team is not selected, but is updated and deleted like all others. -/
theorem teamless_users_are_deleted :
    let q := teamMembers.query
    let data : List (Value × Value) := [(.text "active", .bool false)]
    teamMembers.Reachable ∧ q.joins ≠ [] ∧ data ≠ [] ∧
    q.select.sql = "SELECT * FROM users INNER JOIN teams USING (team_id) LEFT OUTER JOIN offices " ++
      "ON teams.office=offices.id AND users.city=offices.city WHERE age>=?;" ∧
    q.delete.sql = "DELETE FROM users WHERE age>=?;" ∧ ¬q.Heeds .delete ∧
    (q.update (.map data)).map Statement.sql = .ok "UPDATE users SET active=? WHERE age>=?;" ∧
    ¬q.Heeds (.update (.map data)) := by
  intro q data
  have joined : q.joins ≠ [] := List.cons_ne_nil _ _
  have filled : data ≠ [] := List.cons_ne_nil _ _
  refine ⟨teamMembers_reachable, joined, filled, by decide, by decide,
    q.changes_not_heeds joined filled (by simp), ?_, q.changes_not_heeds joined filled (by simp)⟩
  exact congrArg Except.ok (by decide)

/-- Two joins between the table and the conditions of a selection, and none in a deletion. -/
theorem two_joins_are_lost :
    let q := teamMembers.query
    let data : List (Value × Value) := [(.text "active", .bool false), (.text "age", .null)]
    q.joins.length = 2 ∧ q.select.Shows q.joins q.withoutJoins.select ∧
    (∃ fault, q.count = .error fault ∧ fault.kind? = some .unsupportedOperation) ∧
    ∀ build ∈ [Build.update (.map data), Build.delete], ¬q.Heeds build ∧
      q.withoutJoins.build build = q.build build ∧
      ((∃ s, q.build build = .ok (.statement s)) ↔ ¬q.WritesTooManyDigits build) := by
  intro q data
  obtain ⟨shown, _, refused, lost⟩ := teamMembers_reachable.joins_lost_on_changes
    (List.cons_ne_nil _ _) (List.cons_ne_nil _ _ : data ≠ [])
  exact ⟨rfl, shown, refused, lost⟩

end Builder

end FluentSql
