import FluentSql.Proofs.Builder.Run
import FluentSql.Proofs.Number
import FluentSql.Proofs.Query.Alike
import FluentSql.Proofs.Statement.Provenance

/-!
# Values and the text of statements

Two runs whose arguments agree but for the values of predicates, memberships and row data have the
same text in every statement. The relation `R` says what the values at one position of the two runs
have to do with each other; it then holds between the bound values, position by position. Numbers of
rows are the only numbers that are written, and they are written in digits.
-/

namespace FluentSql

variable {R : Value → Value → Prop}

/-! ### Actions that agree but for their values -/

/-- Row data for the same fields. -/
inductive DataAlike (R : Value → Value → Prop) : Value → Value → Prop
  | map {entries entries' : List (Value × Value)} (values : EntriesAlike R entries entries') :
    DataAlike R (.map entries) (.map entries')
  /-- Anything else is no row data. -/
  | other {v : Value} (refused : ∀ entries, v ≠ .map entries) : DataAlike R v v

/-- Compilations that agree but for the values of row data. -/
def Build.Alike (R : Value → Value → Prop) : Build → Build → Prop
  | .insert data, .insert data' => DataAlike R data data'
  | .update data, .update data' => DataAlike R data data'
  | .upsert data conflict, .upsert data' conflict' => DataAlike R data data' ∧ conflict = conflict'
  | build, build' => build = build'

/-- Calls and compilations that agree but for values. -/
inductive Action.Alike (R : Value → Value → Prop) : Action → Action → Prop
  | call {call call' : Call} (alike : call.Alike R call') : Alike R (.call call) (.call call')
  | build {build build' : Build} (alike : build.Alike R build') :
    Alike R (.build build) (.build build')

/-! ### Results that agree but for their values -/

/-- The same text, and as many values bound to it. -/
def Compiled.Alike (R : Value → Value → Prop) : Compiled → Compiled → Prop
  | .statement s, .statement s' => s.sql = s'.sql ∧ List.Forall₂ R s.params s'.params
  | .conditions parts, .conditions parts' =>
    parts.map Fragment.sql = parts'.map Fragment.sql ∧
      List.Forall₂ R (parts.flatMap Fragment.params) (parts'.flatMap Fragment.params)
  | .noConditions, .noConditions => True
  | _, _ => False

/-- The builder itself in both runs, or compilations with the same text. -/
def ActionResult.Alike (R : Value → Value → Prop) : ActionResult → ActionResult → Prop
  | .builder, .builder => True
  | .compiled c, .compiled c' => c.Alike R c'
  | _, _ => False

/-! ### Fragments -/

/-- The same text, or slots with related values. -/
inductive Piece.Alike (R : Value → Value → Prop) : Piece → Piece → Prop
  | text {s : String} : Alike R (.text s) (.text s)
  | slot {v v' : Value} (values : R v v') : Alike R (.slot v) (.slot v')

namespace Fragment

/-- Fragments that agree but for the values in their slots. -/
def Alike (R : Value → Value → Prop) (f f' : Fragment) : Prop :=
  List.Forall₂ (Piece.Alike R) f.pieces f'.pieces

theorem alike_text (s : String) : (text s).Alike R (text s) :=
  .cons .text .nil

theorem Alike.append {f f' g g' : Fragment} (left : f.Alike R f') (right : g.Alike R g') :
    (f ++ g).Alike R (f' ++ g') :=
  List.rel_append left right

theorem Alike.joined (separator : String) {fs fs' : List Fragment}
    (each : List.Forall₂ (Alike R) fs fs') :
    (Fragment.joined separator fs).Alike R (Fragment.joined separator fs') := by
  induction each with
  | nil => exact .nil
  | @cons f f' fs fs' first others ih =>
    cases others with
    | nil => exact first
    | cons => exact (first.append (alike_text separator)).append ih

theorem alike_slots {values values' : List Value} (related : List.Forall₂ R values values') :
    (slots values).Alike R (slots values') := by
  apply Alike.joined
  rw [List.forall₂_map_left_iff, List.forall₂_map_right_iff]
  exact related.imp fun _ _ values => .cons (.slot values) .nil

/-- What is bound leaves no trace in the text. -/
theorem Alike.sql_eq {f f' : Fragment} (alike : f.Alike R f') : f.sql = f'.sql := by
  -- The text of a slot does not depend on its value.
  have texts (pieces pieces' : List Piece) (each : List.Forall₂ (Piece.Alike R) pieces pieces') :
      pieces.map pieceSql = pieces'.map pieceSql := by
    induction each with
    | nil => rfl
    | cons first _ ih => cases first <;> simp [pieceSql, ih]
  rw [sql, sql, texts _ _ alike]

theorem Alike.params {f f' : Fragment} (alike : f.Alike R f') :
    List.Forall₂ R f.params f'.params := by
  have bound (pieces pieces' : List Piece) (each : List.Forall₂ (Piece.Alike R) pieces pieces') :
      List.Forall₂ R (pieces.filterMap pieceParam?) (pieces'.filterMap pieceParam?) := by
    induction each with
    | nil => exact .nil
    | cons first _ ih =>
      cases first with
      | text => simpa [List.filterMap_cons, pieceParam?] using ih
      | slot values => simpa [List.filterMap_cons, pieceParam?] using ⟨values, ih⟩
  exact bound _ _ alike

end Fragment

theorem Fragment.alike_list {fs fs' : List Fragment} (each : List.Forall₂ (Alike R) fs fs') :
    fs.map sql = fs'.map sql ∧
      List.Forall₂ R (fs.flatMap Fragment.params) (fs'.flatMap Fragment.params) := by
  induction each with
  | nil => exact ⟨rfl, .nil⟩
  | cons first _ ih =>
    refine ⟨by rw [List.map_cons, List.map_cons, first.sql_eq, ih.1], ?_⟩
    rw [List.flatMap_cons, List.flatMap_cons]
    exact List.rel_append first.params ih.2

theorem Statement.ofParts_alike {parts parts' : List Fragment}
    (each : List.Forall₂ (Fragment.Alike R) parts parts') :
    (ofParts parts).sql = (ofParts parts').sql ∧
      List.Forall₂ R (ofParts parts).params (ofParts parts').params := by
  have body := Fragment.Alike.joined " " each
  exact ⟨by rw [sql, sql, ofParts, ofParts, body.sql_eq], body.params⟩

/-! ### Row data -/

theorem EntriesAlike.keys_eq {entries entries' : List (Value × Value)}
    (alike : EntriesAlike R entries entries') : entries.map (·.1) = entries'.map (·.1) := by
  induction alike with
  | nil => rfl
  | cons first _ ih => rw [List.map_cons, List.map_cons, first.1, ih]

theorem EntriesAlike.values {entries entries' : List (Value × Value)}
    (alike : EntriesAlike R entries entries') :
    List.Forall₂ R (entries.map (·.2)) (entries'.map (·.2)) := by
  rw [List.forall₂_map_left_iff, List.forall₂_map_right_iff]
  exact alike.imp fun _ _ entry => entry.2

/-- Row data are accepted or refused whatever their values are. -/
theorem rowData_alike (statement : RowStatement) {data data' : Value} (alike : DataAlike R data data') :
    Outcome.Alike (EntriesAlike R) (rowData statement data) (rowData statement data') := by
  cases alike with
  | map entries => exact entries
  | other refused =>
    cases data with
    | map entries => exact absurd rfl (refused entries)
    | _ => trivial

theorem filledRowData_alike (statement : RowStatement) {data data' : Value}
    (alike : DataAlike R data data') :
    Outcome.Alike (EntriesAlike R) (filledRowData statement data) (filledRowData statement data') := by
  apply Outcome.Alike.bind (rowData_alike statement alike)
  intro entries entries' related
  cases related with
  | nil => trivial
  | cons first others => exact .cons first others

theorem insertHead_alike (table : String) (fields : List Name) {values values' : List Value}
    (related : List.Forall₂ R values values') :
    (insertHead table fields values).Alike R (insertHead table fields values') :=
  ((Fragment.alike_text _).append (Fragment.alike_slots related)).append (Fragment.alike_text _)

/-! ### Clauses -/

theorem Fragment.alike_texts (parts : List Fragment) (texts : ∀ part ∈ parts, ∃ s, part = text s) :
    List.Forall₂ (Alike R) parts parts := by
  rw [List.forall₂_same]
  intro part member
  obtain ⟨s, rfl⟩ := texts part member
  exact alike_text s

namespace Query

variable {q q' : Query}

theorem Alike.conditions (same : q.Alike R q') :
    List.Forall₂ (Fragment.Alike R) q.conditions q'.conditions := by
  have comparison (c c' : Comparison) (related : c.Alike R c') :
      c.condition.Alike R c'.condition := by
    obtain ⟨field, operator, values⟩ := related
    rw [Comparison.condition, Comparison.condition, field, operator]
    exact (Fragment.alike_text _).append (.cons (.slot values) .nil)
  have membership (keywords : String) (m m' : Membership) (related : m.Alike R m') :
      (m.condition keywords).Alike R (m'.condition keywords) := by
    obtain ⟨field, members⟩ := related
    rw [Membership.condition, Membership.condition, field]
    exact ((Fragment.alike_text _).append (Fragment.alike_slots members)).append
      (Fragment.alike_text _)
  -- Null predicates hold no value: they are texts, and equal.
  unfold Query.conditions
  rw [same.nulls, same.notNulls]
  refine List.rel_append (List.rel_append (List.rel_append (List.rel_append ?_ ?_) ?_) ?_) ?_
  · exact List.rel_map (fun {c c'} related => comparison c c' related) same.comparisons
  · exact List.rel_map (fun {m m'} related => membership "IN" m m' related) same.memberships
  · exact List.rel_map (fun {m m'} related => membership "NOT IN" m m' related) same.exclusions
  · exact Fragment.alike_texts _ (by simp)
  · exact Fragment.alike_texts _ (by simp)

theorem Alike.hasPredicates (same : q.Alike R q') : q.hasPredicates = q'.hasPredicates := by
  have empty {α β : Type} {S : α → β → Prop} {xs : List α} {ys : List β}
      (each : List.Forall₂ S xs ys) : xs.isEmpty = ys.isEmpty := by
    cases each <;> rfl
  unfold Query.hasPredicates
  rw [empty same.comparisons, empty same.memberships, empty same.exclusions, same.nulls,
    same.notNulls]

theorem Alike.whereClause (same : q.Alike R q') :
    List.Forall₂ (Fragment.Alike R) q.whereClause q'.whereClause := by
  unfold Query.whereClause
  rw [same.hasPredicates]
  split
  · exact .cons ((Fragment.alike_text _).append (.joined _ same.conditions)) .nil
  · exact .nil

/-- The tail holds values of the conditions only: order and numbers are the same. -/
theorem Alike.tail (same : q.Alike R q') :
    List.Forall₂ (Fragment.Alike R) q.tail q'.tail := by
  have order : ∀ part ∈ q.orderClause, ∃ s, part = .text s := by
    unfold orderClause
    split <;> simp
  have count (keyword : String) (number : Option Int) :
      ∀ part ∈ countClause keyword number, ∃ s, part = .text s := by
    unfold countClause
    split <;> simp
  have orders : q.orderClause = q'.orderClause := by rw [orderClause, orderClause, same.order]
  -- Only the first of the clauses has slots.
  unfold Query.tail
  rw [← orders, ← same.limit, ← same.offset]
  exact List.rel_append (List.rel_append (List.rel_append same.whereClause
    (Fragment.alike_texts _ order)) (Fragment.alike_texts _ (count _ _)))
    (Fragment.alike_texts _ (count _ _))

/-! ### Statements -/

theorem Alike.counted (same : q.Alike R q') : q.counted = q'.counted := by
  have related := same.comparisons
  unfold Query.counted
  generalize q.comparisons = cs at related ⊢
  generalize q'.comparisons = cs' at related ⊢
  cases related with
  | nil => rfl
  | cons first _ => exact first.1

theorem Alike.rowNumbers (same : q.Alike R q') : q.rowNumbers = q'.rowNumbers := by
  rw [Query.rowNumbers, Query.rowNumbers, same.limit, same.offset]

theorem Alike.select (same : q.Alike R q') :
    q.select.sql = q'.select.sql ∧ List.Forall₂ R q.select.params q'.select.params := by
  have joins : List.Forall₂ (Fragment.Alike R) (q.joins.map Join.clause)
      (q.joins.map Join.clause) := Fragment.alike_texts _ (by simp [Join.clause])
  unfold Query.select
  rw [← same.columns, ← same.joins, ← same.table]
  apply Statement.ofParts_alike
  exact List.rel_append (.cons (Fragment.alike_text _) joins) same.tail

theorem Alike.selection (same : q.Alike R q') :
    Outcome.Alike (fun s s' => s.sql = s'.sql ∧ List.Forall₂ R s.params s'.params)
      q.selection q'.selection := by
  rw [Query.selection, Query.selection, ← same.rowNumbers]
  exact Outcome.Alike.map_same _ fun _ => same.select

theorem Alike.count (same : q.Alike R q') :
    Outcome.Alike (fun s s' => s.sql = s'.sql ∧ List.Forall₂ R s.params s'.params)
      q.count q'.count := by
  unfold Query.count
  rw [← same.joins, ← same.table, ← same.counted]
  split
  · exact Statement.ofParts_alike (.cons (Fragment.alike_text _) same.whereClause)
  · trivial

theorem Alike.delete (same : q.Alike R q') :
    q.delete.sql = q'.delete.sql ∧ List.Forall₂ R q.delete.params q'.delete.params := by
  unfold Query.delete
  rw [← same.table]
  exact Statement.ofParts_alike (.cons (Fragment.alike_text _) same.tail)

theorem Alike.deletion (same : q.Alike R q') :
    Outcome.Alike (fun s s' => s.sql = s'.sql ∧ List.Forall₂ R s.params s'.params)
      q.deletion q'.deletion := by
  rw [Query.deletion, Query.deletion, ← same.rowNumbers]
  exact Outcome.Alike.map_same _ fun _ => same.delete

theorem Alike.insert (same : q.Alike R q') {data data' : Value} (alike : DataAlike R data data') :
    Outcome.Alike (fun s s' => s.sql = s'.sql ∧ List.Forall₂ R s.params s'.params)
      (q.insert data) (q'.insert data') := by
  unfold Query.insert
  rw [← same.table]
  apply Outcome.Alike.bind (rowData_alike .insert alike)
  intro entries entries' related
  cases related with
  | nil => exact Statement.ofParts_alike (.cons (Fragment.alike_text _) .nil)
  | cons first others =>
    -- The names of the fields are read from the keys alone.
    have keys := EntriesAlike.keys_eq (.cons first others)
    have values := EntriesAlike.values (.cons first others)
    simp only [List.isEmpty_cons, Bool.false_eq_true, if_false]
    rw [← keys]
    apply Outcome.Alike.bind_same
    intro fields
    exact Statement.ofParts_alike (.cons (insertHead_alike _ _ values) .nil)

theorem Alike.upsert (same : q.Alike R q') {data data' : Value} (alike : DataAlike R data data')
    (conflict : Value) :
    Outcome.Alike (fun s s' => s.sql = s'.sql ∧ List.Forall₂ R s.params s'.params)
      (q.upsert data conflict) (q'.upsert data' conflict) := by
  unfold Query.upsert
  rw [← same.table]
  apply Outcome.Alike.bind (filledRowData_alike .upsert alike)
  intro entries entries' related
  have keys := related.keys_eq
  have values := related.values
  rw [← keys]
  apply Outcome.Alike.bind_same
  intro found
  apply Outcome.Alike.bind_same
  intro targets
  apply Outcome.Alike.bind_same
  intro _
  apply Outcome.Alike.bind_same
  intro fields
  exact Statement.ofParts_alike
    (.cons (insertHead_alike _ _ values) (Fragment.alike_texts _ (by simp [conflictClause])))

theorem Alike.update (same : q.Alike R q') {data data' : Value} (alike : DataAlike R data data') :
    Outcome.Alike (fun s s' => s.sql = s'.sql ∧ List.Forall₂ R s.params s'.params)
      (q.update data) (q'.update data') := by
  unfold Query.update
  rw [← same.table]
  apply Outcome.Alike.bind (filledRowData_alike .update alike)
  intro entries entries' related
  have assignments : List.Forall₂ (Fragment.Alike R) (entries.map assignment)
      (entries'.map assignment) := by
    rw [List.forall₂_map_left_iff, List.forall₂_map_right_iff]
    refine List.Forall₂.imp ?_ related
    rintro entry entry' ⟨key, value⟩
    rw [assignment, assignment, key]
    exact (Fragment.alike_text _).append (.cons (.slot value) .nil)
  -- What is written of numbers is the same in both: keys, and numbers of rows.
  rw [← related.keys_eq, ← same.rowNumbers]
  apply Outcome.Alike.bind_same
  intro _
  exact Statement.ofParts_alike
    (.cons ((Fragment.alike_text _).append (.joined _ assignments)) same.tail)

/-- Compilations that agree but for values have the same text, or both fail. -/
theorem build_alike (same : q.Alike R q') {build build' : Build} (alike : build.Alike R build') :
    Outcome.Alike (Compiled.Alike R) (q.build build) (q'.build build') := by
  cases build with
  | insert data =>
    cases build' with
    | insert data' => exact Outcome.Alike.map (same.insert alike) fun _ _ => id
    | _ => cases alike
  | update data =>
    cases build' with
    | update data' => exact Outcome.Alike.map (same.update alike) fun _ _ => id
    | _ => cases alike
  | upsert data conflict =>
    cases build' with
    | upsert data' conflict' =>
      obtain ⟨data, rfl⟩ := alike
      exact Outcome.Alike.map (same.upsert data conflict) fun _ _ => id
    | _ => cases alike
  | select =>
    -- Nothing is handed over in these compilations.
    obtain rfl : _ = build' := alike
    exact Outcome.Alike.map same.selection fun _ _ => id
  | count =>
    obtain rfl : _ = build' := alike
    exact Outcome.Alike.map same.count fun _ _ => id
  | delete =>
    obtain rfl : _ = build' := alike
    exact Outcome.Alike.map same.deletion fun _ _ => id
  | conditions =>
    obtain rfl : _ = build' := alike
    change Outcome.Alike (Compiled.Alike R)
      (.ok (if q.hasPredicates then .conditions q.conditions else .noConditions))
      (.ok (if q'.hasPredicates then .conditions q'.conditions else .noConditions))
    -- Either both queries have conditions or neither has.
    rw [← same.hasPredicates]
    split
    · exact Fragment.alike_list same.conditions
    · trivial

end Query

/-! ### Runs -/

/-- Two runs stay alike from step to step, since a call that fails in one of them fails in both. -/
theorem Builder.outcomes_alike {σ : Type} {b b' : Builder} (same : b.query.Alike R b'.query)
    (executor? : Option (Executor σ)) {actions actions' : List Action}
    (alike : List.Forall₂ (Action.Alike R) actions actions') (s : σ) :
    List.Forall₂ (Outcome.Alike (ActionResult.Alike R)) (b.outcomes executor? actions s)
      (b'.outcomes executor? actions' s) := by
  -- The invariant of both runs is that their queries agree but for values.
  induction alike generalizing b b' with
  | nil => exact .nil
  | cons first _ ih =>
    cases first with
    | build alike =>
      -- A compilation leaves the builder as it is.
      exact .cons (Outcome.Alike.map (Query.build_alike same alike) fun _ _ => id) (ih same)
    | @call call call' alike =>
      -- A call fails in both runs and changes nothing, or it declares the same in both.
      have declared := Query.apply_alike same alike
      cases outcome : b.query.apply call with
      | error fault =>
        cases outcome' : b'.query.apply call' with
        | ok q' => simp [outcome, outcome', Outcome.Alike] at declared
        | error fault' =>
          simp only [outcomes, act, apply, outcome, outcome', Except.map]
          exact .cons trivial (ih same)
      | ok q =>
        cases outcome' : b'.query.apply call' with
        | error fault' => simp [outcome, outcome', Outcome.Alike] at declared
        | ok q' =>
          rw [outcome, outcome'] at declared
          simp only [outcomes, act, apply, outcome, outcome', Except.map]
          exact .cons trivial (ih declared)

/-! ### Numbers of rows -/

/-- What a number of rows adds to the text of a statement: nothing if it is not declared, or else
the keyword and the number's digits. -/
inductive CountText (keyword : String) : Option Int → List Char → Prop
  | absent : CountText keyword none []
  | present {number : Int} (filled : (Value.decimal number).toList ≠ [])
    (digits : ∀ c ∈ (Value.decimal number).toList, c.isDigit = true) :
    CountText keyword (some number)
      (' ' :: keyword.toList ++ ' ' :: (Value.decimal number).toList)

/-- The query without its numbers of rows. What is left of it are names and values. -/
def Query.unnumbered (q : Query) : Query := { q with limit := none, offset := none }

/-- The compilation of a query next to that of the query without its numbers of rows: statements
differ by nothing or by the two clauses at the end, and conditions alone do not differ. -/
def Compiled.Numbers (q : Query) : Compiled → Compiled → Prop
  | .statement bare, .statement s => ∃ limit offset,
    (limit = [] ∧ offset = [] ∨
      CountText "LIMIT" q.limit limit ∧ CountText "OFFSET" q.offset offset) ∧
    s.sql.toList = bare.sql.toList.dropLast ++ limit ++ offset ++ [';'] ∧ s.params = bare.params
  | bare, compiled => bare = compiled

/-- Without its numbers of rows, what is compiled after any actions is put together from words and
from what the caller handed over. -/
theorem Builder.assembled_after {σ : Type} (executor? : Option (Executor σ)) (s : σ) {table : Value}
    {b : Builder} (made : ofTable table = .ok b) (run : List Action) {build : Build}
    {bare : Compiled}
    (returned : (b.after executor? run s).1.query.unnumbered.build build = .ok bare) :
    bare.AssembledFrom
      (Handed (table :: (run.flatMap Action.calls).flatMap Call.places ++ build.places) build) := by
  have sound := ((Reachable.fresh made).after executor? run s).sound
  have given := handed_after executor? s made run build
  -- Neither of the two looks at numbers of rows but for the sign.
  have bare_sound : (b.after executor? run s).1.query.unnumbered.Sound :=
    { sound with limit := nofun, offset := nofun }
  have bare_given : (b.after executor? run s).1.query.unnumbered.Given _ := { given with }
  refine bare_given.build bare_sound ⟨rfl, rfl⟩ (fun v place name named => ?_)
    (fun _ updates _ member => .field updates member) returned
  have handed := List.mem_append_right (table :: (run.flatMap Action.calls).flatMap Call.places) place
  exact ⟨.plain handed named, .shown handed named⟩

namespace Query

/-- A number that is not negative is written in digits alone. -/
theorem countText (keyword : String) (number : Option Int)
    (nonneg : ∀ n, number = some n → 0 ≤ n) :
    CountText keyword number (Fragment.following (countClause keyword number)) := by
  cases number with
  | none => exact .absent
  | some n =>
    obtain ⟨filled, digits⟩ := Value.decimal_of_nonneg n (nonneg n rfl)
    have written : CountText keyword (some n) _ := .present filled digits
    simpa [countClause, Fragment.following] using written

/-- A statement that ends with the tail of its query shows the two numbers and no other. -/
theorem numbers_tail (q : Query) (sound : q.Sound) (head : Fragment) (parts : List Fragment) :
    Compiled.Numbers q (.statement (.ofParts (head :: (parts ++ q.unnumbered.tail))))
      (.statement (.ofParts (head :: (parts ++ q.tail)))) := by
  have bare : q.unnumbered.tail = q.whereClause ++ q.orderClause := by
    rw [tail, unnumbered]
    simp only [countClause, List.append_nil]
    rfl
  refine ⟨Fragment.following (countClause "LIMIT" q.limit),
    Fragment.following (countClause "OFFSET" q.offset),
    .inr ⟨countText _ _ sound.limit, countText _ _ sound.offset⟩, ?_, ?_⟩
  · rw [Statement.sql_ofParts, Statement.sql_ofParts, List.dropLast_concat, bare, tail]
    simp
  · rw [Statement.params_ofParts, Statement.params_ofParts, bare, tail]
    simp [countClause_params]

theorem numbers_refl (q : Query) (compiled : Compiled) : compiled.Numbers q compiled := by
  cases compiled with
  | statement s =>
    have ends : s.sql.toList = s.sql.toList.dropLast ++ [';'] := by
      simp [Statement.sql, terminator]
    exact ⟨[], [], .inl ⟨rfl, rfl⟩, by simpa using ends, rfl⟩
  | conditions parts | noConditions => rfl

/-- Every compilation shows the numbers of rows as digits behind their keywords, or not at all. -/
theorem build_numbers (q : Query) (sound : q.Sound) (build : Build) (compiled : Compiled)
    (returned : q.build build = .ok compiled) :
    ∃ bare, q.unnumbered.build build = .ok bare ∧ bare.Numbers q compiled := by
  cases build with
  | select =>
    obtain ⟨s, selects, rfl⟩ := (Outcome.map_eq_ok_iff _ _ _).mp returned
    obtain ⟨_, rfl⟩ := (q.selection_eq_ok_iff s).mp selects
    exact ⟨_, rfl, q.numbers_tail sound _ _⟩
  | delete =>
    obtain ⟨s, deletes, rfl⟩ := (Outcome.map_eq_ok_iff _ _ _).mp returned
    obtain ⟨_, rfl⟩ := (q.deletion_eq_ok_iff s).mp deletes
    exact ⟨_, rfl, q.numbers_tail sound _ []⟩
  | update data =>
    obtain ⟨s, updates, rfl⟩ := (Outcome.map_eq_ok_iff _ _ _).mp returned
    obtain ⟨entries, rfl, filled, written, rfl⟩ := (q.update_eq_ok_iff data s).mp updates
    have keys : ∀ v ∈ entries.map (·.1) ++ q.unnumbered.rowNumbers, v.isWritable = true :=
      fun v member =>
        written v (List.mem_append_left _ (by simpa [unnumbered, rowNumbers] using member))
    have bare := (q.unnumbered.update_eq_ok_iff (.map entries) _).mpr
      ⟨entries, rfl, filled, keys, rfl⟩
    -- The entries are checked before the tail is looked at.
    exact ⟨_, (Outcome.map_eq_ok_iff _ _ _).mpr ⟨_, bare, rfl⟩, q.numbers_tail sound _ []⟩
  -- The other compilations do not look at numbers of rows.
  | count | conditions | insert data | upsert data conflict =>
    exact ⟨compiled, returned, q.numbers_refl compiled⟩

end Query

/-- Values stay out of the text. Two runs of calls and compilations on builders of one table, whose
arguments agree but for values, succeed and fail at the same steps and give the same texts, and the
values bound at one position are related as the values that were handed over in one place. With
`R v v'` for `v = v'` or a pair that was replaced, nothing but replaced values differs.

Numbers of rows are in the texts of a builder's statements as runs of digits at the end. What stands
before them is put together from the library's own words, which hold no digit, and from what the
caller handed over in the places of names, besides the fields of an update: no other number of the
caller gets there. -/
theorem Builder.values_stay_out_of_text {σ : Type} (executor? : Option (Executor σ)) (s : σ)
    {table : Value} {b : Builder} (made : ofTable table = .ok b) {actions actions' : List Action}
    (alike : List.Forall₂ (Action.Alike R) actions actions') :
    List.Forall₂ (Outcome.Alike (ActionResult.Alike R)) (b.outcomes executor? actions s)
      (b.outcomes executor? actions' s) ∧
    (∀ run build compiled, (b.after executor? run s).1.query.build build = .ok compiled →
      ∃ bare, (b.after executor? run s).1.query.unnumbered.build build = .ok bare ∧
        bare.Numbers (b.after executor? run s).1.query compiled ∧
        bare.AssembledFrom (Handed
          (table :: (run.flatMap Action.calls).flatMap Call.places ++ build.places) build)) ∧
    ∀ word ∈ Statement.words, ∀ c ∈ word.toList, c.isDigit = false := by
  refine ⟨?_, fun run build compiled returned => ?_, Statement.words_without_digits⟩
  · obtain ⟨name, _, equal⟩ := (Outcome.bind_eq_ok_iff _ _ _).mp made
    cases equal
    -- Both runs begin with the fresh query, which holds no values.
    have same : Query.Alike R { table := name.plain } { table := name.plain } :=
      ⟨rfl, rfl, rfl, .nil, .nil, .nil, rfl, rfl, rfl, rfl, rfl⟩
    exact outcomes_alike same executor? alike s
  · have sound := ((Reachable.fresh made).after executor? run s).sound
    obtain ⟨bare, compiles, numbers⟩ := Query.build_numbers _ sound build compiled returned
    exact ⟨bare, compiles, numbers, assembled_after executor? s made run compiles⟩

/-- Values in a nested group, among members and in row data, each replaced by the list that holds
it. The number of rows is given as a text with blanks and zeros. -/
theorem lists_stay_out_of_text :
    let run (place : Value → Value) : List Action := [
      .call (.compare .equal [.list [.map [(.text "a", place (.int 1))],
        .tuple [.text "b", .text ">", place .null]]]),
      .call (.isIn (.text "c") (.list [place (.int 2)])),
      .call (.limit (.text " 007 ")),
      .build .select,
      .build (.update (.map [(.text "x", place (.int 9))]))]
    let b : Builder := ⟨.text "t", { table := "t" }⟩
    let listed (v v' : Value) : Prop := v' = .list [v]
    let outcomes := b.outcomes (σ := Unit) none (run id) ()
    let outcomes' := b.outcomes (σ := Unit) none (run fun v => .list [v]) ()
    Builder.ofTable (.text "t") = .ok b ∧
    List.Forall₂ (Action.Alike listed) (run id) (run fun v => .list [v]) ∧
    List.Forall₂ (Outcome.Alike (ActionResult.Alike listed)) outcomes outcomes' ∧
    ((run id).flatMap Action.calls).flatMap Call.places = [.text "a", .text "b", .text "c"] ∧
    ∃ s, outcomes'[3]? = some (.ok (.compiled (.statement s))) ∧
      s.sql = "SELECT * FROM t WHERE a=? AND b>? AND c IN (?) LIMIT 7;" ∧
      ∃ bare : Compiled,
        bare.Numbers (b.after (σ := Unit) none (run fun v => .list [v]) ()).1.query (.statement s) ∧
        bare.AssembledFrom (Handed [.text "t", .text "a", .text "b", .text "c"] .select) := by
  intro run b listed outcomes outcomes'
  have made : Builder.ofTable (.text "t") = .ok b := rfl
  have alike : List.Forall₂ (Action.Alike listed) (run id) (run fun v => .list [v]) := by
    refine .cons (.call ⟨rfl, .single (.list rfl ?_)⟩) (.cons (.call ⟨rfl, .list ?_⟩)
      (.cons (.call rfl) (.cons (.build rfl) (.cons (.build (.map ?_)) .nil))))
    · exact .cons (.map (.cons ⟨rfl, rfl⟩ .nil)) (.cons (.tupleOfParts rfl (.triple rfl)) .nil)
    · exact .cons rfl .nil
    · exact .cons ⟨rfl, rfl⟩ .nil
  obtain ⟨same, texts, _⟩ := Builder.values_stay_out_of_text (σ := Unit) none () made alike
  obtain ⟨bare, _, numbers, assembled⟩ := texts (run fun v => .list [v]) .select _ rfl
  exact ⟨made, alike, same, rfl, _, rfl, by decide, bare, numbers, assembled⟩

/-- A number for a field of an update stands among the fields, where neither the library nor a name
of the caller puts it. -/
theorem Builder.numbered_field_is_written :
    let b : Builder := ⟨.text "t", { table := "t" }⟩
    ofTable (.text "t") = .ok b ∧ b.query.rowNumbers = [] ∧
    ∃ s, b.query.build (.update (.map [(.int 1, .text "x")])) = .ok (.statement s) ∧
      s.sql = "UPDATE t SET 1=?;" ∧ ¬Assembled (fun text => text = "t") s.sql := by
  refine ⟨rfl, rfl, _, rfl, by decide, fun assembled => ?_⟩
  obtain ⟨text, rfl, member⟩ := assembled.digit (c := '1') (by decide) (by decide)
  simp at member

end FluentSql
