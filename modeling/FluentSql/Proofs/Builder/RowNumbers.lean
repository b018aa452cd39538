import FluentSql.Proofs.Builder.FaultKinds
import FluentSql.Proofs.Statement.SelectText

/-!
# Numbers of rows

A limit or an offset may be given as an integer or as any of its numerals, with the same effect: the
number goes into its part of the query and from there, as a canonical literal, into the statements,
or it is refused as negative. Main result: `Builder.numerals_count_as_integers`.
-/

namespace FluentSql

def CountClause.call : CountClause → Value → Call
  | limit => .limit
  | offset => .offset

def CountClause.declaration : CountClause → Int → Declaration
  | limit => .limit
  | offset => .offset

/-- The query with another number in a clause, or with none. -/
def Query.withNumber (q : Query) (number : Option Int) : CountClause → Query
  | .limit => { q with limit := number }
  | .offset => { q with offset := number }

/-- A clause as it stands in a statement. -/
def CountClause.text (clause : CountClause) (number : Option Int) : List Char :=
  number.toList.flatMap fun n =>
    (" " ++ clause.keyword ++ " ").toList ++ (Value.decimal n).toList

/-- What stands behind a clause in a statement. -/
def CountClause.behind (q : Query) : CountClause → List Char
  | limit => offset.text q.offset ++ [';']
  | offset => [';']

/-- The compilations to a statement with a tail. -/
inductive Build.Tailed : Build → Prop
  | select : Tailed .select
  | update {entries : List (Value × Value)} (filled : entries ≠ []) : Tailed (.update (.map entries))
  | delete : Tailed .delete

/-! ### Calls -/

/-- A numeral and its integer are read alike. -/
theorem integerOf_numeral {text : String} {n : Int} (spelled : Numeral.Spells text.toList n)
    (clause : CountClause) : ∀ value ∈ [Value.text text, .int n], integerOf clause value = .ok n := by
  have reads := (Numeral.read?_eq_some_iff _ n).mpr spelled
  simp [integerOf, reads]

theorem rowCount_eq {clause : CountClause} {value : Value} {n : Int}
    (reads : integerOf clause value = .ok n) : rowCount clause value =
      if n < 0 then .error (Fault.negativeCount clause n value).worded else .ok n := by
  rw [rowCount, reads]
  rfl

theorem CountClause.read_call (clause : CountClause) (value : Value) :
    (clause.call value).read = (rowCount clause value).map clause.declaration := by
  cases clause <;> rfl

theorem CountClause.put_declaration (clause : CountClause) (n : Int) (q : Query) :
    (clause.declaration n).put q = q.withNumber (some n) clause := by
  cases clause <;> rfl

/-- What is read as an integer is put into the clause unless it is negative. -/
theorem Builder.act_count {σ : Type} (b : Builder) (executor? : Option (Executor σ)) (s : σ)
    {clause : CountClause} {value : Value} {n : Int} (reads : integerOf clause value = .ok n) :
    b.act executor? (.call (clause.call value)) s =
      if n < 0 then (.error (Fault.negativeCount clause n value).worded, b, s)
      else (.ok .builder, { b with query := b.query.withNumber (some n) clause }, s) := by
  have counted := rowCount_eq reads
  by_cases negative : n < 0
  · have fails : (clause.call value).read = .error (Fault.negativeCount clause n value).worded := by
      rw [clause.read_call, counted, if_pos negative]
      rfl
    rw [act_call, Query.onward_of_fault _ fails, fails, if_pos negative]
    rfl
  · have declares : (clause.call value).read = .ok (clause.declaration n) := by
      rw [clause.read_call, counted, if_neg negative]
      rfl
    rw [act_call, Query.onward_of_read _ declares, declares, if_neg negative,
      clause.put_declaration]
    rfl

/-! ### Statements -/

/-- The numbers of rows end a statement with a tail. -/
theorem Statement.sql_ofParts_tail (head : Fragment) (parts : List Fragment) (q : Query) :
    (ofParts (head :: (parts ++ q.tail))).sql.toList =
      head.sql.toList ++ Fragment.following (parts ++ q.whereClause ++ q.orderClause) ++
        (CountClause.limit.text q.limit ++ (CountClause.offset.text q.offset ++ [';'])) := by
  rw [sql_ofParts, Query.tail]
  simp only [Fragment.following_append, Query.following_countClause, List.append_assoc]
  rfl

/-- The numbers of a query are the one in this clause, if there is one, and the one in the other. -/
theorem Query.mem_rowNumbers_withNumber (q : Query) (number : Option Int) (clause : CountClause)
    (v : Value) : v ∈ (q.withNumber number clause).rowNumbers ↔
      (∃ m ∈ number, .int m = v) ∨ v ∈ (q.withNumber none clause).rowNumbers := by
  cases clause with
  | limit => simp [rowNumbers, withNumber]
  | offset => simp [rowNumbers, withNumber, or_comm]

/-- A number makes a compilation fail only if it is too long itself. -/
theorem Build.Tailed.withNumber_long_iff {build : Build} (tailed : build.Tailed) (q : Query)
    (number : Option Int) (clause : CountClause) :
    (q.withNumber number clause).WritesTooManyDigits build ↔
      (∃ m ∈ number, (Value.int m).isWritable = false) ∨
        (q.withNumber none clause).WritesTooManyDigits build := by
  -- The number of this clause is either among the texts or it is not there.
  have among (keys : List Value) :
      (∃ v ∈ keys ++ (q.withNumber number clause).rowNumbers, v.isWritable = false) ↔
        (∃ m ∈ number, (Value.int m).isWritable = false) ∨
          ∃ v ∈ keys ++ (q.withNumber none clause).rowNumbers, v.isWritable = false := by
    simp only [List.mem_append, q.mem_rowNumbers_withNumber number]
    constructor
    · rintro ⟨_, key | ⟨m, same, rfl⟩ | other, long⟩
      · exact .inr ⟨_, .inl key, long⟩
      · exact .inl ⟨m, same, long⟩
      · exact .inr ⟨_, .inr other, long⟩
    · rintro (⟨m, same, long⟩ | ⟨_, key | other, long⟩)
      · exact ⟨_, .inr (.inl ⟨m, same, rfl⟩), long⟩
      · exact ⟨_, .inl key, long⟩
      · exact ⟨_, .inr (.inr other), long⟩
  cases tailed with
  | select | delete => exact among []
  | @update entries filled =>
    simpa [Query.WritesTooManyDigits, filled] using among (entries.map (·.1))

/-- A statement with a tail is made from parts that do not depend on the numbers, if these can be
written. -/
theorem Build.Tailed.build_eq_ok_iff {build : Build} (tailed : build.Tailed) (q : Query)
    (clause : CountClause) : ∃ head parts, ∀ number statement,
      (q.withNumber number clause).build build = .ok (.statement statement) ↔
        ¬(q.withNumber number clause).WritesTooManyDigits build ∧
          statement = .ofParts (head :: (parts ++ (q.withNumber number clause).tail)) := by
  cases tailed with
  | select =>
    refine ⟨.text ("SELECT " ++ columnList q.columns ++ " FROM " ++ q.table),
      q.joins.map Join.clause, fun number statement => ?_⟩
    simp only [Query.build, Outcome.map_eq_ok_iff, Query.selection_eq_ok_iff,
      Query.WritesTooManyDigits, not_exists, not_and, Bool.not_eq_false, Compiled.statement.injEq,
      exists_eq_right]
    -- Neither clause is read before the tail.
    cases clause <;> rfl
  | @update entries filled =>
    refine ⟨.text ("UPDATE " ++ q.table ++ " SET ") ++
        Fragment.joined ", " (entries.map assignment), [], fun number statement => ?_⟩
    simp only [Query.build, Outcome.map_eq_ok_iff, Query.update_eq_ok_iff,
      Query.WritesTooManyDigits, not_exists, not_and, Bool.not_eq_false, Compiled.statement.injEq,
      exists_eq_right, Value.map.injEq, exists_eq_left', filled, ne_eq, not_false_eq_true, true_and]
    cases clause <;> rfl
  | delete =>
    refine ⟨.text ("DELETE FROM " ++ q.table), [], fun number statement => ?_⟩
    simp only [Query.build, Outcome.map_eq_ok_iff, Query.deletion_eq_ok_iff,
      Query.WritesTooManyDigits, not_exists, not_and, Bool.not_eq_false, Compiled.statement.injEq,
      exists_eq_right]
    cases clause <;> rfl

/-- A statement with a tail has one place for a number of rows, whatever the number. -/
theorem Build.Tailed.shows_number {build : Build} (tailed : build.Tailed) (q : Query)
    (clause : CountClause) : ∃ before, ∀ number,
      ((∃ statement, (q.withNumber number clause).build build = .ok (.statement statement)) ↔
        (∀ m ∈ number, m.natAbs < 10 ^ Numeral.maxDigits) ∧
          ¬(q.withNumber none clause).WritesTooManyDigits build) ∧
      ∀ statement, (q.withNumber number clause).build build = .ok (.statement statement) →
        statement.sql.toList = before ++ (clause.text number ++ clause.behind q) := by
  obtain ⟨head, parts, compiled⟩ := tailed.build_eq_ok_iff q clause
  have returns (number : Option Int) :
      (∃ statement, (q.withNumber number clause).build build = .ok (.statement statement)) ↔
        (∀ m ∈ number, m.natAbs < 10 ^ Numeral.maxDigits) ∧
          ¬(q.withNumber none clause).WritesTooManyDigits build := by
    simp only [compiled, exists_and_left, exists_eq, and_true, tailed.withNumber_long_iff q number,
      not_or, ← Value.isWritable_int_iff, not_exists, not_and, Bool.not_eq_false]
  let front := head.sql.toList ++ Fragment.following (parts ++ q.whereClause ++ q.orderClause)
  -- The limit stands before the offset, so that an offset has the limit in front of it.
  cases clause with
  | limit =>
    refine ⟨front, fun number => ⟨returns number, fun statement returned => ?_⟩⟩
    obtain ⟨_, rfl⟩ := (compiled number statement).mp returned
    exact Statement.sql_ofParts_tail head parts (q.withNumber number .limit)
  | offset =>
    refine ⟨front ++ CountClause.limit.text q.limit,
      fun number => ⟨returns number, fun statement returned => ?_⟩⟩
    obtain ⟨_, rfl⟩ := (compiled number statement).mp returned
    rw [List.append_assoc]
    exact Statement.sql_ofParts_tail head parts (q.withNumber number .offset)

/-! ### Numerals as numbers of rows -/

/-- A numeral in a clause has the same effect as its integer, whatever was there before. A number
that is not negative goes into the clause; every statement with a tail then has it in one place,
written in the canonical form, which reads back as the number. It never is the number that makes such
a compilation fail, but only what is too long besides it. A negative number is refused, and the
builder keeps what it had. -/
theorem Builder.numerals_count_as_integers {σ : Type} {text : String} {n : Int}
    (spelled : Numeral.Spells text.toList n) (clause : CountClause) (b : Builder)
    (executor? : Option (Executor σ)) (s : σ) :
    (0 ≤ n →
      (∀ value ∈ [Value.text text, .int n], b.act executor? (.call (clause.call value)) s =
        (.ok .builder, { b with query := b.query.withNumber (some n) clause }, s)) ∧
      (∀ build, Build.Tailed build → ∃ before, ∀ number,
        ((∃ statement,
            (b.query.withNumber number clause).build build = .ok (.statement statement)) ↔
          (∀ m ∈ number, m.natAbs < 10 ^ Numeral.maxDigits) ∧
            ¬(b.query.withNumber none clause).WritesTooManyDigits build) ∧
        ∀ statement, (b.query.withNumber number clause).build build = .ok (.statement statement) →
          statement.sql.toList = before ++ (clause.text number ++ clause.behind b.query)) ∧
      n.natAbs < 10 ^ Numeral.maxDigits ∧
      clause.text (some n) = (" " ++ clause.keyword ++ " ").toList ++ (Value.decimal n).toList ∧
      (∀ cs, Numeral.Canonical cs ∧ Numeral.Spells cs n ↔ cs = (Value.decimal n).toList) ∧
      Numeral.read? (Value.decimal n).toList = some n) ∧
    (n < 0 → ∀ value ∈ [Value.text text, .int n], ∃ fault,
      b.act executor? (.call (clause.call value)) s = (.error fault, b, s) ∧
      fault = .negativeCount clause n value ∧ fault.kind? = some .invalidArgument ∧
      fault.message = clause.keyword ++ " must not be negative, got " ++ Value.decimal n ++ ".") := by
  have small := spelled.natAbs_lt
  have reads := integerOf_numeral spelled clause
  constructor
  · intro nonneg
    refine ⟨fun value member => ?_, fun build tailed => tailed.shows_number b.query clause, small,
      List.flatMap_singleton .., Numeral.canonical_spells_iff nonneg small,
      (Numeral.read?_eq_some_iff _ n).mpr (Numeral.spells_decimal small)⟩
    rw [b.act_count executor? s (reads value member), if_neg (by omega)]
  -- The digits that were read are few enough to be written in the message.
  · intro negative value member
    refine ⟨_, ?_, rfl, rfl, rfl⟩
    have writable : (Fault.negativeCount clause n value).isWritable = true := by
      simpa [Fault.isWritable, Fault.shown] using (Value.isWritable_int_iff n).mpr small
    rw [b.act_count executor? s (reads value member), if_pos negative,
      Fault.worded_of_isWritable writable]

/-- Digits of three scripts, leading zeros, a low line and white space around still make a number, and
a negative one is refused. -/
theorem Builder.mixed_numerals_count :
    let b : Builder := ⟨.text "t", { table := "t", limit := some 10, offset := some 2 }⟩
    let counted : Builder := ⟨.text "t", { table := "t", limit := some 47, offset := some 2 }⟩
    let positive := "\u3000+0_0\u0664\u096D\n"
    let negative := "-\u0663 "
    Numeral.Spells positive.toList 47 ∧ Numeral.Spells negative.toList (-3) ∧
    b.act none (.call (.limit (.text positive))) () = (.ok .builder, counted, ()) ∧
    counted.query.select.sql = "SELECT * FROM t LIMIT 47 OFFSET 2;" ∧
    b.act none (.call (.offset (.text negative))) () =
      (.error (.negativeCount .offset (-3) (.text negative)), b, ()) := by
  intro b counted positive negative
  have first : Numeral.Spells positive.toList 47 := (Numeral.read?_eq_some_iff _ _).mp (by decide)
  have second : Numeral.Spells negative.toList (-3) := (Numeral.read?_eq_some_iff _ _).mp (by decide)
  obtain ⟨calls, _⟩ := (Builder.numerals_count_as_integers first .limit b none ()).1 (by decide)
  obtain ⟨_, refused, rfl, _⟩ := (Builder.numerals_count_as_integers second .offset b none ()).2
    (by decide) (.text negative) List.mem_cons_self
  exact ⟨first, second, calls (.text positive) List.mem_cons_self, by decide, refused⟩

end FluentSql
