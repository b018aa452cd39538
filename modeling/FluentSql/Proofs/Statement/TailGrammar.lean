import FluentSql.Proofs.Statement.SelectText

/-!
# The grammar of tails

Behind the table and the joins of a selection stand conditions, an order and numbers of rows, each of
which may be missing. SQL takes an offset behind a limit only, but a query can have an offset without
a limit. Main result: `Builder.Reachable.tail_in_grammar_iff`.
-/

namespace FluentSql

/-! ### Words -/

namespace Tail

/-- A run of digits that is not empty. -/
def Numeral (n : List Char) : Prop := n ≠ [] ∧ ∀ c ∈ n, c.isDigit = true

/-- The conditions behind their keyword, at least one, or nothing. -/
inductive Conditions : List Char → Prop
  | none : Conditions []
  | some {cs : List Condition} (filled : cs ≠ []) (known : ∀ c ∈ cs, c.test.Known) :
    Conditions (" WHERE ".toList ++ separatedText " AND " (fun c => c.text.toList) cs)

/-- A field and a direction behind their keyword, or nothing. -/
inductive Ordering : List Char → Prop
  | none : Ordering []
  | some (field : String) (direction : SortDirection) :
    Ordering (" ORDER BY ".toList ++ (field.toList ++ " ".toList ++ direction.keyword.toList))

/-- A numeral behind its keyword, or nothing. -/
inductive Number (keyword : String) : List Char → Prop
  | none : Number keyword []
  | some {n : List Char} (numeral : Numeral n) : Number keyword (keyword.toList ++ n)

/-- The numbers of rows as SQL takes them: a limit, behind which an offset may stand, or nothing. -/
inductive LimitedRows : List Char → Prop
  | none : LimitedRows []
  | limit {n offset : List Char} (numeral : Numeral n) (behind : Number " OFFSET " offset) :
    LimitedRows (" LIMIT ".toList ++ n ++ offset)

/-- The numbers of rows as a query may have them: a limit and an offset, each on its own. -/
inductive FreeRows : List Char → Prop
  | mk {limit offset : List Char} (first : Number " LIMIT " limit)
    (second : Number " OFFSET " offset) : FreeRows (limit ++ offset)

/-- A whole tail, up to the terminator, with numbers of rows of the given form. -/
inductive Word (Rows : List Char → Prop) : List Char → Prop
  | mk {conditions order rows : List Char} (chain : Conditions conditions) (ordering : Ordering order)
    (numbers : Rows rows) : Word Rows (conditions ++ order ++ rows ++ ";".toList)

/-! ### Ends of texts -/

/-- The last character, if there is one, is no digit. -/
def NoDigitLast (r : List Char) : Prop := ∀ c ∈ r.getLast?, c.isDigit = false

theorem NoDigitLast.append {l r : List Char} (first : NoDigitLast l) (second : NoDigitLast r) :
    NoDigitLast (l ++ r) := by
  intro c last
  rw [List.getLast?_append] at last
  rcases Option.or_eq_some_iff.mp last with here | ⟨_, before⟩
  · exact second c here
  · exact first c before

theorem noDigitLast_concat (l : List Char) {c : Char} (plain : c.isDigit = false) :
    NoDigitLast (l ++ [c]) := by
  simp [NoDigitLast, plain]

theorem Numeral.digit_last {n : List Char} (numeral : Numeral n) (l : List Char) :
    ¬NoDigitLast (l ++ n) := by
  intro plain
  have last := List.getLast?_eq_some_getLast numeral.1
  have digit := numeral.2 _ (List.getLast_mem numeral.1)
  rw [plain _ (by rw [List.getLast?_append_of_ne_nil l numeral.1]; exact last)] at digit
  cases digit

/-- A numeral at the end is cut off where the digits begin. -/
theorem NoDigitLast.cut {l r n m : List Char} (first : NoDigitLast l) (second : NoDigitLast r)
    (left : Numeral n) (right : Numeral m) (equal : l ++ n = r ++ m) : l = r := by
  -- Names may hold digits, so that the numeral can only be found from behind.
  have dropped {x k : List Char} (plain : NoDigitLast x) (numeral : Numeral k) :
      (x ++ k).rdropWhile Char.isDigit = x := by
    have digits : ∀ c ∈ k.reverse, c.isDigit = true := by
      simpa using numeral.2
    have stays : x.rdropWhile Char.isDigit = x := by
      rw [List.rdropWhile_eq_self_iff]
      intro filled
      simp [plain _ (List.getLast?_eq_some_getLast filled)]
    rw [List.rdropWhile, List.reverse_append, List.dropWhile_append_of_pos digits]
    exact stays
  rw [← dropped first left, equal, dropped second right]

/-- A condition ends in a question mark, a parenthesis or a word. -/
theorem noDigitLast_condition (c : Condition) : NoDigitLast c.text.toList := by
  obtain ⟨front, last, ends, plain⟩ : ∃ front last, c.test.text.toList = front ++ [last] ∧
      last.isDigit = false := by
    cases c.test with
    | compare operator => exact ⟨operator.toList, '?', String.toList_append, rfl⟩
    | isIn size => exact ⟨" IN (".toList ++ (marks size).toList, ')', by simp [Test.text], rfl⟩
    | isNotIn size =>
      exact ⟨" NOT IN (".toList ++ (marks size).toList, ')', by simp [Test.text], rfl⟩
    | isNull => exact ⟨" IS NUL".toList, 'L', rfl, rfl⟩
    | isNotNull => exact ⟨" IS NOT NUL".toList, 'L', rfl, rfl⟩
  rw [Condition.text, String.toList_append, ends, ← List.append_assoc]
  exact noDigitLast_concat _ plain

theorem Conditions.noDigitLast {conditions : List Char} (chain : Conditions conditions) :
    NoDigitLast conditions := by
  cases chain with
  | none => exact nofun
  | @some cs filled _ =>
    have others (cs : List Condition) :
        NoDigitLast (cs.flatMap fun c => " AND ".toList ++ c.text.toList) := by
      -- By induction on the chain: each condition stands at the end of its own part.
      induction cs with
      | nil => exact nofun
      | cons c cs ih =>
        rw [List.flatMap_cons]
        exact ((noDigitLast_concat " AND".toList rfl).append (noDigitLast_condition c)).append ih
    obtain ⟨c, cs, rfl⟩ := List.exists_cons_of_ne_nil filled
    rw [separatedText_cons]
    exact (noDigitLast_concat " WHERE".toList rfl).append
      ((noDigitLast_condition c).append (others cs))

theorem Ordering.noDigitLast {order : List Char} (ordering : Ordering order) :
    NoDigitLast order := by
  cases ordering with
  | none => exact nofun
  | some field direction =>
    have keyword : NoDigitLast direction.keyword.toList := by
      cases direction
      · exact noDigitLast_concat "AS".toList rfl
      · exact noDigitLast_concat "DES".toList rfl
    rw [← List.append_assoc, ← List.append_assoc]
    exact (noDigitLast_concat (" ORDER BY ".toList ++ field.toList) rfl).append keyword

/-! ### Numbers of rows -/

/-- With a limit and an offset each on its own, a tail is in the grammar unless there is an offset
alone. -/
theorem word_limitedRows_iff {conditions order limit offset : List Char}
    (chain : Conditions conditions) (ordering : Ordering order) (first : Number " LIMIT " limit)
    (second : Number " OFFSET " offset) :
    Word LimitedRows (conditions ++ order ++ (limit ++ offset) ++ ";".toList) ↔
      offset = [] ∨ limit ≠ [] := by
  constructor
  · intro word
    by_contra alone
    obtain ⟨some_offset, no_limit⟩ := not_or.mp alone
    obtain rfl := not_not.mp no_limit
    cases second with
    | none => exact some_offset rfl
    | @some n numeral =>
      generalize text : conditions ++ order ++ ([] ++ (" OFFSET ".toList ++ n)) ++ ";".toList = t
        at word
      obtain @⟨conditions', order', rows, chain', ordering', numbers⟩ := word
      have plain := chain.noDigitLast.append ordering.noDigitLast
      have plain' := chain'.noDigitLast.append ordering'.noDigitLast
      have offset_last (l : List Char) : NoDigitLast (l ++ " OFFSET ".toList) := by
        rw [show " OFFSET ".toList = " OFFSET".toList ++ [' '] from rfl, ← List.append_assoc]
        exact noDigitLast_concat _ rfl
      have equal := List.append_cancel_right text
      rw [List.nil_append, ← List.append_assoc] at equal
      cases numbers with
      | none =>
        rw [List.append_nil] at equal
        exact numeral.digit_last _ (equal ▸ plain')
      | @limit m behind numeral' offset' =>
        cases offset' with
        | none =>
          -- The two keywords differ in the last letter but one.
          rw [List.append_nil, ← List.append_assoc] at equal
          have limit_last : NoDigitLast (conditions' ++ order' ++ " LIMIT ".toList) :=
            plain'.append (noDigitLast_concat " LIMIT".toList rfl)
          have keywords := (offset_last _).cut limit_last numeral numeral' equal
          have letters := congrArg (fun r => r.reverse.take 3) keywords
          simp at letters
        | @some k numeral'' =>
          -- Before the last keyword stands the numeral of the limit.
          rw [← List.append_assoc, ← List.append_assoc, ← List.append_assoc] at equal
          have keywords := (offset_last _).cut (offset_last _) numeral numeral'' equal
          exact numeral'.digit_last _ (List.append_cancel_right keywords ▸ plain)
  · intro limited
    refine .mk chain ordering ?_
    cases first with
    | none =>
      obtain rfl : offset = [] := by simpa using limited
      exact .none
    | some numeral => exact .limit numeral second

end Tail

/-! ### Selections -/

namespace Query

/-- Operators that exist make tests that exist. -/
theorem Sound.known {q : Query} (sound : q.Sound) : ∀ c ∈ q.asked, c.test.Known := by
  intro c member
  simp only [asked, List.mem_append, List.mem_map] at member
  rcases member with (((compared | tested) | tested) | tested) | tested
  · obtain ⟨comparison, here, rfl⟩ := compared
    exact sound.operators comparison here
  all_goals
    obtain ⟨_, _, rfl⟩ := tested
    exact trivial

theorem conditions_headed {cs : List Condition} (known : ∀ c ∈ cs, c.test.Known) :
    Tail.Conditions (headedText " WHERE " " AND " (fun c => c.text.toList) cs) := by
  cases cs with
  | nil => exact .none
  | cons c cs => exact .some (List.cons_ne_nil c cs) known

theorem ordering_of (order : Option Order) :
    Tail.Ordering (order.toList.flatMap fun o => " ORDER BY ".toList ++ o.text) := by
  cases order with
  | none => exact .none
  | some o =>
    simp only [Option.toList_some, List.flatMap_singleton, Order.text]
    rw [← List.append_assoc o.field.toList]
    exact .some o.field o.direction

theorem number_of (keyword : String) {number : Option Int} (nonneg : ∀ n ∈ number, 0 ≤ n) :
    Tail.Number keyword
      (number.toList.flatMap fun n => keyword.toList ++ (Value.decimal n).toList) := by
  cases number with
  | none => exact .none
  | some n =>
    rw [Option.toList_some, List.flatMap_singleton]
    exact .some (Value.decimal_of_nonneg n (nonneg n rfl))

theorem number_eq_nil_iff {keyword : String} (filled : keyword.toList ≠ []) (number : Option Int) :
    number.toList.flatMap (fun n => keyword.toList ++ (Value.decimal n).toList) = [] ↔
      number = none := by
  cases number <;> simp [filled]

end Query

/-- What stands behind the table and the joins of a selection is conditions, an order and numbers of
rows. It is in the grammar exactly if there is no offset without a limit. -/
theorem Builder.Reachable.tail_in_grammar_iff {b : Builder} (reachable : b.Reachable) :
    let q := b.query
    let head := ("SELECT " ++ columnList q.columns ++ " FROM " ++ q.table).toList ++
      q.joins.flatMap Join.text
    ∃ tail, q.select.sql.toList = head ++ tail ∧ Tail.Word Tail.FreeRows tail ∧
      (Tail.Word Tail.LimitedRows tail ↔ q.offset = none ∨ q.limit ≠ none) := by
  intro q head
  have sound : q.Sound := reachable.sound
  have chain := Query.conditions_headed sound.known
  have ordering := Query.ordering_of q.order
  have limit := Query.number_of " LIMIT " sound.limit
  have offset := Query.number_of " OFFSET " sound.offset
  refine ⟨_, ?_, .mk chain ordering (.mk limit offset), ?_⟩
  · rw [Query.select_sql]
    simp [head, Query.behind, Behind.text]
  · rw [Tail.word_limitedRows_iff chain ordering limit offset,
      Query.number_eq_nil_iff (by simp), ne_eq, Query.number_eq_nil_iff (by simp)]

/-- Every clause at once, the offset behind the limit. -/
theorem Builder.full_tail_is_word :
    let conditions : Query :=
      { table := "t", comparisons := [⟨"a", "=", .null⟩], nulls := [.text "b 1"] }
    let b : Builder := ⟨.text "t", { conditions with
      order := some ⟨"c2", .descending⟩, limit := some 10, offset := some 0 }⟩
    let tail := " WHERE a=? AND b 1 IS NULL ORDER BY c2 DESC LIMIT 10 OFFSET 0;"
    b.Reachable ∧ b.query.select.sql = "SELECT * FROM t" ++ tail ∧
    Tail.Word Tail.LimitedRows tail.toList := by
  intro conditions b tail
  -- The clauses are declared in another order than they are written.
  have made : Builder.ofTable (.text "t") = .ok ⟨.text "t", { table := "t" }⟩ := rfl
  have first := (Builder.Reachable.fresh made).act (σ := Unit) none (.call (.offset (.int 0))) ()
  have second := first.act (σ := Unit) none (.call (.limit (.text "10"))) ()
  have third := second.act (σ := Unit) none (.call (.isNull [.text "b 1"])) ()
  have fourth := third.act (σ := Unit) none (.call (.order (.text "c2") (.text "desc"))) ()
  have reachable : b.Reachable :=
    fourth.act (σ := Unit) none (.call (.compare .equal [.text "a", .null])) ()
  obtain ⟨found, split, _, limited⟩ := reachable.tail_in_grammar_iff
  have text : b.query.select.sql = "SELECT * FROM t" ++ tail := by decide
  have head : ("SELECT " ++ columnList b.query.columns ++ " FROM " ++ b.query.table).toList ++
    b.query.joins.flatMap Join.text = "SELECT * FROM t".toList := by decide
  rw [text, head, String.toList_append] at split
  obtain rfl := List.append_cancel_left split
  exact ⟨reachable, text, limited.mpr (.inr (Option.some_ne_none 10))⟩

/-- An offset and nothing else is enough to leave the grammar. -/
theorem Builder.lone_offset_is_no_word :
    let b : Builder := ⟨.text "t", { table := "t", offset := some 5 }⟩
    b.Reachable ∧ b.query.select.sql = "SELECT * FROM t" ++ " OFFSET 5;" ∧
    ¬Tail.Word Tail.LimitedRows " OFFSET 5;".toList := by
  intro b
  have made : Builder.ofTable (.text "t") = .ok ⟨.text "t", { table := "t" }⟩ := rfl
  have reachable : b.Reachable :=
    (Builder.Reachable.fresh made).act (σ := Unit) none (.call (.offset (.int 5))) ()
  have numeral : Tail.Numeral "5".toList :=
    ⟨List.cons_ne_nil _ _, List.forall_mem_singleton.mpr rfl⟩
  refine ⟨reachable, by decide, fun word => ?_⟩
  rcases (Tail.word_limitedRows_iff .none .none .none (.some numeral)).mp word with none | some
  · cases none
  · exact some rfl

end FluentSql
