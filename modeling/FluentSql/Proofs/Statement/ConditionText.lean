import FluentSql.Proofs.Statement.Text
import FluentSql.Query.Arguments

/-!
# The text of conditions

A condition can be read back from its text, but for the values: its field, what it asks of the field,
and how many values it binds.
-/

namespace FluentSql

/-! ### Tests -/

/-- What a condition asks of its field, but for the values. -/
inductive Test where
  | compare (operator : String)
  | isIn (size : Nat)
  | isNotIn (size : Nat)
  | isNull
  | isNotNull
  deriving DecidableEq

def Test.operator? : Test → Option String
  | compare operator => some operator
  | _ => none

def Test.inside? : Test → Option Nat
  | isIn size => some size
  | _ => none

def Test.outside? : Test → Option Nat
  | isNotIn size => some size
  | _ => none

/-- Question marks with commas between them. -/
def marks (size : Nat) : String := ",".intercalate (List.replicate size "?")

theorem marks_succ (size : Nat) :
    (marks (size + 1)).toList = '?' :: (List.replicate size [',', '?']).flatten := by
  rw [marks, toList_intercalate, List.replicate_succ, separatedText_cons, List.flatMap_replicate]
  simp

theorem isMark_of_mem_marks (size : Nat) (c : Char) (member : c ∈ (marks size).toList) :
    (c != ')') = true := by
  cases size with
  | zero => simp [marks] at member
  | succ size =>
    rw [marks_succ] at member
    rcases List.mem_cons.mp member with rfl | member
    · decide
    · simp only [List.mem_flatten, List.mem_replicate] at member
      obtain ⟨pair, ⟨_, rfl⟩, here⟩ := member
      rcases (by simpa using here : c = ',' ∨ c = '?') with rfl | rfl <;> decide

/-- The number of values can be read off the question marks. -/
theorem marks_injective (m n : Nat) (equal : marks m = marks n) : m = n := by
  -- Counting the marks gives the number back.
  have slots (size : Nat) : (marks size).toList.count '?' = size := by
    cases size with
    | zero => simp [marks]
    | succ size => simp [marks_succ, List.count_flatten]
  rw [← slots m, equal, slots n]

namespace Test

def text : Test → String
  | compare operator => operator ++ "?"
  | isIn size => " IN (" ++ (marks size ++ ")")
  | isNotIn size => " NOT IN (" ++ (marks size ++ ")")
  | isNull => " IS NULL"
  | isNotNull => " IS NOT NULL"

/-- The operator, if there is one, is one of those that predicates may name. -/
def Known : Test → Prop
  | compare name => ∃ operator : Operator, name = operator.symbol
  | _ => True

/-- How tests begin, by their kinds. -/
def kinds : List (List String) :=
  [["=", "!", "<", ">"], [" IN ("], [" NOT IN ("], [" IS NULL"], [" IS NOT NULL"]]

/-- How tests of the same kind begin. -/
def openings : Test → List String
  | compare _ => ["=", "!", "<", ">"]
  | isIn _ => [" IN ("]
  | isNotIn _ => [" NOT IN ("]
  | isNull => [" IS NULL"]
  | isNotNull => [" IS NOT NULL"]

theorem openings_mem_kinds (t : Test) : t.openings ∈ kinds := by
  cases t <;> simp [openings, kinds]

/-- A test begins in one of the ways of its kind. -/
theorem begins (t : Test) (known : t.Known) (r : List Char) :
    Opens t.openings (t.text.toList ++ r) := by
  apply Opens.append
  cases t with
  | compare name =>
    obtain ⟨operator, rfl⟩ := known
    cases operator <;> simp [openings, text, Opens, Operator.symbol]
  | isIn size | isNotIn size =>
    rw [text, String.toList_append]
    exact opens_append _ _ (by simp [openings]) _
  | isNull | isNotNull => exact ⟨_, List.mem_singleton_self _, List.prefix_refl _⟩

/-- Tests of different kinds begin differently. -/
theorem openings_eq_of_text_eq (t t' : Test) (known : t.Known) (known' : t'.Known)
    (r r' : List Char) (equal : t.text.toList ++ r = t'.text.toList ++ r') :
    t.openings = t'.openings := by
  have apart : ∀ kind ∈ kinds, ∀ kind' ∈ kinds, kind = kind' ∨ Apart kind kind' := by decide
  -- One text cannot begin in two ways that exclude each other.
  refine (apart _ t.openings_mem_kinds _ t'.openings_mem_kinds).resolve_right fun apart => ?_
  have opens := t.begins known r
  rw [equal] at opens
  exact apart.not_opens opens (t'.begins known' r')

theorem delimited_size (keywords : String) (m n : Nat) (r r' : List Char)
    (equal : keywords.toList ++ ((marks m).toList ++ (")".toList ++ r)) =
      keywords.toList ++ ((marks n).toList ++ (")".toList ++ r'))) : m = n ∧ r = r' := by
  have upTo := Delimited.upTo (show ")".toList = [')'] by decide)
  obtain ⟨same, rest⟩ := upTo (marks m) (marks n) _ _ (isMark_of_mem_marks m)
    (isMark_of_mem_marks n) (opens_append ")" _ (by simp) r) (opens_append ")" _ (by simp) r')
    (List.append_cancel_left equal)
  exact ⟨marks_injective m n same, List.append_cancel_left rest⟩

/-- A test shows its own end. -/
theorem delimited (next : List String) : Delimited Known (fun t => t.text.toList) next := by
  intro t t' r r' known known' _ _ equal
  -- Both tests are of one kind; the cases of different kinds go by their openings.
  have kind := openings_eq_of_text_eq t t' known known' r r' equal
  cases t with
  | compare name =>
    cases t' with
    | compare name' =>
      -- An operator that begins another one is told from it by the mark behind it.
      have noMark (operator : Operator) : ∀ d ∈ operator.symbol.toList, (d != '?') = true := by
        exact List.all_eq_true.mp (by cases operator <;> decide)
      obtain ⟨operator, rfl⟩ := known
      obtain ⟨operator', rfl⟩ := known'
      simp only [text, String.toList_append, List.append_assoc] at equal
      have upTo := Delimited.upTo (show "?".toList = ['?'] by decide)
      obtain ⟨same, rest⟩ := upTo _ _ _ _ (noMark operator) (noMark operator')
        (opens_append "?" _ (by simp) r) (opens_append "?" _ (by simp) r') equal
      exact ⟨by rw [same], List.append_cancel_left rest⟩
    | _ => simp [openings] at kind
  | isIn size =>
    cases t' with
    | isIn size' =>
      simp only [text, String.toList_append, List.append_assoc] at equal
      obtain ⟨rfl, rfl⟩ := delimited_size _ size size' r r' equal
      exact ⟨rfl, rfl⟩
    | _ => simp [openings] at kind
  | isNotIn size =>
    cases t' with
    | isNotIn size' =>
      simp only [text, String.toList_append, List.append_assoc] at equal
      obtain ⟨rfl, rfl⟩ := delimited_size _ size size' r r' equal
      exact ⟨rfl, rfl⟩
    | _ => simp [openings] at kind
  | isNull =>
    cases t' with
    | isNull => exact ⟨rfl, List.append_cancel_left equal⟩
    | _ => simp [openings] at kind
  | isNotNull =>
    cases t' with
    | isNotNull => exact ⟨rfl, List.append_cancel_left equal⟩
    | _ => simp [openings] at kind

end Test

/-- A condition of a statement: a field and what is asked of it. -/
structure Condition where
  field : String
  test : Test
  deriving DecidableEq

namespace Condition

def text (c : Condition) : String := c.field ++ c.test.text

/-- A condition on a plain name by a test that exists. -/
def Plain (c : Condition) : Prop := PlainName c.field ∧ c.test.Known

/-- A condition on a plain name can be read back: its field ends where its test begins. -/
theorem delimited (next : List String) : Delimited Plain (fun c => c.text.toList) next := by
  rintro ⟨field, test⟩ ⟨field', test'⟩ r r' ⟨plain, known⟩ ⟨plain', known'⟩ opens opens' equal
  simp only [text, String.toList_append, List.append_assoc] at equal
  -- Every test begins with a character that no name holds, so that the field ends there.
  have stops : StopsNames Test.kinds.flatten := by decide
  have begins (t : Test) (known : t.Known) (rest : List Char) :
      Opens Test.kinds.flatten (t.text.toList ++ rest) :=
    (t.begins known rest).mono fun _ here => List.mem_flatten_of_mem t.openings_mem_kinds here
  obtain ⟨rfl, rest⟩ := Delimited.name stops field field' _ _ plain plain' (begins test known r)
    (begins test' known' r') equal
  obtain ⟨rfl, rfl⟩ := Test.delimited next test test' r r' known known' opens opens' rest
  exact ⟨rfl, rfl⟩

end Condition

namespace Query

/-- The conditions of a query without their values, in the order of the statement. -/
def asked (q : Query) : List Condition :=
  q.comparisons.map (fun c => ⟨c.field, .compare c.operator⟩) ++
  q.memberships.map (fun m => ⟨m.field, .isIn m.members.length⟩) ++
  q.exclusions.map (fun m => ⟨m.field, .isNotIn m.members.length⟩) ++
  q.nulls.map (fun name => ⟨name.shown, .isNull⟩) ++
  q.notNulls.map (fun name => ⟨name.shown, .isNotNull⟩)

end Query

theorem Fragment.sql_slots (values : List Value) :
    (slots values).sql = marks values.length := by
  apply String.toList_inj.mp
  rw [slots, sql_joined, marks, toList_intercalate, separatedText, separatedText, List.map_map,
    List.map_replicate]
  congr 1
  induction values with
  | nil => rfl
  | cons v vs ih => simp [List.replicate_succ, ih]

/-- What stands in a statement of the conditions does not depend on their values. -/
theorem Query.conditions_sql (q : Query) :
    q.conditions.map Fragment.sql = q.asked.map Condition.text := by
  have comparison (c : Comparison) :
      c.condition.sql = (⟨c.field, .compare c.operator⟩ : Condition).text := by
    simp [Comparison.condition, Condition.text, Test.text, String.append_assoc]
  have isIn (m : Membership) :
      (m.condition "IN").sql = (⟨m.field, .isIn m.members.length⟩ : Condition).text := by
    simp [Membership.condition, Condition.text, Test.text, Fragment.sql_slots, String.append_assoc]
  have isNotIn (m : Membership) :
      (m.condition "NOT IN").sql = (⟨m.field, .isNotIn m.members.length⟩ : Condition).text := by
    simp [Membership.condition, Condition.text, Test.text, Fragment.sql_slots, String.append_assoc]
  simp only [conditions, asked, List.map_append, List.map_map, Function.comp_def, comparison, isIn,
    isNotIn, Fragment.sql_text, Condition.text, Test.text]

end FluentSql
