import FluentSql.Proofs.Outcome
import FluentSql.Query.Call

/-!
# Declarations

What a call declares is read from its arguments alone, and goes into one part of the query. So it
does not matter to a call which parts other calls have filled: declarations of different categories
commute, one of a category that holds a single value replaces the one before, and taking everything
back replaces them all.
-/

namespace FluentSql

/-- The parts of a query that are declared independently of each other. -/
inductive Category where
  | columns
  | joins
  | comparisons
  | memberships
  | exclusions
  | nulls
  | notNulls
  | order
  | limit
  | offset
  deriving DecidableEq, Repr

/-- The category of a call. Taking everything back belongs to none. -/
def Call.category? : Call → Option Category
  | .select _ => some .columns
  | .join .. => some .joins
  | .compare .. | .byId _ => some .comparisons
  | .isIn .. => some .memberships
  | .isNotIn .. => some .exclusions
  | .isNull _ => some .nulls
  | .isNotNull _ => some .notNulls
  | .order .. => some .order
  | .limit _ => some .limit
  | .offset _ => some .offset
  | .reset => none

/-- Whether a declaration of the category takes the place of the one before. -/
def Category.replaces : Category → Bool
  | columns | order | limit | offset => true
  | joins | comparisons | memberships | exclusions | nulls | notNulls => false

/-- What a call declares, once its arguments are read. -/
inductive Declaration where
  | columns (columns : List Column)
  | join (join : Join)
  | comparisons (more : List Comparison)
  | membership (test : Membership)
  | exclusion (test : Membership)
  | nulls (fields : List Name)
  | notNulls (fields : List Name)
  | order (order : Order)
  | limit (number : Int)
  | offset (number : Int)
  | reset

namespace Declaration

def category? : Declaration → Option Category
  | columns _ => some .columns
  | join _ => some .joins
  | comparisons _ => some .comparisons
  | membership _ => some .memberships
  | exclusion _ => some .exclusions
  | nulls _ => some .nulls
  | notNulls _ => some .notNulls
  | order _ => some .order
  | limit _ => some .limit
  | offset _ => some .offset
  | reset => none

def put (q : Query) : Declaration → Query
  | columns found => { q with columns := found }
  | join found => { q with joins := q.joins ++ [found] }
  | comparisons more => { q with comparisons := q.comparisons ++ more }
  | membership test => { q with memberships := q.memberships ++ [test] }
  | exclusion test => { q with exclusions := q.exclusions ++ [test] }
  | nulls fields => { q with nulls := q.nulls ++ fields }
  | notNulls fields => { q with notNulls := q.notNulls ++ fields }
  | order found => { q with order := some found }
  | limit number => { q with limit := some number }
  | offset number => { q with offset := some number }
  | reset => { table := q.table }

/-- Declarations of different categories touch different parts of the query. -/
theorem put_comm (q : Query) {d e : Declaration} {k l : Category} (left : d.category? = some k)
    (right : e.category? = some l) (differ : k ≠ l) : e.put (d.put q) = d.put (e.put q) := by
  cases d <;> cases left <;> cases e <;> cases right <;> first | rfl | exact absurd rfl differ

/-- Where a category holds one declaration, the later one is left. -/
theorem put_put (q : Query) {d e : Declaration} {k : Category} (left : d.category? = some k)
    (right : e.category? = some k) (replaces : k.replaces = true) :
    e.put (d.put q) = e.put q := by
  cases d <;> cases left <;> cases e <;> cases right <;> first | rfl | cases replaces

theorem reset_put (q : Query) (d : Declaration) : reset.put (d.put q) = reset.put q := by
  cases d <;> rfl

end Declaration

/-- Reads what a call declares from its arguments. -/
def Call.read : Call → Except Fault Declaration
  | .select arguments => (Column.listOf arguments).map .columns
  | .join kind table condition => (Join.ofArguments kind table condition).map .join
  | .compare default arguments => (Predicate.comparisons default arguments).map .comparisons
  | .isIn field values => (Membership.ofArguments field values).map .membership
  | .isNotIn field values => (Membership.ofArguments field values).map .exclusion
  | .isNull arguments => (NullField.listOf arguments).map .nulls
  | .isNotNull arguments => (NullField.listOf arguments).map .notNulls
  | .order field direction => (Order.ofArguments field direction).map .order
  | .limit value => (rowCount .limit value).map .limit
  | .offset value => (rowCount .offset value).map .offset
  | .byId value =>
    (Predicate.comparisons .equal [.map [(.text "id", value)]]).map .comparisons
  | .reset => .ok .reset

/-- A call reads its arguments without looking at the query, and puts there what it has read. -/
theorem Query.apply_eq_read (q : Query) (call : Call) :
    q.apply call = call.read.map fun d => d.put q := by
  have read {α : Type} (x : Except Fault α) (f : α → Declaration) :
      (x >>= fun a => pure ((f a).put q)) = (x.map f).map fun d => d.put q := by
    cases x <;> rfl
  -- Each call reads one thing and puts it into one place.
  cases call with
  | reset => rfl
  | select => exact read _ .columns
  | join => exact read _ .join
  | compare | byId => exact read _ .comparisons
  | isIn => exact read _ .membership
  | isNotIn => exact read _ .exclusion
  | isNull => exact read _ .nulls
  | isNotNull => exact read _ .notNulls
  | order => exact read _ .order
  | limit => exact read _ .limit
  | offset => exact read _ .offset

/-- The category of a declaration can be told from the call before it is read. -/
theorem Call.read_category {call : Call} {d : Declaration} (reads : call.read = .ok d) :
    d.category? = call.category? := by
  cases call with
  | byId | reset =>
    cases reads
    rfl
  | _ =>
    obtain ⟨_, _, rfl⟩ := (Outcome.map_eq_ok_iff _ _ _).mp reads
    rfl

namespace Query

/-! ### One call after another -/

/-- The query after a call, which leaves it alone if it fails. -/
def onward (q : Query) (call : Call) : Query :=
  match q.apply call with
  | .ok q => q
  | .error _ => q

/-- The query after calls, of which some may fail. -/
def after (q : Query) (calls : List Call) : Query :=
  calls.foldl onward q

@[simp] theorem after_nil (q : Query) : q.after [] = q := rfl

@[simp] theorem after_cons (q : Query) (call : Call) (calls : List Call) :
    q.after (call :: calls) = (q.onward call).after calls := rfl

@[simp] theorem after_append (q : Query) (first second : List Call) :
    q.after (first ++ second) = (q.after first).after second :=
  List.foldl_append

theorem onward_of_read (q : Query) {call : Call} {d : Declaration} (reads : call.read = .ok d) :
    q.onward call = d.put q := by
  rw [onward, apply_eq_read, reads]
  rfl

/-- A call that fails leaves no trace. -/
theorem onward_of_fault (q : Query) {call : Call} {fault : Fault}
    (fails : call.read = .error fault) : q.onward call = q := by
  rw [onward, apply_eq_read, fails]
  rfl

/-- Calls of different categories can change places. -/
theorem onward_comm (q : Query) {c d : Call} {k l : Category} (left : c.category? = some k)
    (right : d.category? = some l) (differ : k ≠ l) :
    (q.onward c).onward d = (q.onward d).onward c := by
  cases first : c.read with
  | error fault => rw [onward_of_fault _ first, onward_of_fault _ first]
  | ok x =>
    cases second : d.read with
    | error fault => rw [onward_of_fault _ second, onward_of_fault _ second]
    | ok y =>
      rw [onward_of_read _ first, onward_of_read _ second, onward_of_read _ second,
        onward_of_read _ first]
      exact x.put_comm q ((Call.read_category first).trans left)
        ((Call.read_category second).trans right) differ

/-- A call can be made after calls of other categories as well as before them. -/
theorem after_onward_comm (q : Query) {call : Call} {k : Category} (own : call.category? = some k)
    (calls : List Call) (others : ∀ c ∈ calls, ∃ l, c.category? = some l ∧ k ≠ l) :
    (q.onward call).after calls = (q.after calls).onward call := by
  induction calls generalizing q with
  | nil => rfl
  | cons c calls ih =>
    obtain ⟨l, other, differ⟩ := others c (by simp)
    rw [after_cons, onward_comm q own other differ, after_cons]
    exact ih _ fun c member => others c (List.mem_cons_of_mem _ member)

/-- A call has no effect when one that replaces it succeeds next. -/
theorem onward_replaced (q : Query) {c d : Call} {k : Category} {y : Declaration}
    (left : c.category? = some k) (right : d.category? = some k) (replaces : k.replaces = true)
    (reads : d.read = .ok y) : (q.onward c).onward d = q.onward d := by
  cases first : c.read with
  | error fault => rw [onward_of_fault _ first]
  | ok x =>
    rw [onward_of_read _ first, onward_of_read _ reads, onward_of_read _ reads]
    exact x.put_put q ((Call.read_category first).trans left)
      ((Call.read_category reads).trans right) replaces

theorem onward_reset (q : Query) (call : Call) :
    (q.onward call).onward .reset = q.onward .reset := by
  cases reads : call.read with
  | error fault => rw [onward_of_fault _ reads]
  | ok d =>
    rw [onward_of_read _ reads, onward_of_read _ rfl, onward_of_read _ rfl]
    exact d.reset_put q

end Query

end FluentSql
