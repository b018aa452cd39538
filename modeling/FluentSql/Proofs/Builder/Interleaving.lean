import FluentSql.Proofs.Builder.Run

/-!
# Interleavings of calls

Calls of one category keep their order; how the categories are mixed does not matter. Main result:
`Builder.interleavings_agree`. Two interleavings of the same sequences are turned into each other
by moving calls past calls of other categories, which `Query.onward_comm` allows.
-/

namespace FluentSql

/-- The calls are an interleaving of sequences of calls, one sequence for each category. -/
structure Interleaves (sequences : Category → List Call) (calls : List Call) : Prop where
  categories : ∀ call ∈ calls, call.category?.isSome = true
  order : ∀ k, calls.filter (fun call => call.category? = some k) = sequences k

namespace Interleaves

variable {sequences : Category → List Call} {calls : List Call}

theorem nil (all : Interleaves sequences calls) (empty : ∀ k, sequences k = []) : calls = [] := by
  cases calls with
  | nil => rfl
  | cons call rest =>
    obtain ⟨k, own⟩ := Option.isSome_iff_exists.mp (all.categories call (by simp))
    have none := (all.order k).trans (empty k)
    rw [List.filter_cons_of_pos (by simpa using own)] at none
    cases none

/-- The first call of a sequence stands behind calls of other categories only. Without it, what is
left interleaves what is left of the sequences. -/
theorem first {call : Call} {rest : List Call} {k : Category} (own : call.category? = some k)
    (all : Interleaves (fun l => (call :: rest).filter fun c => c.category? = some l) calls) :
    ∃ before later, calls = before ++ call :: later ∧
      (∀ c ∈ before, ∃ l, c.category? = some l ∧ k ≠ l) ∧
      Interleaves (fun l => rest.filter fun c => c.category? = some l) (before ++ later) := by
  have found := all.order k
  simp only [] at found
  -- Before the first call of its category there are only calls of other categories.
  rw [List.filter_cons_of_pos (by simpa using own), List.filter_eq_cons_iff] at found
  obtain ⟨before, later, rfl, others, -, same⟩ := found
  refine ⟨before, later, rfl, ?_, ?_, ?_⟩
  · intro c member
    obtain ⟨l, other⟩ := Option.isSome_iff_exists.mp (all.categories c (by simp [member]))
    refine ⟨l, other, ?_⟩
    rintro rfl
    exact others c member (by simpa using other)
  · intro c member
    apply all.categories c
    rcases List.mem_append.mp member with member | member <;> simp [member]
  · intro l
    have order := all.order l
    rw [List.filter_append] at order ⊢
    -- The sequence of its own category lost the call; the others never held it.
    by_cases equal : l = k
    · subst equal
      have absent : before.filter (fun c => c.category? = some l) = [] :=
        List.filter_eq_nil_iff.mpr others
      rw [absent, same]
      rfl
    · have other : ¬ call.category? = some l := by
        rw [own]
        simpa using Ne.symm equal
      rwa [List.filter_cons_of_neg (by simpa using other),
        List.filter_cons_of_neg (by simpa using other)] at order

end Interleaves

/-- Interleavings of the same sequences of calls declare the same query. -/
theorem Query.after_interleaved (q : Query) {sequences : Category → List Call}
    {calls calls' : List Call} (one : Interleaves sequences calls)
    (other : Interleaves sequences calls') : q.after calls = q.after calls' := by
  -- By induction on the first run: its first call is moved to the front of the second.
  induction calls generalizing q sequences calls' with
  | nil => rw [other.nil fun k => (one.order k).symm]
  | cons call rest ih =>
    obtain rfl : (fun k => (call :: rest).filter fun c => c.category? = some k) = sequences :=
      funext one.order
    obtain ⟨k, own⟩ := Option.isSome_iff_exists.mp (one.categories call (by simp))
    obtain ⟨before, later, rfl, others, remaining⟩ := other.first own
    have tail : Interleaves (fun l => rest.filter fun c => c.category? = some l) rest :=
      ⟨fun c member => one.categories c (List.mem_cons_of_mem _ member), fun _ => rfl⟩
    calc
      q.after (call :: rest) = (q.onward call).after (before ++ later) := ih _ tail remaining
      _ = ((q.onward call).after before).after later := after_append _ _ _
      _ = ((q.after before).onward call).after later := by
        rw [after_onward_comm q own before others]
      _ = q.after (before ++ call :: later) := by rw [after_append, after_cons]

namespace Builder

variable {σ : Type}

/-- The calls of one category in a run of calls, each with its outcome. -/
def outcomesOf (b : Builder) (executor? : Option (Executor σ)) (calls : List Call) (s : σ)
    (k : Category) : List (Call × Except Fault ActionResult) :=
  (calls.zip (b.outcomes executor? (calls.map .call) s)).filter fun entry =>
    entry.1.category? = some k

/-- A call comes to what reading it comes to, wherever it stands in the run. -/
theorem outcomesOf_eq (b : Builder) (executor? : Option (Executor σ)) (calls : List Call) (s : σ)
    (k : Category) : b.outcomesOf executor? calls s k =
      (calls.filter fun call => call.category? = some k).map fun call =>
        (call, call.read.map fun _ => .builder) := by
  rw [outcomesOf, outcomes_calls, ← List.map_prod_left_eq_zip, List.filter_map]
  rfl

/-- Declaration order across categories is irrelevant: interleavings of the same sequences of calls
have, call by call, the same outcomes, and every compilation gives the same result or fault. -/
theorem interleavings_agree (b : Builder) (executor? : Option (Executor σ)) (s : σ)
    {sequences : Category → List Call} {calls calls' : List Call}
    (one : Interleaves sequences calls) (other : Interleaves sequences calls') :
    (∀ k, b.outcomesOf executor? calls s k = b.outcomesOf executor? calls' s k) ∧
    ∀ build, (b.after executor? (calls.map .call) s).1.query.build build =
      (b.after executor? (calls'.map .call) s).1.query.build build := by
  constructor
  · intro k
    rw [outcomesOf_eq, outcomesOf_eq, one.order, other.order]
  · intro build
    rw [after_calls, after_calls, b.query.after_interleaved one other]

/-- Comparisons, a join, members and a limit in two orders. The second limit is refused, and so is
the first test of members. -/
theorem mixed_calls_agree :
    let compare (field : String) : Call := .compare .equal [.text field, .int 1]
    let join : Call := .join .inner (.text "u") (.text "id")
    let limit (n : Int) : Call := .limit (.int n)
    let isIn (values : Value) : Call := .isIn (.text "c") values
    let calls := [compare "a", limit 5, isIn .null, join, compare "b", limit (-1), isIn (.list [])]
    let calls' := [join, isIn .null, isIn (.list []), compare "a", compare "b", limit 5, limit (-1)]
    let sequences (k : Category) := calls.filter fun call => call.category? = some k
    let b : Builder := ⟨.text "t", { table := "t" }⟩
    let left (calls : List Call) := (b.after (σ := Unit) none (calls.map .call) ()).1
    Interleaves sequences calls ∧ Interleaves sequences calls' ∧
    (∀ k, b.outcomesOf (σ := Unit) none calls () k = b.outcomesOf none calls' () k) ∧
    (∀ build, (left calls).query.build build = (left calls').query.build build) ∧
    (left calls').query.select.sql =
      "SELECT * FROM t INNER JOIN u USING (id) WHERE a=? AND b=? AND c IN () LIMIT 5;" := by
  intro compare join limit isIn calls calls' sequences b left
  have one : Interleaves sequences calls := ⟨by decide, fun _ => rfl⟩
  have other : Interleaves sequences calls' := by
    refine ⟨by decide, ?_⟩
    intro k
    cases k <;> rfl
  obtain ⟨outcomes, builds⟩ := b.interleavings_agree (σ := Unit) none () one other
  exact ⟨one, other, outcomes, builds, by decide⟩

end Builder

end FluentSql
