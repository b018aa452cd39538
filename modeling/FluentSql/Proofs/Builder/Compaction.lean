import FluentSql.Proofs.Builder.Run

/-!
# Compaction of histories

The history of a builder is what was done with it, each action with its outcome. Of all this only
some calls are still in force: those that succeeded, were not taken back, and were not replaced.
Main result: `Builder.history_compacts`. A fresh builder on which these were called and nothing else
is in the same state.
-/

namespace FluentSql

def succeeded (history : List (Action × Except Fault ActionResult)) : List Call :=
  history.filterMap fun
    | (.call call, .ok _) => some call
    | _ => none

/-- Whether a call undoes an earlier one: it takes everything back, or both declare the same part
of the query and that holds a single value. -/
def Call.overrides (later earlier : Call) : Bool :=
  match later.category? with
  | none => true
  | some k => k.replaces && earlier.category? == some k

/-- Of calls that have succeeded, those that declare something and are overridden by no later one. -/
def inForce : List Call → List Call
  | [] => []
  | call :: rest =>
    if call.category?.isNone || rest.any (·.overrides call) then inForce rest
    else call :: inForce rest

namespace Query

/-- The query without anything declared. -/
def cleared (q : Query) : Query := { table := q.table }

/-- The calls without a category are those that take everything back. -/
theorem onward_of_none (q : Query) {call : Call} (none : call.category? = none) :
    q.onward call = q.cleared := by
  cases call with
  | reset => rfl
  | _ => cases none

theorem cleared_onward (q : Query) (call : Call) : (q.onward call).cleared = q.cleared :=
  q.onward_reset call

/-- A call has no effect when one that replaces it succeeds later, and none between them takes
everything back. -/
theorem after_replaced (q : Query) {call : Call} {k : Category} (own : call.category? = some k)
    (replaces : k.replaces = true) {rest : List Call} (reads : ∀ c ∈ rest, ∃ d, c.read = .ok d)
    (declaring : ∀ c ∈ rest, c.category?.isSome = true) (later : ∃ c ∈ rest, c.category? = some k) :
    q.after (call :: rest) = q.after rest := by
  -- By induction: the next call replaces this one, or this one is moved past it.
  induction rest generalizing q with
  | nil => simp at later
  | cons next rest ih =>
    obtain ⟨l, other⟩ := Option.isSome_iff_exists.mp (declaring next (by simp))
    by_cases same : k = l
    · subst same
      obtain ⟨d, read⟩ := reads next (by simp)
      rw [after_cons, after_cons, onward_replaced q own other replaces read, after_cons]
    · have beyond : ∃ c ∈ rest, c.category? = some k := by
        obtain ⟨c, member, replacing⟩ := later
        rcases List.mem_cons.mp member with rfl | member
        · rw [other, Option.some.injEq] at replacing
          exact absurd replacing.symm same
        · exact ⟨c, member, replacing⟩
      rw [after_cons, after_cons, onward_comm q own other same, ← after_cons]
      exact ih _ (fun c member => reads c (List.mem_cons_of_mem _ member))
        (fun c member => declaring c (List.mem_cons_of_mem _ member)) beyond

/-- Calls that succeed leave the same query as those in force, called on a cleared query if
everything was taken back. -/
theorem after_inForce (q : Query) {calls : List Call} (reads : ∀ c ∈ calls, ∃ d, c.read = .ok d) :
    q.after calls =
      (if calls.all (·.category?.isSome) then q else q.cleared).after (inForce calls) := by
  induction calls generalizing q with
  | nil => rfl
  | cons call rest ih =>
    have step := ih (q.onward call) fun c member => reads c (List.mem_cons_of_mem _ member)
    rw [cleared_onward] at step
    rw [after_cons, inForce, List.all_cons]
    cases own : call.category? with
    | none =>
      -- Everything is taken back here.
      rw [step, onward_of_none q own]
      simp
    | some k =>
      by_cases declaring : rest.all (·.category?.isSome) = true
      · simp only [declaring, if_true] at step
        by_cases overridden : rest.any (·.overrides call) = true
        · -- Nothing is taken back later, so the call is replaced.
          have replaced : k.replaces = true ∧ ∃ c ∈ rest, c.category? = some k := by
            obtain ⟨c, member, overrides⟩ := List.any_eq_true.mp overridden
            obtain ⟨l, category⟩ := Option.isSome_iff_exists.mp (List.all_eq_true.mp declaring c member)
            simp only [Call.overrides, category, own, Bool.and_eq_true, beq_iff_eq,
              Option.some.injEq] at overrides
            obtain ⟨replaces, rfl⟩ := overrides
            exact ⟨replaces, c, member, category⟩
          have gone := q.after_replaced own replaced.1
            (fun c member => reads c (List.mem_cons_of_mem _ member))
            (List.all_eq_true.mp declaring) replaced.2
          rw [← after_cons, gone, ih q fun c member => reads c (List.mem_cons_of_mem _ member)]
          simp [declaring, overridden]
        · rw [step]
          simp [declaring, overridden]
      · -- Something later takes everything back, this call included.
        have overridden : rest.any (·.overrides call) = true := by
          obtain ⟨c, member, none⟩ := by simpa using declaring
          refine List.any_eq_true.mpr ⟨c, member, ?_⟩
          rw [Call.overrides, none]
        rw [step]
        simp [declaring, overridden]

/-- A call that fails leaves the query as it is. -/
theorem after_filter (q : Query) (calls : List Call) :
    q.after (calls.filter fun call => call.read.toBool) = q.after calls := by
  induction calls generalizing q with
  | nil => rfl
  | cons call rest ih =>
    cases read : call.read with
    | error fault =>
      rw [List.filter_cons_of_neg (by simp [read, Except.toBool]), ih, after_cons,
        onward_of_fault q read]
    | ok d => rw [List.filter_cons_of_pos (by simp [read, Except.toBool]), after_cons, ih, after_cons]

end Query

namespace Builder

variable {σ : Type}

/-- What was done with a builder, each action with its outcome. -/
def history (b : Builder) (executor? : Option (Executor σ)) (actions : List Action) (s : σ) :
    List (Action × Except Fault ActionResult) :=
  actions.zip (b.outcomes executor? actions s)

/-- In a history the calls that succeeded are those that could be read: what came before makes no
difference. -/
theorem succeeded_history (b : Builder) (executor? : Option (Executor σ)) {actions : List Action}
    (declaring : ∀ action ∈ actions, action.declares = true) (s : σ) :
    succeeded (b.history executor? actions s) =
      (actions.filterMap Action.call?).filter fun call => call.read.toBool := by
  induction actions generalizing b with
  | nil => rfl
  | cons action actions ih =>
    have first := declaring action (by simp)
    have others := ih (after b executor? [action] s).1
      fun a member => declaring a (List.mem_cons_of_mem action member)
    simp only [history, succeeded, after] at others
    -- Only calls are listed, and each is kept or dropped by how it is read.
    cases action with
    | call call =>
      simp only [act_call] at others
      simp only [history, succeeded, outcomes, act_call, List.zip_cons_cons, List.filterMap_cons,
        Action.call?]
      rw [others]
      cases read : call.read with
      | error fault =>
        rw [List.filter_cons_of_neg (by simp [read, Except.toBool])]
        rfl
      | ok d =>
        rw [List.filter_cons_of_pos (by simp [read, Except.toBool])]
        rfl
    | build build => exact others
    | run | describe | table => cases first

/-- Failed calls, compilations, forgotten history and replaced clauses have no effect: what calls
and compilations leave of a fresh builder, and what comes of everything done with it later, is the
same as if there had been no other calls than those in force. -/
theorem history_compacts (executor? : Option (Executor σ)) (s : σ) {table : Value} {b : Builder}
    (made : ofTable table = .ok b) {actions : List Action}
    (declaring : ∀ action ∈ actions, action.declares = true) :
    let calls := inForce (succeeded (b.history executor? actions s))
    b.after executor? actions s = b.after executor? (calls.map .call) s ∧
    ∀ further : List Action, (b.outcomes executor? (actions ++ further) s).drop actions.length =
      (b.outcomes executor? (calls.map .call ++ further) s).drop calls.length := by
  intro calls
  have fresh : b.query.cleared = b.query := by
    obtain ⟨name, _, equal⟩ := (Outcome.bind_eq_ok_iff _ _ _).mp made
    cases equal
    rfl
  -- The calls that failed and those that are overridden leave nothing behind.
  have same : b.query.after (actions.filterMap Action.call?) = b.query.after calls := by
    have reads : ∀ c ∈ succeeded (b.history executor? actions s), ∃ d, c.read = .ok d := by
      intro c member
      rw [b.succeeded_history executor? declaring] at member
      have succeeds := (List.mem_filter.mp member).2
      cases read : c.read with
      | error fault => simp [read, Except.toBool] at succeeds
      | ok d => exact ⟨d, rfl⟩
    rw [← Query.after_filter, ← b.succeeded_history executor? declaring s,
      Query.after_inForce _ reads, fresh, ite_self]
  have left : b.after executor? actions s = b.after executor? (calls.map .call) s := by
    rw [after_declaring b executor? declaring, after_calls, same]
  refine ⟨left, ?_⟩
  -- What comes next starts from the same builder, after as many outcomes as there were actions.
  intro further
  rw [outcomes_append, outcomes_append, left,
    List.drop_left' (b.length_outcomes executor? actions s),
    List.drop_left' (by rw [length_outcomes, List.length_map])]

/-- A run with calls that fail in different ways, a compilation, a taking back, and limits that are
replaced. -/
theorem few_calls_in_force :
    let compare (field : String) : Call := .compare .equal [.text field, .int 1]
    let limit (value : Value) : Call := .limit value
    let order (direction : String) : Call := .order (.text "c") (.text direction)
    let actions : List Action := [.call (compare "a"), .call (limit (.int 5)), .build .select,
      .call .reset, .call (order "asc"), .call (limit (.int 3)), .call (compare "b"),
      .call (limit (.float (.infinity false))), .call (limit (.int (-1))), .call (order "down"),
      .build (.update .null), .call (.join .inner (.text "u") .null), .call (limit (.text " 7 "))]
    let calls := [order "asc", compare "b", limit (.text " 7 ")]
    let b : Builder := ⟨.text "t", { table := "t" }⟩
    ofTable (.text "t") = .ok b ∧ (∀ action ∈ actions, action.declares = true) ∧
    inForce (succeeded (b.history (σ := Unit) none actions ())) = calls ∧
    b.after (σ := Unit) none actions () = b.after none (calls.map .call) () ∧
    ∀ further : List Action,
      (b.outcomes (σ := Unit) none (actions ++ further) ()).drop actions.length =
        (b.outcomes none (calls.map .call ++ further) ()).drop calls.length := by
  intro compare limit order actions calls b
  have made : ofTable (.text "t") = .ok b := rfl
  have declaring : ∀ action ∈ actions, action.declares = true := by decide
  have remaining : inForce (succeeded (b.history (σ := Unit) none actions ())) = calls := rfl
  obtain ⟨left, later⟩ := history_compacts (σ := Unit) none () made declaring
  rw [remaining] at left later
  exact ⟨made, declaring, remaining, left, later⟩

end Builder

end FluentSql
