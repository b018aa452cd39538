import FluentSql.Builder
import FluentSql.Proofs.Query.Declaration

/-!
# Runs of builders

Actions done one after the other, each whatever came of those before: what each call declares, once
for all calls, what holds of every builder that any actions leave, and what is left of calls and
compilations, which need no executor.
-/

namespace FluentSql

/-! ### What calls declare -/

/-- The result of a call that succeeds: what is read from its arguments, and where that goes. -/
inductive Query.Declares (q : Query) : Call → Query → Prop
  | select {arguments columns} (read : Column.listOf arguments = .ok columns) :
    Declares q (.select arguments) { q with columns }
  | join {kind table condition join} (read : Join.ofArguments kind table condition = .ok join) :
    Declares q (.join kind table condition) { q with joins := q.joins ++ [join] }
  | compare {default arguments more} (read : Predicate.comparisons default arguments = .ok more) :
    Declares q (.compare default arguments) { q with comparisons := q.comparisons ++ more }
  | isIn {field values test} (read : Membership.ofArguments field values = .ok test) :
    Declares q (.isIn field values) { q with memberships := q.memberships ++ [test] }
  | isNotIn {field values test} (read : Membership.ofArguments field values = .ok test) :
    Declares q (.isNotIn field values) { q with exclusions := q.exclusions ++ [test] }
  | isNull {arguments fields} (read : NullField.listOf arguments = .ok fields) :
    Declares q (.isNull arguments) { q with nulls := q.nulls ++ fields }
  | isNotNull {arguments fields} (read : NullField.listOf arguments = .ok fields) :
    Declares q (.isNotNull arguments) { q with notNulls := q.notNulls ++ fields }
  | order {field direction order} (read : Order.ofArguments field direction = .ok order) :
    Declares q (.order field direction) { q with order := some order }
  | limit {value number} (read : rowCount .limit value = .ok number) :
    Declares q (.limit value) { q with limit := some number }
  | offset {value number} (read : rowCount .offset value = .ok number) :
    Declares q (.offset value) { q with offset := some number }
  | byId {value more} (read : Predicate.comparisons .equal [.map [(.text "id", value)]] = .ok more) :
    Declares q (.byId value) { q with comparisons := q.comparisons ++ more }
  | reset : Declares q .reset { table := q.table }

/-- A call succeeds exactly with what it declares. -/
theorem Query.apply_eq_ok_iff (q q' : Query) (call : Call) :
    q.apply call = .ok q' ↔ q.Declares call q' := by
  constructor
  · intro applied
    cases call with
    | reset =>
      cases applied
      exact .reset
    | compare default arguments =>
      obtain ⟨more, read, equal⟩ := (Outcome.bind_eq_ok_iff _ _ _).mp applied
      cases equal
      exact .compare read
    | byId value =>
      obtain ⟨more, read, equal⟩ := (Outcome.bind_eq_ok_iff _ _ _).mp applied
      cases equal
      exact .byId read
    -- The others read one part from their arguments and put it in its place.
    | _ =>
      obtain ⟨part, read, equal⟩ := (Outcome.bind_eq_ok_iff _ _ _).mp applied
      cases equal
      constructor
      exact read
  · intro declares
    cases declares with
    | reset => rfl
    | _ read =>
      refine (Outcome.bind_eq_ok_iff _ _ _).mpr ⟨_, read, rfl⟩

/-! ### Invariants of queries -/

/-- The names of a join condition, in the order in which they are written. -/
def JoinCondition.names : JoinCondition → List Name
  | shared columns => columns
  | paired pairs => pairs.flatMap fun pair => [pair.1, pair.2]

/-- What every call keeps true of a query: operators that exist, join conditions that name
something, and numbers of rows that are not negative. -/
structure Query.Sound (q : Query) : Prop where
  operators : ∀ c ∈ q.comparisons, ∃ operator : Operator, c.operator = operator.symbol
  conditions : ∀ j ∈ q.joins, ∃ condition : JoinCondition,
    j.condition = condition.sql ∧ condition.names ≠ []
  limit : ∀ number ∈ q.limit, 0 ≤ number
  offset : ∀ number ∈ q.offset, 0 ≤ number

/-- An operator that is kept is one that exists: it was looked up when its predicate was read. -/
theorem Predicate.comparisons_operator (default : Operator) (arguments : List Value)
    (found : List Comparison) (read : comparisons default arguments = .ok found) :
    ∀ c ∈ found, ∃ operator : Operator, c.operator = operator.symbol := by
  obtain ⟨tree, _, equal⟩ := (Outcome.bind_eq_ok_iff _ _ _).mp read
  cases equal
  intro c member
  obtain ⟨p, _, rfl⟩ := List.mem_map.mp member
  cases named : p.operator with
  | none => exact ⟨default, by simp [comparison, named]⟩
  | some operator => exact ⟨operator, by simp [comparison, named]⟩

private theorem mapM_ne_nil {α β : Type} (read : α → Option β) (item : α) (rest : List α)
    (found : List β)
    (reads : (item :: rest).mapM read = some found) : found ≠ [] := by
  cases (Outcome.mapM_eq_some_iff _ _ _).mp reads with
  | cons => simp

/-- Empty shapes are refused, so that an accepted condition names something. -/
theorem JoinCondition.ofArgument?_names (value : Value) (condition : JoinCondition)
    (read : ofArgument? value = some condition) : condition.names ≠ [] := by
  cases value with
  | list items | tuple items =>
    cases items with
    -- Nothing is empty: that was tested before the items were read.
    | nil => simp [ofArgument?] at read
    | cons item rest =>
      simp only [ofArgument?, List.isEmpty_cons, Bool.false_eq_true, if_false,
        Option.map_eq_some_iff] at read
      obtain ⟨columns, reads, rfl⟩ := read
      exact mapM_ne_nil _ item rest columns reads
  | map entries =>
    cases entries with
    | nil => simp [ofArgument?] at read
    | cons entry rest =>
      simp only [ofArgument?, List.isEmpty_cons, Bool.false_eq_true, if_false,
        Option.map_eq_some_iff] at read
      obtain ⟨pairs, reads, rfl⟩ := read
      cases (Outcome.mapM_eq_some_iff _ _ _).mp reads with
      | cons => simp [names]
  | _ =>
    simp only [ofArgument?, Option.bind_eq_some_iff] at read
    obtain ⟨name, _, read⟩ := read
    split at read
    · cases read
    · cases read
      simp [names]

theorem Join.ofArguments_condition (kind : JoinKind) (table condition : Value) (join : Join)
    (read : Join.ofArguments kind table condition = .ok join) :
    ∃ condition : JoinCondition, join.condition = condition.sql ∧ condition.names ≠ [] := by
  obtain ⟨name, _, read⟩ := (Outcome.bind_eq_ok_iff _ _ _).mp read
  obtain ⟨found, accepted, equal⟩ := (Outcome.bind_eq_ok_iff _ _ _).mp read
  cases equal
  refine ⟨found, rfl, ?_⟩
  unfold JoinCondition.ofArgument at accepted
  split at accepted
  next some_condition some_found =>
    cases Except.ok.inj accepted
    exact JoinCondition.ofArgument?_names _ _ some_found
  · cases accepted

/-- Negative numbers of rows are refused where they are read. -/
theorem rowCount_nonneg (clause : CountClause) (value : Value) (number : Int)
    (read : rowCount clause value = .ok number) : 0 ≤ number := by
  obtain ⟨found, _, read⟩ := (Outcome.bind_eq_ok_iff _ _ _).mp read
  split at read
  · cases read
  next bound =>
    cases read
    omega

theorem Query.Sound.fresh (table : String) : Sound { table } where
  operators := by simp
  conditions := by simp
  limit := by simp
  offset := by simp

/-- Every call keeps queries sound. -/
theorem Query.Sound.step {q q' : Query} {call : Call} (sound : q.Sound)
    (declares : q.Declares call q') : q'.Sound := by
  cases declares with
  | join read =>
    -- The joins declared before are sound already, and the new one stands at the end.
    refine { sound with conditions := ?_ }
    intro j member
    rcases List.mem_append.mp member with old | new
    · exact sound.conditions j old
    · obtain rfl := List.mem_singleton.mp new
      exact Join.ofArguments_condition _ _ _ j read
  | compare read | byId read =>
    refine { sound with operators := ?_ }
    intro c member
    rcases List.mem_append.mp member with old | new
    · exact sound.operators c old
    · exact Predicate.comparisons_operator _ _ _ read c new
  | limit read =>
    refine { sound with limit := ?_ }
    intro number equal
    cases equal
    exact rowCount_nonneg _ _ _ read
  | offset read =>
    refine { sound with offset := ?_ }
    intro number equal
    cases equal
    exact rowCount_nonneg _ _ _ read
  | reset => exact .fresh _
  -- The other calls leave alone what the invariant speaks of.
  | select | isIn | isNotIn | isNull | isNotNull | order => exact { sound with }

/-! ### Builders that can be reached -/

/-- The builders that remain after any actions on a fresh one, whether they succeed or fail, and
whatever an executor makes of them. -/
inductive Builder.Reachable : Builder → Prop
  | fresh {table : Value} {b : Builder} (made : Builder.ofTable table = .ok b) : Reachable b
  | act {b : Builder} {σ : Type} (executor? : Option (Executor σ)) (action : Action) (s : σ)
    (reachable : Reachable b) : Reachable (b.act executor? action s).2.1

def Action.calls : Action → List Call
  | .call made => [made]
  | .run runner => runner.call?.toList
  | .build _ | .describe | .table => []

/-- An action leaves the builder as it was, or with what one of its calls has declared. -/
theorem Builder.act_query {σ : Type} (b : Builder) (executor? : Option (Executor σ))
    (action : Action) (s : σ) :
    (b.act executor? action s).2.1 = b ∨ ∃ call ∈ action.calls, ∃ q, b.query.Declares call q ∧
      (b.act executor? action s).2.1 = { b with query := q } := by
  have applied (call : Call) (after : Builder) (ok : b.apply call = .ok after) :
      ∃ q, b.query.Declares call q ∧ after = { b with query := q } := by
    obtain ⟨q, declared, rfl⟩ := (Outcome.map_eq_ok_iff _ _ _).mp ok
    exact ⟨q, (Query.apply_eq_ok_iff _ _ _).mp declared, rfl⟩
  cases action with
  | call call =>
    cases outcome : b.apply call with
    | error fault => simp [Builder.act, outcome]
    | ok after =>
      right
      simpa [Builder.act, outcome, Action.calls] using applied call after outcome
  | run runner =>
    -- Of all runners only the one that makes a call changes the builder, before it compiles.
    cases outcome : b.prepared runner with
    | error fault => simp [Builder.act, Builder.run, outcome]
    | ok after =>
      have left : (b.act executor? (.run runner) s).2.1 = after := by
        simp only [Builder.act, Builder.run, outcome]
        split <;> rfl
      rw [left]
      unfold Builder.prepared at outcome
      split at outcome
      next call made => exact .inr ⟨call, by simp [Action.calls, made], applied call after outcome⟩
      · cases outcome
        exact .inl rfl
  | build | describe | table => exact .inl rfl

/-- What holds of fresh queries and is kept by every call holds of every builder that can be
reached. -/
theorem Builder.Reachable.query_induction {P : Query → Prop} {b : Builder} (reachable : b.Reachable)
    (fresh : ∀ table : Name, P { table := table.plain })
    (step : ∀ q call q', P q → q.Declares call q' → P q') : P b.query := by
  -- By induction on the actions: each leaves the query alone or declares one call.
  induction reachable with
  | fresh made =>
    obtain ⟨name, _, equal⟩ := (Outcome.bind_eq_ok_iff _ _ _).mp made
    cases equal
    exact fresh name
  | act executor? action s _ ih =>
    rcases Builder.act_query _ executor? action s with same | ⟨call, _, q, declares, changed⟩
    · rw [same]
      exact ih
    · rw [changed]
      exact step _ call q ih declares

/-- Every query under construction is sound. -/
theorem Builder.Reachable.sound {b : Builder} (reachable : b.Reachable) : b.query.Sound :=
  reachable.query_induction (fun table => .fresh table.plain) fun _ _ _ => .step

/-! ### Outcomes and what is left

Calls and compilations need no executor: what they leave is the query after the calls, and the
outcome of a call is that of reading its arguments.
-/

def Action.call? : Action → Option Call
  | .call made => some made
  | .build _ | .run _ | .describe | .table => none

/-- Whether an action declares or compiles. -/
def Action.declares : Action → Bool
  | .call _ | .build _ => true
  | .run _ | .describe | .table => false

namespace Builder

variable {σ : Type}

/-- What is left of the builder and the executor when one action is done after the other. -/
def after (b : Builder) (executor? : Option (Executor σ)) : List Action → σ → Builder × σ
  | [], s => (b, s)
  | action :: rest, s =>
    let (_, b, s) := b.act executor? action s
    after b executor? rest s

theorem Reachable.after {b : Builder} (reachable : b.Reachable) (executor? : Option (Executor σ))
    (actions : List Action) (s : σ) : (b.after executor? actions s).1.Reachable := by
  induction actions generalizing b s with
  | nil => exact reachable
  | cons action rest ih => exact ih (reachable.act executor? action s) _

/-- What comes of each action when one is done after the other, whatever came of those before. -/
def outcomes (b : Builder) (executor? : Option (Executor σ)) :
    List Action → σ → List (Except Fault ActionResult)
  | [], _ => []
  | action :: rest, s =>
    let (outcome, b, s) := b.act executor? action s
    outcome :: outcomes b executor? rest s

theorem outcomes_append (b : Builder) (executor? : Option (Executor σ))
    (first second : List Action) (s : σ) :
    b.outcomes executor? (first ++ second) s = b.outcomes executor? first s ++
      (b.after executor? first s).1.outcomes executor? second (b.after executor? first s).2 := by
  induction first generalizing b s with
  | nil => rfl
  | cons action first ih =>
    simp only [List.cons_append, outcomes, after]
    rw [ih]

theorem length_outcomes (b : Builder) (executor? : Option (Executor σ)) (actions : List Action)
    (s : σ) : (b.outcomes executor? actions s).length = actions.length := by
  induction actions generalizing b s with
  | nil => rfl
  | cons action actions ih => simp only [outcomes, List.length_cons, ih]

/-- A call does to the query what it declares, and nothing to the executor. -/
theorem act_call (b : Builder) (executor? : Option (Executor σ)) (call : Call) (s : σ) :
    b.act executor? (.call call) s =
      (call.read.map fun _ => .builder, { b with query := b.query.onward call }, s) := by
  rw [act, apply, Query.onward, Query.apply_eq_read]
  cases call.read <;> rfl

/-- Compilations leave a builder alone, and calls leave the executor alone. -/
theorem after_declaring (b : Builder) (executor? : Option (Executor σ)) {actions : List Action}
    (declaring : ∀ action ∈ actions, action.declares = true) (s : σ) :
    b.after executor? actions s =
      ({ b with query := b.query.after (actions.filterMap Action.call?) }, s) := by
  induction actions generalizing b with
  | nil => rfl
  | cons action actions ih =>
    have first := declaring action (by simp)
    have others := fun a member => declaring a (List.mem_cons_of_mem action member)
    -- Whatever else an action is, it is none that declares.
    cases action with
    | call call =>
      simp only [after, act_call, Action.call?, List.filterMap_cons, Query.after_cons]
      exact ih _ others
    | build build =>
      simp only [after, act, Action.call?, List.filterMap_cons]
      exact ih b others
    | run | describe | table => cases first

theorem after_calls (b : Builder) (executor? : Option (Executor σ)) (calls : List Call) (s : σ) :
    b.after executor? (calls.map .call) s = ({ b with query := b.query.after calls }, s) := by
  have declaring : ∀ action ∈ calls.map Action.call, action.declares = true := by
    intro action member
    obtain ⟨call, _, rfl⟩ := List.mem_map.mp member
    rfl
  rw [after_declaring b executor? declaring, List.filterMap_map]
  congr
  exact List.filterMap_some

/-- No call depends on those before it: each comes to what reading it comes to. -/
theorem outcomes_calls (b : Builder) (executor? : Option (Executor σ)) (calls : List Call) (s : σ) :
    b.outcomes executor? (calls.map .call) s =
      calls.map fun call => call.read.map fun _ => .builder := by
  induction calls generalizing b with
  | nil => rfl
  | cons call calls ih =>
    simp only [List.map_cons, outcomes, act_call]
    rw [ih]

end Builder

end FluentSql
