import FluentSql.Proofs.Builder.Run

/-!
# Runs with runners

Whatever actions do, what they leave of a builder are the calls that were made, by themselves or by
runners. Of all runners one makes a call: it compares the field `id` with its value, and the
comparison stays. Main result: `Builder.runners_leave_ids`.
-/

namespace FluentSql

/-- The call that an action makes, be it the action itself or made by a runner. -/
def Action.made? : Action → Option Call
  | .call made => some made
  | .run runner => runner.call?
  | .build _ | .describe | .table => none

/-- The value that a runner compares the field `id` with, if it is one that does. -/
def Runner.id? : Runner → Option Value
  | .byId value => some value
  | .first | .all | .count | .present | .insert _ | .upsert .. | .update _ | .delete => none

/-- The query with further comparisons of the field `id`. -/
def Query.withIds (q : Query) (values : List Value) : Query :=
  { q with comparisons := q.comparisons ++ values.map fun value =>
      { field := "id", operator := "=", value } }

/-- What a runner demands when it is called on a query, if it can be compiled. -/
def Runner.demanded? (q : Query) (runner : Runner) : Option Demand :=
  (runner.demand (q.withIds runner.id?.toList)).toOption

/-- The executor together with a list of all demands that it was given. -/
def Executor.listing {σ : Type} (executor : Executor σ) : Executor (σ × List Demand) where
  note entry s := (executor.note entry s.1, s.2)
  execute demand s :=
    let (reply, left) := executor.execute demand s.1
    (reply, left, s.2 ++ [demand])

namespace Query

@[simp] theorem withIds_nil (q : Query) : q.withIds [] = q := by
  simp [withIds]

theorem withIds_append (q : Query) (values more : List Value) :
    q.withIds (values ++ more) = (q.withIds values).withIds more := by
  simp [withIds]

/-- A comparison that is added is seen: the query is the same only if there is none. -/
theorem withIds_eq_self_iff (q : Query) (values : List Value) :
    q.withIds values = q ↔ values = [] := by
  constructor
  · intro same
    simpa [withIds] using congrArg Query.comparisons same
  · rintro rfl
    exact q.withIds_nil

/-- The call that compares the field `id` never fails. -/
theorem onward_byId (q : Query) (value : Value) : q.onward (.byId value) = q.withIds [value] :=
  rfl

/-- What runners leave of a query when they make their calls. -/
theorem after_calls_of_runners (q : Query) (runners : List Runner) :
    q.after (runners.filterMap Runner.call?) = q.withIds (runners.filterMap Runner.id?) := by
  induction runners generalizing q with
  | nil => exact q.withIds_nil.symm
  | cons runner runners ih =>
    cases runner with
    | byId value =>
      simp only [List.filterMap_cons, Runner.call?, Runner.id?, after_cons, onward_byId, ih]
      rw [← withIds_append]
      rfl
    | _ => exact ih q

end Query

namespace Builder

variable {σ : Type}

/-! ### One action -/

/-- A runner changes its builder by a call of `byId` at most. -/
theorem prepared_eq (b : Builder) (runner : Runner) :
    b.prepared runner = .ok { b with query := b.query.withIds runner.id?.toList } := by
  cases runner with
  | byId value => rfl
  | _ => simp [prepared, Runner.call?, Runner.id?]

/-- An action leaves the builder with the call that it makes. -/
theorem act_left (b : Builder) (executor? : Option (Executor σ)) (action : Action) (s : σ) :
    (b.act executor? action s).2.1 = { b with query := b.query.after action.made?.toList } := by
  cases action with
  | call call => rw [act_call]; rfl
  | run runner =>
    have left : (b.act executor? (.run runner) s).2.1 =
        { b with query := b.query.withIds runner.id?.toList } := by
      simp only [act, run, prepared_eq]
      split <;> rfl
    rw [left]
    cases runner with
    | byId value => rfl
    | _ => simp [Runner.id?, Action.made?, Runner.call?]
  | build | describe | table => rfl

/-- A runner gives an executor what it demands, and nothing if that cannot be compiled or there is
no executor. -/
theorem act_listing (b : Builder) (executor? : Option (Executor σ)) (runner : Runner)
    (s : σ × List Demand) :
    (b.act (executor?.map Executor.listing) (.run runner) s).2.2.2 =
      s.2 ++ (if executor?.isSome then (runner.demanded? b.query).toList else []) := by
  simp only [act, run, prepared_eq, Runner.demanded?]
  cases runner.demand (b.query.withIds runner.id?.toList) with
  | error fault => simp [Except.toOption]
  | ok demand => cases executor? <;> simp [execute, Executor.listing, Except.toOption]

/-! ### One action after another -/

/-- Actions leave the builder with the calls that they make. -/
theorem after_left (b : Builder) (executor? : Option (Executor σ)) (actions : List Action) (s : σ) :
    (b.after executor? actions s).1 =
      { b with query := b.query.after (actions.filterMap Action.made?) } := by
  induction actions generalizing b s with
  | nil => rfl
  | cons action actions ih =>
    have left := b.act_left executor? action s
    simp only [after, ih, left]
    cases made : action.made? <;> simp [made]

theorem after_append (b : Builder) (executor? : Option (Executor σ)) (first second : List Action)
    (s : σ) : b.after executor? (first ++ second) s =
      (b.after executor? first s).1.after executor? second (b.after executor? first s).2 := by
  induction first generalizing b s with
  | nil => rfl
  | cons action first ih => exact ih _ _

/-- What runners leave behind are the comparisons of those that look for an `id`, in order. -/
theorem after_runners (b : Builder) (executor? : Option (Executor σ)) (runners : List Runner)
    (s : σ) : (b.after executor? (runners.map .run) s).1 =
      { b with query := b.query.withIds (runners.filterMap Runner.id?) } := by
  rw [after_left, List.filterMap_map, ← Query.after_calls_of_runners]
  rfl

/-- What runners demand of an executor, called one after the other. -/
def demands (b : Builder) (executor? : Option (Executor σ)) (runners : List Runner) (s : σ) :
    List Demand :=
  (b.after (executor?.map Executor.listing) (runners.map .run) (s, [])).2.2

theorem demands_concat (b : Builder) (executor? : Option (Executor σ)) (runners : List Runner)
    (runner : Runner) (s : σ) : b.demands executor? (runners ++ [runner]) s =
      b.demands executor? runners s ++ (if executor?.isSome then
        (runner.demanded? (b.query.withIds (runners.filterMap Runner.id?))).toList else []) := by
  rw [demands, List.map_append, after_append, after_runners]
  exact act_listing _ executor? runner _

/-- Runners leave nothing of a builder changed but the comparisons of `id` that some of them make.
These stay: each further runner demands what it would demand by itself of the builder together with
them. While none has been made, this is what it would demand by itself from the start. -/
theorem runners_leave_ids (b : Builder) (executor? : Option (Executor σ)) (s : σ)
    (runners : List Runner) :
    let ids := runners.filterMap Runner.id?
    (b.after executor? (runners.map .run) s).1 = { b with query := b.query.withIds ids } ∧
    ((b.after executor? (runners.map .run) s).1 = b ↔ ids = []) ∧
    ∀ runner, b.demands executor? (runners ++ [runner]) s = b.demands executor? runners s ++
        (if executor?.isSome then (runner.demanded? (b.query.withIds ids)).toList else []) ∧
      (ids = [] → b.demands executor? (runners ++ [runner]) s =
        b.demands executor? runners s ++ b.demands executor? [runner] s) := by
  intro ids
  have left := b.after_runners executor? runners s
  refine ⟨left, ?_, ?_⟩
  · rw [left, ← b.query.withIds_eq_self_iff]
    exact ⟨congrArg Builder.query, congrArg fun query => { b with query }⟩
  · intro runner
    have next := b.demands_concat executor? runners runner s
    refine ⟨next, fun none => ?_⟩
    -- By itself the runner comes after no other.
    have alone : b.demands executor? [runner] s =
        if executor?.isSome then (runner.demanded? (b.query.withIds [])).toList else [] :=
      b.demands_concat executor? [] runner s
    rw [next, alone, show runners.filterMap Runner.id? = [] from none]

/-- Two runners that each ask for the row of one `id`, and a third that only compiles. The second
asks for a row that has both values at once, and so would every runner after it. -/
theorem second_id_adds_to_first :
    let b : Builder := ⟨.text "users", { table := "users" }⟩
    let runners : List Runner := [.byId (.int 1), .insert .null, .byId (.int 2)]
    let left := (b.after (some Recording.executor) (runners.map .run) {}).1
    let demands := b.demands (some Recording.executor) runners {}
    b.Reachable ∧ left.query.comparisons ≠ b.query.comparisons ∧
    demands.map (·.statement.sql) =
      ["SELECT * FROM users WHERE id=?;", "SELECT * FROM users WHERE id=? AND id=?;"] ∧
    demands.map (·.statement.params) = [[.int 1], [.int 1, .int 2]] ∧
    (b.demands (some Recording.executor) [.byId (.int 2)] {}).map (·.statement.sql) =
      ["SELECT * FROM users WHERE id=?;"] := by
  intro b runners left demands
  have made : ofTable (.text "users") = .ok b := rfl
  have kept : left.query.comparisons.length = 2 := rfl
  refine ⟨.fresh made, ?_, by decide, rfl, by decide⟩
  intro same
  rw [same] at kept
  cases kept

end Builder

end FluentSql
