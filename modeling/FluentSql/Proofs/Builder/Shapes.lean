import FluentSql.Proofs.Builder.Run
import FluentSql.Proofs.Query.Grouping

/-!
# Shapes of arguments

One declaration can be asked for in several shapes: by arguments of their own, in a list or a tuple,
or in a mapping. The shapes of one declaration can stand for each other, with one exception: an
empty name is no join condition by itself, but it is one in a list.
Main result: `Builder.shapes_are_interchangeable`.
-/

namespace FluentSql

inductive SequenceKind where
  | list
  | tuple

def SequenceKind.of : SequenceKind → List Value → Value
  | list, items => .list items
  | tuple, items => .tuple items

@[simp] theorem SequenceKind.isGroup_of (k : SequenceKind) (items : List Value) :
    (k.of items).isGroup = true := by
  cases k <;> rfl

/-- Two actions that cannot be told apart: whatever the builder and its executor are, they have the
same outcome and leave the same. -/
def Action.Interchangeable (a a' : Action) : Prop :=
  ∀ {σ : Type} (b : Builder) (executor? : Option (Executor σ)) (s : σ),
    b.act executor? a s = b.act executor? a' s

/-- Calls that read the same from their arguments. -/
theorem Action.interchangeable_of_read {call call' : Call} (same : call.read = call'.read) :
    Interchangeable (.call call) (.call call') := by
  intro σ b executor? s
  rw [Builder.act_call, Builder.act_call, Query.onward, Query.onward, Query.apply_eq_read,
    Query.apply_eq_read, same]

/-- Calls that are read alike cannot be told apart: a call does nothing but put what was read. -/
theorem Action.interchangeable_of_reads {calls : List Call} {call : Call}
    (same : ∀ other ∈ calls, other.read = call.read) :
    ∀ other ∈ calls, Interchangeable (.call other) (.call call) :=
  fun other member => interchangeable_of_read (same other member)

/-! ### Joins -/

namespace JoinCondition

theorem ofArgument_sequence (name : Name) (k : SequenceKind) :
    ofArgument (k.of [name.toValue]) = .ok (.shared [name]) := by
  cases k <;> cases name <;> rfl

/-- The empty name by itself is refused, which it is not in a sequence. -/
theorem ofArgument_toValue (name : Name) : ofArgument name.toValue =
    if name.plain = "" then .error (.invalidJoin name.toValue) else .ok (.shared [name]) := by
  have read : ofArgument? name.toValue =
      if name.plain = "" then none else some (.shared [name]) := by cases name <;> rfl
  rw [ofArgument, read]
  by_cases empty : name.plain = "" <;> simp [empty]

end JoinCondition

/-- A name joins by itself as it does in a sequence if it is not empty. -/
theorem Action.join_interchangeable_iff (kind : JoinKind) (table : Value) (name : Name)
    (k : SequenceKind) :
    Interchangeable (.call (.join kind table name.toValue))
      (.call (.join kind table (k.of [name.toValue]))) ↔ name.plain ≠ "" ∨ table.name? = none := by
  constructor
  · intro same
    by_contra differ
    obtain ⟨empty, named⟩ := not_or.mp differ
    obtain ⟨tableName, named⟩ := Option.ne_none_iff_exists'.mp named
    -- A fresh builder refuses the one and takes the other.
    have outcomes := congrArg Prod.fst (same (σ := Unit) ⟨.text "", { table := "" }⟩ none ())
    simp [Builder.act_call, Call.read, Join.ofArguments, requireTable, requireName, named,
      JoinCondition.ofArgument_toValue, JoinCondition.ofArgument_sequence, not_not.mp empty,
      bind, Except.bind, pure, Except.pure, Except.map] at outcomes
  · intro agree
    apply interchangeable_of_read
    simp only [Call.read, Join.ofArguments, JoinCondition.ofArgument_toValue,
      JoinCondition.ofArgument_sequence]
    rcases agree with filled | unnamed
    · rw [if_neg filled]
    · -- The table is looked at before the condition.
      simp [requireTable, requireName, unnamed, bind, Except.bind]

/-! ### Predicates -/

namespace Predicate

/-- Calls whose arguments have leaves that are read the same declare the same comparisons. -/
theorem read_eq_of_leaves (default : Operator) (arguments arguments' : List Value)
    (same : (Leaf.ofArguments arguments).mapM Leaf.predicate =
      (Leaf.ofArguments arguments').mapM Leaf.predicate) :
    (Call.compare default arguments).read = (Call.compare default arguments').read := by
  rw [Call.read, Call.read, comparisons_eq, comparisons_eq, comparisonsFrom_leaves,
    comparisonsFrom_leaves, same]

theorem areGrouped_parts (name : Name) (rest : List Value) :
    areGrouped (name.toValue :: rest) = false := by
  cases name <;> rfl

/-- A list and a tuple have the same leaves. -/
theorem Leaf.ofArgument_sequence (k : SequenceKind) (items : List Value) :
    Leaf.ofArgument (k.of items) = if areGrouped items then ofEach items else [.parts items] := by
  cases k <;>
  · unfold SequenceKind.of Leaf.ofArgument
    rfl

/-- Parts that begin with a name are one leaf, also in a sequence and in a sequence of one. -/
theorem Leaf.ofArguments_parts (name : Name) (rest : List Value) (k l : SequenceKind) :
    ofArguments [k.of (name.toValue :: rest)] = [.parts (name.toValue :: rest)] ∧
    ofArguments [l.of [k.of (name.toValue :: rest)]] = [.parts (name.toValue :: rest)] := by
  have one : ofArgument (k.of (name.toValue :: rest)) = [.parts (name.toValue :: rest)] := by
    rw [ofArgument_sequence, areGrouped_parts]
    rfl
  refine ⟨one, ?_⟩
  rw [ofArguments, ofArgument_sequence, if_pos (show areGrouped [_] = true from k.isGroup_of _)]
  unfold ofEach ofEach
  rw [one, List.append_nil]

/-- An entry of a mapping is read as the pair of its key and its value. -/
theorem Leaf.ofArguments_entry (field value : Value) (k : SequenceKind) :
    ofArguments [.map [(field, value)]] = [.entry field value] ∧
    ofArguments [k.of [.map [(field, value)]]] = [.entry field value] := by
  have one : ofArgument (.map [(field, value)]) = [.entry field value] := by
    unfold ofArgument
    rfl
  refine ⟨one, ?_⟩
  rw [ofArguments, ofArgument_sequence, if_pos (show areGrouped [_] = true from rfl)]
  unfold ofEach ofEach
  rw [one, List.append_nil]

/-- All shapes of a field with a value have the one leaf in common. -/
theorem pair_reads (default : Operator) (name : Name) (value : Value) (k l : SequenceKind) :
    ∀ other ∈ [Call.compare default [k.of [name.toValue, value]],
      .compare default [.map [(name.toValue, value)]],
      .compare default [l.of [k.of [name.toValue, value]]],
      .compare default [k.of [.map [(name.toValue, value)]]]],
        other.read = (Call.compare default [name.toValue, value]).read := by
  obtain ⟨parts, nested⟩ := Leaf.ofArguments_parts name [value] k l
  obtain ⟨entry, listed⟩ := Leaf.ofArguments_entry name.toValue value k
  simp only [List.forall_mem_cons, List.not_mem_nil, false_imp_iff, implies_true, and_true]
  refine ⟨?_, ?_, ?_, ?_⟩ <;> apply read_eq_of_leaves
  · rw [parts]
    rfl
  · rw [entry]
    rfl
  · rw [nested]
    rfl
  · rw [listed]
    rfl

/-- All shapes of a field with an operator and a value have the one leaf in common. -/
theorem triple_reads (default : Operator) (name : Name) (operator value : Value)
    (k l : SequenceKind) :
    ∀ other ∈ [Call.compare default [k.of [name.toValue, operator, value]],
      .compare default [l.of [k.of [name.toValue, operator, value]]]],
        other.read = (Call.compare default [name.toValue, operator, value]).read := by
  obtain ⟨parts, nested⟩ := Leaf.ofArguments_parts name [operator, value] k l
  refine List.forall_mem_cons.mpr ⟨?_, List.forall_mem_singleton.mpr ?_⟩ <;>
    apply read_eq_of_leaves
  · rw [parts]
    rfl
  · rw [nested]
    rfl

/-- A sequence of groups declares what its items declare, each by itself. -/
theorem comparisons_each (default : Operator) (k : SequenceKind) (items : List Value)
    (grouped : areGrouped items = true) : comparisons default [k.of items] =
      (items.mapM fun v => comparisons default [v]).map List.flatten := by
  have consed (x : Except Fault (List Comparison)) (xs : Except Fault (List (List Comparison))) :
      (do return (← x) :: (← xs)).map List.flatten =
        (do return (← x) ++ (← xs.map List.flatten)) := by
    cases x <;> cases xs <;> rfl
  have appended (f : Predicate → Comparison) (x y : Except Fault (List Predicate)) :
      (do return (← x) ++ (← y)).map (List.map f) =
        (do return (← x.map (List.map f)) ++ (← y.map (List.map f))) := by
    cases x <;> cases y <;> simp [Except.map, bind, Except.bind, pure, Except.pure]
  -- By induction on the items: the leaves of all are those of the first and those of the rest.
  have each (values : List Value) :
      ((Leaf.ofEach values).mapM Leaf.predicate).map (List.map (comparison default.symbol)) =
        (values.mapM fun v => comparisons default [v]).map List.flatten := by
    induction values with
    | nil =>
      unfold Leaf.ofEach
      rfl
    | cons v rest ih =>
      have first : comparisons default [v] =
          ((Leaf.ofArgument v).mapM Leaf.predicate).map (List.map (comparison default.symbol)) := by
        rw [comparisons_eq, comparisonsFrom_leaves]
        rfl
      unfold Leaf.ofEach
      rw [List.mapM_append, List.mapM_cons, appended, ih, ← first, consed]
  rw [comparisons_eq, comparisonsFrom_leaves, ← each items]
  congr 2
  rw [Leaf.ofArguments, Leaf.ofArgument_sequence, if_pos grouped]

theorem Group.comparisons {v : Value} (group : Group v) (default : Operator) :
    ∃ found, comparisons default [v] = .ok found := by
  rw [comparisons_eq]
  exact (comparisonsFrom_succeeds_iff _ _).mpr (.group group)

end Predicate

namespace Query

/-- Groups given one after the other add their comparisons in that order. -/
theorem after_groups (q : Query) (default : Operator) {items : List Value}
    (groups : ∀ v ∈ items, Predicate.Group v) :
    ∃ found, (items.mapM fun v => Predicate.comparisons default [v]) = .ok found ∧
      q.after (items.map fun v => .compare default [v]) =
        { q with comparisons := q.comparisons ++ found.flatten } := by
  induction items generalizing q with
  | nil => exact ⟨[], rfl, by simp⟩
  | cons v rest ih =>
    obtain ⟨first, read⟩ := (groups v (by simp)).comparisons default
    have reads : (Call.compare default [v]).read = .ok (.comparisons first) := by
      rw [Call.read, read]
      rfl
    obtain ⟨others, all, left⟩ := ih (q.onward (.compare default [v]))
      fun w member => groups w (List.mem_cons_of_mem v member)
    refine ⟨first :: others, ?_, ?_⟩
    · rw [List.mapM_cons, read, all]
      rfl
    -- The comparisons of the first item come first, as they do when all are read together.
    · rw [List.map_cons, after_cons, left, onward_of_read q reads]
      simp [Declaration.put]

end Query

namespace Builder

variable {σ : Type}

/-- Groups in a sequence declare what they declare in calls of their own, and all calls succeed. -/
theorem groups_in_sequence (b : Builder) (executor? : Option (Executor σ)) (s : σ)
    (default : Operator) (k : SequenceKind) {items : List Value} (filled : items ≠ [])
    (groups : ∀ v ∈ items, Predicate.Group v) :
    b.after executor? [.call (.compare default [k.of items])] s =
      b.after executor? (items.map fun v => .call (.compare default [v])) s ∧
    ∀ outcome ∈ b.outcomes executor? [.call (.compare default [k.of items])] s ++
      b.outcomes executor? (items.map fun v => .call (.compare default [v])) s,
        outcome = .ok .builder := by
  obtain ⟨found, all, separate⟩ := b.query.after_groups default groups
  have grouped : Predicate.areGrouped items = true := by
    obtain ⟨first, rest, rfl⟩ := List.exists_cons_of_ne_nil filled
    exact (groups first (by simp)).isGroup
  have reads : (Call.compare default [k.of items]).read = .ok (.comparisons found.flatten) := by
    rw [Call.read, Predicate.comparisons_each default k items grouped, all]
    rfl
  have calls : (items.map fun v => Action.call (.compare default [v])) =
      (items.map fun v => Call.compare default [v]).map .call := by
    simp
  rw [calls]
  -- Together and apart the same comparisons are added.
  constructor
  · have together := b.after_calls executor? [.compare default [k.of items]] s
    rw [Query.after_cons, Query.after_nil, Query.onward_of_read _ reads] at together
    rw [after_calls, separate]
    exact together
  · have together := b.outcomes_calls executor? [.compare default [k.of items]] s
    rw [List.map_singleton, List.map_singleton, reads] at together
    -- Every call succeeds, since every item is a group.
    intro outcome member
    rw [together, outcomes_calls] at member
    rcases List.mem_append.mp member with here | there
    · exact List.mem_singleton.mp here
    · obtain ⟨call, made, rfl⟩ := List.mem_map.mp there
      obtain ⟨v, given, rfl⟩ := List.mem_map.mp made
      obtain ⟨more, read⟩ := (groups v given).comparisons default
      rw [Call.read, read]
      rfl

end Builder

/-! ### Columns, fields and conflict targets -/

theorem Column.listOf_shapes (name : Name) (k : SequenceKind) :
    Column.listOf [k.of [name.toValue]] = Column.listOf [name.toValue] ∧
    Column.listOf [.map [(name.toValue, .bool true)]] = Column.listOf [name.toValue] := by
  cases k <;> cases name <;> exact ⟨rfl, rfl⟩

theorem NullField.listOf_shapes (name : Name) (k : SequenceKind) :
    NullField.listOf [k.of [name.toValue]] = NullField.listOf [name.toValue] ∧
    NullField.listOf [.map [(name.toValue, .bool true)]] = NullField.listOf [name.toValue] := by
  cases k <;> cases name <;> exact ⟨rfl, rfl⟩

theorem conflictTargets_shapes (name : Name) (k : SequenceKind) :
    conflictTargets (k.of [name.toValue]) = conflictTargets name.toValue := by
  cases k <;> cases name <;> rfl

/-- A conflict target is looked at when its names are read, and no further. -/
theorem Action.upsert_interchangeable {conflict conflict' : Value}
    (same : conflictTargets conflict = conflictTargets conflict') (data : Value) :
    Interchangeable (.build (.upsert data conflict)) (.build (.upsert data conflict')) ∧
    Interchangeable (.run (.upsert data conflict)) (.run (.upsert data conflict')) := by
  have compiled (q : Query) : q.upsert data conflict = q.upsert data conflict' := by
    rw [Query.upsert, Query.upsert, same]
  constructor
  · intro σ b executor? s
    simp only [Builder.act, Query.build, compiled]
  · intro σ b executor? s
    simp only [Builder.act, Builder.run, Builder.prepared, Runner.call?, Runner.demand, compiled]
    rfl

/-! ### All shapes -/

namespace Builder

/-- The shapes of one declaration can stand for each other. A name joins by itself as it does in a
sequence unless it is empty, which by itself is no condition. Predicates are the same as arguments of
their own, in a sequence, in a sequence of one, and as an entry of a mapping; groups are the same in
a sequence and in calls of their own. Columns, fields and conflict targets are the same by themselves
and in a sequence. -/
theorem shapes_are_interchangeable (name : Name) (table value operator data : Value)
    (kind : JoinKind) (default : Operator) (k l : SequenceKind) :
    let s := name.toValue
    let standFor (calls : List Call) (call : Call) :=
      ∀ other ∈ calls, Action.Interchangeable (.call other) (.call call)
    (standFor [.join kind table (l.of [s])] (.join kind table (k.of [s])) ∧
      (standFor [.join kind table (k.of [s])] (.join kind table s) ↔
        name.plain ≠ "" ∨ table.name? = none)) ∧
    standFor [.compare default [k.of [s, value]], .compare default [.map [(s, value)]],
        .compare default [l.of [k.of [s, value]]], .compare default [k.of [.map [(s, value)]]]]
      (.compare default [s, value]) ∧
    standFor [.compare default [k.of [s, operator, value]],
        .compare default [l.of [k.of [s, operator, value]]]]
      (.compare default [s, operator, value]) ∧
    (∀ items : List Value, items ≠ [] → (∀ v ∈ items, Predicate.Group v) →
      ∀ {σ : Type} (b : Builder) (executor? : Option (Executor σ)) (state : σ),
        let together : List Action := [.call (.compare default [k.of items])]
        let apart : List Action := items.map fun v => .call (.compare default [v])
        b.after executor? together state = b.after executor? apart state ∧
        ∀ outcome ∈ b.outcomes executor? together state ++ b.outcomes executor? apart state,
          outcome = .ok .builder) ∧
    standFor [.select [k.of [s]], .select [.map [(s, .bool true)]]] (.select [s]) ∧
    standFor [.isNull [k.of [s]], .isNull [.map [(s, .bool true)]]] (.isNull [s]) ∧
    standFor [.isNotNull [k.of [s]], .isNotNull [.map [(s, .bool true)]]] (.isNotNull [s]) ∧
    Action.Interchangeable (.build (.upsert data (k.of [s]))) (.build (.upsert data s)) ∧
    Action.Interchangeable (.run (.upsert data (k.of [s]))) (.run (.upsert data s)) := by
  intro s standFor
  have stand {calls : List Call} {call : Call} (same : ∀ other ∈ calls, other.read = call.read) :
      standFor calls call := Action.interchangeable_of_reads same
  obtain ⟨column, labelled⟩ := Column.listOf_shapes name k
  obtain ⟨field, flagged⟩ := NullField.listOf_shapes name k
  refine ⟨⟨?_, ?_⟩, stand (Predicate.pair_reads default name value k l),
    stand (Predicate.triple_reads default name operator value k l), ?_, ?_, ?_, ?_,
    Action.upsert_interchangeable (conflictTargets_shapes name k) data⟩
  · refine stand (List.forall_mem_singleton.mpr ?_)
    simp only [Call.read, Join.ofArguments, s, JoinCondition.ofArgument_sequence]
  -- The order of the two sides does not matter for what cannot be told apart.
  · simp only [standFor, List.mem_singleton, forall_eq]
    rw [← Action.join_interchangeable_iff kind table name k]
    exact ⟨fun agree σ b executor? left => (agree b executor? left).symm,
      fun agree σ b executor? left => (agree b executor? left).symm⟩
  · intro items filled groups σ b executor? state
    exact b.groups_in_sequence executor? state default k filled groups
  · refine stand (List.forall_mem_cons.mpr ⟨?_, List.forall_mem_singleton.mpr ?_⟩)
    · rw [Call.read, Call.read, column]
    · rw [Call.read, Call.read, labelled]
  · refine stand (List.forall_mem_cons.mpr ⟨?_, List.forall_mem_singleton.mpr ?_⟩)
    · rw [Call.read, Call.read, field]
    · rw [Call.read, Call.read, flagged]
  · refine stand (List.forall_mem_cons.mpr ⟨?_, List.forall_mem_singleton.mpr ?_⟩)
    · rw [Call.read, Call.read, field]
    · rw [Call.read, Call.read, flagged]

/-- A mapping and a list of three parts, grouped once more, in one call and in two. -/
theorem grouped_predicates_stand_for_calls :
    let items : List Value :=
      [.map [(.text "a", .list [])], .list [.list [.text "b", .text ">", .int 2]]]
    let b : Builder := ⟨.text "t", { table := "t" }⟩
    let together : List Action := [.call (.compare .equal [.tuple items])]
    let apart : List Action := items.map fun v => .call (.compare .equal [v])
    items ≠ [] ∧ (∀ v ∈ items, Predicate.Group v) ∧
    b.after none together () = b.after none apart () ∧
    (b.after none apart ()).1.query.select.sql = "SELECT * FROM t WHERE a=? AND b>?;" := by
  intro items b together apart
  have filled : items ≠ [] := List.cons_ne_nil _ _
  have groups : ∀ v ∈ items, Predicate.Group v := by
    have parts : Predicate.Positional [.text "b", .text ">", .int 2] :=
      .triple .greater (show (Value.text "b").name? = some (.text "b") from rfl)
    refine List.forall_mem_cons.mpr ⟨.map ?_, List.forall_mem_singleton.mpr (.list rfl ?_)⟩
    · exact List.forall_mem_singleton.mpr ⟨.text "a", rfl⟩
    · exact List.forall_mem_singleton.mpr (.listOfParts parts)
  obtain ⟨_, _, _, sequences, _⟩ := shapes_are_interchangeable (.text "a") .null .null .null .null
    .inner .equal .tuple .list
  exact ⟨filled, groups, (sequences items filled groups b none ()).1, by decide⟩

/-- An empty name is no join condition by itself, but the only name in a list it is one. -/
theorem empty_name_joins_only_in_list :
    let b : Builder := ⟨.text "t", { table := "t" }⟩
    let join (condition : Value) : Action := .call (.join .inner (.text "u") condition)
    let listed := join (.list [.text ""])
    (b.act (σ := Unit) none (join (.text "")) ()).1 = .error (.invalidJoin (.text "")) ∧
    (b.act (σ := Unit) none listed ()).1 = .ok .builder ∧
    (b.act (σ := Unit) none listed ()).2.1.query.select.sql =
      "SELECT * FROM t INNER JOIN u USING ();" ∧
    ¬Action.Interchangeable (join (.text "")) listed := by
  intro b join listed
  refine ⟨rfl, rfl, by decide, fun same => ?_⟩
  have outcomes := congrArg Prod.fst (same (σ := Unit) b none ())
  cases outcomes

end Builder

end FluentSql
