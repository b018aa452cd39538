import FluentSql.Proofs.Outcome
import FluentSql.Query.Call

/-!
# Queries that agree but for their values

Calls whose arguments agree but for the values of comparisons and memberships lead from queries that
agree but for their values to such queries. The relation `R` says what the values at one position
have to do with each other. Which shape an argument has never depends on a value in it.
-/

namespace FluentSql

variable {R : Value → Value → Prop}

/-! ### Arguments that agree but for their values -/

/-- Entries with the same keys in the same order. -/
def EntriesAlike (R : Value → Value → Prop) (entries entries' : List (Value × Value)) : Prop :=
  List.Forall₂ (fun entry entry' => entry.1 = entry'.1 ∧ R entry.2 entry'.2) entries entries'

/-- Parts of a predicate, whose value is the last of two or three. -/
inductive PartsAlike (R : Value → Value → Prop) : List Value → List Value → Prop
  | pair {field v v' : Value} (values : R v v') : PartsAlike R [field, v] [field, v']
  | triple {field operator v v' : Value} (values : R v v') :
    PartsAlike R [field, operator, v] [field, operator, v']
  /-- Parts of any other number are no predicate. -/
  | other {parts : List Value} (two : parts.length ≠ 2) (three : parts.length ≠ 3) :
    PartsAlike R parts parts

mutual

/-- Single arguments of a comparison, grouped in the same way to any depth. -/
inductive ArgumentAlike (R : Value → Value → Prop) : Value → Value → Prop
  | map {entries entries' : List (Value × Value)} (values : EntriesAlike R entries entries') :
    ArgumentAlike R (.map entries) (.map entries')
  | listOfParts {items items' : List Value} (flat : Predicate.areGrouped items = false)
    (parts : PartsAlike R items items') : ArgumentAlike R (.list items) (.list items')
  | tupleOfParts {items items' : List Value} (flat : Predicate.areGrouped items = false)
    (parts : PartsAlike R items items') : ArgumentAlike R (.tuple items) (.tuple items')
  | list {items items' : List Value} (grouped : Predicate.areGrouped items = true)
    (each : EachAlike R items items') : ArgumentAlike R (.list items) (.list items')
  | tuple {items items' : List Value} (grouped : Predicate.areGrouped items = true)
    (each : EachAlike R items items') : ArgumentAlike R (.tuple items) (.tuple items')
  /-- Anything else is no predicate. -/
  | other {v : Value} (single : v.isGroup = false) : ArgumentAlike R v v

/-- Several arguments, each read as a single one. -/
inductive EachAlike (R : Value → Value → Prop) : List Value → List Value → Prop
  | nil : EachAlike R [] []
  | cons {v v' : Value} {rest rest' : List Value} (first : ArgumentAlike R v v')
    (others : EachAlike R rest rest') : EachAlike R (v :: rest) (v' :: rest')

end

/-- The arguments of a call that compares. -/
inductive ArgumentsAlike (R : Value → Value → Prop) : List Value → List Value → Prop
  | single {v v' : Value} (argument : ArgumentAlike R v v') : ArgumentsAlike R [v] [v']
  | parts {items items' : List Value} (several : items.length ≠ 1)
    (parts : PartsAlike R items items') : ArgumentsAlike R items items'

/-- Collections of the same kind with as many members. -/
inductive MembersAlike (R : Value → Value → Prop) : Value → Value → Prop
  | list {items items' : List Value} (members : List.Forall₂ R items items') :
    MembersAlike R (.list items) (.list items')
  | tuple {items items' : List Value} (members : List.Forall₂ R items items') :
    MembersAlike R (.tuple items) (.tuple items')
  | bag {items items' : List Value} (members : List.Forall₂ R items items') :
    MembersAlike R (.bag items) (.bag items')
  | stream {items items' : List Value} (members : List.Forall₂ R items items') :
    MembersAlike R (.stream items) (.stream items')
  /-- Anything else has no members. -/
  | other {v : Value} (refused : ∀ field members, membersOf field v ≠ .ok members) :
    MembersAlike R v v

/-- Calls that agree but for the values they hold. -/
def Call.Alike (R : Value → Value → Prop) : Call → Call → Prop
  | .compare default arguments, .compare default' arguments' =>
    default = default' ∧ ArgumentsAlike R arguments arguments'
  | .isIn field values, .isIn field' values' => field = field' ∧ MembersAlike R values values'
  | .isNotIn field values, .isNotIn field' values' => field = field' ∧ MembersAlike R values values'
  | .byId v, .byId v' => R v v'
  -- The other calls hold no values.
  | call, call' => call = call'

/-! ### Queries that agree but for their values -/

def Comparison.Alike (R : Value → Value → Prop) (c c' : Comparison) : Prop :=
  c.field = c'.field ∧ c.operator = c'.operator ∧ R c.value c'.value

/-- The same membership test with as many members, related one by one. -/
def Membership.Alike (R : Value → Value → Prop) (m m' : Membership) : Prop :=
  m.field = m'.field ∧ List.Forall₂ R m.members m'.members

/-- Queries with the same declarations, apart from values. -/
structure Query.Alike (R : Value → Value → Prop) (q q' : Query) : Prop where
  table : q.table = q'.table
  columns : q.columns = q'.columns
  joins : q.joins = q'.joins
  comparisons : List.Forall₂ (Comparison.Alike R) q.comparisons q'.comparisons
  memberships : List.Forall₂ (Membership.Alike R) q.memberships q'.memberships
  exclusions : List.Forall₂ (Membership.Alike R) q.exclusions q'.exclusions
  nulls : q.nulls = q'.nulls
  notNulls : q.notNulls = q'.notNulls
  order : q.order = q'.order
  limit : q.limit = q'.limit
  offset : q.offset = q'.offset

/-! ### Reading predicates -/

namespace Predicate

def Alike (R : Value → Value → Prop) (p p' : Predicate) : Prop :=
  p.field = p'.field ∧ p.operator = p'.operator ∧ R p.value p'.value

theorem ofParts_alike {items items' : List Value} (parts : PartsAlike R items items') :
    Outcome.Alike (Alike R) (ofParts items) (ofParts items') := by
  cases parts with
  | pair values =>
    apply Outcome.Alike.bind_same
    intro name
    exact ⟨rfl, rfl, values⟩
  | triple values =>
    apply Outcome.Alike.bind_same
    intro name
    apply Outcome.Alike.bind_same
    intro operator
    exact ⟨rfl, rfl, values⟩
  | other two three =>
    -- Parts of other numbers are refused, whatever they are.
    match items, two, three with
    | [], _, _ => trivial
    | [_], _, _ => trivial
    | _ :: _ :: _ :: _ :: _, _, _ => trivial

/-- Trees of predicates that agree but for their values, leaf by leaf. -/
def TreesAlike (R : Value → Value → Prop) (trees trees' : List (Nested Predicate)) : Prop :=
  List.Forall₂ (Alike R) (Nested.leavesOf trees) (Nested.leavesOf trees')

theorem TreesAlike.cons {tree tree' : Nested Predicate} {trees trees' : List (Nested Predicate)}
    (first : List.Forall₂ (Alike R) tree.leaves tree'.leaves) (others : TreesAlike R trees trees') :
    TreesAlike R (tree :: trees) (tree' :: trees') := by
  rw [TreesAlike, Nested.leavesOf_cons, Nested.leavesOf_cons]
  exact List.rel_append first others

theorem singleLeaf_alike {p p' : Predicate} (alike : Alike R p p') :
    List.Forall₂ (Alike R) (Nested.leaf p).leaves (Nested.leaf p').leaves := by
  rw [Nested.leaves_leaf, Nested.leaves_leaf]
  exact .cons alike .nil

theorem group_alike {trees trees' : List (Nested Predicate)} (alike : TreesAlike R trees trees') :
    List.Forall₂ (Alike R) (Nested.group trees).leaves (Nested.group trees').leaves := by
  rw [Nested.leaves_group, Nested.leaves_group]
  exact alike

theorem ofEntries_alike {entries entries' : List (Value × Value)}
    (values : EntriesAlike R entries entries') :
    Outcome.Alike (TreesAlike R) (ofEntries entries) (ofEntries entries') := by
  induction values with
  | nil => exact .nil
  | @cons entry entry' rest rest' first _ ih =>
    obtain ⟨key, value⟩ := first
    unfold ofEntries at ih ⊢
    -- The keys are equal, so that both entries name a field or neither does.
    rw [List.mapM_cons, List.mapM_cons, key]
    apply Outcome.Alike.bind (S := fun tree tree' =>
      List.Forall₂ (Alike R) tree.leaves tree'.leaves)
    · apply Outcome.Alike.bind_same
      intro name
      exact singleLeaf_alike ⟨rfl, rfl, value⟩
    · intro tree tree' leaves
      apply Outcome.Alike.bind ih
      intro trees trees' others
      exact TreesAlike.cons leaves others

/-- Whether parts are read one by one is decided by the first of them, which is no value. -/
theorem areGrouped_of_parts {items items' : List Value} (parts : PartsAlike R items items') :
    areGrouped items = areGrouped items' := by
  cases parts <;> rfl

theorem areGrouped_of_each {items items' : List Value} (each : EachAlike R items items') :
    areGrouped items = areGrouped items' := by
  cases each with
  | nil => rfl
  | cons first _ => cases first <;> rfl

mutual

/-- The shape of an argument, and with it whether it is read, does not depend on its values. -/
theorem ofArgument_alike {v v' : Value} (argument : ArgumentAlike R v v') :
    Outcome.Alike (fun tree tree' => List.Forall₂ (Alike R) tree.leaves tree'.leaves)
      (ofArgument v) (ofArgument v') := by
  cases argument with
  | map values =>
    unfold ofArgument
    exact Outcome.Alike.map (ofEntries_alike values) fun _ _ => group_alike
  -- The first item decides how the others are read, and its kind is the same on both sides.
  | listOfParts flat parts | tupleOfParts flat parts =>
    have flat' := areGrouped_of_parts parts ▸ flat
    unfold ofArgument
    rw [if_neg (by simp [flat]), if_neg (by simp [flat'])]
    exact Outcome.Alike.map (ofParts_alike parts) fun _ _ => singleLeaf_alike
  | list grouped each | tuple grouped each =>
    have grouped' := areGrouped_of_each each ▸ grouped
    unfold ofArgument
    rw [if_pos grouped, if_pos grouped']
    exact Outcome.Alike.map (ofEach_alike each) fun _ _ => group_alike
  -- What is no group is refused on both sides.
  | other single =>
    cases v with
    | list items | tuple items | map entries => cases single
    | _ =>
      unfold ofArgument
      trivial

theorem ofEach_alike {items items' : List Value} (each : EachAlike R items items') :
    Outcome.Alike (TreesAlike R) (ofEach items) (ofEach items') := by
  cases each with
  | nil =>
    unfold ofEach
    exact .nil
  | cons first others =>
    unfold ofEach
    apply Outcome.Alike.bind (ofArgument_alike first)
    intro tree tree' leaves
    apply Outcome.Alike.bind (ofEach_alike others)
    intro trees trees' rest
    exact TreesAlike.cons leaves rest

end

/-- The arguments of a call are read alike. -/
theorem comparisons_alike (default : Operator) {arguments arguments' : List Value}
    (alike : ArgumentsAlike R arguments arguments') :
    Outcome.Alike (List.Forall₂ (Comparison.Alike R)) (comparisons default arguments)
      (comparisons default arguments') := by
  have read : Outcome.Alike (fun tree tree' => List.Forall₂ (Alike R) tree.leaves tree'.leaves)
      (ofArguments arguments) (ofArguments arguments') := by
    cases alike with
    | single argument => exact ofArgument_alike argument
    | parts several parts =>
      -- As many arguments stand on the other side, so that they are read as parts there too.
      have several' : arguments'.length ≠ 1 := by
        cases parts with
        | pair | triple => simp
        | other => exact several
      have separate (items : List Value) (many : items.length ≠ 1) :
          ofArguments items = (ofParts items).map .leaf := by
        match items, many with
        | [], _ => rfl
        | _ :: _ :: _, _ => rfl
      rw [separate _ several, separate _ several']
      exact Outcome.Alike.map (ofParts_alike parts) fun _ _ => singleLeaf_alike
  apply Outcome.Alike.bind read
  intro tree tree' leaves
  change List.Forall₂ (Comparison.Alike R) _ _
  rw [List.forall₂_map_left_iff, List.forall₂_map_right_iff]
  apply leaves.imp
  rintro p p' ⟨field, operator, value⟩
  exact ⟨by rw [comparison, comparison, field], by rw [comparison, comparison, operator], value⟩

end Predicate

/-! ### Calls -/

/-- The members of related collections are read alike; everything else is refused by both. -/
theorem membersOf_alike (field : String) {values values' : Value}
    (alike : MembersAlike R values values') :
    Outcome.Alike (List.Forall₂ R) (membersOf field values) (membersOf field values') := by
  cases alike with
  | list members | tuple members | bag members | stream members => exact members
  | other refused =>
    cases outcome : membersOf field values with
    | error fault => trivial
    | ok members => exact absurd outcome (refused field members)

theorem Membership.ofArguments_alike (field : Value) {values values' : Value}
    (alike : MembersAlike R values values') :
    Outcome.Alike (Alike R) (ofArguments field values) (ofArguments field values') := by
  apply Outcome.Alike.bind_same
  intro name
  apply Outcome.Alike.bind (membersOf_alike name.shown alike)
  intro members members' related
  exact ⟨rfl, related⟩

namespace Query

theorem compare_alike {q q' : Query} (same : q.Alike R q') (default : Operator)
    {arguments arguments' : List Value} (alike : ArgumentsAlike R arguments arguments') :
    Outcome.Alike (Alike R) (q.compare default arguments) (q'.compare default arguments') := by
  apply Outcome.Alike.bind (Predicate.comparisons_alike default alike)
  intro more more' related
  exact { same with comparisons := List.rel_append same.comparisons related }

/-- A call and one that agrees with it but for values declare the same, or both fail. -/
theorem apply_alike {q q' : Query} (same : q.Alike R q') {call call' : Call}
    (alike : call.Alike R call') : Outcome.Alike (Alike R) (q.apply call) (q'.apply call') := by
  cases call with
  | compare default arguments =>
    cases call' with
    | compare default' arguments' =>
      obtain ⟨rfl, arguments⟩ := alike
      exact compare_alike same default arguments
    | _ => cases alike
  | byId v =>
    cases call' with
    | byId v' =>
      -- It compares as a mapping of one entry does.
      have entry : EntriesAlike R [(.text "id", v)] [(.text "id", v')] := .cons ⟨rfl, alike⟩ .nil
      exact compare_alike same .equal (.single (.map entry))
    | _ => cases alike
  | isIn field values =>
    cases call' with
    | isIn field' values' =>
      obtain ⟨rfl, members⟩ := alike
      apply Outcome.Alike.bind (Membership.ofArguments_alike field members)
      intro test test' related
      exact { same with memberships := List.rel_append same.memberships (.cons related .nil) }
    | _ => cases alike
  | isNotIn field values =>
    cases call' with
    | isNotIn field' values' =>
      obtain ⟨rfl, members⟩ := alike
      apply Outcome.Alike.bind (Membership.ofArguments_alike field members)
      intro test test' related
      exact { same with exclusions := List.rel_append same.exclusions (.cons related .nil) }
    | _ => cases alike
  -- The other calls hold no values: both read the same arguments to the same declaration.
  | select arguments =>
    obtain rfl : _ = call' := alike
    exact Outcome.Alike.bind_same _ fun columns => { same with columns := rfl }
  | join kind table condition =>
    obtain rfl : _ = call' := alike
    exact Outcome.Alike.bind_same _ fun join => { same with joins := by rw [same.joins] }
  | isNull arguments =>
    obtain rfl : _ = call' := alike
    exact Outcome.Alike.bind_same _ fun fields => { same with nulls := by rw [same.nulls] }
  | isNotNull arguments =>
    obtain rfl : _ = call' := alike
    exact Outcome.Alike.bind_same _ fun fields => { same with notNulls := by rw [same.notNulls] }
  | order field direction =>
    obtain rfl : _ = call' := alike
    exact Outcome.Alike.bind_same _ fun order => { same with order := rfl }
  | limit value =>
    obtain rfl : _ = call' := alike
    exact Outcome.Alike.bind_same _ fun number => { same with limit := rfl }
  | offset value =>
    obtain rfl : _ = call' := alike
    exact Outcome.Alike.bind_same _ fun number => { same with offset := rfl }
  | reset =>
    obtain rfl : _ = call' := alike
    exact ⟨same.table, rfl, rfl, .nil, .nil, .nil, rfl, rfl, rfl, rfl, rfl⟩

end Query

end FluentSql
