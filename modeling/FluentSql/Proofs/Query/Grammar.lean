import FluentSql.Proofs.Fault
import FluentSql.Proofs.Outcome
import FluentSql.Record.Query

/-!
# The grammar of predicates

Which arguments a comparison takes, what they declare, and which fault is raised for all others. All
of it is told by the leaves of the arguments: the entries of mappings and the runs of parts, from
left to right.
Main result: `Predicate.comparisonsFrom_accepts_grammar`.
-/

namespace FluentSql

/-! ### Trees -/

namespace Nested

variable {α β : Type}

theorem map_leaf (a : Except Fault α) : (a.map leaf).map leaves = (do return [← a]) := by
  cases a with
  | error fault => rfl
  | ok a => simp [Except.map, bind, Except.bind, pure, Except.pure]

theorem map_group (trees : Except Fault (List (Nested α))) :
    (trees.map group).map leaves = trees.map leavesOf := by
  cases trees with
  | error fault => rfl
  | ok trees => simp [Except.map]

/-- The leaves of a tree and of the trees behind it can be read one after the other. -/
theorem map_cons (tree : Except Fault (Nested α)) (trees : Except Fault (List (Nested α))) :
    (do return (← tree) :: (← trees)).map leavesOf =
      (do return (← tree.map leaves) ++ (← trees.map leavesOf)) := by
  -- A fault in the first tree hides all others.
  cases tree with
  | error fault => rfl
  | ok tree =>
    cases trees with
    | error fault => rfl
    | ok trees => simp [Except.map, bind, Except.bind, pure, Except.pure]

/-- Trees that are read leaf by leaf have the leaves that are read. -/
theorem mapM_leaf (read : β → Except Fault α) (items : List β) :
    (items.mapM fun item => (read item).map leaf).map leavesOf = items.mapM read := by
  have leavesOf_leaf (found : List α) : leavesOf (found.map leaf) = found := by
    induction found with
    | nil => simp
    | cons a found ih => simp [ih]
  rw [Outcome.mapM_map]
  cases items.mapM read with
  | error fault => rfl
  | ok found => simp [Except.map, leavesOf_leaf]

end Nested

namespace Predicate

/-! ### Arguments of a comparison -/

/-- A field and a value, or a field, an operator and a value. -/
inductive Positional : List Value → Prop
  | pair {field value : Value} {name : Name} (named : field.name? = some name) :
    Positional [field, value]
  | triple {field value : Value} {name : Name} (operator : Operator)
    (named : field.name? = some name) : Positional [field, .text operator.symbol, value]

/-- A mapping from names, positional parts in a list or tuple, or a list or tuple of groups. -/
inductive Group : Value → Prop
  | map {entries : List (Value × Value)}
    (named : ∀ entry ∈ entries, ∃ name, entry.1.name? = some name) : Group (.map entries)
  | listOfParts {items : List Value} (parts : Positional items) : Group (.list items)
  | tupleOfParts {items : List Value} (parts : Positional items) : Group (.tuple items)
  | list {first : Value} {rest : List Value} (grouped : first.isGroup = true)
    (each : ∀ v ∈ first :: rest, Group v) : Group (.list (first :: rest))
  | tuple {first : Value} {rest : List Value} (grouped : first.isGroup = true)
    (each : ∀ v ∈ first :: rest, Group v) : Group (.tuple (first :: rest))

/-- The arguments of a call: positional parts, or one group. -/
inductive Accepted : List Value → Prop
  | parts {arguments : List Value} (parts : Positional arguments) : Accepted arguments
  | group {v : Value} (group : Group v) : Accepted [v]

/-- Empty mappings, also in lists and tuples of nothing else, to any depth. -/
inductive OnlyEmpty : Value → Prop
  | map : OnlyEmpty (.map [])
  | list {first : Value} {rest : List Value} (each : ∀ v ∈ first :: rest, OnlyEmpty v) :
    OnlyEmpty (.list (first :: rest))
  | tuple {first : Value} {rest : List Value} (each : ∀ v ∈ first :: rest, OnlyEmpty v) :
    OnlyEmpty (.tuple (first :: rest))

/-! ### Leaves -/

/-- What is read as one predicate: an entry of a mapping, or parts. -/
inductive Leaf where
  | entry (field value : Value)
  | parts (values : List Value)

namespace Leaf

mutual

/-- The leaves of a single argument, from left to right. -/
def ofArgument : Value → List Leaf
  | .map entries => entries.map fun entry => .entry entry.1 entry.2
  | .list items | .tuple items => if areGrouped items then ofEach items else [.parts items]
  | value => [.parts [value]]

/-- The leaves of several arguments, each read as a single one. -/
def ofEach : List Value → List Leaf
  | [] => []
  | value :: rest => ofArgument value ++ ofEach rest

end

def ofArguments : List Value → List Leaf
  | [value] => ofArgument value
  | values => [.parts values]

/-- The comparison that a leaf declares, with `default` for an operator that it does not give. -/
inductive Declares (default : String) : Leaf → Comparison → Prop
  | entry {field value : Value} {name : Name} (named : field.name? = some name) :
    Declares default (.entry field value) ⟨name.plain, default, value⟩
  | pair {field value : Value} {name : Name} (named : field.name? = some name) :
    Declares default (.parts [field, value]) ⟨name.plain, default, value⟩
  | triple {field value : Value} {name : Name} (operator : Operator)
    (named : field.name? = some name) :
    Declares default (.parts [field, .text operator.symbol, value])
      ⟨name.plain, operator.symbol, value⟩

inductive Fine : Leaf → Prop
  | entry {field value : Value} {name : Name} (named : field.name? = some name) :
    Fine (.entry field value)
  | parts {values : List Value} (parts : Positional values) : Fine (.parts values)

/-- Three parts of which the first is a name, but the second is no operator. -/
def MisnamesOperator (leaf : Leaf) : Prop :=
  ∃ field operator value name, leaf = .parts [field, operator, value] ∧
    field.name? = some name ∧ ∀ known : Operator, operator ≠ .text known.symbol

/-- The fault that an offending leaf is charged with, before it is put into words. -/
inductive Offends : Leaf → Fault → Prop
  | key {field value : Value} (unnamed : field.name? = none) :
    Offends (.entry field value) (.notAName "Field" field)
  | field {field : Value} {more : List Value} (size : more.length = 1 ∨ more.length = 2)
    (unnamed : field.name? = none) : Offends (.parts (field :: more)) (.notAName "Field" field)
  | operator {field operator value : Value} {name : Name} (named : field.name? = some name)
    (unknown : ∀ known : Operator, operator ≠ .text known.symbol) :
    Offends (.parts [field, operator, value]) (.invalidOperator operator)
  | shape {values : List Value} (two : values.length ≠ 2) (three : values.length ≠ 3) :
    Offends (.parts values) (.invalidPredicate values)

end Leaf

/-! ### Reading leaves -/

theorem ofSymbol?_eq_some_iff (s : String) (operator : Operator) :
    Operator.ofSymbol? s = some operator ↔ s = operator.symbol := by
  constructor
  · intro found
    have same : operator.symbol = s := by simpa using List.find?_some found
    exact same.symm
  -- No two operators share a symbol, so that the first one found is the right one.
  · rintro rfl
    cases operator <;> rfl

/-- Only a text names an operator, and only by the very symbol. -/
theorem operator_eq_ok_iff (v : Value) (operator : Operator) :
    Operator.ofValue v = .ok operator ↔ v = .text operator.symbol := by
  have read : Operator.ofValue v = .ok operator ↔
      v.text?.bind Operator.ofSymbol? = some operator := by
    unfold Operator.ofValue
    split <;> simp [*]
  rw [read]
  cases v with
  | text s => simp [Value.text?, ofSymbol?_eq_some_iff]
  | direction d =>
    -- No direction has the keyword of an operator.
    have unknown : Operator.ofSymbol? d.keyword = none := by cases d <;> decide
    simp [Value.text?, unknown]
  | _ => simp [Value.text?]

/-- The fault shows the value, so that it can be raised only if that can be written. -/
theorem operator_eq_error_iff (v : Value) (fault : Fault) :
    Operator.ofValue v = .error fault ↔
      fault = (Fault.invalidOperator v).worded ∧ ∀ known : Operator, v ≠ .text known.symbol := by
  have unknown : (∀ known : Operator, v ≠ .text known.symbol) ↔
      ∀ known, Operator.ofValue v ≠ .ok known := by
    simp only [ne_eq, operator_eq_ok_iff]
  rw [unknown]
  unfold Operator.ofValue
  split <;> simp [eq_comm]

theorem requireName_eq_ok_iff (role : String) (v : Value) (name : Name) :
    requireName role v = .ok name ↔ v.name? = some name := by
  unfold requireName
  split <;> simp [*]

theorem requireField_eq_ok_iff (v : Value) (name : Name) :
    requireField v = .ok name ↔ v.name? = some name :=
  requireName_eq_ok_iff "Field" v name

theorem requireField_eq_error_iff (v : Value) (fault : Fault) :
    requireField v = .error fault ↔ fault = (Fault.notAName "Field" v).worded ∧ v.name? = none := by
  unfold requireField requireName
  split <;> simp [*, eq_comm]

namespace Leaf

def predicate : Leaf → Except Fault Predicate
  | entry field value => do
    let field ← requireField field
    return { field, operator := none, value }
  | parts values => ofParts values

/-- A leaf is read as the comparison that it declares. -/
theorem read_eq_ok_iff (default : String) (leaf : Leaf) (found : Comparison) :
    leaf.predicate.map (comparison default) = .ok found ↔ leaf.Declares default found := by
  rw [Outcome.map_eq_ok_iff]
  constructor
  · rintro ⟨p, read, rfl⟩
    cases leaf with
    | entry field value =>
      obtain ⟨name, named, equal⟩ := (Outcome.bind_eq_ok_iff _ _ _).mp read
      cases equal
      exact .entry ((requireField_eq_ok_iff _ _).mp named)
    | parts values =>
      -- The number of parts decides which of them is what.
      match values with
      | [field, value] =>
        obtain ⟨name, named, equal⟩ := (Outcome.bind_eq_ok_iff _ _ _).mp read
        cases equal
        exact .pair ((requireField_eq_ok_iff _ _).mp named)
      | [field, operator, value] =>
        obtain ⟨name, named, read⟩ := (Outcome.bind_eq_ok_iff _ _ _).mp read
        obtain ⟨known, whitelisted, equal⟩ := (Outcome.bind_eq_ok_iff _ _ _).mp read
        cases equal
        rw [(operator_eq_ok_iff _ _).mp whitelisted]
        exact .triple known ((requireField_eq_ok_iff _ _).mp named)
      | [] | [_] | _ :: _ :: _ :: _ :: _ => cases read
  · intro declares
    cases declares with
    | entry named | pair named =>
      have field := (requireField_eq_ok_iff _ _).mpr named
      exact ⟨_, (Outcome.bind_eq_ok_iff _ _ _).mpr ⟨_, field, rfl⟩, rfl⟩
    | triple operator named =>
      have field := (requireField_eq_ok_iff _ _).mpr named
      have known := (operator_eq_ok_iff _ operator).mpr rfl
      exact ⟨_, (Outcome.bind_eq_ok_iff _ _ _).mpr
        ⟨_, field, (Outcome.bind_eq_ok_iff _ _ _).mpr ⟨_, known, rfl⟩⟩, rfl⟩

/-- A leaf that cannot be read raises its offence, put into words. -/
theorem read_eq_error_iff (leaf : Leaf) (fault : Fault) :
    leaf.predicate = .error fault ↔ ∃ offence, leaf.Offends offence ∧ fault = offence.worded := by
  constructor
  · intro failed
    cases leaf with
    | entry field value =>
      rcases (Outcome.bind_eq_error_iff _ _ _).mp failed with refused | ⟨_, _, never⟩
      · obtain ⟨rfl, unnamed⟩ := (requireField_eq_error_iff _ _).mp refused
        exact ⟨_, .key unnamed, rfl⟩
      · cases never
    | parts values =>
      match values with
      | [field, value] =>
        rcases (Outcome.bind_eq_error_iff _ _ _).mp failed with refused | ⟨_, _, never⟩
        · obtain ⟨rfl, unnamed⟩ := (requireField_eq_error_iff _ _).mp refused
          exact ⟨_, .field (.inl rfl) unnamed, rfl⟩
        · cases never
      -- The field is looked at before the operator.
      | [field, operator, value] =>
        rcases (Outcome.bind_eq_error_iff _ _ _).mp failed with refused | ⟨name, named, failed⟩
        · obtain ⟨rfl, unnamed⟩ := (requireField_eq_error_iff _ _).mp refused
          exact ⟨_, .field (.inr rfl) unnamed, rfl⟩
        · rcases (Outcome.bind_eq_error_iff _ _ _).mp failed with refused | ⟨_, _, never⟩
          · obtain ⟨rfl, unknown⟩ := (operator_eq_error_iff _ _).mp refused
            exact ⟨_, .operator ((requireField_eq_ok_iff _ _).mp named) unknown, rfl⟩
          · cases never
      | [] | [_] | _ :: _ :: _ :: _ :: _ =>
        cases failed
        exact ⟨_, .shape (by simp) (by simp), rfl⟩
  · rintro ⟨offence, offends, rfl⟩
    cases offends with
    | key unnamed =>
      have failed := (requireField_eq_error_iff _ _).mpr ⟨rfl, unnamed⟩
      exact (Outcome.bind_eq_error_iff _ _ _).mpr (.inl failed)
    | @field field more size unnamed =>
      have failed := (requireField_eq_error_iff _ _).mpr ⟨rfl, unnamed⟩
      match more, size with
      | [_], _ | [_, _], _ => exact (Outcome.bind_eq_error_iff _ _ _).mpr (.inl failed)
    | operator named unknown =>
      have field := (requireField_eq_ok_iff _ _).mpr named
      have failed := (operator_eq_error_iff _ _).mpr ⟨rfl, unknown⟩
      exact (Outcome.bind_eq_error_iff _ _ _).mpr
        (.inr ⟨_, field, (Outcome.bind_eq_error_iff _ _ _).mpr (.inl failed)⟩)
    | @shape values two three =>
      match values, two, three with
      | [], _, _ => rfl
      | [_], _, _ => rfl
      | _ :: _ :: _ :: _ :: _, _, _ => rfl

theorem Declares.fine {default : String} {leaf : Leaf} {found : Comparison}
    (declares : leaf.Declares default found) : leaf.Fine := by
  cases declares with
  | entry named => exact .entry named
  | pair named => exact .parts (.pair named)
  | triple operator named => exact .parts (.triple operator named)

/-- The default operator is only put in, never looked at. -/
theorem Fine.declares {leaf : Leaf} (fine : leaf.Fine) (default : String) :
    ∃ found, leaf.Declares default found := by
  cases fine with
  | entry named => exact ⟨_, .entry named⟩
  | parts parts =>
    cases parts with
    | pair named => exact ⟨_, .pair named⟩
    | triple operator named => exact ⟨_, .triple operator named⟩

/-- Reading a leaf succeeds if it is fine. -/
theorem fine_iff (leaf : Leaf) : leaf.Fine ↔ ∃ p, leaf.predicate = .ok p := by
  constructor
  · intro fine
    obtain ⟨found, declares⟩ := fine.declares ""
    obtain ⟨p, ok, _⟩ := (Outcome.map_eq_ok_iff _ _ _).mp ((read_eq_ok_iff "" leaf found).mpr declares)
    exact ⟨p, ok⟩
  · rintro ⟨p, ok⟩
    exact ((read_eq_ok_iff "" leaf _).mp ((Outcome.map_eq_ok_iff _ _ _).mpr ⟨p, ok, rfl⟩)).fine

end Leaf

/-! ### Arguments and their leaves -/

theorem ofEntries_leaves (entries : List (Value × Value)) :
    (ofEntries entries).map Nested.leavesOf =
      (entries.map fun entry => Leaf.entry entry.1 entry.2).mapM Leaf.predicate := by
  have each : ofEntries entries = entries.mapM fun entry =>
      ((Leaf.entry entry.1 entry.2).predicate).map Nested.leaf := by
    rw [ofEntries]
    congr 1
    funext entry
    rw [Leaf.predicate]
    cases requireField entry.1 <;> rfl
  rw [each, Nested.mapM_leaf, List.mapM_map]
  rfl

mutual

/-- An argument is read leaf by leaf. -/
theorem ofArgument_leaves (v : Value) :
    (ofArgument v).map Nested.leaves = (Leaf.ofArgument v).mapM Leaf.predicate := by
  cases v with
  | map entries =>
    unfold ofArgument Leaf.ofArgument
    rw [Nested.map_group, ofEntries_leaves]
  | list items | tuple items =>
    unfold ofArgument Leaf.ofArgument
    by_cases grouped : areGrouped items = true
    · rw [if_pos grouped, if_pos grouped, Nested.map_group, ofEach_leaves items]
    -- Items that are not read one by one are the parts of a single leaf.
    · rw [if_neg grouped, if_neg grouped, Nested.map_leaf]
      simp [Leaf.predicate]
  | _ =>
    unfold ofArgument Leaf.ofArgument
    rfl

/-- Several arguments are read leaf by leaf, those of the first before those of the others. -/
theorem ofEach_leaves (items : List Value) :
    (ofEach items).map Nested.leavesOf = (Leaf.ofEach items).mapM Leaf.predicate := by
  cases items with
  | nil =>
    unfold ofEach Leaf.ofEach
    simp [Except.map, pure, Except.pure]
  | cons v rest =>
    unfold ofEach Leaf.ofEach
    rw [List.mapM_append, ← ofArgument_leaves v, ← ofEach_leaves rest]
    exact Nested.map_cons (ofArgument v) (ofEach rest)

end

/-- Reading the arguments of a call is reading their leaves, from left to right. -/
theorem ofArguments_leaves (arguments : List Value) :
    (ofArguments arguments).map Nested.leaves =
      (Leaf.ofArguments arguments).mapM Leaf.predicate := by
  have separate (values : List Value) : ((ofParts values).map Nested.leaf).map Nested.leaves =
      [Leaf.parts values].mapM Leaf.predicate := by
    rw [Nested.map_leaf]
    simp [Leaf.predicate]
  match arguments with
  | [v] => exact ofArgument_leaves v
  | [] => exact separate []
  | first :: second :: rest => exact separate (first :: second :: rest)

/-- A call declares the comparisons of its leaves. -/
theorem comparisonsFrom_leaves (default : String) (arguments : List Value) :
    comparisonsFrom (.text default) arguments =
      ((Leaf.ofArguments arguments).mapM Leaf.predicate).map (List.map (comparison default)) := by
  have all (f : Predicate → Except Fault Comparison) (each : ∀ p, f p = .ok (p.comparison default))
      (ps : List Predicate) : ps.mapM f = .ok (ps.map (comparison default)) := by
    rw [Outcome.mapM_eq_ok_iff, List.forall₂_map_right_iff, List.forall₂_same]
    exact fun p _ => each p
  rw [← ofArguments_leaves, comparisonsFrom]
  cases ofArguments arguments with
  | error fault => rfl
  | ok tree =>
    refine all _ (fun p => ?_) tree.leaves
    -- A default that is a text passes its check, whether it is needed or not.
    cases named : p.operator with
    | none =>
      simp only [comparison, named]
      rfl
    | some operator => simp [comparison, named]

/-- With an operator for the default, these are the comparisons of a call on a builder. -/
theorem comparisons_eq (operator : Operator) (arguments : List Value) :
    comparisons operator arguments = comparisonsFrom (.text operator.symbol) arguments := by
  rw [comparisonsFrom_leaves, ← ofArguments_leaves, comparisons]
  cases ofArguments arguments <;> rfl

/-! ### Groups and their leaves -/

theorem Group.isGroup {v : Value} (group : Group v) : v.isGroup = true := by
  cases group <;> rfl

/-- What begins with a name is no list of groups. -/
theorem Positional.flat {items : List Value} (parts : Positional items) :
    areGrouped items = false := by
  cases parts with
  | @pair field value name named | @triple field value name operator named =>
    cases field with
    | list | tuple | map => cases named
    | _ => rfl

theorem Leaf.mem_ofEach (leaf : Leaf) (items : List Value) :
    leaf ∈ ofEach items ↔ ∃ v ∈ items, leaf ∈ ofArgument v := by
  induction items with
  | nil =>
    unfold ofEach
    simp
  | cons v rest ih =>
    unfold ofEach
    simp [ih]

/-- All leaves of a group are fine. -/
theorem Group.fine {v : Value} (group : Group v) : ∀ leaf ∈ Leaf.ofArgument v, leaf.Fine := by
  -- By induction on the group, whose shape is the recursion of the leaves.
  induction group with
  | map named =>
    intro leaf member
    unfold Leaf.ofArgument at member
    obtain ⟨entry, here, rfl⟩ := List.mem_map.mp member
    obtain ⟨name, named⟩ := named entry here
    exact .entry named
  | listOfParts parts | tupleOfParts parts =>
    unfold Leaf.ofArgument
    rw [if_neg (by simp [parts.flat])]
    intro leaf member
    rw [List.mem_singleton.mp member]
    exact .parts parts
  | list grouped _ ih | tuple grouped _ ih =>
    unfold Leaf.ofArgument
    rw [if_pos (by exact grouped)]
    intro leaf member
    obtain ⟨v, here, leafOf⟩ := (Leaf.mem_ofEach _ _).mp member
    exact ih v here leaf leafOf

mutual

/-- An argument all of whose leaves are fine is a group. -/
theorem group_of_fine (v : Value) (fine : ∀ leaf ∈ Leaf.ofArgument v, leaf.Fine) : Group v := by
  cases v with
  | map entries =>
    unfold Leaf.ofArgument at fine
    refine .map fun entry here => ?_
    cases fine _ (List.mem_map.mpr ⟨entry, here, rfl⟩) with
    | entry named => exact ⟨_, named⟩
  | list items | tuple items =>
    unfold Leaf.ofArgument at fine
    -- Read one by one if the first item is a group, or else as the parts of one predicate.
    by_cases grouped : areGrouped items = true
    · rw [if_pos grouped] at fine
      have each := groups_of_fine items fine
      cases items with
      | nil => cases grouped
      | cons => first | exact .list grouped each | exact .tuple grouped each
    · rw [if_neg grouped] at fine
      cases fine _ (List.mem_singleton_self _) with
      | parts parts => first | exact .listOfParts parts | exact .tupleOfParts parts
  | _ =>
    -- A single value is no predicate.
    unfold Leaf.ofArgument at fine
    cases fine _ (List.mem_singleton_self _) with
    | parts parts => cases parts

/-- Items whose leaves are fine are groups: an item that is none has a leaf that is not. -/
theorem groups_of_fine (items : List Value) (fine : ∀ leaf ∈ Leaf.ofEach items, leaf.Fine) :
    ∀ v ∈ items, Group v := by
  cases items with
  | nil => simp
  | cons first rest =>
    unfold Leaf.ofEach at fine
    have head := group_of_fine first fun leaf here => fine leaf (List.mem_append_left _ here)
    have tail := groups_of_fine rest fun leaf here => fine leaf (List.mem_append_right _ here)
    exact List.forall_mem_cons.mpr ⟨head, tail⟩

end

/-- Arguments are accepted if all of their leaves are fine. -/
theorem accepted_iff (arguments : List Value) :
    Accepted arguments ↔ ∀ leaf ∈ Leaf.ofArguments arguments, leaf.Fine := by
  have separate (values : List Value) (several : values.length ≠ 1) :
      Accepted values ↔ ∀ leaf ∈ [Leaf.parts values], leaf.Fine := by
    constructor
    · intro accepted leaf member
      rw [List.mem_singleton.mp member]
      cases accepted with
      | parts parts => exact .parts parts
      | group => simp at several
    · intro fine
      cases fine _ (List.mem_singleton_self _) with
      | parts parts => exact .parts parts
  -- Only a single argument can be a group, and it is never positional.
  match arguments with
  | [] => exact separate [] (by simp)
  | first :: second :: rest => exact separate (first :: second :: rest) (by simp)
  | [v] =>
    constructor
    · intro accepted
      cases accepted with
      | parts parts => cases parts
      | group group => exact group.fine
    · exact fun fine => .group (group_of_fine v fine)

/-! ### Arguments without a leaf -/

theorem Leaf.ofEach_eq_nil_iff (items : List Value) :
    ofEach items = [] ↔ ∀ v ∈ items, ofArgument v = [] := by
  induction items with
  | nil =>
    unfold ofEach
    simp
  | cons v rest ih =>
    unfold ofEach
    simp [ih]

theorem OnlyEmpty.isGroup {v : Value} (empty : OnlyEmpty v) : v.isGroup = true := by
  cases empty <;> rfl

theorem OnlyEmpty.ofArgument_eq_nil {v : Value} (empty : OnlyEmpty v) :
    Leaf.ofArgument v = [] := by
  induction empty with
  | map =>
    unfold Leaf.ofArgument
    rfl
  | list each ih | tuple each ih =>
    unfold Leaf.ofArgument
    rw [if_pos (by exact (each _ List.mem_cons_self).isGroup)]
    exact (Leaf.ofEach_eq_nil_iff _).mpr ih

mutual

/-- An argument without a leaf consists of empty mappings. -/
theorem onlyEmpty_of_eq_nil (v : Value) (none : Leaf.ofArgument v = []) : OnlyEmpty v := by
  cases v with
  | map entries =>
    unfold Leaf.ofArgument at none
    obtain rfl := List.map_eq_nil_iff.mp none
    exact .map
  | list items | tuple items =>
    unfold Leaf.ofArgument at none
    -- Parts are a leaf, so that without a leaf the items are groups.
    by_cases grouped : areGrouped items = true
    · rw [if_pos grouped] at none
      have each := each_onlyEmpty_of_eq_nil items none
      cases items with
      | nil => cases grouped
      | cons => first | exact .list each | exact .tuple each
    · rw [if_neg grouped] at none
      cases none
  | _ =>
    unfold Leaf.ofArgument at none
    cases none

theorem each_onlyEmpty_of_eq_nil (items : List Value) (none : Leaf.ofEach items = []) :
    ∀ v ∈ items, OnlyEmpty v := by
  cases items with
  | nil => simp
  | cons first rest =>
    unfold Leaf.ofEach at none
    obtain ⟨here, there⟩ := List.append_eq_nil_iff.mp none
    have head := onlyEmpty_of_eq_nil first here
    have tail := each_onlyEmpty_of_eq_nil rest there
    exact List.forall_mem_cons.mpr ⟨head, tail⟩

end

/-- Only empty mappings have no leaf; an empty list stands for itself. -/
theorem ofArguments_eq_nil_iff (arguments : List Value) :
    Leaf.ofArguments arguments = [] ↔ ∃ v, arguments = [v] ∧ OnlyEmpty v := by
  match arguments with
  | [] => simp [Leaf.ofArguments]
  | [v] =>
    constructor
    · exact fun none => ⟨v, rfl, onlyEmpty_of_eq_nil v none⟩
    · rintro ⟨w, equal, empty⟩
      cases equal
      exact empty.ofArgument_eq_nil
  | _ :: _ :: _ => simp [Leaf.ofArguments]

/-! ### Outcomes of a call -/

/-- The first leaf that is not fine, and the fault that it is charged with. -/
def FirstOffence (arguments : List Value) (offence : Fault) : Prop :=
  ∃ before leaf after, Leaf.ofArguments arguments = before ++ leaf :: after ∧
    (∀ other ∈ before, other.Fine) ∧ leaf.Offends offence

/-- A leaf that is not fine is charged with an invalid operator if it misnames one, and with an
invalid argument if it does not. -/
theorem Leaf.Offends.fault {leaf : Leaf} {offence : Fault} (offends : leaf.Offends offence) :
    (leaf.MisnamesOperator ↔ ∃ operator, offence = .invalidOperator operator) ∧
    (leaf.MisnamesOperator ∨ offence.kind? = some .invalidArgument) := by
  have other (fine : ¬leaf.MisnamesOperator) (invalid : offence.kind? = some .invalidArgument) :
      (leaf.MisnamesOperator ↔ ∃ operator, offence = .invalidOperator operator) ∧
      (leaf.MisnamesOperator ∨ offence.kind? = some .invalidArgument) := by
    refine ⟨⟨fun misnames => absurd misnames fine, ?_⟩, .inr invalid⟩
    rintro ⟨operator, rfl⟩
    cases invalid
  cases offends with
  | key =>
    refine other ?_ rfl
    rintro ⟨_, _, _, _, equal, _⟩
    cases equal
  | field size unnamed =>
    refine other ?_ rfl
    rintro ⟨_, _, _, name, equal, named, _⟩
    cases equal
    simp [unnamed] at named
  | @operator field operator value name named unknown =>
    have misnames : MisnamesOperator (.parts [field, operator, value]) :=
      ⟨field, operator, value, name, rfl, named, unknown⟩
    -- The operator is what is wrong, and nothing else offends here.
    exact ⟨⟨fun _ => ⟨_, rfl⟩, fun _ => misnames⟩, .inl misnames⟩
  | shape two three =>
    refine other ?_ rfl
    rintro ⟨_, _, _, _, equal, _⟩
    cases equal
    exact three rfl

/-- Success is judged by the leaves alone. -/
theorem comparisonsFrom_eq_ok_iff (default : String) (arguments : List Value)
    (found : List Comparison) : comparisonsFrom (.text default) arguments = .ok found ↔
      List.Forall₂ (Leaf.Declares default) (Leaf.ofArguments arguments) found := by
  rw [comparisonsFrom_leaves, Outcome.map_eq_ok_iff]
  constructor
  · rintro ⟨ps, read, rfl⟩
    rw [Outcome.mapM_eq_ok_iff] at read
    rw [List.forall₂_map_right_iff]
    refine read.imp fun leaf p ok => ?_
    exact (Leaf.read_eq_ok_iff default leaf _).mp ((Outcome.map_eq_ok_iff _ _ _).mpr ⟨p, ok, rfl⟩)
  · intro declared
    -- From what each leaf declares, the predicates are put together again leaf by leaf.
    generalize Leaf.ofArguments arguments = leaves at declared
    simp only [Outcome.mapM_eq_ok_iff]
    induction declared with
    | nil => exact ⟨[], .nil, rfl⟩
    | cons first _ ih =>
      obtain ⟨p, ok, rfl⟩ := (Outcome.map_eq_ok_iff _ _ _).mp
        ((Leaf.read_eq_ok_iff default _ _).mpr first)
      obtain ⟨ps, read, rfl⟩ := ih
      exact ⟨p :: ps, .cons ok read, rfl⟩

/-- The first offence is raised, put into words. -/
theorem comparisonsFrom_eq_error_iff (default : String) (arguments : List Value) (fault : Fault) :
    comparisonsFrom (.text default) arguments = .error fault ↔
      ∃ offence, FirstOffence arguments offence ∧ fault = offence.worded := by
  simp only [comparisonsFrom_leaves, Outcome.map_eq_error_iff, Outcome.mapM_eq_error_iff,
    Leaf.read_eq_error_iff, Leaf.fine_iff, FirstOffence]
  constructor
  · rintro ⟨before, leaf, after, split, fine, offence, offends, worded⟩
    exact ⟨offence, ⟨before, leaf, after, split, fine, offends⟩, worded⟩
  · rintro ⟨offence, ⟨before, leaf, after, split, fine, offends⟩, worded⟩
    exact ⟨before, leaf, after, split, fine, offence, offends, worded⟩

/-- The grammar is met exactly if every leaf is fine. -/
theorem comparisonsFrom_succeeds_iff (default : String) (arguments : List Value) :
    (∃ found, comparisonsFrom (.text default) arguments = .ok found) ↔ Accepted arguments := by
  rw [accepted_iff]
  constructor
  · rintro ⟨found, ok⟩
    rw [comparisonsFrom_eq_ok_iff] at ok
    generalize Leaf.ofArguments arguments = leaves at ok
    induction ok with
    | nil => simp
    | cons first _ ih => exact List.forall_mem_cons.mpr ⟨first.fine, ih⟩
  · intro fine
    cases outcome : comparisonsFrom (.text default) arguments with
    | ok found => exact ⟨found, rfl⟩
    | error fault =>
      -- Of fine leaves none is the first that offends.
      obtain ⟨offence, ⟨before, leaf, after, split, _, offends⟩, worded⟩ :=
        (comparisonsFrom_eq_error_iff default arguments fault).mp outcome
      obtain ⟨p, ok⟩ := leaf.fine_iff.mp (fine leaf (by simp [split]))
      rw [(leaf.read_eq_error_iff fault).mpr ⟨offence, offends, worded⟩] at ok
      cases ok

/-- A call takes exactly what its grammar describes. It succeeds on a field and a value, on a field,
an operator and a value, and on groups of such; it then declares one comparison for each leaf, in
order, and none only if there is no leaf. Otherwise the first leaf that offends decides the fault:
an invalid operator if the leaf misnames one, and else an invalid argument, provided that no integer
in what is to be shown has too many digits. -/
theorem comparisonsFrom_accepts_grammar (default : String) (arguments : List Value) :
    ((∃ found, comparisonsFrom (.text default) arguments = .ok found) ↔ Accepted arguments) ∧
    (∀ found, comparisonsFrom (.text default) arguments = .ok found →
      List.Forall₂ (Leaf.Declares default) (Leaf.ofArguments arguments) found ∧
      (found = [] ↔ ∃ v, arguments = [v] ∧ OnlyEmpty v)) ∧
    ∀ fault, comparisonsFrom (.text default) arguments = .error fault ↔
      ∃ before leaf after offence, Leaf.ofArguments arguments = before ++ leaf :: after ∧
        (∀ other ∈ before, other.Fine) ∧ leaf.Offends offence ∧
        (leaf.MisnamesOperator ↔ ∃ operator, offence = .invalidOperator operator) ∧
        (leaf.MisnamesOperator ∨ offence.kind? = some .invalidArgument) ∧
        (((∀ v ∈ offence.shown, v.isWritable = true) ∧ fault = offence) ∨
          ((∃ v ∈ offence.shown, v.isWritable = false) ∧ fault = .tooManyDigits)) := by
  refine ⟨comparisonsFrom_succeeds_iff default arguments, ?_, ?_⟩
  · intro found ok
    have declared := (comparisonsFrom_eq_ok_iff default arguments found).mp ok
    -- There are as many comparisons as leaves.
    refine ⟨declared, ?_⟩
    rw [← ofArguments_eq_nil_iff, ← List.length_eq_zero_iff, ← List.length_eq_zero_iff,
      declared.length_eq]
  · intro fault
    rw [comparisonsFrom_eq_error_iff]
    constructor
    · rintro ⟨offence, ⟨before, leaf, after, split, fine, offends⟩, worded⟩
      obtain ⟨misnamed, kind⟩ := offends.fault
      exact ⟨before, leaf, after, offence, split, fine, offends, misnamed, kind,
        (Fault.eq_worded_iff fault offence).mp worded⟩
    · rintro ⟨before, leaf, after, offence, split, fine, offends, _, _, worded⟩
      exact ⟨offence, ⟨before, leaf, after, split, fine, offends⟩,
        (Fault.eq_worded_iff fault offence).mpr worded⟩

/-- A long integer for a field and one for an operator. Neither is reported as what it is. -/
theorem long_integers_are_not_reported :
    let long : Value := .int (10 ^ Numeral.maxDigits)
    let misnamed : List Value := [.text "a", long, .int 1]
    ¬Accepted [long, .int 1] ∧ (Leaf.parts misnamed).MisnamesOperator ∧
    comparisonsFrom (.text "=") [long, .int 1] = .error .tooManyDigits ∧
    comparisonsFrom (.text "=") misnamed = .error .tooManyDigits ∧
    Fault.tooManyDigits.kind? = none := by
  intro long misnamed
  have unwritable : long.isWritable = false := Value.not_isWritable_power
  have raised {arguments : List Value} (offence : Fault) (first : FirstOffence arguments offence)
      (shown : long ∈ offence.shown) :
      comparisonsFrom (.text "=") arguments = .error .tooManyDigits := by
    rw [comparisonsFrom_eq_error_iff]
    exact ⟨offence, first, (Fault.eq_worded_iff _ _).mpr (.inr ⟨⟨long, shown, unwritable⟩, rfl⟩)⟩
  have unknown (known : Operator) : long ≠ .text known.symbol := nofun
  -- Each is the first offence, and what it would show is the integer.
  refine ⟨?_, ⟨_, _, _, .text "a", rfl, rfl, unknown⟩, raised (.notAName "Field" long) ?_ ?_,
    raised (.invalidOperator long) ?_ ?_, rfl⟩
  · intro accepted
    cases accepted with
    | parts parts =>
      cases parts with
      | pair named => cases named
  · exact ⟨[], _, [], rfl, by simp, .field (.inl rfl) rfl⟩
  · simp [Fault.shown]
  · have named : (Value.text "a").name? = some (.text "a") := rfl
    exact ⟨[], _, [], rfl, by simp, .operator named unknown⟩
  · simp [Fault.shown]

end Predicate

end FluentSql
