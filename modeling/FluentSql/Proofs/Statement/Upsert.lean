import FluentSql.Proofs.Statement.ConditionText

/-!
# Insertions that update on a conflict

An upsert inserts every field of the row. On a conflict it keeps the fields that are targets and sets
the others, so that each field is dealt with once. Main result: `Query.upsert_partitions_fields`.
-/

namespace FluentSql

/-- Row data with the given fields and values. -/
def Value.ofRow (row : List (Name × Value)) : Value :=
  .map (row.map fun entry => (entry.1.toValue, entry.2))

/-- The value is a conflict target of the given names: of none, of one, or of all that come out of a
collection. -/
inductive Value.NamesTargets : Value → List Name → Prop
  | none : NamesTargets .null []
  | one (name : Name) : NamesTargets name.toValue [name]
  | several {value : Value} {names : List Name} (unnamed : value.name? = .none)
    (elements : value.elements? = some (names.map Name.toValue)) : NamesTargets value names

/-- The fields of a row are shared out between those that are set on a conflict and those that are
kept because they are targets. Each part has its fields in the order of the row. -/
structure SharedOut (targets fields updated kept : List Name) : Prop where
  updated_sublist : updated.Sublist fields
  kept_sublist : kept.Sublist fields
  together : (updated ++ kept).Perm fields
  updated_apart : ∀ field ∈ updated, field.plain ∉ targets.map Name.plain
  kept_targets : ∀ field ∈ kept, field.plain ∈ targets.map Name.plain

/-- Nothing is set on a conflict exactly if every field is a target. -/
theorem SharedOut.updated_eq_nil_iff {targets fields updated kept : List Name}
    (shared : SharedOut targets fields updated kept) :
    updated = [] ↔ ∀ field ∈ fields, field.plain ∈ targets.map Name.plain := by
  constructor
  · rintro rfl field member
    exact shared.kept_targets field (shared.together.mem_iff.mpr member)
  · intro all
    refine List.eq_nil_iff_forall_not_mem.mpr fun field member => ?_
    exact shared.updated_apart field member (all field (shared.updated_sublist.mem member))

/-- Whether a field is one of the targets shares out the fields. -/
theorem sharedOut_filter (targets fields : List Name) :
    SharedOut targets fields
      (fields.filter fun field => !(targets.map Name.plain).contains field.plain)
      (fields.filter fun field => (targets.map Name.plain).contains field.plain) where
  updated_sublist := List.filter_sublist
  kept_sublist := List.filter_sublist
  together := List.perm_append_comm.trans (List.filter_append_perm _ fields)
  updated_apart := by
    intro field member
    simpa using (List.mem_filter.mp member).2
  kept_targets := by
    intro field member
    simpa using (List.mem_filter.mp member).2

namespace Value

/-- The targets are taken as they come, in their order. -/
theorem NamesTargets.conflictTargets {conflict : Value} {targets : List Name}
    (named : conflict.NamesTargets targets) :
    conflictTargets conflict = .ok (targets.map Name.toValue) := by
  cases named with
  | none => rfl
  | one name => cases name <;> rfl
  | several unnamed elements =>
    cases conflict with
    | text s | direction d => cases unnamed
    | null => cases elements
    | _ => simp only [FluentSql.conflictTargets, elements]

end Value

theorem namesToJoin_toValue (names : List Name) :
    namesToJoin (names.map Name.toValue) = .ok names := by
  rw [namesToJoin_eq_ok_iff, List.forall₂_map_left_iff]
  exact List.forall₂_same.mpr fun name _ => name.name?_toValue

theorem insertHead_sql (table : String) (fields : List Name) (values : List Value) :
    (insertHead table fields values).sql = "INSERT INTO " ++ table ++ " (" ++
      ", ".intercalate (fields.map Name.plain) ++ ") VALUES (" ++ marks values.length ++ ")" := by
  simp [insertHead, nameList, Fragment.sql_slots]

namespace Query

/-- An upsert inserts every field of the row in the order of the row, whatever the targets are. It
names the targets as they were given, sets the fields that are no targets, and does nothing on a
conflict if every field is one. -/
theorem upsert_partitions_fields (q : Query) {row : List (Name × Value)} (filled : row ≠ [])
    {conflict : Value} {targets : List Name} (named : conflict.NamesTargets targets) :
    let fields := row.map Prod.fst
    let list (names : List Name) := ", ".intercalate (names.map Name.plain)
    let setting (field : Name) := field.shown ++ "=excluded." ++ field.shown
    ∃ s updated kept, q.upsert (.ofRow row) conflict = .ok s ∧
      s.sql = "INSERT INTO " ++ q.table ++ " (" ++ list fields ++ ") VALUES (" ++
        marks fields.length ++ ") ON CONFLICT " ++
        (if targets = [] then "" else "(" ++ list targets ++ ") ") ++
        (if updated = [] then "DO NOTHING"
          else "DO UPDATE SET " ++ ", ".intercalate (updated.map setting)) ++ ";" ∧
      s.params = row.map Prod.snd ∧
      SharedOut targets fields updated kept ∧
      (updated = [] ↔ ∀ field ∈ fields, field.plain ∈ targets.map Name.plain) := by
  intro fields list setting
  have shared := sharedOut_filter targets fields
  have keys : (row.map fun entry => (entry.1.toValue, entry.2)).map Prod.fst =
      fields.map Name.toValue := by
    rw [List.map_map, List.map_map]
    rfl
  have values : (row.map fun entry => (entry.1.toValue, entry.2)).map Prod.snd =
      row.map Prod.snd := by
    rw [List.map_map]
    rfl
  -- The row is filled and all names are names, which is all that an upsert asks for.
  have compiled := (q.upsert_eq_ok_iff (.ofRow row) conflict _).mpr
    ⟨_, rfl, by simpa using filled, _, named.conflictTargets, targets, namesToJoin_toValue targets,
      fields, by rw [keys, namesToJoin_toValue], rfl⟩
  refine ⟨_, _, _, compiled, ?_, ?_, shared, shared.updated_eq_nil_iff⟩
  · rw [values]
    simp only [Statement.sql, Statement.ofParts, Fragment.joined, Fragment.sql_append,
      Fragment.sql_text, insertHead_sql, conflictClause, nameList, List.isEmpty_iff, terminator,
      List.length_map, fields, list, setting]
    simp only [String.append_assoc]
    rfl
  · rw [values]
    simp [insertHead, conflictClause]

/-- Targets that come twice, that no field has, and that name a field by a direction, all of them
readable once. -/
theorem upsert_with_overlapping_targets :
    let row : List (Name × Value) :=
      [(.text "a", .int 1), (.text "b", .null), (.text "ASC", .list []), (.text "c", .text "?")]
    let targets : List Name := [.text "b", .text "b", .direction .ascending, .text "z"]
    let conflict : Value := .stream (targets.map Name.toValue)
    row ≠ [] ∧ conflict.NamesTargets targets ∧
    ∃ s updated kept, ({ table := "t" } : Query).upsert (.ofRow row) conflict = .ok s ∧
      s.sql = "INSERT INTO t (a, b, ASC, c) VALUES (?,?,?,?) " ++
        "ON CONFLICT (b, b, ASC, z) DO UPDATE SET a=excluded.a, c=excluded.c;" ∧
      s.params = [.int 1, .null, .list [], .text "?"] ∧
      SharedOut targets (row.map Prod.fst) updated kept := by
  intro row targets conflict
  have filled : row ≠ [] := List.cons_ne_nil _ _
  have named : conflict.NamesTargets targets := .several rfl rfl
  obtain ⟨s, updated, kept, compiled, _, params, shared, _⟩ :=
    upsert_partitions_fields { table := "t" } filled named
  refine ⟨filled, named, s, updated, kept, compiled, ?_, params, shared⟩
  cases compiled
  decide

end Query

end FluentSql
