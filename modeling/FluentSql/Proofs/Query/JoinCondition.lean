import FluentSql.Proofs.Builder.Run
import FluentSql.Proofs.Text.Delimited

/-!
# Join conditions

Which arguments are join conditions, and what the text of one tells. An argument `Names` a condition
by the texts that it holds, each in its place; any other argument is refused. The text of a condition
with plain names tells its kind and all its names in their places.
Main result: `JoinCondition.conditions_taken_and_told_apart`.
-/

namespace FluentSql

/-! ### The text of join conditions -/

/-- The keyword of a direction is a plain name like the direction's full name. -/
theorem Name.plainName_plain (name : Name) (plain : PlainName name.shown) :
    PlainName name.plain := by
  cases name with
  | text s => exact plain
  | direction d => cases d <;> decide

namespace JoinCondition

/-- What a condition says, by the texts of its names. -/
inductive Texts where
  | shared (columns : List String)
  | paired (pairs : List (String × String))
  deriving DecidableEq

/-- The texts that the names of a condition are written as. -/
def texts : JoinCondition → Texts
  | shared columns => .shared (columns.map Name.plain)
  | paired pairs => .paired (pairs.map fun p => (p.1.shown, p.2.shown))

namespace Texts

/-- There is a name, and all names are plain. -/
def Plain : Texts → Prop
  | shared columns => columns ≠ [] ∧ ∀ column ∈ columns, PlainName column
  | paired pairs => pairs ≠ [] ∧ ∀ p ∈ pairs, PlainName p.1 ∧ PlainName p.2

/-- Two columns that are to be equal. -/
def pairText (p : String × String) : String := p.1 ++ "=" ++ p.2

/-- The condition as it stands in a statement. -/
def text : Texts → String
  | shared columns => "USING (" ++ (", ".intercalate columns ++ ")")
  | paired pairs => "ON " ++ " AND ".intercalate (pairs.map pairText)

/-- The sign of equality ends the left name, since no plain name holds it. -/
theorem delimited_pair {next : List String} (stops : StopsNames next) :
    Delimited (fun p => PlainName p.1 ∧ PlainName p.2) (fun p => (pairText p).toList) next := by
  rintro ⟨left, right⟩ ⟨left', right'⟩ r r' ⟨plainLeft, plainRight⟩ ⟨plainLeft', plainRight'⟩
    opens opens' equal
  simp only [pairText, String.toList_append, List.append_assoc] at equal
  -- The first name ends at the sign, and the second where the pair ends.
  have name : Delimited PlainName String.toList ["="] := .name (by decide)
  obtain ⟨rfl, rest⟩ := name left left' _ _ plainLeft plainLeft' (opens_append "=" _ (by simp) _)
    (opens_append "=" _ (by simp) _) equal
  obtain ⟨rfl, rfl⟩ := Delimited.name stops right right' r r' plainRight plainRight' opens opens'
    (List.append_cancel_left rest)
  exact ⟨rfl, rfl⟩

/-- No text begins like conditions of both kinds. -/
theorem keywords_differ (r r' : List Char) : "USING (".toList ++ r ≠ "ON ".toList ++ r' := by
  intro equal
  have apart : Apart ["USING ("] ["ON "] := by decide
  have opens : Opens ["USING ("] ("USING (".toList ++ r) := opens_append _ _ (by simp) r
  have opens' : Opens ["ON "] ("ON ".toList ++ r') := opens_append _ _ (by simp) r'
  rw [equal] at opens
  exact apart.not_opens opens opens'

/-- A condition ends where nothing comes that could be a further name or pair. -/
theorem delimited {next : List String} (stops : StopsNames next) (apart : Apart [" AND "] next) :
    Delimited Plain (fun t => t.text.toList) next := by
  intro a b r r' plain plain' opens opens' equal
  cases a with
  | shared columns =>
    cases b with
    | shared columns' =>
      -- Behind a name stands a comma or the closing parenthesis.
      have name : Delimited PlainName String.toList [", ", ")"] := .name (by decide)
      have names := name.separated ", " (by decide)
      simp only [text, String.toList_append, List.append_assoc] at equal
      rw [toList_intercalate, toList_intercalate] at equal
      obtain ⟨rfl, rest⟩ := names columns columns' _ _ plain plain'
        (opens_append ")" _ (by simp) r) (opens_append ")" _ (by simp) r')
        (List.append_cancel_left equal)
      exact ⟨rfl, List.append_cancel_left rest⟩
    | paired pairs =>
      simp only [text, String.toList_append, List.append_assoc] at equal
      exact absurd equal (keywords_differ _ _)
  | paired pairs =>
    cases b with
    | shared columns =>
      simp only [text, String.toList_append, List.append_assoc] at equal
      exact absurd equal.symm (keywords_differ _ _)
    | paired pairs' =>
      -- Behind a pair stands a further pair or what comes next.
      have further : StopsNames (" AND " :: next) := by
        intro o member
        rcases List.mem_cons.mp member with rfl | member
        · decide
        · exact stops o member
      have all := (delimited_pair further).separated " AND " apart
      simp only [text, String.toList_append, List.append_assoc] at equal
      rw [toList_intercalate_map, toList_intercalate_map] at equal
      obtain ⟨rfl, rfl⟩ := all pairs pairs' r r' plain plain' opens opens'
        (List.append_cancel_left equal)
      exact ⟨rfl, rfl⟩

end Texts

theorem sql_eq_text (condition : JoinCondition) : condition.sql = condition.texts.text := by
  cases condition with
  | shared columns => rw [sql, texts, Texts.text, String.append_assoc]
  | paired pairs =>
    rw [sql, texts, Texts.text, List.map_map]
    rfl

/-- Plain names leave the text of the condition readable. -/
theorem texts_plain (condition : JoinCondition) (filled : condition.names ≠ [])
    (plain : ∀ name ∈ condition.names, PlainName name.shown) : condition.texts.Plain := by
  cases condition with
  | shared columns =>
    refine ⟨by simpa [names] using filled, ?_⟩
    intro text member
    obtain ⟨name, here, rfl⟩ := List.mem_map.mp member
    exact name.plainName_plain (plain name here)
  | paired pairs =>
    -- A condition of pairs has names exactly if it has pairs.
    refine ⟨by rintro empty; simp_all [names], ?_⟩
    intro p member
    obtain ⟨pair, here, rfl⟩ := List.mem_map.mp member
    constructor
    · exact plain pair.1 (List.mem_flatMap.mpr ⟨pair, here, by simp⟩)
    · exact plain pair.2 (List.mem_flatMap.mpr ⟨pair, here, by simp⟩)

end JoinCondition

namespace JoinCondition

/-- What an argument names: a text by itself, the texts of a list or tuple, or those of a mapping in
pairs. A text by itself must not be empty, and a list, tuple or mapping must hold something. -/
inductive Names : Value → JoinCondition → Prop
  | text {value : Value} {column : Name} (named : value.name? = some column)
    (filled : column.plain ≠ "") : Names value (.shared [column])
  | sequence {value : Value} {items : List Value} {columns : List Name}
    (holds : value = .list items ∨ value = .tuple items) (filled : items ≠ [])
    (each : List.Forall₂ (fun item column => item.name? = some column) items columns) :
    Names value (.shared columns)
  | map {entries : List (Value × Value)} {pairs : List (Name × Name)} (filled : entries ≠ [])
    (each : List.Forall₂ (fun entry pair =>
      entry.1.name? = some pair.1 ∧ entry.2.name? = some pair.2) entries pairs) :
    Names (.map entries) (.paired pairs)

/-! ### Reading arguments -/

theorem pair?_eq_some_iff (entry : Value × Value) (pair : Name × Name) :
    pair? entry = some pair ↔ entry.1.name? = some pair.1 ∧ entry.2.name? = some pair.2 := by
  obtain ⟨left, right⟩ := pair
  unfold pair?
  cases entry.1.name? <;> cases entry.2.name? <;> simp

theorem mapM_pair?_eq_some_iff (entries : List (Value × Value)) (pairs : List (Name × Name)) :
    entries.mapM pair? = some pairs ↔ List.Forall₂ (fun entry pair =>
      entry.1.name? = some pair.1 ∧ entry.2.name? = some pair.2) entries pairs := by
  rw [Outcome.mapM_eq_some_iff]
  simp only [pair?_eq_some_iff]

/-- The accepted shapes are those with names only and at least one. -/
theorem ofArgument?_eq_some_iff (value : Value) (condition : JoinCondition) :
    ofArgument? value = some condition ↔ Names value condition := by
  constructor
  · intro read
    cases value with
    | list items | tuple items =>
      simp only [ofArgument?, Option.ite_none_left_eq_some, Option.map_eq_some_iff,
        List.isEmpty_iff] at read
      obtain ⟨filled, columns, reads, rfl⟩ := read
      exact .sequence (by simp) filled ((Outcome.mapM_eq_some_iff _ _ _).mp reads)
    | map entries =>
      simp only [ofArgument?, Option.ite_none_left_eq_some, Option.map_eq_some_iff,
        List.isEmpty_iff] at read
      obtain ⟨filled, pairs, reads, rfl⟩ := read
      exact .map filled ((mapM_pair?_eq_some_iff _ _).mp reads)
    | _ =>
      -- A text by itself, or nothing that could be a name.
      simp only [ofArgument?, Option.bind_eq_some_iff, Option.ite_none_left_eq_some,
        Option.some.injEq] at read
      obtain ⟨column, named, filled, rfl⟩ := read
      exact .text named filled
  · intro names
    cases names with
    | text named filled => cases value <;> simp_all [ofArgument?, Value.name?]
    | sequence holds filled each =>
      have reads := (Outcome.mapM_eq_some_iff _ _ _).mpr each
      rcases holds with rfl | rfl <;> simp [ofArgument?, filled, reads]
    | map filled each =>
      have reads := (mapM_pair?_eq_some_iff _ _).mpr each
      simp [ofArgument?, filled, reads]

theorem ofArgument_eq_ok_iff (value : Value) (condition : JoinCondition) :
    ofArgument value = .ok condition ↔ Names value condition := by
  rw [← ofArgument?_eq_some_iff, ofArgument]
  cases ofArgument? value <;> simp

theorem ofArgument_eq_error_iff (value : Value) (fault : Fault) :
    ofArgument value = .error fault ↔
      (¬∃ condition, Names value condition) ∧ fault = .invalidJoin value := by
  simp only [← ofArgument?_eq_some_iff, ofArgument]
  cases ofArgument? value <;> simp [eq_comm]

theorem Names.filled {value : Value} {condition : JoinCondition} (names : Names value condition) :
    condition.names ≠ [] :=
  ofArgument?_names value condition ((ofArgument?_eq_some_iff value condition).mpr names)

/-! ### Telling conditions apart -/

/-- Every name is plain in the form in which it is written. -/
def PlainlyNamed (condition : JoinCondition) : Prop :=
  ∀ name ∈ condition.names, PlainName name.shown

instance (condition : JoinCondition) : Decidable condition.PlainlyNamed :=
  inferInstanceAs (Decidable (∀ name ∈ condition.names, _))

/-- Every name is a text, and none a direction that counts as one. -/
def NamedByTexts (condition : JoinCondition) : Prop :=
  ∀ name ∈ condition.names, ∃ s, name = .text s

/-- The condition with the given texts for names. -/
def Texts.condition : Texts → JoinCondition
  | shared columns => .shared (columns.map .text)
  | paired pairs => .paired (pairs.map fun p => (.text p.1, .text p.2))

/-- A condition on texts can be made again from its two lists of texts. -/
theorem condition_texts {condition : JoinCondition} (named : condition.NamedByTexts) :
    condition.texts.condition = condition := by
  cases condition with
  | shared columns =>
    rw [texts, Texts.condition, List.map_map]
    refine congrArg shared ((List.map_congr_left fun name member => ?_).trans (List.map_id _))
    obtain ⟨s, rfl⟩ := named name member
    rfl
  | paired pairs =>
    rw [texts, Texts.condition, List.map_map]
    -- Both names of a pair are texts, so that nothing is lost when they are written.
    refine congrArg paired ((List.map_congr_left fun pair member => ?_).trans (List.map_id _))
    obtain ⟨left, right⟩ := pair
    obtain ⟨s, rfl⟩ := named left (List.mem_flatMap.mpr ⟨_, member, by simp⟩)
    obtain ⟨t, rfl⟩ := named right (List.mem_flatMap.mpr ⟨_, member, by simp⟩)
    rfl

/-- The text of a condition tells its kind and the texts of its names, each in its place. -/
theorem sql_eq_iff {condition condition' : JoinCondition} (filled : condition.names ≠ [])
    (filled' : condition'.names ≠ []) (plain : condition.PlainlyNamed)
    (plain' : condition'.PlainlyNamed) :
    condition.sql = condition'.sql ↔ condition.texts = condition'.texts := by
  rw [sql_eq_text, sql_eq_text]
  constructor
  · intro equal
    -- A mark behind both, where neither can go on.
    have last : Opens [";"] ";".toList := ⟨_, List.mem_singleton_self _, List.prefix_refl _⟩
    have marked := congrArg (fun s : String => s.toList ++ ";".toList) equal
    exact (Texts.delimited (by decide) (by decide) condition.texts condition'.texts _ _
      (condition.texts_plain filled plain) (condition'.texts_plain filled' plain') last last
      marked).1
  · exact congrArg Texts.text

/-- An argument is taken as the condition that it names, and is refused, as it is, if it names none.
The texts of two conditions with plain names are equal exactly if both name the same shared columns
in the same order, or the same pairs in the same order. A direction among the names goes by the text
that it is written as; where there is none, it is the conditions that are equal. -/
theorem conditions_taken_and_told_apart :
    (∀ value condition, ofArgument value = .ok condition ↔ Names value condition) ∧
    (∀ value fault, ofArgument value = .error fault ↔
      (¬∃ condition, Names value condition) ∧ fault = .invalidJoin value) ∧
    ∀ value value' condition condition', Names value condition → Names value' condition' →
      condition.PlainlyNamed → condition'.PlainlyNamed →
      (condition.sql = condition'.sql ↔ condition.texts = condition'.texts) ∧
      (condition.NamedByTexts → condition'.NamedByTexts →
        (condition.sql = condition'.sql ↔ condition = condition')) := by
  refine ⟨ofArgument_eq_ok_iff, ofArgument_eq_error_iff, ?_⟩
  intro value value' condition condition' names names' plain plain'
  have told := sql_eq_iff names.filled names'.filled plain plain'
  refine ⟨told, fun named named' => told.trans ⟨fun same => ?_, congrArg texts⟩⟩
  rw [← condition_texts named, same, condition_texts named']

/-- Two pairs in one order and in the other, with names that look like what joins them. -/
theorem reordered_pairs_are_told_apart :
    let first : Value × Value := (.text "AND", .text "ON")
    let second : Value × Value := (.text "a.b", .text "USING")
    let one : JoinCondition := .paired [(.text "AND", .text "ON"), (.text "a.b", .text "USING")]
    let other : JoinCondition := .paired [(.text "a.b", .text "USING"), (.text "AND", .text "ON")]
    ofArgument (.map [first, second]) = .ok one ∧ one.sql = "ON AND=ON AND a.b=USING" ∧
    ofArgument (.map [second, first]) = .ok other ∧ other.sql ≠ one.sql ∧
    ofArgument (.map [first, (.text "a", .int 1)]) =
      .error (.invalidJoin (.map [first, (.text "a", .int 1)])) := by
  intro first second one other
  obtain ⟨taken, refused, apart⟩ := conditions_taken_and_told_apart
  have names : Names (.map [first, second]) one := (taken _ _).mp rfl
  have names' : Names (.map [second, first]) other := (taken _ _).mp rfl
  have told := (apart _ _ _ _ names' names (by decide) (by decide)).1
  refine ⟨rfl, by decide, rfl, told.not.mpr (by decide), (refused _ _).mpr ⟨?_, rfl⟩⟩
  rintro ⟨_, named⟩
  cases named with
  | text named => cases named
  | sequence holds => simp at holds
  | map _ each =>
    -- The second entry has a number for its right side.
    cases each with
    | cons _ rest =>
      cases rest with
      | cons here _ => cases here.2

end JoinCondition

end FluentSql
