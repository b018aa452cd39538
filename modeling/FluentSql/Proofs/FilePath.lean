import FluentSql.Proofs.Text.Delimited
import FluentSql.Session.Backup
import Mathlib.Data.List.TakeWhile

/-!
# Parts of file paths

Texts write paths whose parts are neither empty nor a single dot and hold no slash, and such a path
is read back from its text. A name that can be a part, put into a directory, becomes the last part of
the path, and stem and suffix of a name together are the name.
Main results: `FilePath.Normal.ofText_toText` and `FilePath.stem_append_suffix`.
-/

namespace FluentSql.FilePath

structure IsPart (part : String) : Prop where
  filled : part ≠ ""
  noSlash : '/' ∉ part.toList
  notDot : part ≠ "."

/-- A path as a text writes one. -/
structure Normal (p : FilePath) : Prop where
  root : p.root = "" ∨ p.root = "/" ∨ p.root = "//"
  parts : ∀ part ∈ p.parts, IsPart part

/-- The path of a single name inside the directory. -/
def LiesIn (p directory : FilePath) : Prop :=
  ∃ name, IsPart name ∧ p = { directory with parts := directory.parts ++ [name] }

/-! ### Fields between slashes -/

def fields (cs : List Char) : List (List Char) :=
  (splitSlashes cs).1 :: (splitSlashes cs).2

def isKept (field : List Char) : Bool :=
  field != [] && field != ['.']

theorem ofText_eq (text : String) :
    ofText text = { root := rootOf text.toList
                    parts := ((fields text.toList).filter isKept).map String.ofList } :=
  rfl

theorem fields_slash (cs : List Char) : fields ('/' :: cs) = [] :: fields cs :=
  rfl

theorem fields_cons {c : Char} (plain : c ≠ '/') (cs : List Char) :
    fields (c :: cs) = (c :: (splitSlashes cs).1) :: (splitSlashes cs).2 := by
  simp [fields, splitSlashes, plain]

theorem fields_upTo {before : List Char} (absent : '/' ∉ before) (cs : List Char) :
    fields (before ++ '/' :: cs) = before :: fields cs := by
  induction before with
  | nil => exact fields_slash cs
  | cons c before ih =>
    rw [List.mem_cons, not_or] at absent
    have rest := ih absent.2
    rw [fields, List.cons.injEq] at rest
    rw [List.cons_append, fields_cons (Ne.symm absent.1), rest.1, rest.2]

theorem fields_of_absent {cs : List Char} (absent : '/' ∉ cs) : fields cs = [cs] := by
  induction cs with
  | nil => rfl
  | cons c cs ih =>
    rw [List.mem_cons, not_or] at absent
    have rest := ih absent.2
    rw [fields, List.cons.injEq] at rest
    rw [fields_cons (Ne.symm absent.1), rest.1, rest.2]

theorem slash_not_mem_fields (cs : List Char) : ∀ field ∈ fields cs, '/' ∉ field := by
  induction cs with
  | nil => simp [fields, splitSlashes]
  | cons c cs ih =>
    by_cases slash : c = '/'
    · subst slash
      rw [fields_slash]
      simpa using ih
    · -- The character goes to the first field, the others stay.
      rw [fields, List.forall_mem_cons] at ih
      rw [fields_cons slash, List.forall_mem_cons]
      refine ⟨?_, ih.2⟩
      simp [ih.1, Ne.symm slash]

/-- Parts without slashes can be read back from their text. -/
theorem fields_separatedText {parts : List String} (filled : parts ≠ [])
    (plain : ∀ part ∈ parts, '/' ∉ part.toList) :
    fields (separatedText "/" String.toList parts) = parts.map String.toList := by
  induction parts with
  | nil => exact absurd rfl filled
  | cons part rest ih =>
    rw [List.forall_mem_cons] at plain
    rw [separatedText_cons]
    -- The last part has no slash behind it.
    cases rest with
    | nil =>
      rw [List.flatMap_nil, List.append_nil]
      exact fields_of_absent plain.1
    | cons next more =>
      have later := ih (List.cons_ne_nil next more) plain.2
      rw [separatedText_cons] at later
      rw [List.flatMap_cons, List.map_cons, ← later]
      exact fields_upTo plain.1 _

/-! ### Texts of paths -/

theorem isKept_iff (field : List Char) :
    isKept field = true ↔ String.ofList field ≠ "" ∧ String.ofList field ≠ "." := by
  have empty : String.ofList field = "" ↔ field = [] := by
    rw [← String.toList_inj, String.toList_ofList, String.toList_empty]
  have dot : String.ofList field = "." ↔ field = ['.'] := by
    rw [← String.toList_inj, String.toList_ofList]
    rfl
  simp [isKept, empty, dot]

theorem isPart_of_kept {field : List Char} (noSlash : '/' ∉ field) (kept : isKept field = true) :
    IsPart (String.ofList field) := by
  obtain ⟨filled, notDot⟩ := (isKept_iff field).mp kept
  exact ⟨filled, by rwa [String.toList_ofList], notDot⟩

theorem IsPart.kept {part : String} (isPart : IsPart part) : isKept part.toList = true := by
  rw [isKept_iff, String.ofList_toList]
  exact ⟨isPart.filled, isPart.notDot⟩

theorem ofText_normal (text : String) : (ofText text).Normal := by
  rw [ofText_eq]
  constructor
  · unfold rootOf
    split <;> simp
  · intro part member
    obtain ⟨field, kept, rfl⟩ := List.mem_map.mp member
    obtain ⟨here, kept⟩ := List.mem_filter.mp kept
    exact isPart_of_kept (slash_not_mem_fields _ field here) kept

theorem parts_kept {parts : List String} (each : ∀ part ∈ parts, IsPart part) :
    ((parts.map String.toList).filter isKept).map String.ofList = parts := by
  have kept : (parts.map String.toList).filter isKept = parts.map String.toList := by
    rw [List.filter_eq_self]
    intro field member
    obtain ⟨part, here, rfl⟩ := List.mem_map.mp member
    exact (each part here).kept
  rw [kept, List.map_map]
  conv => rhs; rw [← List.map_id parts]
  exact List.map_congr_left fun part _ => String.ofList_toList

theorem ofText_part {name : String} (isPart : IsPart name) : (ofText name).parts = [name] := by
  rw [ofText_eq, fields_of_absent isPart.noSlash]
  exact parts_kept (List.forall_mem_singleton.mpr isPart)

theorem child_eq (p : FilePath) {name : String} (isPart : IsPart name) :
    p.child name = { p with parts := p.parts ++ [name] } := by
  rw [child, ofText_part isPart]

/-- The root is what stands before the first character that is no slash. -/
theorem rootOf_append {root : String} (known : root = "" ∨ root = "/" ∨ root = "//") {c : Char}
    (plain : c ≠ '/') (cs : List Char) : rootOf (root.toList ++ c :: cs) = root := by
  rcases known with rfl | rfl | rfl <;> simp [rootOf, plain]

theorem fields_rooted {root : String} (known : root = "" ∨ root = "/" ∨ root = "//")
    (cs : List Char) :
    (fields (root.toList ++ cs)).filter isKept = (fields cs).filter isKept := by
  rcases known with rfl | rfl | rfl <;> simp [fields_slash, isKept]

/-- A path as texts write it is read back from its text. -/
theorem Normal.ofText_toText {p : FilePath} (normal : p.Normal) : ofText p.toText = p := by
  obtain ⟨root, parts⟩ := p
  obtain ⟨known, each⟩ := normal
  -- Without parts the text is the root, and otherwise it goes on with the first letter of a part.
  cases parts with
  | nil => rcases known with rfl | rfl | rfl <;> decide
  | cons part rest =>
    obtain ⟨first, others⟩ := List.forall_mem_cons.mp each
    have text : (toText ⟨root, part :: rest⟩).toList =
        root.toList ++ separatedText "/" String.toList (part :: rest) := by
      rw [toText, if_neg (by simp), String.toList_append, toList_intercalate]
    have filled : part.toList ≠ [] := by simpa using first.filled
    obtain ⟨c, cs, letters⟩ := List.exists_cons_of_ne_nil filled
    have plain : c ≠ '/' := by
      rintro rfl
      exact first.noSlash (by simp [letters])
    rw [ofText_eq, text, fields_rooted known,
      fields_separatedText (by simp) fun part member => (each part member).noSlash, parts_kept each,
      separatedText_cons, letters, List.cons_append, rootOf_append known plain]

/-! ### Names -/

/-- No part of a path holds a slash. -/
theorem Normal.slash_not_mem_name {p : FilePath} (normal : p.Normal) : '/' ∉ p.name.toList := by
  unfold name
  rcases List.eq_nil_or_concat' p.parts with none | ⟨before, last, parts⟩
  · simp [none]
  · rw [parts, List.getLastD_concat]
    exact (normal.parts last (by simp [parts])).noSlash

theorem Normal.parent {p : FilePath} (normal : p.Normal) : p.parent.Normal :=
  ⟨normal.root, fun part member => normal.parts part (List.dropLast_subset _ member)⟩

theorem LiesIn.normal {p directory : FilePath} (lies : p.LiesIn directory)
    (normal : directory.Normal) : p.Normal := by
  obtain ⟨name, isPart, rfl⟩ := lies
  refine ⟨normal.root, fun part member => ?_⟩
  rcases List.mem_append.mp member with above | last
  · exact normal.parts part above
  · rwa [List.mem_singleton.mp last]

theorem child_liesIn (p : FilePath) {name : String} (isPart : IsPart name) :
    (p.child name).LiesIn p :=
  ⟨name, isPart, p.child_eq isPart⟩

theorem name_child (p : FilePath) {name : String} (isPart : IsPart name) :
    (p.child name).name = name := by
  rw [child_eq p isPart, FilePath.name, List.getLastD_concat]

theorem Normal.liesIn_parent {p : FilePath} (normal : p.Normal) (named : p.parts ≠ []) :
    p.LiesIn p.parent := by
  have last := List.getLast_mem named
  refine ⟨p.parts.getLast named, normal.parts _ last, ?_⟩
  obtain ⟨root, parts⟩ := p
  simp [FilePath.parent, List.dropLast_append_getLast]

/-- A name is its stem and its suffix. -/
theorem splitName_append (name : List Char) : (splitName name).1 ++ (splitName name).2 = name := by
  by_cases dotted : '.' ∈ name
  · -- The dot that counts is the last one.
    obtain ⟨extension, stem, reversed, absent⟩ :=
      List.eq_append_cons_of_mem (List.mem_reverse.mpr dotted)
    have split : name = stem.reverse ++ '.' :: extension.reverse := by
      rw [← List.reverse_inj, reversed]
      simp
    have length : name.length - extension.length - 1 = stem.reverse.length := by
      rw [split]
      simp only [List.length_append, List.length_cons, List.length_reverse]
      omega
    unfold splitName
    simp only []
    rw [reversed, takeWhile_upTo absent, List.length_reverse, length]
    split
    · exact List.append_nil name
    · rw [split, List.take_left]
  · have inside : ∀ c ∈ name.reverse, (c != '.') = true := fun c member => by
      simpa using ne_of_mem_of_not_mem (List.mem_reverse.mp member) dotted
    have whole : name.reverse.takeWhile (· != '.') = name.reverse :=
      List.takeWhile_eq_self_iff.mpr inside
    -- All of the name is passed over, so that there is no suffix.
    simp [splitName, whole]

/-- The stem and the suffix of a name are the whole of it. -/
theorem stem_append_suffix (p : FilePath) : p.stem ++ p.suffix = p.name := by
  rw [stem, suffix, ← String.ofList_append, splitName_append, String.ofList_toList]

end FluentSql.FilePath
