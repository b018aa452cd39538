import Mathlib.Data.List.Basic

/-!
# Texts that can be read back

A text written one part after another can be read back if the end of each part shows. What shows it
is how the next part begins: the module collects such openings, and the ways to write one part after
another that keep the parts apart.
-/

namespace FluentSql

/-! ### Openings -/

/-- The text begins with one of the openings. -/
def Opens (openings : List String) (r : List Char) : Prop :=
  ∃ o ∈ openings, o.toList <+: r

/-- No text begins with an opening of each list. -/
def Apart (openings others : List String) : Prop :=
  ∀ o ∈ openings, ∀ p ∈ others, ¬o.toList <+: p.toList ∧ ¬p.toList <+: o.toList

instance (openings others : List String) : Decidable (Apart openings others) :=
  inferInstanceAs (Decidable (∀ o ∈ openings, ∀ p ∈ others, _ ∧ _))

theorem opens_append (o : String) (openings : List String) (member : o ∈ openings)
    (r : List Char) : Opens openings (o.toList ++ r) :=
  ⟨o, member, List.prefix_append _ _⟩

theorem Opens.append {openings : List String} {r : List Char} (opens : Opens openings r)
    (more : List Char) : Opens openings (r ++ more) := by
  obtain ⟨o, member, here⟩ := opens
  exact ⟨o, member, here.trans (List.prefix_append _ _)⟩

theorem Opens.mono {openings others : List String} {r : List Char} (opens : Opens openings r)
    (subset : openings ⊆ others) : Opens others r := by
  obtain ⟨o, member, here⟩ := opens
  exact ⟨o, subset member, here⟩

/-- What begins in one of the ways does not begin in one of the others. -/
theorem Apart.not_opens {openings others : List String} (apart : Apart openings others)
    {r : List Char} (opens : Opens openings r) : ¬Opens others r := by
  obtain ⟨o, member, here⟩ := opens
  rintro ⟨p, other, there⟩
  rcases List.prefix_or_prefix_of_prefix here there with first | second
  -- Of two openings of one text the shorter begins the longer.
  · exact (apart o member p other).1 first
  · exact (apart o member p other).2 second

/-! ### Delimited texts -/

/-- Whatever `P` holds of can be read back from the front of a text, and what comes next with it, if
that begins with one of the openings. -/
def Delimited {α : Type} (P : α → Prop) (text : α → List Char) (next : List String) : Prop :=
  ∀ a b r r', P a → P b → Opens next r → Opens next r' → text a ++ r = text b ++ r' →
    a = b ∧ r = r'

/-- A part that can be read back and that may be missing: the text either goes on with one of the
part's openings, or with what comes next. -/
structure Clause {α : Type} (P : α → Prop) (text : α → List Char) (openings next : List String) :
    Prop where
  delimited : Delimited P text next
  continues : ∀ a r, P a → Opens next r → Opens (openings ++ next) (text a ++ r)

section Parts

variable {α : Type} {P : α → Prop} {text : α → List Char} {next openings : List String}

/-- A part behind a keyword. -/
theorem Delimited.behind (one : Delimited P text next) (keyword : String) :
    Delimited P (fun a => keyword.toList ++ text a) next := by
  intro a b r r' left right opens opens' equal
  rw [List.append_assoc, List.append_assoc] at equal
  exact one a b r r' left right opens opens' (List.append_cancel_left equal)

theorem opens_behind (keyword : String) (more r : List Char) :
    Opens [keyword] ((keyword.toList ++ more) ++ r) := by
  rw [List.append_assoc]
  exact opens_append keyword _ (by simp) _

/-- Parts one after another, if each begins in a way of its own. -/
theorem Clause.repeated (one : Delimited P text (openings ++ next)) (apart : Apart openings next)
    (begins : ∀ a r, P a → Opens openings (text a ++ r)) :
    Clause (fun as => ∀ a ∈ as, P a) (List.flatMap text) openings next := by
  have continues (as : List α) (r : List Char) (all : ∀ a ∈ as, P a) (opens : Opens next r) :
      Opens (openings ++ next) (as.flatMap text ++ r) := by
    cases as with
    | nil => exact opens.mono (List.subset_append_right _ _)
    | cons a as =>
      rw [List.flatMap_cons, List.append_assoc]
      exact (begins a _ (all a List.mem_cons_self)).mono (List.subset_append_left _ _)
  refine ⟨?_, continues⟩
  -- By induction on the parts of one text, with those of the other arbitrary.
  intro as
  induction as with
  | nil =>
    intro bs r r' _ right opens opens' equal
    cases bs with
    | nil => exact ⟨rfl, equal⟩
    | cons b bs =>
      -- The other text goes on where this one ends.
      rw [List.flatMap_nil, List.nil_append, List.flatMap_cons, List.append_assoc] at equal
      have other := begins b (bs.flatMap text ++ r') (right b List.mem_cons_self)
      exact absurd (equal ▸ opens) (apart.not_opens other)
  | cons a as ih =>
    intro bs r r' left right opens opens' equal
    have lefts := fun c member => left c (List.mem_cons_of_mem a member)
    cases bs with
    | nil =>
      rw [List.flatMap_nil, List.nil_append, List.flatMap_cons, List.append_assoc] at equal
      have other := begins a (as.flatMap text ++ r) (left a List.mem_cons_self)
      exact absurd (equal ▸ opens') (apart.not_opens other)
    | cons b bs =>
      have rights := fun c member => right c (List.mem_cons_of_mem b member)
      rw [List.flatMap_cons, List.flatMap_cons, List.append_assoc, List.append_assoc] at equal
      obtain ⟨rfl, rest⟩ := one a b _ _ (left a List.mem_cons_self) (right b List.mem_cons_self)
        (continues as r lefts opens) (continues bs r' rights opens') equal
      obtain ⟨rfl, rfl⟩ := ih bs r r' lefts rights opens opens' rest
      exact ⟨rfl, rfl⟩

/-- A part that may be missing, if it begins in a way of its own. -/
theorem Clause.optional (one : Delimited P text (openings ++ next)) (apart : Apart openings next)
    (begins : ∀ a r, P a → Opens openings (text a ++ r)) :
    Clause (fun o : Option α => ∀ a ∈ o, P a) (fun o => o.toList.flatMap text) openings next := by
  -- It is a list of at most one part.
  have many := Clause.repeated one apart begins
  refine ⟨?_, fun o r all opens => many.continues o.toList r (by simpa using all) opens⟩
  intro a b r r' left right opens opens' equal
  obtain ⟨same, rfl⟩ := many.delimited a.toList b.toList r r' (by simpa using left)
    (by simpa using right) opens opens' equal
  refine ⟨?_, rfl⟩
  cases a <;> cases b <;> simp_all

/-- A part behind a keyword that may be missing together with it. -/
theorem Clause.optionalBehind (keyword : String) (one : Delimited P text (keyword :: next))
    (apart : Apart [keyword] next) :
    Clause (fun o : Option α => ∀ a ∈ o, P a)
      (fun o => o.toList.flatMap fun a => keyword.toList ++ text a) [keyword] next :=
  .optional (one.behind keyword) apart fun a r _ => opens_behind keyword (text a) r

/-- The text of parts with a separator between each two. -/
def separatedText (separator : String) (text : α → List Char) (as : List α) : List Char :=
  separator.toList.intercalate (as.map text)

/-- The separator stands before each part but the first. -/
theorem separatedText_cons (separator : String) (text : α → List Char) (a : α) (as : List α) :
    separatedText separator text (a :: as) =
      text a ++ as.flatMap fun b => separator.toList ++ text b := by
  induction as generalizing a with
  | nil => simp [separatedText]
  | cons b bs ih =>
    have rest := ih b
    rw [separatedText] at rest
    rw [separatedText, List.map_cons, List.intercalate_cons_of_ne_nil (by simp), rest]
    simp

theorem toList_intercalate (separator : String) (names : List String) :
    (separator.intercalate names).toList = separatedText separator String.toList names :=
  String.toList_intercalate

theorem toList_intercalate_map (separator : String) (text : α → String) (as : List α) :
    (separator.intercalate (as.map text)).toList =
      separatedText separator (fun a => (text a).toList) as := by
  rw [String.toList_intercalate, List.map_map]
  rfl

theorem mem_separatedText {separator : String} {as : List α} {c : Char}
    (member : c ∈ separatedText separator text as) :
    c ∈ separator.toList ∨ ∃ a ∈ as, c ∈ text a := by
  cases as with
  | nil => simp [separatedText] at member
  | cons a as =>
    rw [separatedText_cons, List.mem_append, List.mem_flatMap] at member
    rcases member with first | ⟨b, other, member⟩
    · exact .inr ⟨a, List.mem_cons_self, first⟩
    · rcases List.mem_append.mp member with between | within
      · exact .inl between
      · exact .inr ⟨b, List.mem_cons_of_mem a other, within⟩

/-- One part or more, with a separator between each two. -/
theorem Delimited.separated (separator : String) (one : Delimited P text (separator :: next))
    (apart : Apart [separator] next) :
    Delimited (fun as => as ≠ [] ∧ ∀ a ∈ as, P a) (separatedText separator text) next := by
  rintro as bs r r' ⟨filled, left⟩ ⟨filled', right⟩ opens opens' equal
  obtain ⟨a, as, rfl⟩ := List.exists_cons_of_ne_nil filled
  obtain ⟨b, bs, rfl⟩ := List.exists_cons_of_ne_nil filled'
  -- Behind the first part each other one is a part behind the separator.
  have part : Delimited P (fun c => separator.toList ++ text c) ([separator] ++ next) :=
    one.behind separator
  have more := Clause.repeated part apart fun c rest _ => opens_behind separator (text c) rest
  have lefts := fun c member => left c (List.mem_cons_of_mem a member)
  have rights := fun c member => right c (List.mem_cons_of_mem b member)
  rw [separatedText_cons, separatedText_cons, List.append_assoc, List.append_assoc] at equal
  obtain ⟨rfl, rest⟩ := one a b _ _ (left a List.mem_cons_self) (right b List.mem_cons_self)
    (more.continues as r lefts opens) (more.continues bs r' rights opens') equal
  obtain ⟨rfl, rfl⟩ := more.delimited as bs r r' lefts rights opens opens' rest
  exact ⟨rfl, rfl⟩

/-- The text of parts behind a keyword, or nothing if there is no part. -/
def headedText (keyword separator : String) (text : α → List Char) : List α → List Char
  | [] => []
  | a :: as => keyword.toList ++ separatedText separator text (a :: as)

/-- Parts behind a keyword, with a separator between each two. -/
theorem Clause.headed (keyword separator : String) (one : Delimited P text (separator :: next))
    (between : Apart [separator] next) (before : Apart [keyword] next) :
    Clause (fun as => ∀ a ∈ as, P a) (headedText keyword separator text) [keyword] next := by
  have begins (a : α) (as : List α) (r : List Char) :
      Opens [keyword] (headedText keyword separator text (a :: as) ++ r) := by
    rw [headedText]
    exact opens_behind keyword _ r
  constructor
  · intro as bs r r' left right opens opens' equal
    cases as with
    | nil =>
      cases bs with
      -- Neither text has parts, so that what follows is the same.
      | nil => exact ⟨rfl, equal⟩
      | cons b bs =>
        rw [headedText, List.nil_append] at equal
        -- What follows would begin with the keyword, which nothing that may follow does.
        exact absurd (equal ▸ opens) (before.not_opens (begins b bs r'))
    | cons a as =>
      cases bs with
      | nil =>
        rw [headedText.eq_1, List.nil_append] at equal
        exact absurd (equal ▸ opens') (before.not_opens (begins a as r))
      | cons b bs =>
        rw [headedText, headedText, List.append_assoc, List.append_assoc] at equal
        exact one.separated separator between (a :: as) (b :: bs) r r' ⟨by simp, left⟩
          ⟨by simp, right⟩ opens opens' (List.append_cancel_left equal)
  · intro as r _ opens
    cases as with
    | nil => exact opens.mono (List.subset_append_right _ _)
    | cons a as => exact (begins a as r).mono (List.subset_append_left _ _)

end Parts

/-- One clause after another. -/
theorem Clause.andThen {α β : Type} {P : α → Prop} {Q : β → Prop} {f : α → List Char}
    {g : β → List Char} {openings others next : List String}
    (first : Clause P f openings (others ++ next)) (second : Clause Q g others next) :
    Clause (fun p : α × β => P p.1 ∧ Q p.2) (fun p => f p.1 ++ g p.2) (openings ++ others)
      next := by
  constructor
  · rintro ⟨a, c⟩ ⟨b, d⟩ r r' ⟨left, last⟩ ⟨right, last'⟩ opens opens' equal
    rw [List.append_assoc, List.append_assoc] at equal
    obtain ⟨rfl, rest⟩ := first.delimited a b _ _ left right (second.continues c r last opens)
      (second.continues d r' last' opens') equal
    obtain ⟨rfl, rfl⟩ := second.delimited c d r r' last last' opens opens' rest
    exact ⟨rfl, rfl⟩
  · rintro ⟨a, c⟩ r ⟨left, last⟩ opens
    rw [List.append_assoc, List.append_assoc]
    exact first.continues a _ left (second.continues c r last opens)

/-! ### Names -/

/-- A text whose characters pass a test ends where one comes that does not. -/
theorem Delimited.span {p : Char → Bool} {next : List String}
    (stops : ∀ c r, Opens next (c :: r) → p c = false) :
    Delimited (fun s : String => ∀ c ∈ s.toList, p c = true) String.toList next := by
  -- By induction on the first text: both go on as long as the characters are of the kind.
  have chars (a : List Char) : ∀ b r r', (∀ c ∈ a, p c = true) → (∀ c ∈ b, p c = true) →
      Opens next r → Opens next r' → a ++ r = b ++ r' → a = b ∧ r = r' := by
    induction a with
    | nil =>
      intro b r r' _ right opens _ equal
      cases b with
      | nil => exact ⟨rfl, equal⟩
      | cons d b =>
        rw [List.nil_append, List.cons_append] at equal
        have stop := stops d _ (equal ▸ opens)
        simp [right d List.mem_cons_self] at stop
    | cons c a ih =>
      intro b r r' left right opens opens' equal
      cases b with
      | nil =>
        rw [List.nil_append, List.cons_append] at equal
        have stop := stops c _ (equal ▸ opens')
        simp [left c List.mem_cons_self] at stop
      | cons d b =>
        rw [List.cons_append, List.cons_append, List.cons.injEq] at equal
        obtain ⟨rfl, equal⟩ := equal
        obtain ⟨rfl, rfl⟩ := ih b r r' (fun e member => left e (List.mem_cons_of_mem c member))
          (fun e member => right e (List.mem_cons_of_mem c member)) opens opens' equal
        exact ⟨rfl, rfl⟩
  intro a b r r' left right opens opens' equal
  obtain ⟨same, rest⟩ := chars a.toList b.toList r r' left right opens opens' equal
  exact ⟨String.toList_inj.mp same, rest⟩

/-- A text that does not hold a mark ends at the mark. -/
theorem Delimited.upTo {mark : String} {c : Char} (single : mark.toList = [c]) :
    Delimited (fun s : String => ∀ d ∈ s.toList, (d != c) = true) String.toList [mark] := by
  apply Delimited.span
  intro d r opens
  have first : mark.toList <+: d :: r := by simpa [Opens] using opens
  rw [single] at first
  simp [(List.cons_prefix_cons.mp first).1]

/-- A character of a plain name. -/
def isNameChar (c : Char) : Bool := c.isAlphanum || c == '_' || c == '.'

/-- A name that is not empty and made of letters, digits, underscores and dots. -/
def PlainName (s : String) : Prop := s.toList ≠ [] ∧ ∀ c ∈ s.toList, isNameChar c = true

instance (s : String) : Decidable (PlainName s) :=
  decidable_of_iff (s.toList ≠ [] ∧ s.toList.all isNameChar = true) (by simp [PlainName])

/-- Each of the openings begins with a character that no plain name holds. -/
def StopsNames (openings : List String) : Prop :=
  ∀ o ∈ openings, (o.toList.head?.any fun c => !isNameChar c) = true

instance (openings : List String) : Decidable (StopsNames openings) :=
  inferInstanceAs (Decidable (∀ o ∈ openings, _))

/-- What stops names begins with no character of a plain name. -/
theorem StopsNames.head {openings : List String} (stops : StopsNames openings) (c : Char)
    (r : List Char) (opens : Opens openings (c :: r)) : isNameChar c = false := by
  obtain ⟨o, member, here⟩ := opens
  have first := stops o member
  cases head : o.toList with
  | nil => simp [head] at first
  | cons d ds =>
    rw [head] at here first
    obtain ⟨rfl, _⟩ := List.cons_prefix_cons.mp here
    simpa using first

/-- A plain name ends where a character comes that it cannot hold. -/
theorem Delimited.name {next : List String} (stops : StopsNames next) :
    Delimited PlainName String.toList next :=
  fun a b r r' left right => span stops.head a b r r' left.2 right.2

/-- A plain name begins with none of the openings that end one. -/
theorem PlainName.not_opens {s : String} (plain : PlainName s) {openings : List String}
    (stops : StopsNames openings) (r : List Char) : ¬Opens openings (s.toList ++ r) := by
  intro opens
  -- Its first character is one that the openings do not begin with.
  obtain ⟨filled, chars⟩ := plain
  obtain ⟨c, cs, equal⟩ := List.exists_cons_of_ne_nil filled
  rw [equal] at opens chars
  have stop := stops.head c _ opens
  simp [chars c List.mem_cons_self] at stop

/-! ### Up to a character -/

theorem takeWhile_upTo {stop : Char} {before : List Char} (absent : stop ∉ before)
    (after : List Char) : (before ++ stop :: after).takeWhile (· != stop) = before := by
  have inside : ∀ c ∈ before, (c != stop) = true := fun c member => by
    simpa using ne_of_mem_of_not_mem member absent
  rw [List.takeWhile_append_of_pos inside, List.takeWhile_cons_of_neg (by simp), List.append_nil]

theorem dropWhile_upTo {stop : Char} {before : List Char} (absent : stop ∉ before)
    (after : List Char) : (before ++ stop :: after).dropWhile (· != stop) = stop :: after := by
  have inside : ∀ c ∈ before, (c != stop) = true := fun c member => by
    simpa using ne_of_mem_of_not_mem member absent
  rw [List.dropWhile_append_of_pos inside, List.dropWhile_cons_of_neg (by simp)]

end FluentSql
