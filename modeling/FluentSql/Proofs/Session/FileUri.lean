import FluentSql.Proofs.Session.BulkInsert
import FluentSql.Proofs.Text.Delimited
import Mathlib.Data.List.TakeWhile

/-!
# Files that are opened for reading only

A database that is opened for reading only is named to the engine by a URI, which the engine takes
apart again: `FileUri.read?` does so by its rules, over characters, with file names as the bytes that
they have in UTF-8. The path goes into the URI as it is. It comes out again, with the mode alone,
exactly if nothing in it means something else in a URI: `Connection.connect_opens_iff`. The measure
in the proofs is the number of bytes that are no slashes, which reading never raises and every loss
lowers.
-/

namespace FluentSql

variable {σ : Type}

namespace FileUri

/-! ### Escapes -/

def hexDigits : List (Char × Nat) :=
  "0123456789abcdef".toList.zipIdx ++ "ABCDEF".toList.zipIdx 10

def hexDigit? (c : Char) : Option Nat :=
  (hexDigits.find? (·.1 = c)).map (·.2)

/-- The byte that two characters name behind a percent sign. -/
def octet? (high low : Char) : Option UInt8 :=
  match hexDigit? high, hexDigit? low with
  | some h, some l => some (.ofNat (16 * h + l))
  | _, _ => none

def utf8 (cs : List Char) : List UInt8 :=
  cs.flatMap String.utf8EncodeChar

/-- The bytes that a part of a URI stands for. -/
def unescaped : List Char → List UInt8
  | '%' :: high :: low :: rest =>
    match octet? high low with
    | some byte => byte :: unescaped rest
    -- without two digits behind it the percent sign stands for itself
    | none => String.utf8EncodeChar '%' ++ unescaped (high :: low :: rest)
  | c :: rest => String.utf8EncodeChar c ++ unescaped rest
  | [] => []

/-- An escape stands somewhere in the text. -/
inductive HasEscape : List Char → Prop where
  | here {high low : Char} {byte : UInt8} (octet : octet? high low = some byte)
      (rest : List Char) : HasEscape ('%' :: high :: low :: rest)
  | later {rest : List Char} (c : Char) (further : HasEscape rest) : HasEscape (c :: rest)

theorem hasEscape_cons_iff {c : Char} {rest : List Char} (other : c ≠ '%') :
    HasEscape (c :: rest) ↔ HasEscape rest := by
  refine ⟨fun escape => ?_, .later c⟩
  cases escape with
  | here _ => exact absurd rfl other
  | later _ further => exact further

/-! ### Reading -/

/-- What an engine opens: a file, with parameters. -/
structure Opened where
  path : List UInt8
  parameters : List (List UInt8 × List UInt8)
  deriving DecidableEq

def parameter (piece : List Char) : List UInt8 × List UInt8 :=
  (unescaped (piece.takeWhile (· != '=')), unescaped ((piece.dropWhile (· != '=')).drop 1))

/-- The parameters of a query, but for those without a key. -/
def parameters (query : List Char) : List (List UInt8 × List UInt8) :=
  ((query.splitOn '&').map parameter).filter (·.1 != [])

def endsPath (c : Char) : Bool :=
  c == '?' || c == '#'

/-- What is opened by what follows scheme and authority: a path, perhaps a query behind a question
mark, perhaps a fragment behind a hash. -/
def openedBy (rest : List Char) : Opened where
  path := unescaped (rest.takeWhile (!endsPath ·))
  parameters :=
    match rest.dropWhile (!endsPath ·) with
    | '?' :: query => parameters (query.takeWhile (· != '#'))
    | _ => []

/-- What is opened by what follows the scheme. An authority reaches to the next slash and is nothing
or this computer. -/
def located? : List Char → Option Opened
  | '/' :: '/' :: rest =>
    let authority := rest.takeWhile (· != '/')
    if authority = [] ∨ authority = "localhost".toList then
      some (openedBy (rest.dropWhile (· != '/')))
    else
      none
  | rest => some (openedBy rest)

/-- What a URI opens. -/
def read? (uri : List Char) : Option Opened :=
  if "file:".toList.isPrefixOf uri then located? (uri.drop 5) else none

/-! ### Names of files -/

def slash : UInt8 := 47

/-- The name of a file with one slash for several in a row. -/
def squeezed : List UInt8 → List UInt8
  | [] => []
  | b :: rest =>
    if b = slash ∧ rest.head? = some slash then squeezed rest else b :: squeezed rest

def weight (bytes : List UInt8) : Nat :=
  bytes.countP (· != slash)

def readOnlyMode : List (List UInt8 × List UInt8) :=
  [(utf8 "mode".toList, utf8 "ro".toList)]

/-- The target makes an engine open the file of the given path, for reading and in no other way. -/
def OpensReadOnly (target path : String) : Prop :=
  ∃ opened, read? target.toList = some opened ∧
    squeezed opened.path = squeezed (utf8 path.toList) ∧
    opened.parameters = readOnlyMode

/-- Nothing in a path means something else in a URI. -/
structure Harmless (path : List Char) : Prop where
  noQuery : '?' ∉ path
  noFragment : '#' ∉ path
  noEscape : ¬ HasEscape path
  noAuthority : ['/', '/'] <+: path → ['/', '/', '/'] <+: path

/-! ### What reading loses -/

@[simp] theorem utf8_append (cs ds : List Char) : utf8 (cs ++ ds) = utf8 cs ++ utf8 ds :=
  List.flatMap_append

@[simp] theorem utf8_cons (c : Char) (cs : List Char) :
    utf8 (c :: cs) = String.utf8EncodeChar c ++ utf8 cs :=
  List.flatMap_cons

@[simp] theorem weight_append (bytes more : List UInt8) :
    weight (bytes ++ more) = weight bytes + weight more :=
  List.countP_append

theorem squeezed_slashes (bytes : List UInt8) :
    squeezed (slash :: slash :: bytes) = squeezed (slash :: bytes) := by
  rw [squeezed, if_pos ⟨rfl, rfl⟩]

theorem weight_squeezed (bytes : List UInt8) : weight (squeezed bytes) = weight bytes := by
  induction bytes with
  | nil => rfl
  | cons b rest ih =>
    rw [squeezed]
    split
    · next slashes =>
      -- the byte that is left out is a slash
      rw [ih]
      simp [weight, slashes.1]
    · simp [weight, List.countP_cons] at ih ⊢
      rw [ih]

theorem weight_eq_of_squeezed {bytes more : List UInt8} (same : squeezed bytes = squeezed more) :
    weight bytes = weight more := by
  rw [← weight_squeezed bytes, same, weight_squeezed]

theorem weight_hexDigit {c : Char} {n : Nat} (digit : hexDigit? c = some n) :
    weight (String.utf8EncodeChar c) = 1 := by
  obtain ⟨entry, found, _⟩ := Option.map_eq_some_iff.mp digit
  -- every digit is one byte, and no slash
  have all : ∀ entry ∈ hexDigits, weight (String.utf8EncodeChar entry.1) = 1 := by decide
  obtain rfl : entry.1 = c := by simpa using List.find?_some found
  exact all entry (List.mem_of_find?_eq_some found)

theorem weight_octet {high low : Char} {byte : UInt8} (octet : octet? high low = some byte) :
    weight (String.utf8EncodeChar high) = 1 ∧ weight (String.utf8EncodeChar low) = 1 := by
  unfold octet? at octet
  split at octet
  · next first second => exact ⟨weight_hexDigit first, weight_hexDigit second⟩
  · cases octet

theorem weight_cons_le (b : UInt8) (bytes : List UInt8) : weight (b :: bytes) ≤ weight bytes + 1 := by
  rw [weight, List.countP_cons]
  split <;> simp [weight]

theorem weight_unescaped_le (cs : List Char) : weight (unescaped cs) ≤ weight (utf8 cs) := by
  fun_induction unescaped cs with
  -- An octet weighs no more than the three characters that stood for it.
  | case1 high low rest byte octet ih =>
    have := weight_cons_le byte (unescaped rest)
    have := weight_octet octet
    simp only [utf8_cons, weight_append]
    omega
  | case2 high low rest octet ih =>
    simp only [utf8_cons, weight_append] at ih ⊢
    omega
  | case3 c rest _ ih =>
    simp only [utf8_cons, weight_append]
    omega
  -- The end weighs nothing.
  | case4 => exact Nat.le_refl _

/-- An escape is three bytes in the text and one in the name. -/
theorem weight_unescaped_lt {cs : List Char} (escape : HasEscape cs) :
    weight (unescaped cs) < weight (utf8 cs) := by
  fun_induction unescaped cs with
  | case1 high low rest byte octet _ =>
    have := weight_cons_le byte (unescaped rest)
    have := weight_unescaped_le rest
    have := weight_octet octet
    simp only [utf8_cons, weight_append]
    omega
  | case2 high low rest octet ih =>
    -- no escape begins here, so there is one further on
    cases escape with
    | here found => simp [found] at octet
    | later _ further =>
      have := ih further
      simp only [utf8_cons, weight_append] at this ⊢
      omega
  | case3 c rest other ih =>
    cases escape with
    | here _ => exact absurd rfl (other _ _ _ rfl)
    | later _ further =>
      have := ih further
      simp only [utf8_cons, weight_append]
      omega
  | case4 => cases escape

theorem unescaped_eq {cs : List Char} (plain : ¬ HasEscape cs) : unescaped cs = utf8 cs := by
  fun_induction unescaped cs with
  | case1 high low rest byte octet _ => exact absurd (.here octet rest) plain
  | case2 high low rest _ ih =>
    rw [ih fun further => plain (.later _ further)]
    rfl
  | case3 c rest _ ih =>
    rw [ih fun further => plain (.later _ further), utf8_cons]
  | case4 => rfl

/-! ### What is opened through a path -/

def modeQuery : List Char :=
  '?' :: "mode=ro".toList

theorem parameters_mode :
    parameters ("mode=ro".toList.takeWhile (· != '#')) = readOnlyMode := by
  decide +kernel

theorem openedBy_plain {rest : List Char} (query : '?' ∉ rest) (fragment : '#' ∉ rest) :
    openedBy (rest ++ modeQuery) = { path := unescaped rest, parameters := readOnlyMode } := by
  have inside : ∀ c ∈ rest, (!endsPath c) = true := by
    intro c member
    have noQuery : c ≠ '?' := ne_of_mem_of_not_mem member query
    have noFragment : c ≠ '#' := ne_of_mem_of_not_mem member fragment
    simp [endsPath, noQuery, noFragment]
  rw [openedBy, List.takeWhile_append_of_pos inside, List.dropWhile_append_of_pos inside,
    ← parameters_mode]
  simp [modeQuery, endsPath]

/-- The character that ends a path is lost, and what follows it. -/
theorem weight_openedBy_lt {rest : List Char} (ends : ∃ c ∈ rest, endsPath c = true)
    (tail : List Char) : weight (openedBy (rest ++ tail)).path < weight (utf8 rest) := by
  -- the first such character is where reading stops
  obtain ⟨c, found⟩ := Option.isSome_iff_exists.mp (List.find?_isSome.mpr ends)
  obtain ⟨ending, before, after, rfl, inside⟩ := List.find?_eq_some_iff_append.mp found
  have path : (openedBy (before ++ c :: after ++ tail)).path = unescaped before := by
    rw [openedBy, List.append_assoc, List.takeWhile_append_of_pos inside, List.cons_append,
      List.takeWhile_cons_of_neg (by simp [ending]), List.append_nil]
  have ofEnd : weight (String.utf8EncodeChar c) = 1 := by
    rcases Bool.or_eq_true .. ▸ ending with query | fragment
    · rw [eq_of_beq query]
      decide
    · rw [eq_of_beq fragment]
      decide
  have := weight_unescaped_le before
  rw [path]
  simp only [utf8_append, utf8_cons, weight_append]
  omega

/-- Nothing of what follows the scheme and the authority is lost. -/
theorem openedBy_keeps {rest : List Char}
    (kept : weight (utf8 rest) ≤ weight (openedBy (rest ++ modeQuery)).path) :
    '?' ∉ rest ∧ '#' ∉ rest ∧ ¬ HasEscape rest := by
  have inside : ∀ c ∈ rest, endsPath c ≠ true := fun c member ending =>
    absurd (weight_openedBy_lt ⟨c, member, ending⟩ modeQuery) (Nat.not_lt_of_le kept)
  have query : '?' ∉ rest := fun member => inside _ member rfl
  have fragment : '#' ∉ rest := fun member => inside _ member rfl
  refine ⟨query, fragment, fun escape => ?_⟩
  rw [openedBy_plain query fragment] at kept
  exact absurd (weight_unescaped_lt escape) (Nat.not_lt_of_le kept)

/-- What stands before the path that is opened: nothing, an empty authority or this computer. -/
inductive Skipped : List Char → List Char → Prop where
  | nothing {path : List Char} (relative : ¬ ['/', '/'] <+: path) : Skipped [] path
  | empty (rest : List Char) : Skipped ['/', '/'] ('/' :: rest)
  | computer (rest : List Char) : Skipped "//localhost".toList ('/' :: rest)

theorem slashes_of_append {path rest : List Char}
    (split : path ++ modeQuery = '/' :: '/' :: rest) :
    ∃ after, path = '/' :: '/' :: after ∧ rest = after ++ modeQuery := by
  match path with
  | [] => simp [modeQuery] at split
  | [c] => simp [modeQuery] at split
  | c :: d :: after =>
    simp only [List.cons_append, List.cons.injEq] at split
    obtain ⟨rfl, rfl, rest⟩ := split
    exact ⟨after, rfl, rest.symm⟩

theorem authority_ends {rest : List Char}
    (known : (rest ++ modeQuery).takeWhile (· != '/') = [] ∨
      (rest ++ modeQuery).takeWhile (· != '/') = "localhost".toList) :
    '/' ∈ rest := by
  by_contra endless
  have inside : ∀ c ∈ rest ++ modeQuery, (c != '/') = true := by
    intro c member
    have noSlash : '/' ∉ modeQuery := by decide
    rcases List.mem_append.mp member with name | query
    · simpa using ne_of_mem_of_not_mem name endless
    · simpa using ne_of_mem_of_not_mem query noSlash
  have whole : (rest ++ modeQuery).takeWhile (· != '/') = rest ++ modeQuery :=
    List.takeWhile_eq_self_iff.mpr inside
  -- an authority that no slash ends holds the query
  have query : '?' ∈ rest ++ modeQuery := by simp [modeQuery]
  rw [whole] at known
  rcases known with nothing | computer
  · rw [nothing] at query
    cases query
  · rw [computer] at query
    exact absurd query (by decide)

theorem located?_eq_some_iff {path : List Char} {opened : Opened} :
    located? (path ++ modeQuery) = some opened ↔
      ∃ authority rest, path = authority ++ rest ∧ Skipped authority rest ∧
        opened = openedBy (rest ++ modeQuery) := by
  constructor
  · intro located
    unfold located? at located
    split at located
    · next rest split =>
      -- both slashes are of the path, and so is the one that ends the authority
      obtain ⟨after, rfl, rfl⟩ := slashes_of_append split
      dsimp only at located
      split at located
      · next known =>
        obtain ⟨authority, name, rfl, noSlash⟩ :=
          List.eq_append_cons_of_mem (authority_ends known)
        rw [List.append_assoc, List.cons_append, takeWhile_upTo noSlash] at known
        rw [List.append_assoc, List.cons_append, dropWhile_upTo noSlash, Option.some.injEq]
          at located
        rcases known with rfl | rfl
        · exact ⟨_, _, rfl, .empty name, located.symm⟩
        · exact ⟨_, _, rfl, .computer name, located.symm⟩
      · cases located
    · next relative =>
      refine ⟨[], path, rfl, .nothing ?_, (Option.some.inj located).symm⟩
      rintro ⟨after, rfl⟩
      exact relative _ rfl
  · rintro ⟨authority, rest, rfl, skipped, rfl⟩
    cases skipped with
    | nothing relative =>
      unfold located?
      split
      · next split =>
        obtain ⟨after, rfl, _⟩ := slashes_of_append split
        exact absurd ⟨after, rfl⟩ relative
      · rfl
    | empty rest => rfl
    | computer rest => rfl

/-- A path is opened as it is, or behind an empty authority if it begins with three slashes. -/
theorem located?_of_harmless {path : List Char} (harmless : Harmless path) :
    ∃ opened, located? (path ++ modeQuery) = some opened ∧
      squeezed opened.path = squeezed (utf8 path) ∧ opened.parameters = readOnlyMode := by
  obtain ⟨query, fragment, escape, authority⟩ := harmless
  by_cases absolute : ['/', '/'] <+: path
  · obtain ⟨rest, rfl⟩ := authority absolute
    refine ⟨_, located?_eq_some_iff.mpr ⟨['/', '/'], '/' :: rest, rfl, .empty rest, rfl⟩, ?_⟩
    simp only [List.cons_append, List.nil_append, List.mem_cons, not_or,
      hasEscape_cons_iff (show '/' ≠ '%' by decide)] at query fragment escape
    rw [openedBy_plain (by simp [query]) (by simp [fragment]), unescaped_eq
      (by rwa [hasEscape_cons_iff (by decide)])]
    refine ⟨?_, rfl⟩
    change squeezed (slash :: utf8 rest) = squeezed (slash :: slash :: slash :: utf8 rest)
    rw [squeezed_slashes, squeezed_slashes]
  · refine ⟨_, located?_eq_some_iff.mpr ⟨[], path, rfl, .nothing absolute, rfl⟩, ?_⟩
    rw [openedBy_plain query fragment, unescaped_eq escape]
    exact ⟨rfl, rfl⟩

theorem harmless_of_located? {path : List Char} {opened : Opened}
    (located : located? (path ++ modeQuery) = some opened)
    (same : squeezed opened.path = squeezed (utf8 path)) : Harmless path := by
  obtain ⟨authority, rest, rfl, skipped, rfl⟩ := located?_eq_some_iff.mp located
  -- whatever reading loses has some weight
  have weights := weight_eq_of_squeezed same
  rw [utf8_append, weight_append] at weights
  obtain ⟨query, fragment, escape⟩ := openedBy_keeps (weights ▸ Nat.le_add_left _ _)
  cases skipped with
  | nothing relative => exact ⟨query, fragment, escape, fun absolute => absurd absolute relative⟩
  | empty rest =>
    refine ⟨by simpa using query, by simpa using fragment, ?_, fun _ => ⟨rest, rfl⟩⟩
    simpa [hasEscape_cons_iff] using escape
  | computer rest =>
    have lost : weight (utf8 "//localhost".toList) = 9 := by decide
    simp only [openedBy_plain query fragment, unescaped_eq escape] at weights
    omega

theorem opensReadOnly_iff (path : String) :
    OpensReadOnly ("file:" ++ path ++ "?mode=ro") path ↔ Harmless path.toList := by
  have target : ("file:" ++ path ++ "?mode=ro").toList =
      "file:".toList ++ (path.toList ++ modeQuery) := by
    simp [modeQuery]
  have read : read? ("file:".toList ++ (path.toList ++ modeQuery)) =
      located? (path.toList ++ modeQuery) := rfl
  rw [OpensReadOnly, target, read]
  constructor
  · rintro ⟨opened, located, same, _⟩
    exact harmless_of_located? located same
  · exact located?_of_harmless

example : read? "file:a#b.db?mode=ro".toList = some { path := utf8 ['a'], parameters := [] } := by
  decide

end FileUri

/-! ### Opening -/

open Engine (Attempt)

namespace Connection

def openRequest (path : String) (options : Options) : Engine.Request :=
  .connect (openTarget path options).1
    { timeout := options.timeout, checkSameThread := options.checkSameThread
      uri := (openTarget path options).2 }

def announce (e : Engine σ) (path : String) (options : Options) : Act σ (Connection σ) := do
  Act.note .debug ("Opened SQLite database " ++ path)
  return { path, options, engine := e }

theorem announce_leads (e : Engine σ) (path : String) (options : Options) (s : Session σ) :
    s.Leads e [] [] ((announce e path options).run.run s).2 :=
  Session.Leads.note (e := e) ⟨.debug, .session, "Opened SQLite database " ++ path⟩ s

def settle (e : Engine σ) (path : String) (options : Options) : Act σ (Connection σ) :=
  match options.trace.target? with
  | some target => e.request (.trace target) >>= fun _ => announce e path options
  | none => announce e path options

theorem settle_run (e : Engine σ) (path : String) (options : Options) (s : Session σ) :
    ∃ attempts, s.Leads e attempts [] ((settle e path options).run.run s).2 ∧
      ∀ attempt ∈ attempts, ∃ receiver, attempt.request = .trace receiver := by
  unfold settle
  cases options.trace.target? with
  | none => exact ⟨[], announce_leads e path options s, by simp⟩
  | some receiver =>
    obtain ⟨tracing, t, run, request, leads⟩ :=
      e.request_bind_run (.trace receiver) (fun _ => announce e path options) s
    refine ⟨[tracing], ?_, by simp [request]⟩
    rw [run]
    cases tracing.result with
    | error fault => exact leads
    | ok result => exact leads.trans (announce_leads e path options t)

theorem connect_eq (e : Engine σ) (path : String) (options : Options) :
    connect e path options =
      e.request (openRequest path options) >>= fun _ => settle e path options := by
  unfold connect settle
  cases options.trace.target? <;> rfl

/-- The open database is asked for nothing but to trace. -/
theorem connect_run (e : Engine σ) (path : String) (options : Options) (s : Session σ) :
    ∃ opening later, s.Leads e (opening :: later) [] ((connect e path options).run.run s).2 ∧
      opening.request = openRequest path options ∧
      ∀ attempt ∈ later, ∃ receiver, attempt.request = .trace receiver := by
  obtain ⟨opening, t, run, request, leads⟩ :=
    e.request_bind_run (openRequest path options) (fun _ => settle e path options) s
  rw [connect_eq, run]
  cases opening.result with
  | error fault => exact ⟨opening, [], leads, request, by simp⟩
  | ok result =>
    obtain ⟨later, settled, only⟩ := settle_run e path options t
    exact ⟨opening, later, leads.trans settled, request, only⟩

/-- What an engine is asked in the course of opening a database. -/
def openingAttempts (e : Engine σ) (path : String) (options : Options) (s : Session σ) :
    List Attempt :=
  ((connect e.watched path options).run.run s.watched).2.engine.attempts

theorem openingAttempts_eq (e : Engine σ) (path : String) (options : Options) (s : Session σ) :
    ∃ outcome later,
      openingAttempts e path options s = ⟨openRequest path options, outcome⟩ :: later ∧
        ∀ attempt ∈ later, ∃ receiver, attempt.request = .trace receiver := by
  obtain ⟨opening, later, leads, request, only⟩ := connect_run e.watched path options s.watched
  exact ⟨opening.outcome, later, request ▸ leads.record, only⟩

/-- With reading only asked for, one target is opened, as a URI. It makes the engine open the file of
the path, for reading and in no other way, exactly if nothing in the path means something else. -/
theorem connect_opens_iff (e : Engine σ) {path : String} {options : Options}
    (file : path ≠ memoryPath) (readOnly : options.readOnly.truthy = true) (s : Session σ) :
    ∃ target outcome later,
      openingAttempts e path options s =
        ⟨.connect target { timeout := options.timeout
                           checkSameThread := options.checkSameThread
                           uri := true }, outcome⟩ :: later ∧
      (∀ attempt ∈ later, ∃ receiver, attempt.request = .trace receiver) ∧
      (FileUri.OpensReadOnly target path ↔ FileUri.Harmless path.toList) := by
  obtain ⟨outcome, later, attempts, only⟩ := openingAttempts_eq e path options s
  have target : openTarget path options = ("file:" ++ path ++ "?mode=ro", true) := by
    simp [openTarget, readOnly, file]
  rw [openRequest, target] at attempts
  exact ⟨_, outcome, later, attempts, only, FileUri.opensReadOnly_iff path⟩

/-! ### A name with a hash, and one with three slashes -/

def lenient : Engine Unit where
  answer _ s := ({ outcome := .ok {} }, s)

/-- The fragment takes the mode along. -/
theorem hash_drops_read_only :
    ¬ ∀ (e : Engine Unit) (path : String) (options : Options) (s : Session Unit), path ≠ "" →
      path ≠ memoryPath → options.readOnly.truthy = true →
      ∃ target how outcome later,
        openingAttempts e path options s = ⟨.connect target how, outcome⟩ :: later ∧
          FileUri.OpensReadOnly target path := by
  intro faithful
  obtain ⟨target, how, outcome, later, attempts, opens⟩ :=
    faithful lenient "a#b.db" { readOnly := .bool true } { engine := () } (by decide) (by decide) rfl
  obtain ⟨_, _, asked, _⟩ :=
    openingAttempts_eq lenient "a#b.db" { readOnly := .bool true } { engine := () }
  rw [attempts] at asked
  obtain rfl : target = "file:" ++ "a#b.db" ++ "?mode=ro" := by
    injection asked with opening
    injection opening with request
    injection request
  exact ((FileUri.opensReadOnly_iff "a#b.db").mp opens).noFragment (by decide)

theorem three_slashes_open_read_only :
    "///srv/a b%é.db" ≠ memoryPath ∧ (Value.bool true).truthy = true ∧
      ∃ target outcome later,
        openingAttempts lenient "///srv/a b%é.db" { readOnly := .bool true } { engine := () } =
          ⟨.connect target { timeout := .float (.ofDecimal false 5 0)
                             checkSameThread := .bool true
                             uri := true }, outcome⟩ :: later ∧
        (∀ attempt ∈ later, ∃ receiver, attempt.request = .trace receiver) ∧
        (FileUri.OpensReadOnly target "///srv/a b%é.db" ↔
          FileUri.Harmless "///srv/a b%é.db".toList) :=
  ⟨by decide, rfl, connect_opens_iff lenient (by decide) rfl { engine := () }⟩

end Connection

end FluentSql
