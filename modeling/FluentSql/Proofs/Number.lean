import FluentSql.Value
import Mathlib.Data.List.DropRight
import Mathlib.Data.Nat.Digits.Defs

/-!
# The grammar of numerals

Which texts are numerals, and of which integers, said without reading them: white space, a sign, a
run of digits and white space again. The reader accepts exactly these. Among the numerals of an
integer that is not negative, its decimal literal is the one in canonical form.
-/

namespace FluentSql

/-! ### Decimal digits of integers -/

namespace Value

theorem decimal_toList_natCast (n : Nat) : (decimal n).toList = Nat.toDigits 10 n := by
  simp [decimal, Nat.toString_eq_repr]

/-- The characters of a literal are digits, apart from the sign. -/
theorem isDigit_of_mem_decimal (n : Int) (c : Char) (member : c ∈ (decimal n).toList) :
    c = '-' ∨ c.isDigit = true := by
  cases n with
  | ofNat n =>
    right
    rw [show Int.ofNat n = (n : Int) from rfl, decimal_toList_natCast] at member
    exact Nat.isDigit_of_mem_toDigits (by decide) (by decide) member
  -- Only here is there a sign.
  | negSucc n =>
    simp only [decimal, String.toList_append, Nat.toString_eq_repr, Nat.toList_repr,
      List.mem_append] at member
    rcases member with sign | digit
    · left
      simpa using sign
    · right
      exact Nat.isDigit_of_mem_toDigits (by decide) (by decide) digit

/-- A number of rows is written as a run of digits that is not empty. -/
theorem decimal_of_nonneg (n : Int) (nonneg : 0 ≤ n) :
    (decimal n).toList ≠ [] ∧ ∀ c ∈ (decimal n).toList, c.isDigit = true := by
  obtain ⟨n, rfl⟩ := Int.eq_ofNat_of_zero_le nonneg
  rw [decimal_toList_natCast]
  refine ⟨Nat.toDigits_ne_nil, ?_⟩
  exact fun c member => Nat.isDigit_of_mem_toDigits (by decide) (by decide) member

theorem decimal_inj_of_nonneg (m n : Int) (left : 0 ≤ m) (right : 0 ≤ n)
    (equal : (decimal m).toList = (decimal n).toList) : m = n := by
  obtain ⟨m, rfl⟩ := Int.eq_ofNat_of_zero_le left
  obtain ⟨n, rfl⟩ := Int.eq_ofNat_of_zero_le right
  rw [decimal_toList_natCast, decimal_toList_natCast] at equal
  -- Reading the digits back gives the number.
  have read : m = n := by
    simpa using congrArg (fun digits => Nat.ofDigitChars 10 digits 0) equal
  rw [read]

end Value

namespace Numeral

/-! ### Numerals -/

/-- A run of digits with their values. A single low line may stand between two of them. -/
inductive Run : List Char → List Nat → Prop
  | single {c : Char} {d : Nat} (digit : Text.digit? c = some d) : Run [c] [d]
  | next {c : Char} {d : Nat} {cs : List Char} {ds : List Nat} (digit : Text.digit? c = some d)
    (more : Run cs ds) : Run (c :: cs) (d :: ds)
  | spaced {c : Char} {d : Nat} {cs : List Char} {ds : List Nat} (digit : Text.digit? c = some d)
    (more : Run cs ds) : Run (c :: '_' :: cs) (d :: ds)

/-- A run of digits that is not too long, with its value. -/
inductive Unsigned : List Char → Nat → Prop
  | mk {cs : List Char} {ds : List Nat} (run : Run cs ds) (short : ds.length ≤ maxDigits) :
    Unsigned cs (Nat.ofDigits 10 ds.reverse)

/-- Digits behind an optional sign. -/
inductive Signed : List Char → Int → Prop
  | plain {cs : List Char} {m : Nat} (digits : Unsigned cs m) : Signed cs m
  | plus {cs : List Char} {m : Nat} (digits : Unsigned cs m) : Signed ('+' :: cs) m
  | minus {cs : List Char} {m : Nat} (digits : Unsigned cs m) : Signed ('-' :: cs) (-m)

/-- A numeral of the given integer: digits with an optional sign, between white space. -/
inductive Spells : List Char → Int → Prop
  | mk {before core behind : List Char} {n : Int} (left : ∀ c ∈ before, Text.isBlank c = true)
    (number : Signed core n) (right : ∀ c ∈ behind, Text.isBlank c = true) :
    Spells (before ++ (core ++ behind)) n

/-- The canonical form of a number that is not negative: ASCII digits, of which the first is no zero
unless it stands alone. -/
structure Canonical (cs : List Char) : Prop where
  filled : cs ≠ []
  digits : ∀ c ∈ cs, c.isDigit = true
  leading : cs.head? = some '0' → cs = ['0']

/-! ### Runs of digits -/

theorem Run.head {cs : List Char} {ds : List Nat} (run : Run cs ds) :
    ∃ c rest d, cs = c :: rest ∧ Text.digit? c = some d := by
  cases run with
  | single digit | next digit | spaced digit => exact ⟨_, _, _, rfl, digit⟩

/-- A character that is no digit begins no run. -/
theorem Run.ne_cons {cs : List Char} {ds : List Nat} (run : Run cs ds) {c : Char}
    (other : Text.digit? c = none) (rest : List Char) : cs ≠ c :: rest := by
  rintro rfl
  obtain ⟨_, _, _, same, digit⟩ := run.head
  cases same
  cases other.symm.trans digit

theorem Run.digits_lt {cs : List Char} {ds : List Nat} (run : Run cs ds) : ∀ d ∈ ds, d < 10 := by
  induction run with
  | single digit => simpa using Text.digit?_lt digit
  | next digit _ ih | spaced digit _ ih =>
    exact List.forall_mem_cons.mpr ⟨Text.digit?_lt digit, ih⟩

/-- The digits that are read are those of a run: a low line stands between two of them. -/
theorem digits?_eq_some_iff (cs : List Char) (ds : List Nat) : digits? cs = some ds ↔ Run cs ds := by
  constructor
  · intro reads
    fun_induction digits? cs generalizing ds with
    | case1 => cases reads
    | case2 c =>
      obtain ⟨d, digit, rfl⟩ := Option.map_eq_some_iff.mp reads
      exact .single digit
    | case3 c rest ih =>
      simp only [Option.bind_eq_bind, Option.bind_eq_some_iff] at reads
      obtain ⟨d, digit, ds, more, last⟩ := reads
      cases last
      exact .spaced digit (ih ds more)
    | case4 c rest _ _ ih =>
      simp only [Option.bind_eq_bind, Option.bind_eq_some_iff] at reads
      obtain ⟨d, digit, ds, more, last⟩ := reads
      cases last
      exact .next digit (ih ds more)
  · intro run
    induction run with
    | single digit => simp [digits?, digit]
    | @next c d cs ds digit more ih =>
      -- What follows a digit begins with a digit, so that neither the end nor a low line is there.
      obtain ⟨first, rest, _, same, _⟩ := more.head
      have filled : cs ≠ [] := same ▸ List.cons_ne_nil first rest
      rw [digits?.eq_4 c cs filled (more.ne_cons rfl), digit, ih]
      rfl
    | spaced digit _ ih => simp [digits?, digit, ih]

/-! ### Values -/

theorem ofDigits_eq (ds : List Nat) : ofDigits ds = Nat.ofDigits 10 ds.reverse := by
  rw [Nat.ofDigits_eq_foldr, List.foldr_reverse, ofDigits]
  simp only [Nat.cast_id, Nat.add_comm]

theorem magnitude?_eq_some_iff (cs : List Char) (m : Nat) :
    magnitude? cs = some m ↔ Unsigned cs m := by
  simp only [magnitude?, Option.bind_eq_bind, Option.bind_eq_some_iff, digits?_eq_some_iff,
    ofDigits_eq]
  constructor
  · rintro ⟨ds, run, found⟩
    split at found
    next short =>
      cases found
      exact .mk run short
    · cases found
  · rintro @⟨ds, run, short⟩
    exact ⟨ds, run, if_pos short⟩

/-- There are no more digits than the limit allows. -/
theorem Unsigned.lt {cs : List Char} {m : Nat} (digits : Unsigned cs m) : m < 10 ^ maxDigits := by
  obtain @⟨ds, run, short⟩ := digits
  have values : ∀ d ∈ ds.reverse, d < 10 := fun d member =>
    run.digits_lt d (List.mem_reverse.mp member)
  calc Nat.ofDigits 10 ds.reverse
      < 10 ^ ds.reverse.length := Nat.ofDigits_lt_base_pow_length (by omega) values
    _ ≤ 10 ^ maxDigits := Nat.pow_le_pow_right (by omega) (by rwa [List.length_reverse])

/-! ### Signs -/

theorem signed?_eq_some_iff (cs : List Char) (n : Int) : signed? cs = some n ↔ Signed cs n := by
  constructor
  · intro reads
    unfold signed? at reads
    split at reads
    all_goals
      simp only [Option.map_eq_some_iff, Option.bind_eq_bind, Option.bind_eq_some_iff,
        Option.pure_def, Option.some.injEq, magnitude?_eq_some_iff] at reads
      obtain ⟨_, ⟨m, digits, rfl⟩, rfl⟩ := reads
    · exact .minus digits
    · exact .plus digits
    · exact .plain digits
  · intro number
    cases number with
    | @plain cs m digits =>
      -- Digits begin with a digit, so that no sign is taken off.
      obtain @⟨ds, run, short⟩ := digits
      rw [signed?.eq_3 cs (run.ne_cons rfl) (run.ne_cons rfl),
        (magnitude?_eq_some_iff cs _).mpr (.mk run short)]
      rfl
    | plus digits | minus digits => simp [signed?, (magnitude?_eq_some_iff _ _).mpr digits]

/-! ### White space -/

/-- No digit of any script is white space. -/
theorem not_blank_of_digit {c : Char} {d : Nat} (digit : Text.digit? c = some d) :
    Text.isBlank c = false := by
  have apart : ∀ first ∈ Text.digitZeros, ∀ range ∈ Text.blankRanges,
      first + 10 ≤ range.1 ∨ range.2 < first := by decide
  obtain ⟨first, found, rfl⟩ := Option.map_eq_some_iff.mp digit
  have value := List.find?_some found
  simp only [Bool.and_eq_true, decide_eq_true_eq] at value
  rw [Text.isBlank, Bool.eq_false_iff, ne_eq, Text.inRanges_eq_true_iff]
  rintro ⟨range, member, low, high⟩
  have := apart first (List.mem_of_find?_eq_some found) range member
  omega

theorem Run.not_blank {cs : List Char} {ds : List Nat} (run : Run cs ds) :
    ∀ c ∈ cs, Text.isBlank c = false := by
  induction run with
  | single digit => simpa using not_blank_of_digit digit
  | next digit _ ih => exact List.forall_mem_cons.mpr ⟨not_blank_of_digit digit, ih⟩
  | spaced digit _ ih =>
    exact List.forall_mem_cons.mpr ⟨not_blank_of_digit digit, List.forall_mem_cons.mpr ⟨rfl, ih⟩⟩

theorem Signed.not_blank {cs : List Char} {n : Int} (number : Signed cs n) :
    cs ≠ [] ∧ ∀ c ∈ cs, Text.isBlank c = false := by
  cases number with
  | plain digits =>
    obtain @⟨ds, run, _⟩ := digits
    obtain ⟨c, rest, _, rfl, _⟩ := run.head
    exact ⟨List.cons_ne_nil _ _, run.not_blank⟩
  | plus digits | minus digits =>
    obtain @⟨ds, run, _⟩ := digits
    exact ⟨List.cons_ne_nil _ _, List.forall_mem_cons.mpr ⟨rfl, run.not_blank⟩⟩

theorem exists_blanks_around (cs : List Char) : ∃ before behind,
    (∀ c ∈ before, Text.isBlank c = true) ∧ (∀ c ∈ behind, Text.isBlank c = true) ∧
    cs = before ++ (Text.trimBlanks cs ++ behind) := by
  refine ⟨cs.takeWhile Text.isBlank, (cs.dropWhile Text.isBlank).rtakeWhile Text.isBlank,
    fun c member => List.mem_takeWhile_imp member, fun c member => List.mem_rtakeWhile_imp member, ?_⟩
  calc cs
      = cs.takeWhile Text.isBlank ++ cs.dropWhile Text.isBlank := List.takeWhile_append_dropWhile.symm
    _ = _ := congrArg _ List.rdropWhile_append_rtakeWhile.symm

/-- Trimming takes the white space at both ends and nothing else. -/
theorem trimBlanks_around {before core behind : List Char}
    (left : ∀ c ∈ before, Text.isBlank c = true) (filled : core ≠ [])
    (plain : ∀ c ∈ core, Text.isBlank c = false) (right : ∀ c ∈ behind, Text.isBlank c = true) :
    Text.trimBlanks (before ++ (core ++ behind)) = core := by
  obtain ⟨first, rest, rfl⟩ := List.exists_cons_of_ne_nil filled
  have front : (before ++ (first :: rest ++ behind)).dropWhile Text.isBlank =
      first :: rest ++ behind := by
    rw [List.dropWhile_append_of_pos left, List.cons_append,
      List.dropWhile_cons_of_neg (by simp [plain])]
  have back : ∀ c ∈ behind.reverse, Text.isBlank c = true := by simpa using right
  have last : (first :: rest).rdropWhile Text.isBlank = first :: rest := by
    rw [List.rdropWhile_eq_self_iff]
    intro filled
    simp [plain _ (List.getLast_mem filled)]
  rw [Text.trimBlanks, front, List.reverse_append, List.dropWhile_append_of_pos back]
  exact last

/-- The reader reads the numerals, each as its integer, and nothing else. -/
theorem read?_eq_some_iff (cs : List Char) (n : Int) : read? cs = some n ↔ Spells cs n := by
  rw [read?, signed?_eq_some_iff]
  constructor
  · intro number
    obtain ⟨before, behind, left, right, split⟩ := exists_blanks_around cs
    rw [split]
    exact .mk left number right
  · rintro @⟨before, core, behind, n, left, number, right⟩
    obtain ⟨filled, plain⟩ := number.not_blank
    rwa [trimBlanks_around left filled plain right]

/-! ### Literals -/

/-- Only zero is written with a zero at its front. -/
theorem toDigits_leading {m : Nat} (zero : (Nat.toDigits 10 m).head? = some '0') : m = 0 := by
  induction m using Nat.strong_induction_on with
  | _ m ih =>
    by_cases small : m < 10
    · rw [Nat.toDigits_of_lt_base small] at zero
      have digits : ∀ d < 10, d.digitChar = '0' → d = 0 := by decide
      exact digits m small (by simpa using zero)
    · -- The first digit is that of the number without its last.
      rw [Nat.toDigits_of_base_le (by omega) (by omega),
        List.head?_append_of_ne_nil _ Nat.toDigits_ne_nil] at zero
      have := ih (m / 10) (by omega) zero
      omega

theorem canonical_toDigits (m : Nat) : Canonical (Nat.toDigits 10 m) where
  filled := Nat.toDigits_ne_nil
  digits _ member := Nat.isDigit_of_mem_toDigits (by decide) (by decide) member
  leading zero := by
    rw [toDigits_leading zero]
    rfl

/-- The values of ASCII digits. -/
def asciiDigits (cs : List Char) : List Nat := cs.map fun c => c.toNat - '0'.toNat

theorem digit?_of_isDigit {c : Char} (digit : c.isDigit = true) :
    Text.digit? c = some (c.toNat - '0'.toNat) := by
  obtain ⟨low, high⟩ := Char.isDigit_iff_toNat.mp digit
  have here : 0x30 ≤ c.toNat ∧ c.toNat < 0x30 + 10 := ⟨low, Nat.lt_succ_of_le high⟩
  rw [Text.digit?, Text.digitZeros, List.find?_cons_of_pos (by simpa using here)]
  rfl

theorem run_asciiDigits {cs : List Char} (filled : cs ≠ [])
    (digits : ∀ c ∈ cs, c.isDigit = true) : Run cs (asciiDigits cs) := by
  induction cs with
  | nil => exact absurd rfl filled
  | cons c rest ih =>
    obtain ⟨digit, others⟩ := List.forall_mem_cons.mp digits
    by_cases last : rest = []
    · subst last
      exact .single (digit?_of_isDigit digit)
    · exact .next (digit?_of_isDigit digit) (ih last others)

theorem ofDigits_asciiDigits (cs : List Char) :
    Nat.ofDigits 10 (asciiDigits cs).reverse = Nat.ofDigitChars 10 cs 0 := by
  rw [← ofDigits_eq, ofDigits, asciiDigits, List.foldl_map, Nat.ofDigitChars_eq_foldl]

theorem unsigned_toDigits {m : Nat} (small : m < 10 ^ maxDigits) :
    Unsigned (Nat.toDigits 10 m) m := by
  have canonical := canonical_toDigits m
  have short : (asciiDigits (Nat.toDigits 10 m)).length ≤ maxDigits := by
    rw [asciiDigits, List.length_map]
    exact (Nat.length_toDigits_le_iff (by omega) (by rw [maxDigits]; omega)).mpr small
  have unsigned := Unsigned.mk (run_asciiDigits canonical.filled canonical.digits) short
  rwa [ofDigits_asciiDigits, Nat.ofDigitChars_ten_toDigits] at unsigned

theorem Signed.spells {cs : List Char} {n : Int} (number : Signed cs n) : Spells cs n := by
  have spelled := @Spells.mk [] cs [] n nofun number nofun
  rwa [List.nil_append, List.append_nil] at spelled

/-- The literal of an integer is one of its numerals. -/
theorem spells_decimal {n : Int} (small : n.natAbs < 10 ^ maxDigits) :
    Spells (Value.decimal n).toList n := by
  apply Signed.spells
  cases n with
  | ofNat m =>
    rw [Int.ofNat_eq_natCast, Value.decimal_toList_natCast]
    exact .plain (unsigned_toDigits small)
  | negSucc m =>
    have minus : (Value.decimal (.negSucc m)).toList = '-' :: Nat.toDigits 10 (m + 1) := by
      simp [Value.decimal, Nat.toString_eq_repr]
    rw [minus]
    exact .minus (unsigned_toDigits small)

theorem Spells.natAbs_lt {cs : List Char} {n : Int} (spelled : Spells cs n) :
    n.natAbs < 10 ^ maxDigits := by
  obtain @⟨before, core, behind, n, left, number, right⟩ := spelled
  cases number with
  | plain digits | plus digits | minus digits => simpa using digits.lt

/-! ### The canonical numeral -/

theorem digit_lt {c : Char} (digit : c.isDigit = true) : c.toNat - '0'.toNat < 10 := by
  have high : c.toNat ≤ 57 := (Char.isDigit_iff_toNat.mp digit).2
  change c.toNat - 48 < 10
  omega

theorem toDigits_digit {c : Char} (digit : c.isDigit = true) :
    Nat.toDigits 10 (c.toNat - '0'.toNat) = [c] := by
  have low : '0'.toNat ≤ c.toNat := (Char.isDigit_iff_toNat.mp digit).1
  have same : (c.toNat - '0'.toNat).digitChar = c := by
    apply Char.toNat_inj.mp
    rw [Nat.toNat_digitChar_of_lt_ten (digit_lt digit)]
    exact Nat.add_sub_cancel' low
  rw [Nat.toDigits_of_lt_base (digit_lt digit), same]

/-- There is one canonical form of a number. -/
theorem Canonical.eq_toDigits {cs : List Char} (canonical : Canonical cs) :
    cs = Nat.toDigits 10 (Nat.ofDigitChars 10 cs 0) := by
  -- The value grows at the end of the digits, and so does the induction.
  induction cs using List.reverseRecOn with
  | nil => exact absurd rfl canonical.filled
  | append_singleton front c ih =>
    obtain ⟨others, last⟩ : (∀ c ∈ front, c.isDigit = true) ∧ c.isDigit = true := by
      simpa [or_imp, forall_and] using canonical.digits
    have value : Nat.ofDigitChars 10 (front ++ [c]) 0 =
        10 * Nat.ofDigitChars 10 front 0 + (c.toNat - '0'.toNat) := by
      rw [Nat.ofDigitChars_append, Nat.ofDigitChars_cons, Nat.ofDigitChars_nil]
    rw [value]
    by_cases alone : front = []
    · subst alone
      rw [Nat.ofDigitChars_nil, Nat.mul_zero, Nat.zero_add, toDigits_digit last, List.nil_append]
    · -- What stands before the last digit leads with the same digit, so that it is no zero.
      have no_zero : front.head? ≠ some '0' := by
        intro zero
        have whole := canonical.leading (by rwa [List.head?_append_of_ne_nil _ alone])
        have one := congrArg List.length whole
        have some_front := List.length_pos_iff.mpr alone
        simp only [List.length_append, List.length_singleton] at one
        omega
      have shorter := ih ⟨alone, others, fun zero => absurd zero no_zero⟩
      have positive : 0 < Nat.ofDigitChars 10 front 0 := by
        rw [Nat.pos_iff_ne_zero]
        intro zero
        rw [zero] at shorter
        exact no_zero (by rw [shorter]; rfl)
      rw [← Nat.toDigits_append_toDigits (by decide) positive (digit_lt last), ← shorter,
        toDigits_digit last]

theorem canonical_decimal {n : Int} (nonneg : 0 ≤ n) : Canonical (Value.decimal n).toList := by
  obtain ⟨m, rfl⟩ := Int.eq_ofNat_of_zero_le nonneg
  rw [Value.decimal_toList_natCast]
  exact canonical_toDigits m

theorem Run.unique {cs : List Char} {ds es : List Nat} (left : Run cs ds) (right : Run cs es) :
    ds = es :=
  Option.some.inj (((digits?_eq_some_iff cs ds).mpr left).symm.trans
    ((digits?_eq_some_iff cs es).mpr right))

/-- A numeral in canonical form is the literal of its integer. -/
theorem Canonical.eq_decimal {cs : List Char} {n : Int} (canonical : Canonical cs)
    (spelled : Spells cs n) : cs = (Value.decimal n).toList := by
  have run := run_asciiDigits canonical.filled canonical.digits
  -- There is no white space to be taken off, and then no sign.
  have number : Signed cs n := by
    have trimmed : Text.trimBlanks cs = cs := by
      have around := @trimBlanks_around [] cs [] nofun canonical.filled run.not_blank nofun
      rwa [List.nil_append, List.append_nil] at around
    rw [← signed?_eq_some_iff, ← trimmed]
    exact (read?_eq_some_iff cs n).mpr spelled
  cases number with
  | plain digits =>
    obtain @⟨ds, run', _⟩ := digits
    rw [run'.unique run, ofDigits_asciiDigits, Value.decimal_toList_natCast]
    exact canonical.eq_toDigits
  | plus | minus => cases canonical.digits _ List.mem_cons_self

/-- Of the numerals of an integer that is not negative, its literal is the canonical one. -/
theorem canonical_spells_iff {n : Int} (nonneg : 0 ≤ n) (small : n.natAbs < 10 ^ maxDigits)
    (cs : List Char) : Canonical cs ∧ Spells cs n ↔ cs = (Value.decimal n).toList := by
  constructor
  · rintro ⟨canonical, spelled⟩
    exact canonical.eq_decimal spelled
  · rintro rfl
    exact ⟨canonical_decimal nonneg, spells_decimal small⟩

end Numeral

end FluentSql
