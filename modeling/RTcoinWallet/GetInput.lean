import Mathlib.Data.List.Basic
import Mathlib.Tactic.Ring

/-! # Reading an amount from the terminal

    `getAmountToAtomic` (`zedwallet++/GetInput.cpp`) reads lines until one parses to an
    atomic amount: it trims the line, removes thousands separators, checks the number of
    decimal places, removes the `.`, pads with `0`s up to
    `WalletConfig::numDecimalPlaces` places, and hands the result to `std::stoull`.

    `std::stoull` is the C library's `strtoull`: it skips white space, takes an optional
    sign and then the longest run of decimal digits, and ignores the rest.  A `-` makes it
    return the magnitude negated modulo `2^64`.  So a well-formed numeral is scaled
    exactly (`amountIteration_numeral`), but trailing garbage is dropped together with the
    padding behind it and a minus sign wraps (`getAmountToAtomic_minusOne`).

    A line is the `std::string` `std::getline` fills, a sequence of bytes; it is modelled
    as a `String` or a `List Char` with one `Char` per byte, which every comparison the
    code makes (white space, digits, `,`, `.`, `-`, `cancel`) reads alike. -/

namespace GetInput

/-- The constants of `config/WalletConfig.h` that `getAmountToAtomic` reads. -/
structure WalletConfig where
  numDecimalPlaces : Nat
  minimumSend : Nat

/-- `std::isspace` in the C locale. -/
def isSpace (c : Char) : Bool :=
  c = ' ' || c = '\t' || c = '\n' || c = '\x0B' || c = '\x0C' || c = '\r'

/-- `Utilities::trim` (`utilities/String.cpp`, not in src/), modelled from its callers'
    comment (`/* Remove any whitespace */`): it removes leading and trailing white space. -/
def trim (s : List Char) : List Char :=
  ((s.dropWhile isSpace).reverse.dropWhile isSpace).reverse

/-- `Utilities::removeCharFromString` (`utilities/String.cpp`, not in src/), modelled from
    its callers' comments ("If the user entered thousand separators, remove them", "Remove
    the decimal place", "Remove commas so user can enter height as e.g. 200,000"): it
    removes every occurrence of `c`. -/
def removeCharFromString (s : List Char) (c : Char) : List Char :=
  s.filter (· != c)

/-- `std::string::find_last_of(c)`: the position of the last `c`, `none` for `npos`. -/
def findLastOf (c : Char) : List Char → Option Nat
  | [] => none
  | x :: xs =>
    match findLastOf c xs with
    | some i => some (i + 1)
    | none => if x = c then some 0 else none

/-- The value of a run of decimal digits. -/
def digitsValue (ds : List Char) : Nat :=
  ds.foldl (fun n d => 10 * n + (d.toNat - '0'.toNat)) 0

/-- What `std::stoull` does with a string. -/
inductive Stoull where
  | value (n : Nat)
  /-- `std::invalid_argument`: no digits. -/
  | invalidArgument
  /-- `std::out_of_range`: the digits denote `2^64` or more. -/
  | outOfRange
  deriving DecidableEq, Repr

/-- An optional sign: whether it was `-`, and what follows it. -/
def takeSign : List Char → Bool × List Char
  | '-' :: r => (true, r)
  | '+' :: r => (false, r)
  | r => (false, r)

/-- `std::stoull(str)` in base 10. -/
def stoull (s : List Char) : Stoull :=
  let (negative, rest) := takeSign (s.dropWhile isSpace)
  let digits := rest.takeWhile Char.isDigit
  if digits = [] then .invalidArgument
  else if 2 ^ 64 ≤ digitsValue digits then .outOfRange
  else .value (if negative then (2 ^ 64 - digitsValue digits) % 2 ^ 64 else digitsValue digits)

/-- The number of characters after the last `.` (zero when there is none). -/
def decimalLength (s : List Char) : Nat :=
  match findLastOf '.' s with
  | none => 0
  | some decimalPos => s.length - (decimalPos + 1)

/-- One pass of the loop of `getAmountToAtomic` on a line read: `none` when the loop
    continues, else the tuple it returns. -/
def amountIteration (cfg : WalletConfig) (cancelAllowed : Bool) (line : List Char) :
    Option (Bool × Nat) :=
  if line = [] then none
  else
    let amountString := removeCharFromString (trim line) ','
    if amountString = "cancel".toList ∧ cancelAllowed then some (false, 0)
    else if cfg.numDecimalPlaces < decimalLength amountString then none
    else
      let padded := removeCharFromString amountString '.' ++
        List.replicate (cfg.numDecimalPlaces - decimalLength amountString) '0'
      match stoull padded with
      | .value amount => if amount < cfg.minimumSend then none else some (true, amount)
      | _ => none

/-- `getAmountToAtomic(msg, cancelAllowed)` on the lines the terminal delivers; the end
    of input (a failed `std::getline`) returns `{false, 0}`. -/
def getAmountToAtomic (cfg : WalletConfig) (cancelAllowed : Bool) : List String → Bool × Nat
  | [] => (false, 0)
  | line :: lines =>
    match amountIteration cfg cancelAllowed line.toList with
    | some result => result
    | none => getAmountToAtomic cfg cancelAllowed lines

-- ── Digits ──

theorem foldl_digits (b : List Char) (n : Nat) :
    b.foldl (fun n d => 10 * n + (d.toNat - '0'.toNat)) n = n * 10 ^ b.length + digitsValue b := by
  induction b generalizing n with
  | nil => simp [digitsValue]
  | cons d b ih =>
    simp only [List.foldl_cons, digitsValue, List.length_cons]
    rw [ih, ih (10 * 0 + _), Nat.pow_succ]
    ring

theorem digitsValue_append (a b : List Char) :
    digitsValue (a ++ b) = digitsValue a * 10 ^ b.length + digitsValue b := by
  rw [digitsValue, List.foldl_append, foldl_digits]
  rfl

@[simp] theorem digitsValue_replicate_zero (k : Nat) : digitsValue (List.replicate k '0') = 0 := by
  induction k with
  | zero => rfl
  | succ k ih =>
    rw [List.replicate_succ', digitsValue_append, ih]
    rfl

theorem isSpace_of_isDigit {c : Char} (h : c.isDigit) : isSpace c = false := by
  cases hs : isSpace c
  · rfl
  · simp only [isSpace, Bool.or_eq_true, decide_eq_true_eq] at hs
    rcases hs with ((((rfl | rfl) | rfl) | rfl) | rfl) | rfl <;> exact absurd h (by decide)

theorem takeSign_of_isDigit {c : Char} (h : c.isDigit) (cs : List Char) :
    takeSign (c :: cs) = (false, c :: cs) := by
  have hm : c ≠ '-' := by rintro rfl; exact absurd h (by decide)
  have hp : c ≠ '+' := by rintro rfl; exact absurd h (by decide)
  simp [takeSign, hm, hp]

/-- On a non-empty run of digits `std::stoull` reads the whole run. -/
theorem stoull_digits {ds : List Char} (hd : ∀ c ∈ ds, c.isDigit) (hne : ds ≠ []) :
    stoull ds = if 2 ^ 64 ≤ digitsValue ds then .outOfRange else .value (digitsValue ds) := by
  obtain ⟨c, cs, rfl⟩ := List.exists_cons_of_ne_nil hne
  have hc : c.isDigit := hd c (List.mem_cons_self _ _)
  simp [stoull, List.dropWhile_cons, isSpace_of_isDigit hc, takeSign_of_isDigit hc,
    List.takeWhile_eq_self_iff.mpr hd]

-- ── Positions of the decimal point ──

theorem findLastOf_of_not_mem {c : Char} {s : List Char} (h : c ∉ s) : findLastOf c s = none := by
  induction s with
  | nil => rfl
  | cons x xs ih =>
    rw [List.mem_cons, not_or] at h
    simp [findLastOf, ih h.2, Ne.symm h.1]

theorem findLastOf_append_cons {c : Char} (w f : List Char) (hf : c ∉ f) :
    findLastOf c (w ++ c :: f) = some w.length := by
  induction w with
  | nil => simp [findLastOf, findLastOf_of_not_mem hf]
  | cons x xs ih => simp [findLastOf, ih]

theorem removeCharFromString_of_not_mem {c : Char} {s : List Char} (h : c ∉ s) :
    removeCharFromString s c = s :=
  List.filter_eq_self.mpr fun x hx => by simpa using ne_of_mem_of_not_mem hx h

-- ── One pass of the loop ──

/-- The decimal numeral with integer digits `w` and, when present, fraction digits `f`. -/
def decimalNumeral (w : List Char) : Option (List Char) → List Char
  | none => w
  | some f => w ++ '.' :: f

theorem not_isDigit_dot : ¬ Char.isDigit '.' := by decide

theorem decimalLength_decimalNumeral {w : List Char} (hw : ∀ c ∈ w, c.isDigit)
    {frac : Option (List Char)} (hf : ∀ c ∈ frac.getD [], c.isDigit) :
    decimalLength (decimalNumeral w frac) = (frac.getD []).length := by
  cases frac with
  | none =>
    simp [decimalLength, decimalNumeral, findLastOf_of_not_mem fun h => not_isDigit_dot (hw _ h)]
  | some f =>
    simp only [decimalLength, decimalNumeral,
      findLastOf_append_cons w f fun h => not_isDigit_dot (hf _ h)]
    simp only [List.length_append, List.length_cons, Option.getD_some]
    omega

theorem removeCharFromString_decimalNumeral {w : List Char} (hw : ∀ c ∈ w, c.isDigit)
    {frac : Option (List Char)} (hf : ∀ c ∈ frac.getD [], c.isDigit) :
    removeCharFromString (decimalNumeral w frac) '.' = w ++ frac.getD [] := by
  have hw' := removeCharFromString_of_not_mem fun h => not_isDigit_dot (hw _ h)
  cases frac with
  | none => simpa [decimalNumeral] using hw'
  | some f =>
    have hf' : removeCharFromString f '.' = f :=
      removeCharFromString_of_not_mem fun h => not_isDigit_dot (hf _ h)
    simp only [removeCharFromString] at hw' hf' ⊢
    simp [decimalNumeral, List.filter_append, hw', hf']

/-- **A well-formed numeral is scaled exactly.**  A line that, trimmed and without its
    commas, is the digits `w`, optionally followed by a `.` and at most
    `numDecimalPlaces` digits `f`, is read as `w.f × 10^numDecimalPlaces`: accepted when
    that is below `2^64` and at least `minimumSend`, prompted for again otherwise. -/
theorem amountIteration_numeral (cfg : WalletConfig) (cancelAllowed : Bool)
    {line w : List Char} {frac : Option (List Char)}
    (hw : ∀ c ∈ w, c.isDigit) (hf : ∀ c ∈ frac.getD [], c.isDigit) (hne : w ++ frac.getD [] ≠ [])
    (hclean : removeCharFromString (trim line) ',' = decimalNumeral w frac)
    (hlen : (frac.getD []).length ≤ cfg.numDecimalPlaces) :
    amountIteration cfg cancelAllowed line =
      if digitsValue (w ++ frac.getD []) * 10 ^ (cfg.numDecimalPlaces - (frac.getD []).length)
          < 2 ^ 64 ∧
        cfg.minimumSend ≤
          digitsValue (w ++ frac.getD []) * 10 ^ (cfg.numDecimalPlaces - (frac.getD []).length)
      then some (true, digitsValue (w ++ frac.getD []) *
        10 ^ (cfg.numDecimalPlaces - (frac.getD []).length))
      else none := by
  have hdigits : ∀ c ∈ decimalNumeral w frac, c = '.' ∨ c.isDigit := by
    cases frac <;> simp_all [decimalNumeral, or_imp, forall_and]
  have hline : line ≠ [] := by
    rintro rfl
    cases frac <;> simp_all [trim, removeCharFromString, decimalNumeral]
  have hcancel : decimalNumeral w frac ≠ "cancel".toList := fun h => by
    rcases hdigits 'c' (h ▸ by decide) with h | h <;> exact absurd h (by decide)
  have hpadded : ∀ c ∈ (w ++ frac.getD []) ++
      List.replicate (cfg.numDecimalPlaces - (frac.getD []).length) '0', c.isDigit := by
    intro c hc
    simp only [List.mem_append, List.mem_replicate] at hc
    rcases hc with (hc | hc) | ⟨-, rfl⟩
    exacts [hw c hc, hf c hc, by decide]
  have hvalue : digitsValue ((w ++ frac.getD []) ++
      List.replicate (cfg.numDecimalPlaces - (frac.getD []).length) '0') =
      digitsValue (w ++ frac.getD []) * 10 ^ (cfg.numDecimalPlaces - (frac.getD []).length) := by
    rw [digitsValue_append, digitsValue_replicate_zero, List.length_replicate, Nat.add_zero]
  simp only [amountIteration, hline, hclean, hcancel, false_and, if_false,
    decimalLength_decimalNumeral hw hf, removeCharFromString_decimalNumeral hw hf,
    stoull_digits hpadded fun h => hne (List.append_eq_nil.mp h).1, hvalue, not_lt.mpr hlen]
  generalize digitsValue (w ++ frac.getD []) * 10 ^ (cfg.numDecimalPlaces - (frac.getD []).length)
    = amount
  by_cases h1 : 2 ^ 64 ≤ amount
  · simp only [if_pos h1, if_neg fun h : _ ∧ _ => absurd h.1 (not_lt.mpr h1)]
  · by_cases h2 : amount < cfg.minimumSend
    · simp only [if_neg h1, if_pos h2, if_neg fun h : _ ∧ _ => absurd h.2 (not_le.mpr h2)]
    · simp only [if_neg h1, if_neg h2, if_pos (And.intro (not_le.mp h1) (not_lt.mp h2))]

/-- `1,234.5` with two decimal places is `123450` atomic units. -/
theorem amountIteration_numeral_comma :
    amountIteration ⟨2, 10⟩ false "1,234.5".toList = some (true, 123450) :=
  (@amountIteration_numeral ⟨2, 10⟩ false "1,234.5".toList "1234".toList (some "5".toList)
    (by decide) (by decide) (by decide) (by decide) (by decide)).trans (by decide)

/-- **A minus sign wraps.**  `-1` passes the decimal-places check, is padded to
    `-1` followed by `numDecimalPlaces` zeros, and `std::stoull` returns that magnitude
    negated modulo `2^64`: the line is accepted as `2^64 - 10^numDecimalPlaces`. -/
theorem amountIteration_minusOne (cfg : WalletConfig) (cancelAllowed : Bool)
    (hplaces : cfg.numDecimalPlaces ≤ 19)
    (hmin : cfg.minimumSend ≤ 2 ^ 64 - 10 ^ cfg.numDecimalPlaces) :
    amountIteration cfg cancelAllowed "-1".toList =
      some (true, 2 ^ 64 - 10 ^ cfg.numDecimalPlaces) := by
  have hdigits : ∀ c ∈ '1' :: List.replicate cfg.numDecimalPlaces '0', c.isDigit := by
    simp only [List.mem_cons, List.mem_replicate]
    rintro c (rfl | ⟨-, rfl⟩) <;> decide
  have hvalue : digitsValue ('1' :: List.replicate cfg.numDecimalPlaces '0') =
      10 ^ cfg.numDecimalPlaces := by
    rw [← List.singleton_append, digitsValue_append, digitsValue_replicate_zero,
      List.length_replicate, show digitsValue ['1'] = 1 from rfl, Nat.one_mul, Nat.add_zero]
  have hpow : 10 ^ cfg.numDecimalPlaces < 2 ^ 64 :=
    lt_of_le_of_lt (Nat.pow_le_pow_right (by norm_num) hplaces) (by decide)
  have hpos : 0 < 10 ^ cfg.numDecimalPlaces := Nat.pos_pow_of_pos _ (by norm_num)
  have hstoull : stoull ('-' :: '1' :: List.replicate cfg.numDecimalPlaces '0') =
      .value (2 ^ 64 - 10 ^ cfg.numDecimalPlaces) := by
    have hsign : takeSign (('-' :: '1' :: List.replicate cfg.numDecimalPlaces '0').dropWhile
        isSpace) = (true, '1' :: List.replicate cfg.numDecimalPlaces '0') := rfl
    simp only [stoull, hsign, List.takeWhile_eq_self_iff.mpr hdigits, hvalue]
    rw [if_neg (List.cons_ne_nil _ _), if_neg (not_le.mpr hpow), if_pos trivial,
      Nat.mod_eq_of_lt (by omega)]
  have hline : "-1".toList = ['-', '1'] := rfl
  simp only [amountIteration, hline, show trim ['-', '1'] = ['-', '1'] from rfl,
    show removeCharFromString ['-', '1'] ',' = ['-', '1'] from rfl,
    show removeCharFromString ['-', '1'] '.' = ['-', '1'] from rfl,
    show decimalLength ['-', '1'] = 0 from rfl, Nat.sub_zero]
  rw [if_neg (List.cons_ne_nil _ _), if_neg (fun h => absurd h.1 (by decide)),
    if_neg (Nat.not_lt_zero _), show ['-', '1'] ++ List.replicate cfg.numDecimalPlaces '0' =
      '-' :: '1' :: List.replicate cfg.numDecimalPlaces '0' from rfl, hstoull]
  simp only [if_neg (not_lt.mpr hmin)]

/-- `getAmountToAtomic` with two decimal places and a minimum send of `10`, given the
    line `-1`, accepts it as `2^64 - 100`. -/
theorem getAmountToAtomic_minusOne :
    getAmountToAtomic ⟨2, 10⟩ true ["-1"] = (true, 2 ^ 64 - 100) := by
  simp only [getAmountToAtomic, amountIteration_minusOne ⟨2, 10⟩ true (by decide) (by decide)]
  rfl

end GetInput
