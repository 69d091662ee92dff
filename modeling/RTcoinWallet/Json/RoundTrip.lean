import RTcoinWallet.Json.Reader

/-!
# The writer/reader round trip

The reader gives back every value the compact writer writes:

  * `readString_escaped` — an escaped string body and its closing quote decode to the
    original bytes;
  * `readNumber_writeInt` — `Int64`/`Uint64` text reads back as the same integer, when
    what follows cannot continue the number (`Stops`);
  * `readValue_writeValue` — every value, at any fuel at least its `size`;
  * `parseDocument_writeValue` — `Document::Parse` on the writer's text, NUL truncation
    and the end-of-document check included, yields the value written.
-/

namespace RapidJson

open WalletErrors

/-! ## Whitespace -/

/-- A byte `SkipWhitespace` stops at. -/
def NotSpace (c : UInt8) : Prop := c ≠ 0x20 ∧ c ≠ 0x0A ∧ c ≠ 0x0D ∧ c ≠ 0x09

instance : DecidablePred NotSpace := fun _ => inferInstanceAs (Decidable (_ ∧ _ ∧ _ ∧ _))

theorem skipWhitespace_cons {c : UInt8} (hc : NotSpace c) (t : Bytes) :
    skipWhitespace (c :: t) = c :: t := by
  obtain ⟨h₁, h₂, h₃, h₄⟩ := hc
  rw [skipWhitespace, if_neg (by simp only [not_or]; exact ⟨h₁, h₂, h₃, h₄⟩)]

/-! ## Strings -/

theorem hexValue_hexDigit : ∀ d, d < 16 → hexValue (hexDigit d) = some d := by decide

/-- A control byte's `\u00XX` escape decodes to the byte itself. -/
theorem parseHex4_control {c : UInt8} (hc : c.toNat < 0x20) :
    parseHex4 0x30 0x30 (hexDigit (c.toNat / 16)) (hexDigit (c.toNat % 16)) = some c.toNat := by
  simp only [parseHex4, hexValue_hexDigit _ (show c.toNat / 16 < 16 by omega),
    hexValue_hexDigit _ (show c.toNat % 16 < 16 by omega)]
  have : hexValue 0x30 = some 0 := by decide
  simp only [this, Option.pure_def, Option.bind_eq_bind, Option.some_bind, Option.some.injEq]
  omega

theorem encodeUtf8_byte (c : UInt8) (hc : c.toNat ≤ 0x7F) : encodeUtf8 c.toNat = [c] := by
  simp [encodeUtf8, hc, UInt8.toUInt8_toNat]

/-- One escaped byte decodes to itself, in front of whatever follows. -/
theorem readString_escapeByte (c : UInt8) (r : Bytes) :
    readString (escapeByte c ++ r) = (readString r).map (prepend [c]) := by
  unfold escapeByte
  split
  all_goals try rfl
  rename_i h₁ h₂ h₃ h₄ h₅ h₆ h₇
  split
  · rename_i hlt
    have hlt' : c.toNat < 0x20 := by rw [UInt8.lt_iff_toNat_lt] at hlt; simpa using hlt
    simp only [List.cons_append, List.nil_append]
    rw [readString, if_neg (by decide), if_pos rfl, readEscape, parseHex4_control hlt']
    dsimp only
    rw [if_neg (by omega), encodeUtf8_byte c (by omega)]
  · rename_i hge
    rw [List.singleton_append, readString, if_neg h₁, if_neg h₂, if_neg hge]

/-- **Strings round-trip.** The escaped body of `s` and the closing quote read back as
    `s`, stopping right after the quote. -/
theorem readString_escaped (s r : Bytes) :
    readString (s.flatMap escapeByte ++ 0x22 :: r) = some (s, r) := by
  induction s with
  | nil => simp [readString]
  | cons c s ih =>
      rw [List.flatMap_cons, List.append_assoc, readString_escapeByte, ih]
      rfl

/-! ## Numbers -/

/-- A byte that would continue a number: a digit, `.`, `e` or `E`. -/
def continuesNumber (c : UInt8) : Bool :=
  isDigit c || c == 0x2E || c == 0x65 || c == 0x45

/-- What may follow a value for the reader to stop exactly at its end: anything that does
    not continue a number. -/
def Stops : Bytes → Prop
  | [] => True
  | c :: _ => continuesNumber c = false

/-- No digit comes first. -/
def NoDigitHead (r : Bytes) : Prop := ∀ c ∈ r.head?, isDigit c = false

theorem noDigitHead_of_stops : ∀ {r : Bytes}, Stops r → NoDigitHead r
  | [], _ => fun _ h => by cases h
  | c :: _, h => fun x hx => by
      cases hx
      simp only [Stops, continuesNumber, Bool.or_eq_false_iff] at h
      exact h.1.1.1

/-- A run of digits stops at the first byte that is not one. -/
theorem takeWhile_digits {ds : Bytes} (hds : ∀ c ∈ ds, isDigit c = true) {r : Bytes}
    (hr : NoDigitHead r) : (ds ++ r).takeWhile isDigit = ds ∧ (ds ++ r).dropWhile isDigit = r := by
  induction ds with
  | nil =>
      cases r with
      | nil => exact ⟨rfl, rfl⟩
      | cons c t => simp [List.takeWhile_cons, List.dropWhile_cons, hr c rfl]
  | cons d ds ih =>
      obtain ⟨h₁, h₂⟩ := ih fun c hc => hds c (List.mem_cons_of_mem d hc)
      simp [List.takeWhile_cons, List.dropWhile_cons, hds d (List.mem_cons_self d ds), h₁, h₂]

theorem isDigit_digitByte {d : Nat} (h : d < 10) : isDigit (digitByte d) = true := by
  simp only [isDigit, Bool.and_eq_true, decide_eq_true_eq, UInt8.le_iff_toNat_le,
    digitByte_toNat h]
  exact ⟨show 48 ≤ 48 + d by omega, show 48 + d ≤ 57 by omega⟩

theorem digitByte_ne {d : Nat} (hd : d < 10) {x : UInt8} (hx : x.toNat < 0x30 ∨ 0x39 < x.toNat) :
    digitByte d ≠ x := by
  rw [Ne, UInt8.eq_iff_toNat_eq, digitByte_toNat hd]; omega

/-- Reading the decimal digits most significant first is `Nat.ofDigits`. -/
theorem foldl_digits_reverse (m : Nat) :
    (Nat.digits 10 m).reverse.foldl (fun a d => a * 10 + d) 0 = m := by
  rw [List.foldl_reverse]
  conv_rhs => rw [← Nat.ofDigits_digits 10 m]
  induction Nat.digits 10 m with
  | nil => rfl
  | cons d ds ih => simp only [List.foldr_cons, Nat.ofDigits_cons, ih]; ring

/-- `u64toa` output: `0`, or a non-zero leading digit and digits after it. -/
theorem decimalDigits_cases (m : Nat) :
    (m = 0 ∧ decimalDigits m = [0x30]) ∨
      ∃ d ds, 0 < d ∧ (∀ x ∈ d :: ds, x < 10) ∧ decimalDigits m = (d :: ds).map digitByte ∧
        (d :: ds).foldl (fun a d => a * 10 + d) 0 = m := by
  unfold decimalDigits
  split
  · exact .inl ⟨‹_›, rfl⟩
  · rename_i hm
    have hlt : ∀ x ∈ (Nat.digits 10 m).reverse, x < 10 := fun x hx =>
      Nat.digits_lt_base (by norm_num) (List.mem_reverse.mp hx)
    cases h : (Nat.digits 10 m).reverse with
    | nil => simp [Nat.digits_eq_nil_iff_eq_zero, hm] at h
    | cons d ds =>
        have hlast := Nat.getLast_digit_ne_zero 10 hm
        rw [← List.head_reverse (by simp [Nat.digits_eq_nil_iff_eq_zero, hm])] at hlast
        simp only [h, List.head_cons] at hlast
        rw [h] at hlt
        refine .inr ⟨d, ds, Nat.pos_of_ne_zero hlast, hlt, rfl, ?_⟩
        rw [← h]
        exact foldl_digits_reverse m

theorem decimalDigits_isDigit (m : Nat) : ∀ c ∈ decimalDigits m, isDigit c = true := by
  rcases decimalDigits_cases m with ⟨-, h⟩ | ⟨d, ds, -, hds, h, -⟩ <;> rw [h]
  · simp only [List.mem_singleton, forall_eq]; rfl
  · simp only [List.mem_map, forall_exists_index, and_imp, forall_apply_eq_imp_iff₂]
    exact fun x hx => isDigit_digitByte (hds x hx)

theorem decimalValue_decimalDigits (m : Nat) : decimalValue (decimalDigits m) = m := by
  rcases decimalDigits_cases m with ⟨rfl, h⟩ | ⟨d, ds, -, hds, h, hval⟩
  · rw [h]; rfl
  · rw [h, decimalValue, List.foldl_map, ← hval]
    refine List.foldl_ext _ _ _ fun a x hx => ?_
    rw [digitByte_toNat (hds x hx)]
    omega

/-- `u64toa` output starts with a digit. -/
theorem decimalDigits_head (m : Nat) : ∃ d t, d < 10 ∧ decimalDigits m = digitByte d :: t := by
  rcases decimalDigits_cases m with ⟨-, h⟩ | ⟨d, ds, -, hds, h, -⟩
  · exact ⟨0, [], by norm_num, h⟩
  · exact ⟨d, _, hds d (List.mem_cons_self d ds), h⟩

/-- The integer part of a number reads back the digits `u64toa` wrote. -/
theorem readIntDigits_decimalDigits (m : Nat) {r : Bytes} (hr : NoDigitHead r) :
    readIntDigits (decimalDigits m ++ r) = some (decimalDigits m, r) := by
  rcases decimalDigits_cases m with ⟨-, h⟩ | ⟨d, ds, hd0, hds, h, -⟩
  · rw [h]; rfl
  · have hd := hds d (List.mem_cons_self d ds)
    have hne : digitByte d ≠ 0x30 := by
      rw [Ne, UInt8.eq_iff_toNat_eq, digitByte_toNat hd, show (0x30 : UInt8).toNat = 48 from rfl]
      omega
    have hmem : ∀ c ∈ ds.map digitByte, isDigit c = true := by
      simp only [List.mem_map, forall_exists_index, and_imp, forall_apply_eq_imp_iff₂]
      exact fun x hx => isDigit_digitByte (hds x (List.mem_cons_of_mem d hx))
    obtain ⟨htake, hdrop⟩ := takeWhile_digits hmem hr
    have h19 : 0x31 ≤ digitByte d ∧ digitByte d ≤ 0x39 := by
      rw [UInt8.le_iff_toNat_le, UInt8.le_iff_toNat_le, digitByte_toNat hd]
      exact ⟨show 49 ≤ 48 + d by omega, show 48 + d ≤ 57 by omega⟩
    rw [h, List.map_cons, List.cons_append, readIntDigits.eq_def]
    split
    · rename_i heq; exact absurd (List.cons.inj heq).1 hne
    · rename_i c t heq
      obtain ⟨rfl, rfl⟩ := List.cons.inj heq
      rw [if_pos h19, htake, hdrop]
    · rename_i heq; cases heq

theorem readFraction_of_ne : ∀ {r : Bytes}, (∀ c ∈ r.head?, c ≠ 0x2E) →
    readFraction r = some (none, r)
  | [], _ => rfl
  | c :: t, h => by
      rw [readFraction.eq_def]
      split
      · rename_i heq; exact absurd (List.cons.inj heq).1 (h c rfl)
      · rfl

theorem readExponent_of_ne : ∀ {r : Bytes}, (∀ c ∈ r.head?, c ≠ 0x65 ∧ c ≠ 0x45) →
    readExponent r = some (none, r)
  | [], _ => rfl
  | c :: t, h => by
      rw [readExponent, if_neg fun he => he.elim (h c rfl).1 (h c rfl).2]

/-- The writer's integer text: a `-` for a negative value, then `u64toa` of its magnitude. -/
theorem writeInt_eq (n : Int) :
    writeInt n = (if n < 0 then [0x2D] else []) ++ decimalDigits n.natAbs := by
  unfold writeInt
  split
  · rfl
  · rw [List.nil_append]; congr 1; omega

theorem decimalDigits_ne_nil (m : Nat) : decimalDigits m ≠ [] := by
  obtain ⟨d, t, -, ht⟩ := decimalDigits_head m
  rw [ht]; exact List.cons_ne_nil _ _

/-- The sign in front of digits: `takeMinus` takes a `-`, and nothing else. -/
theorem takeMinus_sign (minus : Prop) [Decidable minus] (m : Nat) (r : Bytes) :
    takeMinus ((if minus then [0x2D] else []) ++ (decimalDigits m ++ r)) =
      (decide minus, decimalDigits m ++ r) := by
  by_cases h : minus
  · rw [if_pos h, decide_eq_true h]; rfl
  · obtain ⟨d, t, hd, ht⟩ := decimalDigits_head m
    rw [if_neg h, decide_eq_false h, List.nil_append, ht, List.cons_append, takeMinus.eq_def]
    split
    · rename_i heq; exact absurd (List.cons.inj heq).1 (digitByte_ne hd (by decide))
    · rfl

/-- The sign in front of the digits of an exponent. -/
theorem takeExpSign_sign (minus : Prop) [Decidable minus] (m : Nat) (r : Bytes) :
    takeExpSign ((if minus then [0x2D] else []) ++ (decimalDigits m ++ r)) =
      (decide minus, decimalDigits m ++ r) := by
  by_cases h : minus
  · rw [if_pos h, decide_eq_true h]; rfl
  · obtain ⟨d, t, hd, ht⟩ := decimalDigits_head m
    rw [if_neg h, decide_eq_false h, List.nil_append, ht, List.cons_append, takeExpSign.eq_def]
    split
    · rename_i heq; exact absurd (List.cons.inj heq).1 (digitByte_ne hd (by decide))
    · rename_i heq; exact absurd (List.cons.inj heq).1 (digitByte_ne hd (by decide))
    · rfl

/-- A sign and a magnitude give the integer back. -/
theorem signMagnitude (n : Int) :
    (if decide (n < 0) = true then -(n.natAbs : Int) else n.natAbs) = n := by
  by_cases h : n < 0
  · rw [if_pos (decide_eq_true h)]; omega
  · rw [if_neg (by simpa using h)]; omega

/-- An exponent the writer put after `e` reads back, up to the first byte that is not a
    digit. -/
theorem readExponent_writeInt (p : Int) {r : Bytes} (hr : NoDigitHead r) :
    readExponent (0x65 :: (writeInt p ++ r)) = some (some p, r) := by
  have hsplit := takeWhile_digits (decimalDigits_isDigit p.natAbs) hr
  rw [readExponent, if_pos (.inl rfl), writeInt_eq, List.append_assoc, takeExpSign_sign]
  dsimp only
  rw [hsplit.1]
  split
  · exact absurd ‹_› (decimalDigits_ne_nil _)
  · rw [decimalValue_decimalDigits, hsplit.2, signMagnitude]

/-- What follows a value for the reader: no fraction and no exponent. -/
theorem readFraction_readExponent_of_stops {r : Bytes} (hr : Stops r) :
    readFraction r = some (none, r) ∧ readExponent r = some (none, r) := by
  cases r with
  | nil => exact ⟨rfl, rfl⟩
  | cons c t =>
      simp only [Stops, continuesNumber, Bool.or_eq_false_iff, beq_eq_false_iff_ne] at hr
      exact ⟨readFraction_of_ne fun x hx => by cases hx; exact hr.1.1.2,
        readExponent_of_ne fun x hx => by cases hx; exact ⟨hr.1.2, hr.2⟩⟩

/-- The parts of an `Int64`/`Uint64` the writer wrote make that integer. -/
theorem numberValue_writeInt (n : Int) (hn : -2 ^ 63 ≤ n ∧ n < 2 ^ 64) :
    numberValue (decide (n < 0)) (decimalDigits n.natAbs) none none = some (.num n hn) := by
  have hfit : if decide (n < 0) = true then n.natAbs ≤ 2 ^ 63 else n.natAbs < 2 ^ 64 := by
    by_cases h : n < 0
    · rw [if_pos (decide_eq_true h)]; omega
    · rw [if_neg (by simpa using h)]; omega
  unfold numberValue
  dsimp only
  rw [dif_pos ⟨rfl, rfl, by rwa [decimalValue_decimalDigits]⟩]
  congr 2
  rw [decimalValue_decimalDigits, signMagnitude]

/-- The parts of a double the model wrote make that double: no fraction, so no digit is
    folded, and the exponent is the power of ten. -/
theorem numberValue_writeDouble (d : JDouble) :
    numberValue d.minus (decimalDigits d.significand) none (some d.exponent) =
      some (.double d) := by
  obtain ⟨minus, significand, p, hfits⟩ := d
  unfold numberValue
  simp only [decimalValue_decimalDigits, Option.getD_some, Nat.cast_zero, Int.sub_zero]
  rw [dif_neg (fun h => nomatch h.2.1), dif_pos hfits]

theorem readNumber_writeInt (n : Int) (hn : -2 ^ 63 ≤ n ∧ n < 2 ^ 64) {r : Bytes} (hr : Stops r) :
    readNumber (writeInt n ++ r) = some (.num n hn, r) := by
  obtain ⟨hfrac, hexp⟩ := readFraction_readExponent_of_stops hr
  rw [writeInt_eq, List.append_assoc]
  simp only [readNumber, takeMinus_sign, readIntDigits_decimalDigits _ (noDigitHead_of_stops hr),
    Option.bind_eq_bind, Option.some_bind, hfrac, hexp, numberValue_writeInt n hn]
  rfl

/-- A double the model wrote reads back as itself. -/
theorem readNumber_writeDouble (d : JDouble) {r : Bytes} (hr : Stops r) :
    readNumber (writeDouble d ++ r) = some (.double d, r) := by
  have htail : NoDigitHead (0x65 :: (writeInt d.exponent ++ r)) := fun c hc => by cases hc; rfl
  have hfrac : readFraction (0x65 :: (writeInt d.exponent ++ r)) =
      some (none, 0x65 :: (writeInt d.exponent ++ r)) :=
    readFraction_of_ne fun c hc => by cases hc; decide
  simp only [readNumber, writeDouble, List.append_assoc, List.cons_append, takeMinus_sign,
    readIntDigits_decimalDigits _ htail, Option.bind_eq_bind, Option.some_bind, hfrac,
    readExponent_writeInt d.exponent (noDigitHead_of_stops hr), Bool.decide_eq_true,
    numberValue_writeDouble]
  rfl

/-! ## Values -/

/-- A byte a value's text may start with: not whitespace, not a closing bracket. -/
def ValueHead (c : UInt8) : Prop := NotSpace c ∧ c ≠ 0x5D ∧ c ≠ 0x7D

instance : DecidablePred ValueHead := fun _ => inferInstanceAs (Decidable (_ ∧ _ ∧ _))

/-- Text that starts with a `-` or a digit starts a value, and no literal, string, array or
    object. -/
theorem signedDigits_head (minus : Prop) [Decidable minus] (m : Nat) (r : Bytes) :
    ∃ c t, (if minus then [0x2D] else []) ++ (decimalDigits m ++ r) = c :: t ∧ ValueHead c ∧
      c ≠ 0x6E ∧ c ≠ 0x74 ∧ c ≠ 0x66 ∧ c ≠ 0x22 ∧ c ≠ 0x5B ∧ c ≠ 0x7B := by
  by_cases h : minus
  · rw [if_pos h]
    exact ⟨0x2D, _, rfl, by decide, by decide, by decide, by decide, by decide, by decide,
      by decide⟩
  · obtain ⟨d, t, hd, ht⟩ := decimalDigits_head m
    rw [if_neg h, List.nil_append, ht]
    refine ⟨digitByte d, t ++ r, rfl, ⟨⟨?_, ?_, ?_, ?_⟩, ?_, ?_⟩, ?_, ?_, ?_, ?_, ?_, ?_⟩ <;>
      exact digitByte_ne hd (by decide)

theorem writeValue_head (v : JValue) : ∃ c t, writeValue v = c :: t ∧ ValueHead c := by
  cases v with
  | null => exact ⟨_, _, rfl, by decide⟩
  | bool b => cases b <;> exact ⟨_, _, rfl, by decide⟩
  | num n _ =>
      obtain ⟨c, t, h, hc, -⟩ := signedDigits_head (n < 0) n.natAbs []
      exact ⟨c, t, by rw [writeValue, writeInt_eq, ← List.append_nil (decimalDigits _), h], hc⟩
  | double d =>
      obtain ⟨c, t, h, hc, -⟩ :=
        signedDigits_head (d.minus = true) d.significand (0x65 :: writeInt d.exponent)
      exact ⟨c, t, by rw [writeValue, writeDouble, List.append_assoc, h], hc⟩
  | str s => exact ⟨_, _, rfl, by decide⟩
  | arr vs => cases vs <;> exact ⟨_, _, rfl, by decide⟩
  | obj ms => cases ms <;> exact ⟨_, _, rfl, by decide⟩

theorem skipWhitespace_writeValue (v : JValue) (r : Bytes) :
    skipWhitespace (writeValue v ++ r) = writeValue v ++ r := by
  obtain ⟨c, t, h, hc⟩ := writeValue_head v
  rw [h, List.cons_append, skipWhitespace_cons hc.1]

/-- Any byte that opens no literal, string, array or object is read as a number. -/
theorem readValue_number {k : Nat} {c : UInt8} {t : Bytes} (h₁ : c ≠ 0x6E) (h₂ : c ≠ 0x74)
    (h₃ : c ≠ 0x66) (h₄ : c ≠ 0x22) (h₅ : c ≠ 0x5B) (h₆ : c ≠ 0x7B) :
    readValue (k + 1) (c :: t) = readNumber (c :: t) := by
  rw [readValue] <;> assumption

theorem readValue_signedDigits (k : Nat) (minus : Prop) [Decidable minus] (m : Nat) (r : Bytes) :
    readValue (k + 1) ((if minus then [0x2D] else []) ++ (decimalDigits m ++ r)) =
      readNumber ((if minus then [0x2D] else []) ++ (decimalDigits m ++ r)) := by
  obtain ⟨c, t, h, -, h₁, h₂, h₃, h₄, h₅, h₆⟩ := signedDigits_head minus m r
  rw [h]
  exact readValue_number h₁ h₂ h₃ h₄ h₅ h₆

theorem readValue_writeInt (k : Nat) (n : Int) (hn : -2 ^ 63 ≤ n ∧ n < 2 ^ 64) {r : Bytes}
    (hr : Stops r) : readValue (k + 1) (writeInt n ++ r) = some (.num n hn, r) := by
  rw [← readNumber_writeInt n hn hr, writeInt_eq, List.append_assoc]
  exact readValue_signedDigits k _ _ _

theorem readValue_writeDouble (k : Nat) (d : JDouble) {r : Bytes} (hr : Stops r) :
    readValue (k + 1) (writeDouble d ++ r) = some (.double d, r) := by
  rw [← readNumber_writeDouble d hr, writeDouble, List.append_assoc, List.append_assoc]
  exact readValue_signedDigits k _ _ _

/-- `[` then a value: the first element, then the rest. -/
theorem readValue_array {n : Nat} {c : UInt8} {t : Bytes} (hc : ValueHead c) :
    readValue (n + 1) (0x5B :: c :: t) = (do
      let (v, r₁) ← readValue n (c :: t)
      let (vs, r₂) ← readElementsTail n (skipWhitespace r₁)
      pure (.arr (v :: vs), r₂)) := by
  rw [readValue, skipWhitespace_cons hc.1]
  split
  · rename_i h; exact absurd (List.cons.inj h).1 hc.2.1
  · rfl

theorem writeString_cons (k t : Bytes) :
    writeString k ++ t = 0x22 :: (k.flatMap escapeByte ++ 0x22 :: t) := by
  simp [writeString]

theorem skipWhitespace_writeString (k t : Bytes) :
    skipWhitespace (writeString k ++ t) = writeString k ++ t := by
  rw [writeString_cons]; exact skipWhitespace_cons (by decide) _

/-- `{` then a member name: the first member, then the rest. -/
theorem readValue_object {n : Nat} (k t : Bytes) :
    readValue (n + 1) (0x7B :: (writeString k ++ t)) = (do
      let (k, r₁) ← readMemberName (writeString k ++ t)
      let (v, r₂) ← readValue n r₁
      let (ms, r₃) ← readMembersTail n (skipWhitespace r₂)
      pure (.obj ((k, v) :: ms), r₃)) := by
  rw [readValue, skipWhitespace_writeString, writeString_cons]
  rfl

/-- A literal is consumed whole. -/
theorem readLiteral_append (lit : Bytes) (v : JValue) (r : Bytes) :
    readLiteral lit v (lit ++ r) = some (v, r) := by
  simp [readLiteral, List.isPrefixOf_iff_prefix]

/-- A member name written by `Writer::Key` and its `:`. -/
theorem readMemberName_write (k : Bytes) (v : JValue) (r : Bytes) :
    readMemberName (writeString k ++ 0x3A :: (writeValue v ++ r)) =
      some (k, writeValue v ++ r) := by
  rw [writeString_cons, readMemberName, readString_escaped]
  dsimp only
  rw [skipWhitespace_cons (by decide)]
  show some (k, skipWhitespace (writeValue v ++ r)) = _
  rw [skipWhitespace_writeValue]

/-- After an element: `,` and more elements, or the closing `]`. -/
theorem skipWhitespace_elementsTail (vs : List JValue) (r : Bytes) :
    skipWhitespace (writeElementsTail vs ++ 0x5D :: r) = writeElementsTail vs ++ 0x5D :: r := by
  cases vs <;> exact skipWhitespace_cons (by decide) _

theorem stops_elementsTail (vs : List JValue) (r : Bytes) :
    Stops (writeElementsTail vs ++ 0x5D :: r) := by
  cases vs <;> rfl

/-- After a member: `,` and more members, or the closing `}`. -/
theorem skipWhitespace_membersTail (ms : List (Bytes × JValue)) (r : Bytes) :
    skipWhitespace (writeMembersTail ms ++ 0x7D :: r) = writeMembersTail ms ++ 0x7D :: r := by
  cases ms <;> exact skipWhitespace_cons (by decide) _

theorem stops_membersTail (ms : List (Bytes × JValue)) (r : Bytes) :
    Stops (writeMembersTail ms ++ 0x7D :: r) := by
  cases ms <;> rfl

/-! ## Fuel -/

mutual
/-- The fuel a value needs: one unit per array, object, element and member. -/
def size : JValue → Nat
  | .arr (v :: vs) => 1 + size v + sizeElementsTail vs
  | .obj ((_, v) :: ms) => 1 + size v + sizeMembersTail ms
  | _ => 1

def sizeElementsTail : List JValue → Nat
  | [] => 1
  | v :: vs => 1 + size v + sizeElementsTail vs

def sizeMembersTail : List (Bytes × JValue) → Nat
  | [] => 1
  | (_, v) :: ms => 1 + size v + sizeMembersTail ms
end

theorem size_pos (v : JValue) : 0 < size v := by
  rw [size.eq_def]
  split <;> omega

theorem writeValue_length_pos (v : JValue) : 0 < (writeValue v).length := by
  obtain ⟨c, t, h, -⟩ := writeValue_head v
  simp [h]

mutual
theorem size_le_length : ∀ v : JValue, size v ≤ (writeValue v).length
  | .null | .bool true | .bool false | .arr [] | .obj [] => by decide
  | .num n h => by simpa [size] using writeValue_length_pos (.num n h)
  | .double d => by simpa [size] using writeValue_length_pos (.double d)
  | .str s => by simp [size, writeValue, writeString]
  | .arr (v :: vs) => by
      have := size_le_length v
      have := sizeElementsTail_le_length vs
      simp only [size, writeValue, List.length_cons, List.length_append, List.length_singleton]
      omega
  | .obj ((k, v) :: ms) => by
      have := size_le_length v
      have := sizeMembersTail_le_length ms
      simp only [size, writeValue, List.length_cons, List.length_append, List.length_singleton]
      omega

theorem sizeElementsTail_le_length :
    ∀ vs : List JValue, sizeElementsTail vs ≤ (writeElementsTail vs).length + 1
  | [] => by simp [sizeElementsTail, writeElementsTail]
  | v :: vs => by
      have := size_le_length v
      have := sizeElementsTail_le_length vs
      simp only [sizeElementsTail, writeElementsTail, List.length_cons, List.length_append]
      omega

theorem sizeMembersTail_le_length :
    ∀ ms : List (Bytes × JValue), sizeMembersTail ms ≤ (writeMembersTail ms).length + 1
  | [] => by simp [sizeMembersTail, writeMembersTail]
  | (k, v) :: ms => by
      have := size_le_length v
      have := sizeMembersTail_le_length ms
      simp only [sizeMembersTail, writeMembersTail, List.length_cons, List.length_append]
      omega
end

/-! ## The round trip -/

mutual
/-- **Values round-trip.** With fuel for its nesting, the reader reads a written value back
    and stops right after it. -/
theorem readValue_writeValue : ∀ (v : JValue) (n : Nat) (r : Bytes), size v ≤ n → Stops r →
    readValue n (writeValue v ++ r) = some (v, r)
  | v, 0, r, h, _ => absurd h (by have := size_pos v; omega)
  | .null, _ + 1, r, _, _ => by
      rw [writeValue, List.cons_append, readValue, readLiteral_append]
  | .bool true, _ + 1, r, _, _ => by
      rw [writeValue, List.cons_append, readValue, readLiteral_append]
  | .bool false, _ + 1, r, _, _ => by
      rw [writeValue, List.cons_append, readValue, readLiteral_append]
  | .num i hi, n + 1, r, _, hr => readValue_writeInt n i hi hr
  | .double d, n + 1, r, _, hr => readValue_writeDouble n d hr
  | .str s, n + 1, r, _, _ => by
      rw [writeValue, writeString_cons, readValue, readString_escaped]
      rfl
  | .arr [], _ + 1, r, _, _ => rfl
  | .obj [], _ + 1, r, _, _ => rfl
  | .arr (v :: vs), n + 1, r, h, _ => by
      simp only [size] at h
      obtain ⟨c, t, hct, hc⟩ := writeValue_head v
      have hv := readValue_writeValue v n _ (by omega) (stops_elementsTail vs r)
      have hvs := readElementsTail_writeElementsTail vs n r (by omega)
      rw [hct, List.cons_append] at hv
      rw [writeValue]
      simp only [List.cons_append, List.append_assoc, List.nil_append, hct]
      rw [readValue_array hc, hv]
      simp only [Option.bind_eq_bind, Option.some_bind, skipWhitespace_elementsTail, hvs]
      rfl
  | .obj ((k, v) :: ms), n + 1, r, h, _ => by
      simp only [size] at h
      have hv := readValue_writeValue v n _ (by omega) (stops_membersTail ms r)
      have hms := readMembersTail_writeMembersTail ms n r (by omega)
      rw [writeValue]
      simp only [List.cons_append, List.append_assoc, List.nil_append]
      rw [readValue_object, readMemberName_write]
      simp only [Option.bind_eq_bind, Option.some_bind, hv, skipWhitespace_membersTail, hms]
      rfl

theorem readElementsTail_writeElementsTail : ∀ (vs : List JValue) (n : Nat) (r : Bytes),
    sizeElementsTail vs ≤ n → readElementsTail n (writeElementsTail vs ++ 0x5D :: r) = some (vs, r)
  | [], 0, r, h => absurd h (by simp [sizeElementsTail])
  | _ :: _, 0, r, h => absurd h (by simp [sizeElementsTail])
  | [], _ + 1, r, _ => rfl
  | v :: vs, n + 1, r, h => by
      simp only [sizeElementsTail] at h
      have hv := readValue_writeValue v n _ (by omega) (stops_elementsTail vs r)
      have hvs := readElementsTail_writeElementsTail vs n r (by omega)
      rw [writeElementsTail]
      simp only [List.cons_append, List.append_assoc]
      rw [readElementsTail, skipWhitespace_writeValue, hv]
      simp only [Option.bind_eq_bind, Option.some_bind, skipWhitespace_elementsTail, hvs]
      rfl

theorem readMembersTail_writeMembersTail : ∀ (ms : List (Bytes × JValue)) (n : Nat) (r : Bytes),
    sizeMembersTail ms ≤ n → readMembersTail n (writeMembersTail ms ++ 0x7D :: r) = some (ms, r)
  | [], 0, r, h => absurd h (by simp [sizeMembersTail])
  | _ :: _, 0, r, h => absurd h (by simp [sizeMembersTail])
  | [], _ + 1, r, _ => rfl
  | (k, v) :: ms, n + 1, r, h => by
      simp only [sizeMembersTail] at h
      have hv := readValue_writeValue v n _ (by omega) (stops_membersTail ms r)
      have hms := readMembersTail_writeMembersTail ms n r (by omega)
      rw [writeMembersTail]
      simp only [List.cons_append, List.append_assoc]
      rw [readMembersTail, skipWhitespace_writeString, readMemberName_write]
      simp only [Option.bind_eq_bind, Option.some_bind, hv, skipWhitespace_membersTail, hms]
      rfl
end

/-- The writer's text has no NUL byte, so `c_str()` hands all of it to the reader. -/
theorem takeWhile_writeValue (v : JValue) : (writeValue v).takeWhile (· != 0) = writeValue v :=
  List.takeWhile_eq_self_iff.mpr fun b hb => by
    have : b ≠ 0 := fun h => writeValue_ne_zero v (h ▸ hb)
    simpa using this

/-- **Documents round-trip.** `Document::Parse` on the writer's text yields the value
    written. -/
theorem parseDocument_writeValue (v : JValue) : parseDocument (writeValue v) = some v := by
  have hread := readValue_writeValue v ((writeValue v).length + 1) [] (by
    have := size_le_length v; omega) trivial
  rw [List.append_nil] at hread
  have hskip := skipWhitespace_writeValue v []
  rw [List.append_nil] at hskip
  simp only [parseDocument, takeWhile_writeValue, hskip, hread]
  rfl

end RapidJson
