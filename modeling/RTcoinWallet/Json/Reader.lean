import RTcoinWallet.Json.Writer

/-!
# rapidjson's `Reader` with the default parse flags

`openWallet` hands the decrypted text to `Document::Parse(decryptedData.c_str())`.  This
file is that reader: `skipWhitespace` (space, `\n`, `\r`, `\t`), the literals `null`
`true` `false`, strings with the escapes `\" \\ \/ \b \f \n \r \t \uXXXX` (a high
surrogate must be followed by a low one; the code point is re-encoded as UTF-8; a raw
byte below `0x20` is an error; other bytes are copied), numbers, arrays and objects with
`,` and `:` separators.

A number is `ParseNumber`'s grammar, `-? (0 | [1-9][0-9]*) (. [0-9]+)? ([eE] [+-]? [0-9]+)?`.
Without a fraction or an exponent, an integer of `Int64` or `Uint64` stays an integer;
anything else is a double, from the significand the fraction loops build
(`foldFraction`, on a 64-bit build) and the power of ten `exp + expFrac`, and is refused
when it is too big for a double (`fitsDouble`).

Nesting is bounded by `fuel`; `parseDocument` gives one unit per input byte, more than
any nesting the input can hold (each level opens with a byte of its own).
-/

namespace RapidJson

open WalletErrors

/-- `SkipWhitespace`. -/
def skipWhitespace : Bytes → Bytes
  | [] => []
  | c :: r => if c = 0x20 ∨ c = 0x0A ∨ c = 0x0D ∨ c = 0x09 then skipWhitespace r else c :: r

/-- One hexadecimal digit of a `\uXXXX` escape, either case. -/
def hexValue (c : UInt8) : Option Nat :=
  if 0x30 ≤ c ∧ c ≤ 0x39 then some (c.toNat - 0x30)
  else if 0x41 ≤ c ∧ c ≤ 0x46 then some (c.toNat - 0x37)
  else if 0x61 ≤ c ∧ c ≤ 0x66 then some (c.toNat - 0x57)
  else none

/-- `ParseHex4`. -/
def parseHex4 (a b c d : UInt8) : Option Nat := do
  let a ← hexValue a
  let b ← hexValue b
  let c ← hexValue c
  let d ← hexValue d
  pure (((a * 16 + b) * 16 + c) * 16 + d)

/-- `UTF8::Encode` of a code point. -/
def encodeUtf8 (cp : Nat) : Bytes :=
  if cp ≤ 0x7F then [cp.toUInt8]
  else if cp ≤ 0x7FF then [(0xC0 ||| (cp >>> 6)).toUInt8, (0x80 ||| (cp &&& 0x3F)).toUInt8]
  else if cp ≤ 0xFFFF then
    [(0xE0 ||| (cp >>> 12)).toUInt8, (0x80 ||| ((cp >>> 6) &&& 0x3F)).toUInt8,
     (0x80 ||| (cp &&& 0x3F)).toUInt8]
  else
    [(0xF0 ||| (cp >>> 18)).toUInt8, (0x80 ||| ((cp >>> 12) &&& 0x3F)).toUInt8,
     (0x80 ||| ((cp >>> 6) &&& 0x3F)).toUInt8, (0x80 ||| (cp &&& 0x3F)).toUInt8]

/-- The `escape` table of `ParseStringToStream`, for every escape but `\u`. -/
def unescape : UInt8 → Option UInt8
  | 0x22 => some 0x22
  | 0x2F => some 0x2F
  | 0x5C => some 0x5C
  | 0x62 => some 0x08
  | 0x66 => some 0x0C
  | 0x6E => some 0x0A
  | 0x72 => some 0x0D
  | 0x74 => some 0x09
  | _ => none

/-- Put decoded bytes in front of a string read so far. -/
def prepend (bs : Bytes) (p : Bytes × Bytes) : Bytes × Bytes := (bs ++ p.1, p.2)

mutual
/-- `ParseString` after the opening quote: the decoded bytes and what follows the closing
    quote. -/
def readString : Bytes → Option (Bytes × Bytes)
  | [] => none
  | c :: r =>
      if c = 0x22 then some ([], r)
      else if c = 0x5C then readEscape r
      else if c < 0x20 then none
      else (readString r).map (prepend [c])

/-- The bytes after a `\`: a `\uXXXX` escape or one of the single-letter escapes. -/
def readEscape : Bytes → Option (Bytes × Bytes)
  | 0x75 :: a :: b :: c :: d :: r =>
      match parseHex4 a b c d with
      | none => none
      | some cp =>
          if 0xD800 ≤ cp ∧ cp ≤ 0xDBFF then readLowSurrogate cp r
          else (readString r).map (prepend (encodeUtf8 cp))
  | e :: r =>
      match unescape e with
      | some x => (readString r).map (prepend [x])
      | none => none
  | [] => none

/-- After a high surrogate `hi`: the `\uXXXX` low surrogate that must follow it. -/
def readLowSurrogate (hi : Nat) : Bytes → Option (Bytes × Bytes)
  | 0x5C :: 0x75 :: a :: b :: c :: d :: r =>
      match parseHex4 a b c d with
      | some lo =>
          if 0xDC00 ≤ lo ∧ lo ≤ 0xDFFF then
            (readString r).map
              (prepend (encodeUtf8 ((hi - 0xD800) * 0x400 + (lo - 0xDC00) + 0x10000)))
          else none
      | none => none
  | _ => none
end

/-- A decimal digit. -/
def isDigit (c : UInt8) : Bool :=
  0x30 ≤ c && c ≤ 0x39

/-- The value of a run of digits, most significant first: `i = i * 10 + digit`. -/
def decimalValue (ds : Bytes) : Nat :=
  ds.foldl (fun i c => i * 10 + (c.toNat - 0x30)) 0

/-- The `-` in front of a number. -/
def takeMinus : Bytes → Bool × Bytes
  | 0x2D :: r => (true, r)
  | r => (false, r)

/-- The integer part: `0`, or a non-zero digit and the digits after it. -/
def readIntDigits : Bytes → Option (Bytes × Bytes)
  | 0x30 :: r => some ([0x30], r)
  | c :: r =>
      if 0x31 ≤ c ∧ c ≤ 0x39 then some (c :: r.takeWhile isDigit, r.dropWhile isDigit) else none
  | [] => none

/-- `frac = decimal-point 1*DIGIT`: the digits after a `.`, when there is one; a `.` with no
    digit after it is `kParseErrorNumberMissFraction`. -/
def readFraction : Bytes → Option (Option Bytes × Bytes)
  | 0x2E :: r =>
      match r.takeWhile isDigit with
      | [] => none
      | ds => some (some ds, r.dropWhile isDigit)
  | r => some (none, r)

/-- The sign after the `e` of an exponent: `+`, `-` or none. -/
def takeExpSign : Bytes → Bool × Bytes
  | 0x2B :: r => (false, r)
  | 0x2D :: r => (true, r)
  | r => (false, r)

/-- `exp = e [ minus / plus ] 1*DIGIT`: the signed exponent after an `e` or `E`, when there
    is one; no digit after the sign is `kParseErrorNumberMissExponent`. -/
def readExponent : Bytes → Option (Option Int × Bytes)
  | c :: r =>
      if c = 0x65 ∨ c = 0x45 then
        let (expMinus, r) := takeExpSign r
        match r.takeWhile isDigit with
        | [] => none
        | ds =>
            some (some (if expMinus then -(decimalValue ds : Int) else decimalValue ds),
              r.dropWhile isDigit)
      else some (none, c :: r)
  | [] => some (none, [])

/-- `ParseNumber`'s fraction loops, from the integer part `i64` and its count
    `significandDigit` of digits after the first: a fraction digit is folded into the
    significand, `i64 * 10 + digit`, lowering `expFrac` by one, while the significand is at
    most `2^53 - 1` (the 64-bit fast path) or, past it, while fewer than `17` significant
    digits are held; later digits are dropped.  The significand and the number of digits
    folded. -/
def foldFraction : Nat → Nat → Bytes → Nat × Nat
  | i64, significandDigit, c :: r =>
      if i64 ≤ 2 ^ 53 - 1 ∨ significandDigit < 17 then
        let i := i64 * 10 + (c.toNat - 0x30)
        let folded := foldFraction i (if i ≠ 0 then significandDigit + 1 else significandDigit) r
        (folded.1, folded.2 + 1)
      else foldFraction i64 significandDigit r
  | i64, _, [] => (i64, 0)

/-- The value `ParseNumber` makes of its parts: without a fraction or an exponent, an
    integer that fits an `Int64` (after a `-`, at most `2^63`) or a `Uint64` (below `2^64`)
    is kept as one; anything else is a double, with the significand of the fraction loops
    and the power of ten `exp + expFrac`, or `kParseErrorNumberTooBig`. -/
def numberValue (minus : Bool) (intDigits : Bytes) (frac : Option Bytes) (exp : Option Int) :
    Option JValue :=
  let i := decimalValue intDigits
  if h : frac = none ∧ exp = none ∧ (if minus then i ≤ 2 ^ 63 else i < 2 ^ 64) then
    some (.num (if minus then -(i : Int) else i) (by
      obtain ⟨-, -, hi⟩ := h
      cases minus <;> simp only [Bool.false_eq_true, if_true, if_false] at hi ⊢ <;> omega))
  else
    let (significand, folded) := match frac with
      | some ds => foldFraction i (intDigits.length - 1) ds
      | none => (i, 0)
    let p := exp.getD 0 - folded
    if hfits : fitsDouble significand p = true then some (.double ⟨minus, significand, p, hfits⟩)
    else none

/-- `ParseNumber`: a `-`, the integer part, the fraction and the exponent, then the value
    they make. -/
def readNumber (input : Bytes) : Option (JValue × Bytes) := do
  let (minus, r) := takeMinus input
  let (intDigits, r) ← readIntDigits r
  let (frac, r) ← readFraction r
  let (exp, r) ← readExponent r
  let v ← numberValue minus intDigits frac exp
  pure (v, r)

/-- A member name and the `:` after it, with the whitespace around the colon. -/
def readMemberName : Bytes → Option (Bytes × Bytes)
  | 0x22 :: r =>
      match readString r with
      | some (k, r₁) =>
          match skipWhitespace r₁ with
          | 0x3A :: r₂ => some (k, skipWhitespace r₂)
          | _ => none
      | none => none
  | _ => none

/-- A literal's remaining bytes (`Consume` of each), then its value. -/
def readLiteral (lit : Bytes) (v : JValue) (r : Bytes) : Option (JValue × Bytes) :=
  if lit.isPrefixOf r then some (v, r.drop lit.length) else none

mutual
/-- `ParseValue`: dispatch on the first byte. -/
def readValue : Nat → Bytes → Option (JValue × Bytes)
  | 0, _ => none
  | _ + 1, [] => none
  | n + 1, c :: r =>
      match c with
      | 0x6E => readLiteral [0x75, 0x6C, 0x6C] .null r
      | 0x74 => readLiteral [0x72, 0x75, 0x65] (.bool true) r
      | 0x66 => readLiteral [0x61, 0x6C, 0x73, 0x65] (.bool false) r
      | 0x22 => (readString r).map fun p => (.str p.1, p.2)
      | 0x5B =>
          match skipWhitespace r with
          | 0x5D :: r' => some (.arr [], r')
          | r' => do
              let (v, r₁) ← readValue n r'
              let (vs, r₂) ← readElementsTail n (skipWhitespace r₁)
              pure (.arr (v :: vs), r₂)
      | 0x7B =>
          match skipWhitespace r with
          | 0x7D :: r' => some (.obj [], r')
          | r' => do
              let (k, r₁) ← readMemberName r'
              let (v, r₂) ← readValue n r₁
              let (ms, r₃) ← readMembersTail n (skipWhitespace r₂)
              pure (.obj ((k, v) :: ms), r₃)
      | _ => readNumber (c :: r)

/-- `ParseArray` after an element and the whitespace after it: `]`, or `,` and more. -/
def readElementsTail : Nat → Bytes → Option (List JValue × Bytes)
  | 0, _ => none
  | _ + 1, 0x5D :: r => some ([], r)
  | n + 1, 0x2C :: r => do
      let (v, r₁) ← readValue n (skipWhitespace r)
      let (vs, r₂) ← readElementsTail n (skipWhitespace r₁)
      pure (v :: vs, r₂)
  | _ + 1, _ => none

/-- `ParseObject` after a member and the whitespace after it: `}`, or `,` and more. -/
def readMembersTail : Nat → Bytes → Option (List (Bytes × JValue) × Bytes)
  | 0, _ => none
  | _ + 1, 0x7D :: r => some ([], r)
  | n + 1, 0x2C :: r => do
      let (k, r₁) ← readMemberName (skipWhitespace r)
      let (v, r₂) ← readValue n r₁
      let (ms, r₃) ← readMembersTail n (skipWhitespace r₂)
      pure ((k, v) :: ms, r₃)
  | _ + 1, _ => none
end

/-- `Document::Parse(text.c_str())`: the text up to its first NUL byte must hold one value
    with only whitespace around it. -/
def parseDocument (text : Bytes) : Option JValue :=
  let input := skipWhitespace (text.takeWhile (· != 0))
  match readValue (input.length + 1) input with
  | some (v, r) => if skipWhitespace r = [] then some v else none
  | none => none

example : parseDocument [0x20, 0x5B, 0x2D, 0x37, 0x2C, 0x22, 0x5C, 0x75, 0x30, 0x30, 0x34, 0x31,
    0x22, 0x5D, 0x0A, 0x00, 0x31] = some (.arr [.num (-7) (by decide), .str [0x41]]) := by
  rfl

/-- `1.50` is the double `150 * 10^-2`; `0e400` is refused, its exponent above `308`. -/
example : readNumber [0x31, 0x2E, 0x35, 0x30] = some (.double ⟨false, 150, -2, by decide⟩, []) ∧
    readNumber [0x30, 0x65, 0x34, 0x30, 0x30] = none := by
  constructor <;> rfl

end RapidJson
