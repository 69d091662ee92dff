import RTcoinWallet.Errors
import Mathlib.Data.Nat.Digits

/-!
# rapidjson documents and the compact `Writer`

`WalletBackend::unsafeToJSON` drives a `rapidjson::Writer<StringBuffer>`: it opens an
object, writes the key `walletFileFormatVersion` and the version with `Uint`, then lets
the sub-wallet registry and the synchronizer write their own values under the keys
`subWallets` and `walletSynchronizer`.  This file fixes the values such a writer can
emit (`JValue`) and the exact bytes it emits for them (`writeValue`).

The compact writer puts no whitespace anywhere; it separates array elements and object
members with `,` and a key from its value with `:`; integers are written in decimal
with a leading `-` when negative; strings are quoted, with `"` and `\` escaped, the
control bytes `0x08 0x09 0x0A 0x0C 0x0D` written as `\b \t \n \f \r` and every other
byte below `0x20` as `\u00XX` (upper-case hex); all other bytes, UTF-8 sequences
included, are copied as they are.

A number is an integer of `Int64` or `Uint64`, which carries its range, or a double
(`JDouble`), kept as the significand and power of ten the reader hands to its conversion.
The writer calls of `unsafeToJSON` write no double; for one, the model writes the
significand and the exponent it keeps (`writeDouble`), where rapidjson's `Writer::Double`
prints the shortest decimal of the binary value.
-/

namespace RapidJson

open WalletErrors

/-- `DBL_MAX`, the largest finite double, `(2^53 - 1) * 2^971`. -/
def dblMax : Nat :=
  179769313486231570814527423731704356798070567525844996598917476803157260780028538760589558632766878171540458953514382464234321326889464182768467546703537516986049910576551282076245490090389328944075868508455133942304583236903222948165808559332123348274797826204144723168738177180919299881250404026184124858368

/-- Whether `significand * 10^p` is a double rapidjson's reader keeps: it refuses a positive
    exponent above `308 - expFrac` (that is `p > 308`) and a value above `DBL_MAX`
    (`kParseErrorNumberTooBig`).  rapidjson compares the double it computed; the model
    compares the exact value, which can differ only within the rounding of `DBL_MAX`. -/
def fitsDouble (significand : Nat) (p : Int) : Bool :=
  decide (p ≤ 308) && decide (significand * 10 ^ p.toNat ≤ dblMax)

/-- A double as rapidjson's reader makes it: the sign, and the significand and the power of
    ten it hands to `StrtodNormalPrecision`.  The binary value that conversion rounds to is
    not modelled: no modelled function reads it. -/
structure JDouble where
  minus : Bool
  significand : Nat
  exponent : Int
  fits : fitsDouble significand exponent = true

/-- A JSON value, as a rapidjson `Value` holds it: an integer is an `Int64` or a `Uint64`;
    object members keep their order and may repeat a name. -/
inductive JValue where
  | null
  | bool (b : Bool)
  | num (n : Int) (inRange : -2 ^ 63 ≤ n ∧ n < 2 ^ 64)
  | double (d : JDouble)
  | str (s : Bytes)
  | arr (vs : List JValue)
  | obj (ms : List (Bytes × JValue))

/-- `Writer::Uint64(n)` on a `uint64_t`. -/
def JValue.uint64 (n : Nat) : JValue :=
  .num (n % 2 ^ 64 : Nat) ⟨by omega, by omega⟩

/-- `hexDigits` of `Writer::WriteString`: `0-9`, then upper-case `A-F`. -/
def hexDigit (d : Nat) : UInt8 :=
  if d < 10 then (0x30 + d).toUInt8 else (0x37 + d).toUInt8

/-- The bytes `Writer::WriteString` puts for one byte of a string (its `escape` table). -/
def escapeByte : UInt8 → Bytes
  | 0x22 => [0x5C, 0x22]
  | 0x5C => [0x5C, 0x5C]
  | 0x08 => [0x5C, 0x62]
  | 0x09 => [0x5C, 0x74]
  | 0x0A => [0x5C, 0x6E]
  | 0x0C => [0x5C, 0x66]
  | 0x0D => [0x5C, 0x72]
  | c =>
      if c < 0x20 then [0x5C, 0x75, 0x30, 0x30, hexDigit (c.toNat / 16), hexDigit (c.toNat % 16)]
      else [c]

/-- A quoted, escaped string (`Writer::String`, and `Writer::Key` for member names). -/
def writeString (s : Bytes) : Bytes :=
  0x22 :: (s.flatMap escapeByte ++ [0x22])

/-- The byte of a decimal digit. -/
def digitByte (d : Nat) : UInt8 := (0x30 + d).toUInt8

/-- `internal::u64toa`: the decimal digits of `n`, most significant first. -/
def decimalDigits (n : Nat) : Bytes :=
  if n = 0 then [0x30] else (Nat.digits 10 n).reverse.map digitByte

/-- `Writer::Int64` / `Writer::Uint64`. -/
def writeInt (n : Int) : Bytes :=
  if n < 0 then 0x2D :: decimalDigits n.natAbs else decimalDigits n.toNat

/-- The text the model writes for a double: `-` when negative, the significand, `e` and the
    exponent. -/
def writeDouble (d : JDouble) : Bytes :=
  (if d.minus then [0x2D] else []) ++ decimalDigits d.significand ++ 0x65 :: writeInt d.exponent

mutual
/-- The compact text of a value. -/
def writeValue : JValue → Bytes
  | .null => [0x6E, 0x75, 0x6C, 0x6C]
  | .bool true => [0x74, 0x72, 0x75, 0x65]
  | .bool false => [0x66, 0x61, 0x6C, 0x73, 0x65]
  | .num n _ => writeInt n
  | .double d => writeDouble d
  | .str s => writeString s
  | .arr [] => [0x5B, 0x5D]
  | .arr (v :: vs) => 0x5B :: (writeValue v ++ writeElementsTail vs ++ [0x5D])
  | .obj [] => [0x7B, 0x7D]
  | .obj ((k, v) :: ms) =>
      0x7B :: (writeString k ++ 0x3A :: (writeValue v ++ writeMembersTail ms ++ [0x7D]))

/-- The elements after the first, each prefixed by `,`. -/
def writeElementsTail : List JValue → Bytes
  | [] => []
  | v :: vs => 0x2C :: (writeValue v ++ writeElementsTail vs)

/-- The members after the first, each prefixed by `,`. -/
def writeMembersTail : List (Bytes × JValue) → Bytes
  | [] => []
  | (k, v) :: ms => 0x2C :: (writeString k ++ 0x3A :: (writeValue v ++ writeMembersTail ms))
end

example : writeValue (.obj [([0x61], .arr [.null, .str [0x22, 0x01]])]) =
    [0x7B, 0x22, 0x61, 0x22, 0x3A, 0x5B, 0x6E, 0x75, 0x6C, 0x6C, 0x2C,
     0x22, 0x5C, 0x22, 0x5C, 0x75, 0x30, 0x30, 0x30, 0x31, 0x22, 0x5D, 0x7D] := by
  decide

/-! ## The writer never emits a NUL byte

`unsafeToJSON` returns `sb.GetString()`, a NUL-terminated `const char *`, and
`openWallet` parses `decryptedData.c_str()`: both stop at the first NUL.  The escape of
`0x00` is `\u0000`, so writer output holds none. -/

theorem hexDigit_ne_zero : ∀ d, d < 16 → hexDigit d ≠ 0 := by decide

theorem escapeByte_ne_zero (c : UInt8) : 0 ∉ escapeByte c := by
  unfold escapeByte
  split
  all_goals try decide
  rename_i h₁ _ _ _ _ _ _
  have hc : c.toNat < 256 := UInt8.toNat_lt_size c
  split
  · simp only [List.mem_cons, List.mem_singleton, List.not_mem_nil, or_false, not_or]
    exact ⟨by decide, by decide, by decide, by decide,
      (hexDigit_ne_zero _ (by omega)).symm, (hexDigit_ne_zero _ (by omega)).symm⟩
  · rename_i hlt
    simp only [List.mem_singleton]
    rintro rfl
    exact hlt (by decide)

theorem writeString_ne_zero (s : Bytes) : 0 ∉ writeString s := by
  simp only [writeString, List.mem_cons, List.mem_append, List.mem_flatMap, List.mem_singleton,
    not_or]
  exact ⟨by decide, fun ⟨c, _, hc⟩ => escapeByte_ne_zero c hc, by decide⟩

theorem digitByte_toNat {d : Nat} (h : d < 10) : (digitByte d).toNat = 0x30 + d :=
  Nat.toNat_toUInt8 (by omega)

theorem decimalDigits_ne_zero (n : Nat) : 0 ∉ decimalDigits n := by
  unfold decimalDigits
  split
  · decide
  · simp only [List.mem_map, List.mem_reverse, not_exists, not_and]
    intro d hd h0
    have := digitByte_toNat (Nat.digits_lt_base (by norm_num) hd)
    rw [h0, UInt8.toNat_zero] at this
    omega

theorem writeInt_ne_zero (n : Int) : 0 ∉ writeInt n := by
  unfold writeInt
  split
  · simp only [List.mem_cons, not_or]
    exact ⟨by decide, decimalDigits_ne_zero _⟩
  · exact decimalDigits_ne_zero _

theorem writeDouble_ne_zero (d : JDouble) : 0 ∉ writeDouble d := by
  have := decimalDigits_ne_zero d.significand
  have := writeInt_ne_zero d.exponent
  unfold writeDouble
  split <;> simp_all

mutual
theorem writeValue_ne_zero : ∀ v : JValue, 0 ∉ writeValue v
  | .null | .bool true | .bool false | .arr [] | .obj [] => by decide
  | .num n _ => writeInt_ne_zero n
  | .double d => writeDouble_ne_zero d
  | .str s => writeString_ne_zero s
  | .arr (v :: vs) => by
      have := writeValue_ne_zero v
      have := writeElementsTail_ne_zero vs
      simp_all [writeValue]
  | .obj ((k, v) :: ms) => by
      have := writeString_ne_zero k
      have := writeValue_ne_zero v
      have := writeMembersTail_ne_zero ms
      simp_all [writeValue]

theorem writeElementsTail_ne_zero : ∀ vs : List JValue, 0 ∉ writeElementsTail vs
  | [] => by simp [writeElementsTail]
  | v :: vs => by
      have := writeValue_ne_zero v
      have := writeElementsTail_ne_zero vs
      simp_all [writeElementsTail]

theorem writeMembersTail_ne_zero : ∀ ms : List (Bytes × JValue), 0 ∉ writeMembersTail ms
  | [] => by simp [writeMembersTail]
  | (k, v) :: ms => by
      have := writeString_ne_zero k
      have := writeValue_ne_zero v
      have := writeMembersTail_ne_zero ms
      simp_all [writeMembersTail]
end

end RapidJson
