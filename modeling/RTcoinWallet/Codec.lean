import RTcoinWallet.Json.RoundTrip

/-!
# The encrypted wallet file

`saveWalletJSONToDisk` writes `IS_A_WALLET_IDENTIFIER ++ salt ++ ciphertext`, where the
ciphertext is the AES-CBC encryption, under the PBKDF2 key of the password and the salt
and with the salt as IV, of `IS_CORRECT_PASSWORD_IDENTIFIER ++ walletJSON`.  `openWallet`
undoes it stage by stage: the wallet identifier, the salt-length check, the decryption
(a CryptoPP exception is reported as `WRONG_PASSWORD`), the password identifier, the JSON
parse, and `fromJSON`'s version check and object lookups.

The identifiers and the format version live in `walletbackend/Constants.h` and the
cipher in CryptoPP, none of them under src/: they are the parameters `WalletConstants`
and `WalletCrypto`.  The target's `char` signedness, which `hasMagicIdentifier`'s
comparison reads, is a field of `WalletConstants` too.

  * `loadWalletFile_walletFileBytes` — the codec round trip: every stage of `openWallet`
    passes on what `saveWalletJSONToDisk` wrote, and `fromJSON` gets back exactly the
    objects `unsafeToJSON` wrote;
  * `decryptWalletFile_rejected` — which error a ciphertext that fails the password check
    gets: `WRONG_PASSWORD`, or `WALLET_FILE_CORRUPTED` when its plaintext is shorter than
    the password identifier.
-/

namespace WalletCodec

open WalletErrors RapidJson

/-- The constants of `Constants.h` the codec reads, and whether the target's `char` is
    signed.  The version goes through `Writer::Uint`, which takes an `unsigned`. -/
structure WalletConstants where
  isAWalletIdentifier : Bytes
  isCorrectPasswordIdentifier : Bytes
  walletFileFormatVersion : Nat
  version_lt : walletFileFormatVersion < 2 ^ 32
  charIsSigned : Bool

theorem WalletConstants.version_inRange (K : WalletConstants) :
    -2 ^ 63 ≤ (K.walletFileFormatVersion : Int) ∧ (K.walletFileFormatVersion : Int) < 2 ^ 64 := by
  have := K.version_lt
  omega

/-- The CryptoPP primitives: `PKCS5_PBKDF2_HMAC<SHA256>::DeriveKey` (16-byte key from the
    password and the salt, `PBKDF2_ITERATIONS` rounds), and `CBC_Mode<AES>` encryption and
    decryption with padding under a key and an IV; decryption is `none` when CryptoPP
    throws. -/
structure WalletCrypto where
  deriveKey : Bytes → Bytes → Bytes
  cbcEncrypt : Bytes → Bytes → Bytes → Bytes
  cbcDecrypt : Bytes → Bytes → Bytes → Option Bytes

/-- The bytes of an ASCII key. -/
def ascii (s : String) : Bytes := s.toList.map fun c => c.toNat.toUInt8

/-- The document `fromJSON` hands on: the objects for `SubWallets::fromJSON` and
    `WalletSynchronizer::fromJSON`. -/
structure WalletDocument where
  subWallets : List (Bytes × JValue)
  walletSynchronizer : List (Bytes × JValue)

variable (K : WalletConstants) (X : WalletCrypto)

/-! ## Writing -/

/-- The object `unsafeToJSON` writes; the registry and the synchronizer each write an
    object of their own. -/
def walletObject (subWallets walletSynchronizer : List (Bytes × JValue)) : JValue :=
  .obj [(ascii "walletFileFormatVersion", .num K.walletFileFormatVersion K.version_inRange),
        (ascii "subWallets", .obj subWallets),
        (ascii "walletSynchronizer", .obj walletSynchronizer)]

/-- `unsafeToJSON`: `sb.GetString()` is a NUL-terminated `const char *`. -/
def unsafeToJSON (subWallets walletSynchronizer : List (Bytes × JValue)) : Bytes :=
  (writeValue (walletObject K subWallets walletSynchronizer)).takeWhile (· != 0)

/-- What `saveWalletJSONToDisk(walletJSON, filename, password)` writes when its random salt
    is `salt`. -/
def walletFileBytes (walletJSON password salt : Bytes) : Bytes :=
  let walletData := K.isCorrectPasswordIdentifier ++ walletJSON
  let key := X.deriveKey password salt
  K.isAWalletIdentifier ++ salt ++ X.cbcEncrypt key salt walletData

/-! ## Reading -/

/-- `hasMagicIdentifier` followed by `if (error) return {error, nullptr}`. -/
def expectIdentifier (charIsSigned : Bool) (data identifier : Bytes)
    (tooSmallError wrongIdentifierError : Error) : Except Error Bytes :=
  match hasMagicIdentifier charIsSigned data identifier tooSmallError wrongIdentifierError with
  | (.success, rest) => .ok rest
  | (error, _) => .error error

/-- The salt-length check, then the salt and the ciphertext after it. -/
def splitSalt (buffer : Bytes) : Except Error (Bytes × Bytes) :=
  if buffer.length < 16 then .error .walletFileCorrupted else .ok (buffer.take 16, buffer.drop 16)

/-- The decryption; any CryptoPP exception is reported as `WRONG_PASSWORD`. -/
def decrypt (key salt ciphertext : Bytes) : Except Error Bytes :=
  match X.cbcDecrypt key salt ciphertext with
  | some decryptedData => .ok decryptedData
  | none => .error .wrongPassword

/-- `openWallet` from the file buffer to the text handed to the JSON parser. -/
def decryptWalletFile (buffer password : Bytes) : Except Error Bytes := do
  let buffer ← expectIdentifier K.charIsSigned buffer K.isAWalletIdentifier .notAWalletFile
    .notAWalletFile
  let (salt, ciphertext) ← splitSalt buffer
  let decryptedData ← decrypt X (X.deriveKey password salt) salt ciphertext
  expectIdentifier K.charIsSigned decryptedData K.isCorrectPasswordIdentifier .walletFileCorrupted
    .wrongPassword

/-- Modelled from the spec: `JsonHelper.h` is not under src/.  `getJsonValue` is
    `FindMember`, the first member of that name; a missing member throws
    `std::invalid_argument` (`none`). -/
def getJsonValue (j : JValue) (key : Bytes) : Option JValue :=
  match j with
  | .obj ms => (ms.find? fun m => m.1 == key).map (·.2)
  | _ => none

/-- Modelled from the spec: `getUint64FromJSON` requires an unsigned 64-bit integer, which
    is what a non-negative integer of the reader is; a negative integer, a double or any
    other value throws (`none`). -/
def getUint64FromJSON (j : JValue) (key : Bytes) : Option Nat :=
  match getJsonValue j key with
  | some (.num n _) => if 0 ≤ n then some n.toNat else none
  | _ => none

/-- Modelled from the spec: `getObjectFromJSON` requires an object. -/
def getObjectFromJSON (j : JValue) (key : Bytes) : Option (List (Bytes × JValue)) :=
  match getJsonValue j key with
  | some (.obj ms) => some ms
  | _ => none

/-- `fromJSON(j)` up to the hand-over of the two objects; a helper's `std::invalid_argument`
    is caught by `openWallet` as `WALLET_FILE_CORRUPTED`. -/
def fromJSON (j : JValue) : Except Error WalletDocument :=
  match getUint64FromJSON j (ascii "walletFileFormatVersion") with
  | none => .error .walletFileCorrupted
  | some version =>
      if version ≠ K.walletFileFormatVersion then .error .unsupportedWalletFileFormatVersion
      else
        match getObjectFromJSON j (ascii "subWallets"),
            getObjectFromJSON j (ascii "walletSynchronizer") with
        | some subWallets, some walletSynchronizer => .ok ⟨subWallets, walletSynchronizer⟩
        | _, _ => .error .walletFileCorrupted

/-- `openWallet` after reading the file: decryption, `Parse`, then `fromJSON`. -/
def loadWalletFile (buffer password : Bytes) : Except Error WalletDocument := do
  let walletJSON ← decryptWalletFile K X buffer password
  match parseDocument walletJSON with
  | some j => fromJSON K j
  | none => .error .walletFileCorrupted

/-! ## The round trip -/

theorem expectIdentifier_append {charIsSigned : Bool} {identifier : Bytes} (h : IsAscii identifier)
    (rest : Bytes) (e₁ e₂ : Error) :
    expectIdentifier charIsSigned (identifier ++ rest) identifier e₁ e₂ = .ok rest := by
  simp [expectIdentifier, hasMagicIdentifier_append h]

theorem splitSalt_append {salt : Bytes} (h : salt.length = 16) (ciphertext : Bytes) :
    splitSalt (salt ++ ciphertext) = .ok (salt, ciphertext) := by
  simp [splitSalt, h, List.take_left', List.drop_left']

theorem decrypt_cbcEncrypt (hcbc : ∀ k iv m, X.cbcDecrypt k iv (X.cbcEncrypt k iv m) = some m)
    (key salt m : Bytes) : decrypt X key salt (X.cbcEncrypt key salt m) = .ok m := by
  simp [decrypt, hcbc]

/-- The writer's text has no NUL, so `GetString()` loses nothing. -/
theorem unsafeToJSON_eq (subWallets walletSynchronizer : List (Bytes × JValue)) :
    unsafeToJSON K subWallets walletSynchronizer =
      writeValue (walletObject K subWallets walletSynchronizer) :=
  takeWhile_writeValue _

theorem getUint64FromJSON_walletObject (subWallets walletSynchronizer : List (Bytes × JValue)) :
    getUint64FromJSON (walletObject K subWallets walletSynchronizer)
      (ascii "walletFileFormatVersion") = some K.walletFileFormatVersion := by
  have hj : getJsonValue (walletObject K subWallets walletSynchronizer)
      (ascii "walletFileFormatVersion") =
        some (.num K.walletFileFormatVersion K.version_inRange) := rfl
  simp only [getUint64FromJSON, hj]
  rw [if_pos (Int.natCast_nonneg _), Int.toNat_natCast]

theorem getObjectFromJSON_subWallets (subWallets walletSynchronizer : List (Bytes × JValue)) :
    getObjectFromJSON (walletObject K subWallets walletSynchronizer) (ascii "subWallets") =
      some subWallets := rfl

theorem getObjectFromJSON_walletSynchronizer
    (subWallets walletSynchronizer : List (Bytes × JValue)) :
    getObjectFromJSON (walletObject K subWallets walletSynchronizer) (ascii "walletSynchronizer") =
      some walletSynchronizer := rfl

/-- `fromJSON` finds the version it wrote and the two objects, in that order. -/
theorem fromJSON_walletObject (subWallets walletSynchronizer : List (Bytes × JValue)) :
    fromJSON K (walletObject K subWallets walletSynchronizer) =
      .ok ⟨subWallets, walletSynchronizer⟩ := by
  rw [fromJSON, getUint64FromJSON_walletObject]
  dsimp only
  rw [if_neg (fun h => h rfl), getObjectFromJSON_subWallets, getObjectFromJSON_walletSynchronizer]

/-- `openWallet`'s decryption stages on a file with the wallet identifier and a full salt. -/
theorem decryptWalletFile_prefixed (hwallet : IsAscii K.isAWalletIdentifier) {salt : Bytes}
    (hsalt : salt.length = 16) (ciphertext password : Bytes) :
    decryptWalletFile K X (K.isAWalletIdentifier ++ salt ++ ciphertext) password =
      (decrypt X (X.deriveKey password salt) salt ciphertext).bind fun decryptedData =>
        expectIdentifier K.charIsSigned decryptedData K.isCorrectPasswordIdentifier
          .walletFileCorrupted .wrongPassword := by
  rw [decryptWalletFile, List.append_assoc, expectIdentifier_append hwallet]
  simp only [bind, Except.bind, splitSalt_append hsalt]

/-- The decryption stages give back the text that was saved. -/
theorem decryptWalletFile_walletFileBytes
    (hcbc : ∀ k iv m, X.cbcDecrypt k iv (X.cbcEncrypt k iv m) = some m)
    (hwallet : IsAscii K.isAWalletIdentifier) (hpass : IsAscii K.isCorrectPasswordIdentifier)
    {salt : Bytes} (hsalt : salt.length = 16) (walletJSON password : Bytes) :
    decryptWalletFile K X (walletFileBytes K X walletJSON password salt) password =
      .ok walletJSON := by
  rw [walletFileBytes, decryptWalletFile_prefixed K X hwallet hsalt, decrypt_cbcEncrypt X hcbc]
  exact expectIdentifier_append hpass walletJSON _ _

/-- A file cut before the end of its salt fails the first checks: `notAWalletFile` when the
    identifier itself was cut, `walletFileCorrupted` when the salt was. -/
theorem decryptWalletFile_take (hwallet : IsAscii K.isAWalletIdentifier)
    (salt ciphertext password : Bytes) {accepted : Nat}
    (hshort : accepted < K.isAWalletIdentifier.length + 16) :
    decryptWalletFile K X ((K.isAWalletIdentifier ++ salt ++ ciphertext).take accepted)
        password =
      .error (if accepted < K.isAWalletIdentifier.length then .notAWalletFile
        else .walletFileCorrupted) := by
  split_ifs with hcut
  · have hlen : ((K.isAWalletIdentifier ++ salt ++ ciphertext).take accepted).length <
        K.isAWalletIdentifier.length := by
      rw [List.length_take]
      omega
    simp only [decryptWalletFile, expectIdentifier, hasMagicIdentifier_of_short hlen, bind,
      Except.bind]
  · have hrest : (List.take (accepted - K.isAWalletIdentifier.length)
        (salt ++ ciphertext)).length < 16 := by
      rw [List.length_take]
      omega
    rw [List.append_assoc, List.take_append_eq_append_take,
      List.take_of_length_le (by omega), decryptWalletFile, expectIdentifier_append hwallet]
    simp only [bind, Except.bind, splitSalt, if_pos hrest]

theorem parseDocument_unsafeToJSON (subWallets walletSynchronizer : List (Bytes × JValue)) :
    parseDocument (unsafeToJSON K subWallets walletSynchronizer) =
      some (walletObject K subWallets walletSynchronizer) := by
  rw [unsafeToJSON_eq]
  exact parseDocument_writeValue _

/-- `openWallet`'s codec reads back the objects a save wrote. -/
theorem loadWalletFile_unsafeToJSON
    (hcbc : ∀ k iv m, X.cbcDecrypt k iv (X.cbcEncrypt k iv m) = some m)
    (hwallet : IsAscii K.isAWalletIdentifier) (hpass : IsAscii K.isCorrectPasswordIdentifier)
    {salt : Bytes} (hsalt : salt.length = 16)
    (subWallets walletSynchronizer : List (Bytes × JValue)) (password : Bytes) :
    loadWalletFile K X (walletFileBytes K X (unsafeToJSON K subWallets walletSynchronizer)
      password salt) password = .ok ⟨subWallets, walletSynchronizer⟩ := by
  simp only [loadWalletFile, bind, Except.bind,
    decryptWalletFile_walletFileBytes K X hcbc hwallet hpass hsalt, parseDocument_unsafeToJSON]
  exact fromJSON_walletObject K subWallets walletSynchronizer

/-- **Codec round trip.** On the bytes `saveWalletJSONToDisk` writes for the text of
    `unsafeToJSON`, with any password and any 16-byte salt, every stage of `openWallet`
    passes: the wallet identifier leaves the salt and the ciphertext, the salt check splits
    off exactly that salt, the key derived from the same password and salt decrypts without
    an exception, the password identifier leaves exactly the saved text, the parser reads
    the object `unsafeToJSON` wrote, and `fromJSON` passes the version check and hands on
    exactly the registry's and the synchronizer's objects. -/
theorem loadWalletFile_walletFileBytes
    (hcbc : ∀ k iv m, X.cbcDecrypt k iv (X.cbcEncrypt k iv m) = some m)
    (hwallet : IsAscii K.isAWalletIdentifier) (hpass : IsAscii K.isCorrectPasswordIdentifier)
    (subWallets walletSynchronizer : List (Bytes × JValue)) (password salt : Bytes)
    (hsalt : salt.length = 16) :
    let walletJSON := unsafeToJSON K subWallets walletSynchronizer
    let key := X.deriveKey password salt
    let ciphertext := X.cbcEncrypt key salt (K.isCorrectPasswordIdentifier ++ walletJSON)
    let file := walletFileBytes K X walletJSON password salt
    expectIdentifier K.charIsSigned file K.isAWalletIdentifier .notAWalletFile .notAWalletFile =
        .ok (salt ++ ciphertext) ∧
      splitSalt (salt ++ ciphertext) = .ok (salt, ciphertext) ∧
      decrypt X key salt ciphertext = .ok (K.isCorrectPasswordIdentifier ++ walletJSON) ∧
      expectIdentifier K.charIsSigned (K.isCorrectPasswordIdentifier ++ walletJSON)
        K.isCorrectPasswordIdentifier .walletFileCorrupted .wrongPassword = .ok walletJSON ∧
      parseDocument walletJSON = some (walletObject K subWallets walletSynchronizer) ∧
      loadWalletFile K X file password = .ok ⟨subWallets, walletSynchronizer⟩ := by
  intro walletJSON key ciphertext file
  refine ⟨?_, splitSalt_append hsalt _, decrypt_cbcEncrypt X hcbc key salt _,
    expectIdentifier_append hpass walletJSON _ _, parseDocument_unsafeToJSON K _ _,
    loadWalletFile_unsafeToJSON K X hcbc hwallet hpass hsalt _ _ _⟩
  rw [show file = K.isAWalletIdentifier ++ (salt ++ ciphertext) from List.append_assoc _ _ _]
  exact expectIdentifier_append hwallet _ _ _

/-- Two ASCII identifiers, version 0, a signed `char`, and a cipher whose decryption inverts
    its encryption: an instance on which the codec's assumptions hold. -/
def sampleConstants : WalletConstants := ⟨ascii "If", ascii "You", 0, by norm_num, true⟩

/-- See `sampleConstants`. -/
def sampleCrypto : WalletCrypto := ⟨fun _ salt => salt, fun _ _ m => m, fun _ _ c => some c⟩

theorem loadWalletFile_walletFileBytes_sample :
    (∀ k iv m, sampleCrypto.cbcDecrypt k iv (sampleCrypto.cbcEncrypt k iv m) = some m) ∧
      IsAscii sampleConstants.isAWalletIdentifier ∧
      IsAscii sampleConstants.isCorrectPasswordIdentifier ∧
      (List.replicate 16 (7 : UInt8)).length = 16 ∧
      loadWalletFile sampleConstants sampleCrypto
        (walletFileBytes sampleConstants sampleCrypto (unsafeToJSON sampleConstants [] [])
          (ascii "pw") (List.replicate 16 7)) (ascii "pw") = .ok ⟨[], []⟩ :=
  ⟨fun _ _ _ => rfl, by decide, by decide, rfl,
    (loadWalletFile_walletFileBytes sampleConstants sampleCrypto (fun _ _ _ => rfl) (by decide)
      (by decide) [] [] (ascii "pw") (List.replicate 16 7) rfl).2.2.2.2.2⟩

/-! ## Rejected passwords -/

/-- A ciphertext fails the password check under a password: it does not decrypt to a
    plaintext that begins with `IS_CORRECT_PASSWORD_IDENTIFIER`. -/
def FailsPasswordCheck (password salt ciphertext : Bytes) : Prop :=
  ∀ m, X.cbcDecrypt (X.deriveKey password salt) salt ciphertext = some m →
    ¬ K.isCorrectPasswordIdentifier <+: m

/-- The error `openWallet` reports for a ciphertext that fails the password check, from
    what its decryption gave. -/
def rejectionError (decrypted : Option Bytes) : Error :=
  match decrypted with
  | some m =>
      if m.length < K.isCorrectPasswordIdentifier.length then .walletFileCorrupted
      else .wrongPassword
  | none => .wrongPassword

/-- **Rejection errors.** On a file with the wallet identifier and a full salt, a ciphertext
    that fails the password check is rejected with `WRONG_PASSWORD` when decryption throws
    or yields a plaintext at least as long as the password identifier, and with
    `WALLET_FILE_CORRUPTED` when the plaintext is shorter. -/
theorem decryptWalletFile_rejected (hwallet : IsAscii K.isAWalletIdentifier) {salt : Bytes}
    (hsalt : salt.length = 16) (ciphertext password : Bytes)
    (hfail : FailsPasswordCheck K X password salt ciphertext) :
    decryptWalletFile K X (K.isAWalletIdentifier ++ salt ++ ciphertext) password =
      .error (rejectionError K (X.cbcDecrypt (X.deriveKey password salt) salt ciphertext)) := by
  rw [decryptWalletFile_prefixed K X hwallet hsalt]
  unfold decrypt rejectionError
  cases hd : X.cbcDecrypt (X.deriveKey password salt) salt ciphertext with
  | none => rfl
  | some m =>
      have hnp := hfail m hd
      simp only [bind, Except.bind, expectIdentifier]
      by_cases hshort : m.length < K.isCorrectPasswordIdentifier.length
      · rw [hasMagicIdentifier_of_short hshort, if_pos hshort]
      · have hne : identifierEqual K.charIsSigned K.isCorrectPasswordIdentifier m = false := by
          cases h : identifierEqual K.charIsSigned K.isCorrectPasswordIdentifier m with
          | false => rfl
          | true => exact absurd (prefix_of_identifierEqual h) hnp
        rw [hasMagicIdentifier_of_mismatch (Nat.not_lt.mp hshort) hne, if_neg hshort]

theorem decryptWalletFile_rejected_sample :
    IsAscii sampleConstants.isAWalletIdentifier ∧ (List.replicate 16 (7 : UInt8)).length = 16 ∧
      FailsPasswordCheck sampleConstants sampleCrypto (ascii "pw") (List.replicate 16 7) [0x59] ∧
      decryptWalletFile sampleConstants sampleCrypto
          (sampleConstants.isAWalletIdentifier ++ List.replicate 16 7 ++ [0x59]) (ascii "pw") =
        .error (rejectionError sampleConstants
          (sampleCrypto.cbcDecrypt (sampleCrypto.deriveKey (ascii "pw") (List.replicate 16 7))
            (List.replicate 16 7) [0x59])) := by
  have hfail : FailsPasswordCheck sampleConstants sampleCrypto (ascii "pw")
      (List.replicate 16 7) [0x59] := by
    rintro m hm ⟨t, ht⟩
    cases hm
    have := congrArg List.length ht
    simp [sampleConstants, ascii] at this
  exact ⟨by decide, rfl, hfail,
    decryptWalletFile_rejected sampleConstants sampleCrypto (by decide) (List.length_replicate 16 7)
      [0x59] (ascii "pw") hfail⟩

/-- Under any cipher whose decryption inverts its encryption, the encryption of the empty
    plaintext fails the password check and is reported as `WALLET_FILE_CORRUPTED`. -/
theorem decryptWalletFile_encrypt_empty
    (hcbc : ∀ k iv m, X.cbcDecrypt k iv (X.cbcEncrypt k iv m) = some m)
    (hwallet : IsAscii K.isAWalletIdentifier) (hid : K.isCorrectPasswordIdentifier ≠ [])
    {salt : Bytes} (hsalt : salt.length = 16) (password : Bytes) :
    decryptWalletFile K X
        (K.isAWalletIdentifier ++ salt ++ X.cbcEncrypt (X.deriveKey password salt) salt [])
        password = .error .walletFileCorrupted := by
  have hfail : FailsPasswordCheck K X password salt
      (X.cbcEncrypt (X.deriveKey password salt) salt []) := by
    intro m hm hp
    rw [hcbc, Option.some.injEq] at hm
    subst hm
    exact hid (List.prefix_nil.mp hp)
  rw [decryptWalletFile_rejected K X hwallet hsalt _ _ hfail, hcbc]
  simp [rejectionError, List.length_pos.mpr hid]

/-- Two ciphertexts that both fail the password check can get different errors. -/
theorem decryptWalletFile_rejected_differ :
    ¬ ∀ c₁ c₂ : Bytes,
      FailsPasswordCheck sampleConstants sampleCrypto [] (List.replicate 16 0) c₁ →
      FailsPasswordCheck sampleConstants sampleCrypto [] (List.replicate 16 0) c₂ →
      decryptWalletFile sampleConstants sampleCrypto
          (sampleConstants.isAWalletIdentifier ++ List.replicate 16 0 ++ c₁) [] =
          .error .wrongPassword ∧
        decryptWalletFile sampleConstants sampleCrypto
          (sampleConstants.isAWalletIdentifier ++ List.replicate 16 0 ++ c₂) [] =
          .error .wrongPassword := by
  intro h
  have hfail : FailsPasswordCheck sampleConstants sampleCrypto [] (List.replicate 16 0) [] := by
    rintro m hm ⟨t, ht⟩
    cases hm
    simp [sampleConstants, ascii] at ht
  have hcorrupted := decryptWalletFile_encrypt_empty sampleConstants sampleCrypto
    (fun _ _ _ => rfl) (by decide) (by decide) (List.length_replicate 16 0) []
  cases hcorrupted.symm.trans (h [] [] hfail hfail).1

end WalletCodec
