import RTcoinWallet.Backend
import RTcoinWallet.Keys
import RTcoinWallet.Lifecycle

/-! # Making a wallet, and opening it again

    The four creation functions of `WalletBackend.cpp` — `createWallet`,
    `importWalletFromSeed`, `importWalletFromKeys` and `importViewWallet` — share one shape:
    `checkNewWalletFilename`, then checks of their own on the keys they were given, then the
    standard or the view constructor, `wallet->init()` and `wallet->save()`.  `openWallet`
    reads the file back: `FILENAME_NON_EXISTENT` when its `ifstream` does not open, the codec
    of `Codec.lean` on the bytes otherwise.

    The registry and the synchronizer a new wallet starts with are not in the sources:
    `Collaborators` gives the objects their `toJSON` writes.  The spend key
    `Crypto::generate_keys` draws and the salt `Random::randomBytes` draws are parameters.

    * `createFrom_built` — a creation function that returns a wallet has saved it with
      `success`, and `openWallet` with the same filename and password reads back exactly the
      objects the wallet was made with;
    * `createFrom_of_absent` — on a free name a creation function that returns no wallet
      leaves the filesystem as it was, and one that returns a wallet has saved it with
      `success` and added exactly the wallet file;
    * `checkNewWalletFilename_createFrom` — a second creation under the name of a built
      wallet is refused with `walletFileAlreadyExists`;
    * `changePassword_reopens` — after `changePassword` saved, the wallet opens under the
      new password;
    * `saveWalletJSONToDiskAccepting_short` — a save whose writes the device cuts short
      before the end of the salt still returns `success`, and leaves a file that opens under
      no password;
    * `importWalletFromSeed_eq` — the seed path runs the checks `WalletKeys` models. -/

namespace WalletConstruction

open WalletErrors RapidJson WalletCodec WalletFiles
open WalletKeys (SecretKey KeyPrimitives samplePrimitives emptyDir)
open WalletBackend (Wallet save saveWalletJSONToDisk_of_absent)
open WalletLifecycle (InitCall Exception init standardConstructor)

/-- The keys a constructor hands to `SubWallets`: both private keys (the standard
    constructor), or the private view key and the address (the view constructor). -/
inductive KeySet where
  | spendAndView (privateSpendKey privateViewKey : SecretKey)
  | viewOnly (privateViewKey : SecretKey) (address : String)
  deriving DecidableEq, Repr

/-- What `m_subWallets->toJSON` and `m_walletSynchronizer->toJSON` write for a new wallet:
    the registry `SubWallets(keys, scanHeight, newWallet)` and the synchronizer `init()`
    makes for it. -/
structure Collaborators where
  subWalletsJSON : KeySet → Nat → Bool → List (Bytes × JValue)
  synchronizerJSON : KeySet → Nat → Bool → List (Bytes × JValue)

/-- How a creation function ends. -/
inductive Outcome where
  /-- `return {error, nullptr}` from a check; `none` when `fs::remove` threw. -/
  | rejected (error : Option Error)
  /-- An exception from `init()` leaves the function. -/
  | threw (e : Exception)
  /-- `return {error, wallet}`, with the error `save()` returned. -/
  | built (error : Error) (keys : KeySet) (w : Wallet)

/-- Whether a creation function returned a wallet. -/
def Outcome.isBuilt : Outcome → Bool
  | .built .. => true
  | _ => false

variable (K : WalletConstants) (X : WalletCrypto) (C : Collaborators)
  (throws : InitCall → Bool)

/-- `new WalletBackend(filename, password, keys, scanHeight, newWallet, ...)`, then
    `wallet->init()` and `wallet->save()` with the salt `salt`. -/
def build (fs : FileSystem) (filename : Path) (password salt : Bytes) (keys : KeySet)
    (scanHeight : Nat) (newWallet : Bool) : Outcome × FileSystem :=
  match (init throws).run standardConstructor with
  | .error e _ => (.threw e, fs)
  | .ok _ _ =>
    let w : Wallet := ⟨filename, password, C.subWalletsJSON keys scanHeight newWallet,
      C.synchronizerJSON keys scanHeight newWallet⟩
    let saved := save K X w fs salt
    (.built saved.1 keys w, saved.2)

/-- The shape of the four creation functions: `checkNewWalletFilename`, the function's own
    checks (which give the keys, the scan height and `newWallet`), then `build`. -/
def createFrom (fs : FileSystem) (filename : Path) (password salt : Bytes)
    (checks : Except Error (KeySet × Nat × Bool)) : Outcome × FileSystem :=
  match checkNewWalletFilename fs filename with
  | (some .success, checked) =>
    match checks with
    | .error error => (.rejected (some error), checked)
    | .ok (keys, scanHeight, newWallet) =>
      build K X C throws checked filename password salt keys scanHeight newWallet
  | (error, checked) => (.rejected error, checked)

variable (P : KeyPrimitives)

/-- `WalletBackend::createWallet`, with the spend key `Crypto::generate_keys` drew. -/
def createWallet (fs : FileSystem) (filename : Path) (password salt : Bytes)
    (privateSpendKey : SecretKey) : Outcome × FileSystem :=
  createFrom K X C throws fs filename password salt
    (.ok (.spendAndView privateSpendKey (P.generateViewFromSpend privateSpendKey), 0, true))

/-- `WalletBackend::importWalletFromSeed`. -/
def importWalletFromSeed (fs : FileSystem) (mnemonicSeed : String) (filename : Path)
    (password salt : Bytes) (scanHeight : Nat) : Outcome × FileSystem :=
  createFrom K X C throws fs filename password salt
    (let decoded := P.mnemonicToPrivateKey mnemonicSeed
    if decoded.1 ≠ .success then .error decoded.1
    else
      let privateViewKey := P.generateViewFromSpend decoded.2
      let error := P.validatePrivateKey privateViewKey
      if error ≠ .success then .error error
      else .ok (.spendAndView decoded.2 privateViewKey, scanHeight, false))

/-- `WalletBackend::importWalletFromKeys`: the view key is checked before the spend key. -/
def importWalletFromKeys (fs : FileSystem) (privateSpendKey privateViewKey : SecretKey)
    (filename : Path) (password salt : Bytes) (scanHeight : Nat) : Outcome × FileSystem :=
  createFrom K X C throws fs filename password salt
    (let error := P.validatePrivateKey privateViewKey
    if error ≠ .success then .error error
    else
      let error := P.validatePrivateKey privateSpendKey
      if error ≠ .success then .error error
      else .ok (.spendAndView privateSpendKey privateViewKey, scanHeight, false))

/-- `WalletBackend::importViewWallet`: the view constructor passes `newWallet = false`. -/
def importViewWallet (fs : FileSystem) (privateViewKey : SecretKey) (address : String)
    (filename : Path) (password salt : Bytes) (scanHeight : Nat) : Outcome × FileSystem :=
  createFrom K X C throws fs filename password salt
    (let error := P.validatePrivateKey privateViewKey
    if error ≠ .success then .error error
    else
      let error := P.validateAddress address
      if error ≠ .success then .error error
      else .ok (.viewOnly privateViewKey address, scanHeight, false))

/-- `WalletBackend::openWallet` up to `fromJSON`'s hand-over. -/
def openWallet (fs : FileSystem) (filename : Path) (password : Bytes) :
    Except Error WalletDocument :=
  match readFile fs filename with
  | none => .error .filenameNonExistent
  | some buffer => loadWalletFile K X buffer password

-- ── The shared shape ──

section Shape

variable {fs fs' : FileSystem} {filename : Path} {password salt : Bytes}
  {checks : Except Error (KeySet × Nat × Bool)} {error : Error} {keys : KeySet} {w : Wallet}

/-- A creation function returns a wallet only when the filename check and its own checks
    passed and `init()` returned; the wallet is the one the constructor made, and the
    filesystem is what its save left. -/
theorem createFrom_eq_built
    (h : createFrom K X C throws fs filename password salt checks = (.built error keys w, fs')) :
    ∃ checked scanHeight newWallet,
      checkNewWalletFilename fs filename = (some .success, checked) ∧
      checks = .ok (keys, scanHeight, newWallet) ∧
      w = ⟨filename, password, C.subWalletsJSON keys scanHeight newWallet,
        C.synchronizerJSON keys scanHeight newWallet⟩ ∧
      save K X w checked salt = (error, fs') := by
  unfold createFrom at h
  split at h
  · next checked hcheck =>
    split at h
    · cases h
    · next keys₀ scanHeight newWallet =>
      unfold build at h
      split at h
      · cases h
      · cases h
        exact ⟨checked, scanHeight, newWallet, hcheck, rfl, rfl, rfl⟩
  · cases h

/-- What a built wallet leaves on disk: a readable file at `filename`, holding the wallet
    encrypted under `password`, on the name the check freed. -/
theorem createFrom_built_file
    (h : createFrom K X C throws fs filename password salt checks = (.built error keys w, fs')) :
    error = .success ∧ w.filename = filename ∧ w.password = password ∧
      fs'.entries filename = some (.file (walletFileBytes K X
        (unsafeToJSON K w.subWallets w.walletSynchronizer) password salt) true true) := by
  obtain ⟨checked, scanHeight, newWallet, hcheck, -, rfl, hsave⟩ :=
    createFrom_eq_built K X C throws h
  obtain ⟨hfree, hw⟩ := checkNewWalletFilename_success hcheck
  rw [save, saveWalletJSONToDisk_of_absent K X hfree hw] at hsave
  cases hsave
  exact ⟨rfl, rfl, rfl, FileSystem.write_entries_self _ _ _⟩

/-- **A built wallet reopens.**  When a creation function returns a wallet, whatever checks
    it made, its save succeeded, and `openWallet` with the same filename and password passes
    every stage and hands back exactly the registry's and the synchronizer's objects the
    wallet was made with (for a cipher whose decryption inverts its encryption, ASCII
    identifiers and a 16-byte salt). -/
theorem createFrom_built
    (hcbc : ∀ k iv m, X.cbcDecrypt k iv (X.cbcEncrypt k iv m) = some m)
    (hwallet : IsAscii K.isAWalletIdentifier) (hpass : IsAscii K.isCorrectPasswordIdentifier)
    (hsalt : salt.length = 16)
    (h : createFrom K X C throws fs filename password salt checks = (.built error keys w, fs')) :
    error = .success ∧ w.filename = filename ∧ w.password = password ∧
      openWallet K X fs' filename password = .ok ⟨w.subWallets, w.walletSynchronizer⟩ := by
  obtain ⟨herror, hname, hpw, hfile⟩ := createFrom_built_file K X C throws h
  refine ⟨herror, hname, hpw, ?_⟩
  rw [openWallet, readFile_of_file hfile]
  exact loadWalletFile_unsafeToJSON K X hcbc hwallet hpass hsalt _ _ _

/-- Collaborators whose registry records the scan height it starts from. -/
def sampleCollaborators : Collaborators :=
  ⟨fun _ scanHeight _ => [(ascii "height", .uint64 scanHeight)], fun _ _ _ => []⟩

/-- `createWallet` in an empty directory, with collaborators that do not throw: the wallet
    is built from the drawn key `[1, 2, 3]` and its view key `[3, 2, 1]`, and reopens. -/
theorem createWallet_reopens :
    let created := createWallet sampleConstants sampleCrypto sampleCollaborators (fun _ => false)
      samplePrimitives emptyDir "new.wallet" (ascii "pw") (List.replicate 16 7) [1, 2, 3]
    created.1 = .built .success (.spendAndView [1, 2, 3] [3, 2, 1])
        ⟨"new.wallet", ascii "pw", [(ascii "height", .uint64 0)], []⟩ ∧
      openWallet sampleConstants sampleCrypto created.2 "new.wallet" (ascii "pw") =
        .ok ⟨[(ascii "height", .uint64 0)], []⟩ := by
  intro created
  have h : created = (.built .success (.spendAndView [1, 2, 3] [3, 2, 1])
      ⟨"new.wallet", ascii "pw", [(ascii "height", .uint64 0)], []⟩, created.2) := Prod.ext rfl rfl
  exact ⟨congrArg Prod.fst h,
    (createFrom_built sampleConstants sampleCrypto sampleCollaborators (fun _ => false)
      (fun _ _ _ => rfl) (by decide) (by decide) (List.length_replicate 16 7) h).2.2.2⟩

/-- **No second wallet under one name.**  Once a creation function has built a wallet, the
    filename check of any later creation under the same name reports
    `walletFileAlreadyExists` and changes nothing. -/
theorem checkNewWalletFilename_createFrom
    (h : createFrom K X C throws fs filename password salt checks = (.built error keys w, fs')) :
    checkNewWalletFilename fs' filename = (some .walletFileAlreadyExists, fs') :=
  checkNewWalletFilename_of_readable (createFrom_built_file K X C throws h).2.2.2

/-- A second `createWallet` under the name the first one used is refused. -/
theorem createWallet_twice :
    let created := createWallet sampleConstants sampleCrypto sampleCollaborators (fun _ => false)
      samplePrimitives emptyDir "new.wallet" (ascii "pw") (List.replicate 16 7) [1, 2, 3]
    checkNewWalletFilename created.2 "new.wallet" = (some .walletFileAlreadyExists, created.2) := by
  intro created
  have h : created = (.built .success (.spendAndView [1, 2, 3] [3, 2, 1])
      ⟨"new.wallet", ascii "pw", [(ascii "height", .uint64 0)], []⟩, created.2) := Prod.ext rfl rfl
  exact checkNewWalletFilename_createFrom sampleConstants sampleCrypto sampleCollaborators
    (fun _ => false) h

/-- On a free name a creation function either returns no wallet and leaves the filesystem,
    or returns a wallet it saved with `success` by adding exactly the wallet file. -/
theorem createFrom_absent_cases (password salt : Bytes) (h : fs.entries filename = none)
    (checks : Except Error (KeySet × Nat × Bool)) :
    ((createFrom K X C throws fs filename password salt checks).1.isBuilt = false ∧
      (createFrom K X C throws fs filename password salt checks).2 = fs) ∨
      ∃ keys w, createFrom K X C throws fs filename password salt checks =
        (.built .success keys w, fs.write filename (.file (walletFileBytes K X
          (unsafeToJSON K w.subWallets w.walletSynchronizer) password salt) true true)) := by
  have hcheck := checkNewWalletFilename_of_absent h
  cases hw : fs.dirWritable filename with
  | false =>
    left
    simp only [createFrom, hcheck, hw]
    exact ⟨rfl, rfl⟩
  | true =>
    simp only [if_true, hw] at hcheck
    rcases checks with e | ⟨keys, scanHeight, newWallet⟩
    · left
      simp only [createFrom, hcheck, Outcome.isBuilt, and_self]
    · simp only [createFrom, hcheck, build]
      split
      · exact .inl ⟨rfl, rfl⟩
      · refine .inr ⟨keys, ⟨filename, password, C.subWalletsJSON keys scanHeight newWallet,
          C.synchronizerJSON keys scanHeight newWallet⟩, ?_⟩
        simp only [save, saveWalletJSONToDisk_of_absent K X h hw]

/-- **On a free name nothing else changes.**  When `filename` holds no entry, a creation
    function that returns no wallet (a check refused it, or `init()` threw) leaves the
    filesystem as it was, and one that returns a wallet has saved it with `success` and
    added exactly the wallet file. -/
theorem createFrom_of_absent (h : fs.entries filename = none)
    (checks : Except Error (KeySet × Nat × Bool)) :
    let created := createFrom K X C throws fs filename password salt checks
    (created.1.isBuilt = false → created.2 = fs) ∧
      ∀ error keys w, created.1 = .built error keys w →
        error = .success ∧ created.2 = fs.write filename (.file (walletFileBytes K X
          (unsafeToJSON K w.subWallets w.walletSynchronizer) password salt) true true) := by
  dsimp only
  rcases createFrom_absent_cases K X C throws password salt h checks with
    ⟨hnot, hfs⟩ | ⟨keys, w, hcreated⟩
  · exact ⟨fun _ => hfs, fun _ _ _ hb => by rw [hb] at hnot; cases hnot⟩
  · refine ⟨fun hnot => (by rw [hcreated] at hnot; cases hnot), fun _ _ _ hb => ?_⟩
    rw [hcreated] at hb ⊢
    cases hb
    exact ⟨rfl, rfl⟩

/-- `createWallet` into an empty directory whose daemon fails to start: `init()` throws out
    of it, and the directory is left as it was. -/
theorem createWallet_daemonInit_throws :
    let created := createWallet sampleConstants sampleCrypto sampleCollaborators
      (· == .daemonInit) samplePrimitives emptyDir "new.wallet" (ascii "pw")
      (List.replicate 16 7) [1, 2, 3]
    created.1 = .threw (.threwIn .daemonInit) ∧ created.2 = emptyDir :=
  ⟨rfl, (createFrom_of_absent sampleConstants sampleCrypto sampleCollaborators (· == .daemonInit)
    rfl _).1 rfl⟩

end Shape

/-- **A save reopens.**  After a successful save onto a name whose file, if it has one,
    can be read, `openWallet` with the wallet's password reads back exactly the wallet's
    objects. -/
theorem openWallet_save
    (hcbc : ∀ k iv m, X.cbcDecrypt k iv (X.cbcEncrypt k iv m) = some m)
    (hwallet : IsAscii K.isAWalletIdentifier) (hpass : IsAscii K.isCorrectPasswordIdentifier)
    {salt : Bytes} (hsalt : salt.length = 16) {w : Wallet} {fs fs' : FileSystem}
    (hreadable : ∀ q, resolve fs symlinkLimit w.filename = some q →
      ∀ c r wr, fs.entries q = some (.file c r wr) → r = true)
    (h : save K X w fs salt = (.success, fs')) :
    openWallet K X fs' w.filename w.password = .ok ⟨w.subWallets, w.walletSynchronizer⟩ := by
  unfold save WalletBackend.saveWalletJSONToDisk at h
  split at h
  · cases h
  · next written hwritten =>
    cases h
    obtain ⟨q, hq, -⟩ := ofstreamWrite_eq_some hwritten
    obtain ⟨wr, rfl⟩ := ofstreamWrite_readable hwritten hq (hreadable q hq)
    rw [openWallet, readFile_write hq]
    exact loadWalletFile_unsafeToJSON K X hcbc hwallet hpass hsalt _ _ _

/-- A name a stream can read: any file at the end of its links is readable. -/
theorem readable_of_readFile {fs : FileSystem} {p : Path} {data : Bytes}
    (h : readFile fs p = some data) (q : Path) (hq : resolve fs symlinkLimit p = some q)
    (c : Bytes) (r wr : Bool) (hfile : fs.entries q = some (.file c r wr)) : r = true := by
  obtain ⟨q', hq', hentry⟩ := readFile_eq_some h
  cases hq.symm.trans hq'
  rcases hentry with ⟨_, hentry⟩ | hentry <;> rw [hfile] at hentry <;> cases hentry
  rfl

/-- **A changed password opens the wallet.**  On a wallet whose file a stream can read,
    when `changePassword` replaces the password and its save succeeds, `openWallet` with the
    new password reads back exactly the wallet's objects (for a cipher whose decryption
    inverts its encryption, ASCII identifiers and a 16-byte salt). -/
theorem changePassword_reopens
    (hcbc : ∀ k iv m, X.cbcDecrypt k iv (X.cbcEncrypt k iv m) = some m)
    (hwallet : IsAscii K.isAWalletIdentifier) (hpass : IsAscii K.isCorrectPasswordIdentifier)
    {salt : Bytes} (hsalt : salt.length = 16) {w : Wallet} {fs : FileSystem}
    {newPassword data : Bytes} (hread : readFile fs w.filename = some data)
    (hne : w.password ≠ newPassword)
    (h : (WalletBackend.changePassword K X w fs salt newPassword).1 = .success) :
    openWallet K X (WalletBackend.changePassword K X w fs salt newPassword).2.2 w.filename
      newPassword = .ok ⟨w.subWallets, w.walletSynchronizer⟩ := by
  have hrun : WalletBackend.changePassword K X w fs salt newPassword =
      ((save K X { w with password := newPassword } fs salt).1, { w with password := newPassword },
        (save K X { w with password := newPassword } fs salt).2) := if_neg hne
  rw [hrun] at h ⊢
  have hsave : save K X { w with password := newPassword } fs salt = (.success, _) :=
    Prod.ext h rfl
  refine openWallet_save K X hcbc hwallet hpass hsalt ?_ hsave
  exact readable_of_readFile hread

/-- A wallet whose file can be read and written. -/
def savedWallet : Wallet × FileSystem :=
  (⟨"wallet.wallet", ascii "old", [], []⟩,
    ⟨fun p => if p = "wallet.wallet" then some (.file [1] true true) else none, fun _ => true⟩)

theorem changePassword_reopens_saved :
    openWallet sampleConstants sampleCrypto (WalletBackend.changePassword sampleConstants
      sampleCrypto savedWallet.1 savedWallet.2 (List.replicate 16 7) (ascii "new")).2.2
      "wallet.wallet" (ascii "new") = .ok ⟨[], []⟩ :=
  changePassword_reopens sampleConstants sampleCrypto (fun _ _ _ => rfl) (by decide) (by decide)
    (List.length_replicate 16 7) rfl (by decide) rfl

/-- **A short write reports success.**  When the stream opens on a wallet file a stream can
    read and the device then takes fewer bytes than the identifier and the salt,
    `saveWalletJSONToDisk` still returns `success`, and the file it leaves opens under no
    password: `notAWalletFile` when the identifier itself was cut, `walletFileCorrupted` when
    the salt was (for an ASCII identifier), whatever the salt drawn. -/
theorem saveWalletJSONToDiskAccepting_short (hwallet : IsAscii K.isAWalletIdentifier)
    {fs : FileSystem} {filename : Path} {data : Bytes} (hread : readFile fs filename = some data)
    (hopen : (ofstreamOpen fs filename).isSome) (walletJSON password salt : Bytes)
    {accepted : Nat} (hshort : accepted < K.isAWalletIdentifier.length + 16) (password' : Bytes) :
    (WalletBackend.saveWalletJSONToDiskAccepting K X accepted fs walletJSON filename password
        salt).1 = .success ∧
      openWallet K X (WalletBackend.saveWalletJSONToDiskAccepting K X accepted fs walletJSON
        filename password salt).2 filename password' =
        .error (if accepted < K.isAWalletIdentifier.length then .notAWalletFile
          else .walletFileCorrupted) := by
  obtain ⟨fs', hwritten⟩ := Option.isSome_iff_exists.mp
    ((ofstreamWrite_isSome fs filename _ []).trans hopen)
  obtain ⟨q, hq, -⟩ := ofstreamWrite_eq_some hwritten
  obtain ⟨wr, rfl⟩ := ofstreamWrite_readable hwritten hq (readable_of_readFile hread q hq)
  rw [WalletBackend.saveWalletJSONToDiskAccepting, hwritten]
  refine ⟨rfl, ?_⟩
  rw [openWallet, readFile_write hq]
  simp only [loadWalletFile, bind, Except.bind, walletFileBytes,
    decryptWalletFile_take K X hwallet _ _ _ hshort]

/-- With the identifier `If`, a device that takes 5 bytes of `savedWallet`'s new file cuts
    the salt: the save reports `success`, and the file then opens to `walletFileCorrupted`. -/
theorem saveWalletJSONToDiskAccepting_short_saved :
    (WalletBackend.saveWalletJSONToDiskAccepting sampleConstants sampleCrypto 5 savedWallet.2
        (unsafeToJSON sampleConstants [] []) "wallet.wallet" (ascii "old")
        (List.replicate 16 7)).1 = .success ∧
      openWallet sampleConstants sampleCrypto (WalletBackend.saveWalletJSONToDiskAccepting
        sampleConstants sampleCrypto 5 savedWallet.2 (unsafeToJSON sampleConstants [] [])
        "wallet.wallet" (ascii "old") (List.replicate 16 7)).2 "wallet.wallet" (ascii "old") =
        .error .walletFileCorrupted :=
  saveWalletJSONToDiskAccepting_short sampleConstants sampleCrypto (by decide)
    (show readFile savedWallet.2 "wallet.wallet" = some [1] from rfl) rfl _ _ _ (by decide) _

/-- The seed path runs the checks of `WalletKeys.importWalletFromSeed`: it is refused with
    the error that model reports, or builds from the keys it returns. -/
theorem importWalletFromSeed_eq (fs : FileSystem) (mnemonicSeed : String) (filename : Path)
    (password salt : Bytes) (scanHeight : Nat) :
    importWalletFromSeed K X C throws P fs mnemonicSeed filename password salt scanHeight =
      match WalletKeys.importWalletFromSeed P fs mnemonicSeed filename with
      | .error error => (.rejected error, (checkNewWalletFilename fs filename).2)
      | .ok (privateSpendKey, privateViewKey) =>
        build K X C throws (checkNewWalletFilename fs filename).2 filename password salt
          (.spendAndView privateSpendKey privateViewKey) scanHeight false := by
  obtain ⟨_, _, generateViewFromSpend, _, mnemonicToPrivateKey, validatePrivateKey⟩ := P
  unfold importWalletFromSeed createFrom WalletKeys.importWalletFromSeed
  rcases hcheck : checkNewWalletFilename fs filename with ⟨_ | err, checked⟩
  · rfl
  cases err
  case success =>
    dsimp only
    rcases mnemonicToPrivateKey mnemonicSeed with ⟨me, k⟩
    by_cases hm : me = .success
    · by_cases hv : validatePrivateKey (generateViewFromSpend k) = .success <;> simp [hm, hv]
    · simp [hm]
  all_goals rfl

end WalletConstruction
