import RTcoinWallet.Rescan

/-! # The wallet file over the life of a `WalletBackend`

    Between `init()` and its destruction a `WalletBackend` takes calls in any order, and
    between two calls its synchronizer thread moves the registry and the synchronizer on.
    The calls that write the file all end in `save()` or `unsafeSave()`: `save` itself (the
    destructor runs it too), `changePassword` when the password changes, and `reset`,
    `rewind` and `scanRange` after their cut.  The import paths, `addSubWallet`,
    `deleteSubWallet` and the synchronizer change only the members.  A save runs with the synchronizer paused, so it writes the members of
    one moment; the stream writes the whole file or, when it does not open, nothing.  The
    object is the file's only writer, and no save is cut short by a crash.

    A session carries, beside the members and the filesystem, what the last save that
    succeeded wrote (`Session.lastSaved`); the object itself keeps no such record.

    * `run_fileHolds` — over any sequence of calls, the file opens, under the password of
      the last save that succeeded, to exactly the objects that save wrote, and those are
      the members the object held right after one of the calls, or what the file held when
      the session began;
    * `reachable_fileHolds` — so it does in every session of a wallet that a creation
      function built or `openWallet` read. -/

namespace WalletSession

open WalletErrors RapidJson WalletCodec WalletFiles WalletImport WalletKeys
open WalletBackend (save saveWalletJSONToDisk_spec)
open WalletConstruction (Collaborators KeySet createFrom createFrom_built_file openWallet
  openWallet_save readable_of_readFile savedWallet sampleCollaborators)
open WalletLifecycle (InitCall)
open WalletRescan (RescanOps Backend heightRescan heightBackend)

variable {R S : Type}

/-- A salt as `saveWalletJSONToDisk` draws it from `Random::randomBytes`: 16 bytes. -/
structure Salt where
  bytes : Bytes
  length_eq : bytes.length = 16

/-- A call on a live `WalletBackend`, or a step of its synchronizer thread. -/
inductive Call (R S : Type) where
  /-- `save()`, which the destructor runs too. -/
  | save (salt : Salt)
  | changePassword (newPassword : Bytes) (salt : Salt)
  | reset (scanHeight timestamp : Nat) (salt : Salt)
  | rewind (scanHeight timestamp : Nat) (salt : Salt)
  | scanRange (scanHeight endScanHeight : Nat) (salt : Salt)
  | importSubWallet (privateSpendKey : SecretKey) (scanHeight : Nat)
  | importSubWalletIndex (walletIndex scanHeight : Nat)
  | importViewSubWallet (publicSpendKey : PublicKey) (scanHeight : Nat)
  | addSubWallet
  | deleteSubWallet (address : String)
  /-- The synchronizer thread between two calls: it scans blocks into the registry and
      moves its own height. -/
  | synchronize (advance : State R S → State R S)

/-- What the calls reach beyond the codec: the registry, the synchronizer, the re-scan
    helpers and the key checks. -/
structure Objects (R S : Type) where
  subWallets : SubWalletsOps R
  walletSynchronizer : SynchronizerOps S
  rescan : RescanOps R S
  /-- `validatePrivateKey`. -/
  validatePrivateKey : SecretKey → Error
  /-- `validatePublicKey`. -/
  validatePublicKey : PublicKey → Error
  /-- `validateAddresses({address}, allowIntegratedAddresses)`. -/
  validateAddresses : String → Bool → Error
  /-- `m_subWallets->addSubWallet()`: an error, the address, the spend key and the wallet
      index. -/
  addSubWallet : R → (Error × String × SecretKey × Nat) × R
  /-- `m_subWallets->deleteSubWallet(address)`. -/
  deleteSubWallet : String → R → Error × R

variable (K : WalletConstants) (X : WalletCrypto) (E : Objects R S)

/-- `save()` on the members `b`: the error it returns, the members and the filesystem. -/
def thenSave (b : Backend R S) (fs : FileSystem) (salt : Salt) :
    Option Error × Backend R S × FileSystem :=
  let saved := save K X (b.wallet E.rescan) fs salt.bytes
  (some saved.1, b, saved.2)

/-- `WalletBackend::addSubWallet`: the registry's `addSubWallet`, with the synchronizer
    paused. -/
def addSubWallet (st : State R S) : (Error × String × SecretKey × Nat) × State R S :=
  let added := E.addSubWallet st.subWallets
  (added.1, ⟨added.2, st.walletSynchronizer⟩)

/-- `WalletBackend::deleteSubWallet`: the address is checked with integrated addresses
    refused, then the registry's `deleteSubWallet` runs with the synchronizer paused. -/
def deleteSubWallet (address : String) (st : State R S) : Error × State R S :=
  let error := E.validateAddresses address false
  if error ≠ .success then (error, st)
  else
    let deleted := E.deleteSubWallet address st.subWallets
    (deleted.1, ⟨deleted.2, st.walletSynchronizer⟩)

/-- What a call does: the error of the save it ran (`none` when it ran none; `reset`,
    `rewind` and `scanRange` drop it), the members and the filesystem after it; the calls'
    other results are not kept.  The re-scans cut the members as their own models do, then
    save. -/
def Call.apply : Call R S → Backend R S → FileSystem → Option Error × Backend R S × FileSystem
  | .save salt, b, fs => thenSave K X E b fs salt
  | .changePassword newPassword salt, b, fs =>
    if b.password = newPassword then (none, b, fs)
    else thenSave K X E { b with password := newPassword } fs salt
  | .reset scanHeight timestamp salt, b, fs =>
    thenSave K X E (WalletRescan.reset K X E.subWallets E.walletSynchronizer E.rescan scanHeight
      timestamp b fs salt.bytes).1 fs salt
  | .rewind scanHeight timestamp salt, b, fs =>
    thenSave K X E (WalletRescan.rewind K X E.subWallets E.rescan scanHeight timestamp b fs
      salt.bytes).1 fs salt
  | .scanRange scanHeight endScanHeight salt, b, fs =>
    thenSave K X E (WalletRescan.scanRange K X E.subWallets E.rescan scanHeight endScanHeight b fs
      salt.bytes).1 fs salt
  | .importSubWallet privateSpendKey scanHeight, b, fs =>
    (none, { b with state := (WalletImport.importSubWallet E.subWallets E.walletSynchronizer
      E.validatePrivateKey privateSpendKey scanHeight b.state).2 }, fs)
  | .importSubWalletIndex walletIndex scanHeight, b, fs =>
    (none, { b with state := (WalletImport.importSubWalletIndex E.subWallets
      E.walletSynchronizer walletIndex scanHeight b.state).2 }, fs)
  | .importViewSubWallet publicSpendKey scanHeight, b, fs =>
    (none, { b with state := (WalletImport.importViewSubWallet E.subWallets E.walletSynchronizer
      E.validatePublicKey publicSpendKey scanHeight b.state).2 }, fs)
  | .addSubWallet, b, fs =>
    (none, { b with state := (WalletSession.addSubWallet E b.state).2 }, fs)
  | .deleteSubWallet address, b, fs =>
    (none, { b with state := (WalletSession.deleteSubWallet E address b.state).2 }, fs)
  | .synchronize advance, b, fs => (none, { b with state := advance b.state }, fs)

/-- The session's re-scans write what `WalletRescan.reset`, `rewind` and `scanRange` write,
    and its `changePassword` is `WalletBackend::changePassword` on the members. -/
theorem apply_agrees (b : Backend R S) (fs : FileSystem) (salt : Salt) (h₁ h₂ : Nat)
    (newPassword : Bytes) :
    ((Call.reset h₁ h₂ salt).apply K X E b fs).2 =
        WalletRescan.reset K X E.subWallets E.walletSynchronizer E.rescan h₁ h₂ b fs salt.bytes ∧
      ((Call.rewind h₁ h₂ salt).apply K X E b fs).2 =
        WalletRescan.rewind K X E.subWallets E.rescan h₁ h₂ b fs salt.bytes ∧
      ((Call.scanRange h₁ h₂ salt).apply K X E b fs).2 =
        WalletRescan.scanRange K X E.subWallets E.rescan h₁ h₂ b fs salt.bytes ∧
      WalletBackend.changePassword K X (b.wallet E.rescan) fs salt.bytes newPassword =
        let r := (Call.changePassword newPassword salt).apply K X E b fs
        (r.1.getD .success, r.2.1.wallet E.rescan, r.2.2) := by
  refine ⟨rfl, rfl, rfl, ?_⟩
  have hpw : (b.wallet E.rescan).password = b.password := rfl
  by_cases hp : b.password = newPassword
  · simp only [Call.apply, WalletBackend.changePassword, hpw, if_pos hp]
    rfl
  · simp only [Call.apply, WalletBackend.changePassword, hpw, if_neg hp]
    rfl

/-- **What a call can do.**  Its members keep the filename, and it either leaves the
    filesystem as it was, having run no save, or ends in `save()` on its members. -/
theorem apply_cases (call : Call R S) (b : Backend R S) (fs : FileSystem) :
    ∃ b' : Backend R S, b'.filename = b.filename ∧
      (call.apply K X E b fs = (none, b', fs) ∨
        ∃ salt, call.apply K X E b fs = thenSave K X E b' fs salt) := by
  cases call with
  | changePassword newPassword salt =>
    by_cases hp : b.password = newPassword
    · exact ⟨b, rfl, .inl (if_pos hp)⟩
    · refine ⟨_, ?_, .inr ⟨salt, if_neg hp⟩⟩; rfl
  | save salt | reset _ _ salt | rewind _ _ salt | scanRange _ _ salt =>
    refine ⟨_, ?_, .inr ⟨salt, rfl⟩⟩; rfl
  | importSubWallet | importSubWalletIndex | importViewSubWallet | addSubWallet
  | deleteSubWallet | synchronize =>
    refine ⟨_, ?_, .inl rfl⟩; rfl

@[simp] theorem thenSave_backend (b : Backend R S) (fs : FileSystem) (salt : Salt) :
    (thenSave K X E b fs salt).2.1 = b := rfl

/-- A save fails with `invalidWalletFilename` and writes nothing, or succeeds. -/
theorem thenSave_cases (b : Backend R S) (fs : FileSystem) (salt : Salt) :
    thenSave K X E b fs salt = (some .invalidWalletFilename, b, fs) ∨
      ∃ fs', thenSave K X E b fs salt = (some .success, b, fs') ∧
        save K X (b.wallet E.rescan) fs salt.bytes = (.success, fs') := by
  unfold thenSave save
  rcases saveWalletJSONToDisk_spec K X fs _ (b.wallet E.rescan).filename
    (b.wallet E.rescan).password salt.bytes with h | ⟨_, _, _, _, h⟩ <;> rw [h]
  · exact .inl rfl
  · exact .inr ⟨_, rfl, rfl⟩

-- ── Sessions ──

/-- What a save wrote: the password, and the registry's and the synchronizer's objects. -/
structure Checkpoint where
  password : Bytes
  subWallets : List (Bytes × JValue)
  walletSynchronizer : List (Bytes × JValue)

/-- What `unsafeSave()` writes for the members `b`. -/
def checkpointOf (b : Backend R S) : Checkpoint :=
  ⟨b.password, E.rescan.subWalletsJSON b.state.subWallets,
    E.rescan.synchronizerJSON b.state.walletSynchronizer⟩

/-- The members, the filesystem, and what the last save that succeeded wrote. -/
structure Session (R S : Type) where
  backend : Backend R S
  fs : FileSystem
  lastSaved : Checkpoint

/-- One call, recording what its save wrote when the save succeeded. -/
def Session.step (s : Session R S) (call : Call R S) : Session R S :=
  let r := call.apply K X E s.backend s.fs
  ⟨r.2.1, r.2.2, if r.1 = some .success then checkpointOf E r.2.1 else s.lastSaved⟩

/-- The calls, one after another. -/
def Session.run : Session R S → List (Call R S) → Session R S
  | s, [] => s
  | s, call :: calls => (s.step K X E call).run calls

/-- The file opens, under the password of the last save that succeeded, to what that save
    wrote. -/
def Session.FileHolds (s : Session R S) : Prop :=
  openWallet K X s.fs s.backend.filename s.lastSaved.password =
    .ok ⟨s.lastSaved.subWallets, s.lastSaved.walletSynchronizer⟩

theorem step_filename (s : Session R S) (call : Call R S) :
    (s.step K X E call).backend.filename = s.backend.filename := by
  obtain ⟨b', hb', h | ⟨salt, h⟩⟩ := apply_cases K X E call s.backend s.fs <;>
    simp only [Session.step, h, thenSave_backend, hb']

theorem run_filename (s : Session R S) (calls : List (Call R S)) :
    (s.run K X E calls).backend.filename = s.backend.filename := by
  induction calls generalizing s with
  | nil => rfl
  | cons call calls ih => exact (ih _).trans (step_filename K X E s call)

theorem readFile_of_openWallet {fs : FileSystem} {filename : Path} {password : Bytes}
    {doc : WalletDocument} (h : openWallet K X fs filename password = .ok doc) :
    ∃ data, readFile fs filename = some data := by
  unfold openWallet at h
  split at h
  · cases h
  · exact ⟨_, ‹_›⟩

section Holds

variable (hcbc : ∀ k iv m, X.cbcDecrypt k iv (X.cbcEncrypt k iv m) = some m)
  (hwallet : IsAscii K.isAWalletIdentifier) (hpass : IsAscii K.isCorrectPasswordIdentifier)

include hcbc hwallet hpass

/-- A successful save on members with the session's filename makes the file hold them. -/
theorem thenSave_fileHolds {s : Session R S} (hs : s.FileHolds K X) {b : Backend R S}
    (hb : b.filename = s.backend.filename) {salt : Salt} {fs' : FileSystem}
    (h : save K X (b.wallet E.rescan) s.fs salt.bytes = (.success, fs')) :
    openWallet K X fs' b.filename b.password =
      .ok ⟨E.rescan.subWalletsJSON b.state.subWallets,
        E.rescan.synchronizerJSON b.state.walletSynchronizer⟩ := by
  obtain ⟨_, hread⟩ := readFile_of_openWallet K X hs
  rw [← hb] at hread
  exact openWallet_save K X hcbc hwallet hpass salt.length_eq (readable_of_readFile hread) h

/-- **One call keeps the file holding the last successful save.** -/
theorem step_fileHolds {s : Session R S} (hs : s.FileHolds K X) (call : Call R S) :
    (s.step K X E call).FileHolds K X := by
  obtain ⟨b', hb', h | ⟨salt, h⟩⟩ := apply_cases K X E call s.backend s.fs
  · simp only [Session.FileHolds, Session.step, h, reduceCtorEq, if_false, hb']
    exact hs
  · rcases thenSave_cases K X E b' s.fs salt with h' | ⟨fs', h', hsave⟩
    · simp only [Session.FileHolds, Session.step, h, h', Option.some.injEq, reduceCtorEq,
        if_false, hb']
      exact hs
    · simp only [Session.FileHolds, Session.step, h, h', if_true]
      exact thenSave_fileHolds K X E hcbc hwallet hpass hs hb' hsave

end Holds

/-- The last save recorded after one call: the one before it, or what the call's own save
    wrote. -/
theorem step_lastSaved (s : Session R S) (call : Call R S) :
    (s.step K X E call).lastSaved = s.lastSaved ∨
      (s.step K X E call).lastSaved = checkpointOf E (s.step K X E call).backend := by
  dsimp only [Session.step]
  split_ifs
  · exact .inr rfl
  · exact .inl rfl

/-- The last save recorded after a run: the one it began with, or the members right after
    one of its calls. -/
theorem run_lastSaved (s : Session R S) (calls : List (Call R S)) :
    (s.run K X E calls).lastSaved = s.lastSaved ∨
      ∃ n, 0 < n ∧ n ≤ calls.length ∧
        (s.run K X E calls).lastSaved = checkpointOf E (s.run K X E (calls.take n)).backend := by
  induction calls generalizing s with
  | nil => exact .inl rfl
  | cons call calls ih =>
    rcases ih (s.step K X E call) with h | ⟨n, hn, hle, h⟩
    · rcases step_lastSaved K X E s call with h' | h'
      · exact .inl (h.trans h')
      · exact .inr ⟨1, Nat.one_pos, by simp, h.trans h'⟩
    · exact .inr ⟨n + 1, Nat.succ_pos n, by simpa using hle, h⟩

/-- **The file holds the last save that succeeded.**  From a session whose file opens
    under the password of the last save to what it wrote (as after `openWallet`, or after a
    creation function built the wallet), after any sequence of calls and synchronizer
    steps the file opens under the password of the last save that succeeded to exactly
    what that save wrote — never a failed save's attempt, never the members of a moment no
    save ran in — and that is what the session began with or the members right after one
    of the calls (for a cipher whose decryption inverts its encryption, and ASCII
    identifiers). -/
theorem run_fileHolds
    (hcbc : ∀ k iv m, X.cbcDecrypt k iv (X.cbcEncrypt k iv m) = some m)
    (hwallet : IsAscii K.isAWalletIdentifier) (hpass : IsAscii K.isCorrectPasswordIdentifier)
    {s : Session R S} (hs : s.FileHolds K X) (calls : List (Call R S)) :
    openWallet K X (s.run K X E calls).fs s.backend.filename
        (s.run K X E calls).lastSaved.password =
      .ok ⟨(s.run K X E calls).lastSaved.subWallets,
        (s.run K X E calls).lastSaved.walletSynchronizer⟩ ∧
    ((s.run K X E calls).lastSaved = s.lastSaved ∨
      ∃ n, 0 < n ∧ n ≤ calls.length ∧
        (s.run K X E calls).lastSaved = checkpointOf E (s.run K X E (calls.take n)).backend) := by
  refine ⟨?_, run_lastSaved K X E s calls⟩
  rw [← run_filename K X E s calls]
  induction calls generalizing s with
  | nil => exact hs
  | cons call calls ih => exact ih (step_fileHolds K X E hcbc hwallet hpass hs call)

/-! ## Every session a wallet can reach -/

section Reachable

variable (C : Collaborators) (throws : InitCall → Bool)

/-- The sessions of a wallet object: the one a creation function just built, whose members
    write the wallet it saved; the one `openWallet` just read, whose members write what the
    file held; and any call after either. -/
inductive Reachable : Session R S → Prop
  | created {fs fs' : FileSystem} {checks : Except Error (KeySet × Nat × Bool)} {salt : Salt}
      {error : Error} {keys : KeySet} {b : Backend R S} :
      createFrom K X C throws fs b.filename b.password salt.bytes checks =
        (.built error keys (b.wallet E.rescan), fs') →
      Reachable ⟨b, fs', checkpointOf E b⟩
  | opened {fs : FileSystem} {b : Backend R S} :
      openWallet K X fs b.filename b.password =
        .ok ⟨E.rescan.subWalletsJSON b.state.subWallets,
          E.rescan.synchronizerJSON b.state.walletSynchronizer⟩ →
      Reachable ⟨b, fs, checkpointOf E b⟩
  | step {s : Session R S} (call : Call R S) : Reachable s → Reachable (s.step K X E call)

/-- **Every reachable session's file holds its last successful save.**  For a wallet that
    any creation function built or `openWallet` read, after any sequence of calls and
    synchronizer steps, the file opens under the password of the last save that succeeded
    to exactly what that save wrote (for a cipher whose decryption inverts its encryption,
    and ASCII identifiers). -/
theorem reachable_fileHolds
    (hcbc : ∀ k iv m, X.cbcDecrypt k iv (X.cbcEncrypt k iv m) = some m)
    (hwallet : IsAscii K.isAWalletIdentifier) (hpass : IsAscii K.isCorrectPasswordIdentifier)
    {s : Session R S} (h : Reachable K X E C throws s) : s.FileHolds K X := by
  induction h with
  | @created _ _ _ salt _ _ _ hbuilt =>
    obtain ⟨-, -, -, hfile⟩ := createFrom_built_file K X C throws hbuilt
    rw [Session.FileHolds, openWallet, readFile_of_file hfile]
    exact loadWalletFile_unsafeToJSON K X hcbc hwallet hpass salt.length_eq _ _ _
  | opened hopened => exact hopened
  | step call _ ih => exact step_fileHolds K X E hcbc hwallet hpass ih call

end Reachable

/-- The registry of block heights, the synchronizer at its height, and checks that pass. -/
def sampleObjects : Objects (List Nat) Nat :=
  ⟨heightRegistry, heightSynchronizer, heightRescan, fun _ => .success, fun _ => .success,
    fun _ _ => .success, fun r => ((.success, "", [], r.length), r), fun _ r => (.success, r)⟩

/-- Sixteen bytes of 7. -/
def sampleSalt : Salt := ⟨List.replicate 16 7, List.length_replicate 16 7⟩

/-- `heightBackend` just saved over `savedWallet`'s file. -/
def sampleSession : Session (List Nat) Nat :=
  ⟨heightBackend,
    (WalletBackend.save sampleConstants sampleCrypto (heightBackend.wallet heightRescan)
      savedWallet.2 sampleSalt.bytes).2,
    checkpointOf sampleObjects heightBackend⟩

/-- A password change, a synchronizer step, and an import from height 7 by index. -/
def sampleCalls : List (Call (List Nat) Nat) :=
  [.changePassword (ascii "new") sampleSalt,
    .synchronize fun st => ⟨st.subWallets ++ [25], 30⟩,
    .importSubWalletIndex 0 7]

/-- The sample session begins with its file holding what it saved. -/
theorem sampleSession_fileHolds : sampleSession.FileHolds sampleConstants sampleCrypto := by
  have hsave : WalletBackend.save sampleConstants sampleCrypto (heightBackend.wallet heightRescan)
      savedWallet.2 sampleSalt.bytes = (.success, sampleSession.fs) := Prod.ext rfl rfl
  exact openWallet_save sampleConstants sampleCrypto (fun _ _ _ => rfl) (by decide) (by decide)
    sampleSalt.length_eq
    (readable_of_readFile (show readFile savedWallet.2 "wallet.wallet" = some [1] from rfl)) hsave

/-- After `sampleCalls` the file opens under the new password to the members the password
    change saved, though the import has since emptied the registry and restarted the
    synchronizer at 7. -/
theorem run_fileHolds_sample :
    openWallet sampleConstants sampleCrypto
        (sampleSession.run sampleConstants sampleCrypto sampleObjects sampleCalls).fs
        "wallet.wallet" (ascii "new") =
      .ok ⟨[(ascii "tx", .uint64 5), (ascii "tx", .uint64 12)], [(ascii "height", .uint64 20)]⟩ ∧
    (sampleSession.run sampleConstants sampleCrypto sampleObjects sampleCalls).backend.state =
      ⟨[], 7⟩ :=
  ⟨(run_fileHolds sampleConstants sampleCrypto sampleObjects (fun _ _ _ => rfl) (by decide)
    (by decide) sampleSession_fileHolds sampleCalls).1, rfl⟩

/-- The opened sample session, after its password change, is reachable: its file holds what
    the change saved. -/
theorem reachable_fileHolds_sample :
    (sampleSession.step sampleConstants sampleCrypto sampleObjects
      (.changePassword (ascii "new") sampleSalt)).FileHolds sampleConstants sampleCrypto :=
  reachable_fileHolds sampleConstants sampleCrypto sampleObjects sampleCollaborators
    (fun _ => false) (fun _ _ _ => rfl) (by decide) (by decide)
    (.step _ (.opened sampleSession_fileHolds))

end WalletSession
