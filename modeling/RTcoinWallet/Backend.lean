import RTcoinWallet.Codec
import RTcoinWallet.FileSystem

/-! # Saving the wallet, and changing its password

    `save()` (`WalletBackend.cpp`) pauses the synchronizer and runs `unsafeSave()`, which
    writes `saveWalletJSONToDisk(unsafeToJSON(), m_filename, m_password)`: the wallet
    identifier, a fresh salt and the encrypted container, through an `std::ofstream`.
    The pause is a concurrency guard and is not modelled; the salt `Random::randomBytes`
    draws is a parameter of each save.

    The stream is modelled on a device that takes every byte written to it; what a device
    that takes fewer leaves is `saveWalletJSONToDiskAccepting`.

    `changePassword` assigns `m_password` before it saves and keeps the new password when
    the save fails; when the new password equals the current one it returns `success`
    without saving, and otherwise it returns what `save()` returns (`changePassword_spec`). -/

namespace WalletBackend

open WalletErrors RapidJson WalletCodec WalletFiles

variable (K : WalletConstants) (X : WalletCrypto)

/-- The members of a `WalletBackend` that `save()` reads and `changePassword` writes. -/
structure Wallet where
  filename : Path
  password : Bytes
  /-- What `m_subWallets->toJSON` writes. -/
  subWallets : List (Bytes × JValue)
  /-- What `m_walletSynchronizer->toJSON` writes. -/
  walletSynchronizer : List (Bytes × JValue)

/-- `WalletBackend::saveWalletJSONToDisk`, with the salt the random generator drew, on a
    device that takes every byte written to the stream.  The code checks only that the
    stream opened; a device that takes fewer bytes is `saveWalletJSONToDiskAccepting`. -/
def saveWalletJSONToDisk (fs : FileSystem) (walletJSON : Bytes) (filename : Path)
    (password salt : Bytes) : Error × FileSystem :=
  match ofstreamWrite fs filename (walletFileBytes K X walletJSON password salt) with
  | none => (.invalidWalletFilename, fs)
  | some written => (.success, written)

/-- `WalletBackend::saveWalletJSONToDisk` on a device that takes only the first `accepted`
    bytes written to the stream (a full disk, an I/O error): the three `std::copy`s into the
    stream are not checked, and neither is the stream after them. -/
def saveWalletJSONToDiskAccepting (accepted : Nat) (fs : FileSystem) (walletJSON : Bytes)
    (filename : Path) (password salt : Bytes) : Error × FileSystem :=
  match ofstreamWrite fs filename ((walletFileBytes K X walletJSON password salt).take accepted) with
  | none => (.invalidWalletFilename, fs)
  | some written => (.success, written)

/-- A device that takes every byte is the one `saveWalletJSONToDisk` writes to. -/
theorem saveWalletJSONToDiskAccepting_of_le {accepted : Nat} {fs : FileSystem}
    {walletJSON : Bytes} {filename : Path} {password salt : Bytes}
    (h : (walletFileBytes K X walletJSON password salt).length ≤ accepted) :
    saveWalletJSONToDiskAccepting K X accepted fs walletJSON filename password salt =
      saveWalletJSONToDisk K X fs walletJSON filename password salt := by
  rw [saveWalletJSONToDiskAccepting, List.take_of_length_le h]
  rfl

/-- `WalletBackend::save`, through `unsafeSave`. -/
def save (w : Wallet) (fs : FileSystem) (salt : Bytes) : Error × FileSystem :=
  saveWalletJSONToDisk K X fs (unsafeToJSON K w.subWallets w.walletSynchronizer) w.filename
    w.password salt

/-- `WalletBackend::changePassword`: the error, the wallet and the filesystem after it. -/
def changePassword (w : Wallet) (fs : FileSystem) (salt newPassword : Bytes) :
    Error × Wallet × FileSystem :=
  if w.password = newPassword then (.success, w, fs)
  else
    let w := { w with password := newPassword }
    let (error, fs) := save K X w fs salt
    (error, w, fs)

/-- A save either writes the encoded wallet to the file `filename` leads to, or fails
with `invalidWalletFilename` and writes nothing. -/
theorem saveWalletJSONToDisk_spec (fs : FileSystem) (walletJSON : Bytes) (filename : Path)
    (password salt : Bytes) :
    saveWalletJSONToDisk K X fs walletJSON filename password salt =
        (.invalidWalletFilename, fs) ∨
      ∃ q, resolve fs symlinkLimit filename = some q ∧ ∃ r w,
        saveWalletJSONToDisk K X fs walletJSON filename password salt =
          (.success, fs.write q (.file (walletFileBytes K X walletJSON password salt) r w)) := by
  unfold saveWalletJSONToDisk
  split
  · exact .inl rfl
  · next written h =>
    obtain ⟨q, hq, r, w, rfl⟩ := ofstreamWrite_eq_some h
    exact .inr ⟨q, hq, r, w, rfl⟩

/-- Onto a name with no entry, in a directory that allows it, the save succeeds and creates
a readable file holding the encoded wallet. -/
theorem saveWalletJSONToDisk_of_absent {fs : FileSystem} {filename : Path}
    (h : fs.entries filename = none) (hw : fs.dirWritable filename = true)
    (walletJSON password salt : Bytes) :
    saveWalletJSONToDisk K X fs walletJSON filename password salt =
      (.success,
        fs.write filename (.file (walletFileBytes K X walletJSON password salt) true true)) := by
  rw [saveWalletJSONToDisk, ofstreamWrite_of_absent h hw]

/-- **What `changePassword` does.**  The new password is kept whatever happens.  When it
    equals the current one the call succeeds and writes nothing.  Otherwise the call returns
    what `save()` under the new password returns: `invalidWalletFilename`, the filesystem
    unchanged, when the stream on `m_filename` does not open; `success` when it does, having
    written the wallet identifier, the salt and the container encrypted under the new
    password to the file `m_filename` leads to. -/
theorem changePassword_spec (w : Wallet) (fs : FileSystem) (salt newPassword : Bytes) :
    let result := changePassword K X w fs salt newPassword
    let file := walletFileBytes K X (unsafeToJSON K w.subWallets w.walletSynchronizer)
      newPassword salt
    result.2.1 = { w with password := newPassword } ∧
    (w.password = newPassword → result.1 = .success ∧ result.2.2 = fs) ∧
    (w.password ≠ newPassword →
      (result.1, result.2.2) = save K X { w with password := newPassword } fs salt ∧
      (ofstreamWrite fs w.filename file = none →
        result.1 = .invalidWalletFilename ∧ result.2.2 = fs) ∧
      ∀ written, ofstreamWrite fs w.filename file = some written →
        result.1 = .success ∧ result.2.2 = written ∧
        ∃ q, resolve fs symlinkLimit w.filename = some q ∧ ∃ r wr,
          written = fs.write q (.file file r wr)) := by
  dsimp only
  by_cases hp : w.password = newPassword
  · have hrun : changePassword K X w fs salt newPassword = (.success, w, fs) := if_pos hp
    rw [hrun]
    exact ⟨by rw [← hp], fun _ => ⟨rfl, rfl⟩, fun h => absurd hp h⟩
  · have hrun : changePassword K X w fs salt newPassword =
        ((save K X { w with password := newPassword } fs salt).1,
          { w with password := newPassword },
          (save K X { w with password := newPassword } fs salt).2) := if_neg hp
    rw [hrun]
    refine ⟨rfl, fun h => absurd h hp, fun _ => ⟨rfl, fun hnone => ?_, fun written hw => ?_⟩⟩
    · simp only [save, saveWalletJSONToDisk, hnone, and_self]
    · simp only [save, saveWalletJSONToDisk, hw, true_and]
      exact ofstreamWrite_eq_some hw

/-- A wallet whose file lives in a directory the caller cannot write. -/
def readOnlyDirWallet : Wallet × FileSystem :=
  (⟨"wallet.wallet", ascii "old", [], []⟩, ⟨fun _ => none, fun _ => false⟩)

/-- Changing the password of `readOnlyDirWallet` fails to save and still replaces the
    password. -/
theorem changePassword_failed_save_keeps_new :
    (changePassword sampleConstants sampleCrypto readOnlyDirWallet.1 readOnlyDirWallet.2
        (List.replicate 16 7) (ascii "new")).1 = .invalidWalletFilename ∧
    (changePassword sampleConstants sampleCrypto readOnlyDirWallet.1 readOnlyDirWallet.2
        (List.replicate 16 7) (ascii "new")).2.1.password ≠ readOnlyDirWallet.1.password := by
  decide

end WalletBackend
