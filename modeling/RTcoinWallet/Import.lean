import RTcoinWallet.Keys

/-! # Importing a sub-wallet, and re-scanning from its height

    The three import paths of `WalletBackend.cpp` — `importSubWallet(privateSpendKey, H)`,
    `importSubWallet(walletIndex, H)` and `importViewSubWallet(publicSpendKey, H)` — share
    one body, run with the synchronizer paused: insert the sub-wallet into the registry
    and, when that succeeds and the synchronizer has scanned to `H` or past it, restart
    the synchronizer at `H` and roll the registry back.  They differ in their validation
    and in the roll-back: the private-key path calls `m_subWallets->rewind(H)`, the other
    two `m_subWallets->reset(H)`.

    The registry (`SubWallets`) and the synchronizer are not in the sources; their
    operations are the fields of `SubWalletsOps` and `SynchronizerOps`.

    * `importGuarded_rewind_eq_reset_iff` — two paths that insert alike end in the same
      state exactly when the registry's `rewind` and `reset` agree on the registry the
      insertion left;
    * `importSubWalletIndex_drops_history` — with a registry whose `reset` empties it, the
      index path loses a transaction below `H` that the private-key path keeps. -/

namespace WalletImport

open WalletErrors WalletKeys

variable {R S : Type}

/-- The registry operations the import paths call. -/
structure SubWalletsOps (R : Type) where
  /-- `m_subWallets->importSubWallet(privateSpendKey, scanHeight)`. -/
  importSubWallet : SecretKey → Nat → R → Error × String × R
  /-- `m_subWallets->importSubWallet(walletIndex, scanHeight)`. -/
  importSubWalletIndex : Nat → Nat → R → Error × String × R
  /-- `m_subWallets->importViewSubWallet(publicSpendKey, scanHeight)`. -/
  importViewSubWallet : PublicKey → Nat → R → Error × String × R
  reset : Nat → R → R
  rewind : Nat → R → R

/-- The synchronizer operations the import paths call. -/
structure SynchronizerOps (S : Type) where
  getCurrentScanHeight : S → Nat
  reset : Nat → S → S

/-- The registry and the synchronizer of a `WalletBackend`. -/
structure State (R S : Type) where
  subWallets : R
  walletSynchronizer : S

variable (W : SubWalletsOps R) (Y : SynchronizerOps S)

/-- The body the three import paths run with the synchronizer paused: insert through
    `insert`, then restart the synchronizer at `scanHeight` and roll the registry back with
    `rollBack` when the insertion succeeded and the synchronizer is at `scanHeight` or
    past it. -/
def importGuarded (insert : R → Error × String × R) (rollBack : Nat → R → R)
    (scanHeight : Nat) (st : State R S) : (Error × String) × State R S :=
  let inserted := insert st.subWallets
  if inserted.1 = .success then
    let currentHeight := Y.getCurrentScanHeight st.walletSynchronizer
    if currentHeight ≥ scanHeight then
      ((inserted.1, inserted.2.1),
        ⟨rollBack scanHeight inserted.2.2, Y.reset scanHeight st.walletSynchronizer⟩)
    else ((inserted.1, inserted.2.1), ⟨inserted.2.2, st.walletSynchronizer⟩)
  else ((inserted.1, inserted.2.1), ⟨inserted.2.2, st.walletSynchronizer⟩)

/-- `WalletBackend::importSubWallet(privateSpendKey, scanHeight)`. -/
def importSubWallet (validatePrivateKey : SecretKey → Error) (privateSpendKey : SecretKey)
    (scanHeight : Nat) (st : State R S) : (Error × String) × State R S :=
  let error := validatePrivateKey privateSpendKey
  if error ≠ .success then ((error, ""), st)
  else importGuarded Y (W.importSubWallet privateSpendKey scanHeight) W.rewind scanHeight st

/-- `WalletBackend::importSubWallet(walletIndex, scanHeight)`. -/
def importSubWalletIndex (walletIndex scanHeight : Nat) (st : State R S) :
    (Error × String) × State R S :=
  importGuarded Y (W.importSubWalletIndex walletIndex scanHeight) W.reset scanHeight st

/-- `WalletBackend::importViewSubWallet(publicSpendKey, scanHeight)`. -/
def importViewSubWallet (validatePublicKey : PublicKey → Error) (publicSpendKey : PublicKey)
    (scanHeight : Nat) (st : State R S) : (Error × String) × State R S :=
  let error := validatePublicKey publicSpendKey
  if error ≠ .success then ((error, ""), st)
  else importGuarded Y (W.importViewSubWallet publicSpendKey scanHeight) W.reset scanHeight st

/-- **The roll-back is the only difference.**  Two import paths whose insertions leave the
    same result end in the same state exactly when, if the insertion succeeded with the
    synchronizer at `scanHeight` or past it, the registry's `rewind` and `reset` agree on
    the registry the insertion left. -/
theorem importGuarded_rewind_eq_reset_iff {insert₁ insert₂ : R → Error × String × R}
    {st : State R S} (h : insert₁ st.subWallets = insert₂ st.subWallets) (scanHeight : Nat) :
    importGuarded Y insert₁ W.rewind scanHeight st =
        importGuarded Y insert₂ W.reset scanHeight st ↔
      ((insert₁ st.subWallets).1 = .success →
        scanHeight ≤ Y.getCurrentScanHeight st.walletSynchronizer →
        W.rewind scanHeight (insert₁ st.subWallets).2.2 =
          W.reset scanHeight (insert₁ st.subWallets).2.2) := by
  unfold importGuarded
  rw [← h]
  by_cases he : (insert₁ st.subWallets).1 = .success <;>
    by_cases hc : scanHeight ≤ Y.getCurrentScanHeight st.walletSynchronizer <;>
    simp [he, hc]

/-! ## A registry of block heights -/

/-- Modelled from the spec: `SubWallets::rewind` and `SubWallets::reset` are not in the
    sources.  The registry is reduced to the block heights of the transactions and inputs
    it holds and insertion always succeeds; `rewind H` drops what is at `H` or above and
    keeps the history below (the spec's re-scan-on-import), `reset H` empties it, as the
    comments of `WalletBackend::reset` ("Empty the sync status", "Reset transactions,
    inputs, etc") describe. -/
def heightRegistry : SubWalletsOps (List Nat) where
  importSubWallet _ _ r := (.success, "", r)
  importSubWalletIndex _ _ r := (.success, "", r)
  importViewSubWallet _ _ r := (.success, "", r)
  reset _ _ := []
  rewind scanHeight r := r.filter (· < scanHeight)

/-- Modelled from the spec: the synchronizer reduced to its scan height; `reset H` restarts
    it at exactly `H`. -/
def heightSynchronizer : SynchronizerOps Nat := ⟨id, fun scanHeight _ => scanHeight⟩

/-- On `heightRegistry` the private-key and index paths insert alike and end apart. -/
theorem importGuarded_heightRegistry_ne :
    importGuarded heightSynchronizer (heightRegistry.importSubWallet nullKey 7)
        heightRegistry.rewind 7 ⟨[5], 10⟩ ≠
      importGuarded heightSynchronizer (heightRegistry.importSubWalletIndex 0 7)
        heightRegistry.reset 7 ⟨[5], 10⟩ := fun h =>
  absurd ((importGuarded_rewind_eq_reset_iff heightRegistry heightSynchronizer rfl 7).mp h rfl
    (by decide)) (by decide)

/-- A registry holding a transaction at height 5, synchronized to height 10, importing a
    sub-wallet from height 7: the index path drops the transaction at height 5, the
    private-key path keeps it. -/
theorem importSubWalletIndex_drops_history :
    (importSubWalletIndex heightRegistry heightSynchronizer 0 7 ⟨[5], 10⟩).2 = ⟨[], 7⟩ ∧
    (importSubWallet heightRegistry heightSynchronizer (fun _ => .success) nullKey 7
      ⟨[5], 10⟩).2 = ⟨[5], 7⟩ :=
  ⟨rfl, rfl⟩

end WalletImport
