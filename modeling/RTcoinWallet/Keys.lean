import RTcoinWallet.FileSystem

/-! # Exporting a mnemonic seed, and importing a wallet from one

    `getMnemonicSeedForAddress` (`WalletBackend.cpp`) looks up the private spend key of
    an address, re-derives the private view key from it, and refuses with
    `keysNotDeterministic` unless that is the container's view key; otherwise it encodes
    the spend key as a mnemonic.  `importWalletFromSeed` decodes a mnemonic back to a
    spend key, derives the view key the same way, validates it, and builds the wallet
    from the two keys.

    The key arithmetic, the address codec and the mnemonic word list are not in the
    sources: they are the fields of `KeyPrimitives`, and the registry's key queries those
    of `Container`.

    * `importWalletFromSeed_getMnemonicSeedForAddress` — an exported seed imports to the
      same spend key and the container's view key, provided the mnemonic codec inverts
      and `validatePrivateKey` accepts that view key;
    * `importWalletFromSeed_rejects_view_key` — without the second proviso the import
      can fail at its view-key check. -/

namespace WalletKeys

open WalletErrors WalletFiles

/-- A private key (`Crypto::SecretKey`). -/
abbrev SecretKey := Bytes

/-- A public key (`Crypto::PublicKey`). -/
abbrev PublicKey := Bytes

/-- `Crypto::SecretKey()` and `Crypto::PublicKey()`: 32 zero bytes. -/
def nullKey : Bytes := List.replicate 32 0

/-- The primitives the key functions call. -/
structure KeyPrimitives where
  /-- `validateAddresses({address}, false)`. -/
  validateAddress : String → Error
  /-- `Utilities::addressToKeys`: the public spend and view keys. -/
  addressToKeys : String → PublicKey × PublicKey
  /-- `Crypto::crypto_ops::generateViewFromSpend`. -/
  generateViewFromSpend : SecretKey → SecretKey
  /-- `Mnemonics::PrivateKeyToMnemonic`. -/
  privateKeyToMnemonic : SecretKey → String
  /-- `Mnemonics::MnemonicToPrivateKey`: an error, and the key. -/
  mnemonicToPrivateKey : String → Error × SecretKey
  /-- `validatePrivateKey`. -/
  validatePrivateKey : SecretKey → Error

/-- The registry's key queries. -/
structure Container where
  /-- `m_subWallets->getPrivateViewKey()`. -/
  privateViewKey : SecretKey
  /-- `m_subWallets->getPrivateSpendKey(publicSpendKey)`: an error, the key, the
  wallet index. -/
  getPrivateSpendKey : PublicKey → Error × SecretKey × Nat

variable (P : KeyPrimitives) (c : Container)

/-- `WalletBackend::getSpendKeys`. -/
def getSpendKeys (address : String) : Error × PublicKey × SecretKey × Nat :=
  let error := P.validateAddress address
  if error ≠ .success then (error, nullKey, nullKey, 0)
  else
    let publicSpendKey := (P.addressToKeys address).1
    ((c.getPrivateSpendKey publicSpendKey).1, publicSpendKey,
      (c.getPrivateSpendKey publicSpendKey).2)

/-- `WalletBackend::getMnemonicSeedForAddress`. -/
def getMnemonicSeedForAddress (address : String) : Error × String :=
  let error := P.validateAddress address
  if error ≠ .success then (error, "")
  else
    let privateViewKey := c.privateViewKey
    let spendKeys := getSpendKeys P c address
    let privateSpendKey := spendKeys.2.2.1
    if spendKeys.1 ≠ .success then (spendKeys.1, "")
    else
      let derivedPrivateViewKey := P.generateViewFromSpend privateSpendKey
      if derivedPrivateViewKey ≠ privateViewKey then (.keysNotDeterministic, "")
      else (.success, P.privateKeyToMnemonic privateSpendKey)

/-- `WalletBackend::importWalletFromSeed` up to the constructor: the error it returns
    (`none` when `fs::remove` threw), or the private spend and view keys it builds the
    wallet from. -/
def importWalletFromSeed (fs : FileSystem) (mnemonicSeed : String) (filename : Path) :
    Except (Option Error) (SecretKey × SecretKey) :=
  match (checkNewWalletFilename fs filename).1 with
  | some .success =>
    let (mnemonicError, privateSpendKey) := P.mnemonicToPrivateKey mnemonicSeed
    if mnemonicError ≠ .success then .error (some mnemonicError)
    else
      let privateViewKey := P.generateViewFromSpend privateSpendKey
      let error := P.validatePrivateKey privateViewKey
      if error ≠ .success then .error (some error)
      else .ok (privateSpendKey, privateViewKey)
  | error => .error error

/-- What a successful export saw: the address's spend key was found and re-derives the
    container's view key, and the seed encodes that spend key. -/
theorem getMnemonicSeedForAddress_success {address : String} {mnemonic : String}
    (h : getMnemonicSeedForAddress P c address = (.success, mnemonic)) :
    (getSpendKeys P c address).1 = .success ∧
    P.generateViewFromSpend (getSpendKeys P c address).2.2.1 = c.privateViewKey ∧
    mnemonic = P.privateKeyToMnemonic (getSpendKeys P c address).2.2.1 := by
  simp only [getMnemonicSeedForAddress] at h
  split_ifs at h with hv hs hd
  · exact absurd (Prod.mk.inj h).1 hv
  · exact absurd (Prod.mk.inj h).1 hs
  · cases h
  · cases h
    exact ⟨not_not.mp hs, not_not.mp hd, rfl⟩

/-- An export whose spend key does not re-derive the container's view key is refused. -/
theorem getMnemonicSeedForAddress_keysNotDeterministic {address : String}
    (hkeys : (getSpendKeys P c address).1 = .success)
    (hview : P.generateViewFromSpend (getSpendKeys P c address).2.2.1 ≠ c.privateViewKey) :
    getMnemonicSeedForAddress P c address = (.keysNotDeterministic, "") := by
  have hv : P.validateAddress address = .success := by
    by_contra hv
    simp [getSpendKeys, hv] at hkeys
  simp only [getMnemonicSeedForAddress, hv, ne_eq, not_true_eq_false, if_false]
  rw [if_neg (not_not.mpr hkeys), if_pos hview]

/-- **An exported seed restores the wallet's keys.**  If the export succeeds, the
    address's spend key re-derives the container's view key; and when the mnemonic codec
    inverts and `validatePrivateKey` accepts that view key, importing the seed under any
    new filename the check lets through builds the wallet from exactly that spend key and
    the container's view key.  An address whose spend key does not re-derive the view key
    gets `keysNotDeterministic` and no seed. -/
theorem importWalletFromSeed_getMnemonicSeedForAddress
    (hinverse : ∀ k, P.mnemonicToPrivateKey (P.privateKeyToMnemonic k) = (.success, k))
    (hvalid : P.validatePrivateKey c.privateViewKey = .success)
    (address mnemonic : String) :
    (getMnemonicSeedForAddress P c address = (.success, mnemonic) →
      P.generateViewFromSpend (getSpendKeys P c address).2.2.1 = c.privateViewKey ∧
      ∀ fs filename, (checkNewWalletFilename fs filename).1 = some .success →
        importWalletFromSeed P fs mnemonic filename =
          .ok ((getSpendKeys P c address).2.2.1, c.privateViewKey)) ∧
    ((getSpendKeys P c address).1 = .success →
      P.generateViewFromSpend (getSpendKeys P c address).2.2.1 ≠ c.privateViewKey →
      getMnemonicSeedForAddress P c address = (.keysNotDeterministic, "")) := by
  refine ⟨fun h => ?_, getMnemonicSeedForAddress_keysNotDeterministic P c⟩
  obtain ⟨-, hview, rfl⟩ := getMnemonicSeedForAddress_success P c h
  refine ⟨hview, fun fs filename hcheck => ?_⟩
  simp only [importWalletFromSeed, hcheck, hinverse, ne_eq, not_true_eq_false, if_false, hview,
    hvalid]

/-! ## Sample primitives -/

/-- Sample primitives: the view key is the spend key reversed, a mnemonic spells the key's
    bytes as characters, and a private key is valid when its last byte is below `0x10`. -/
def samplePrimitives : KeyPrimitives where
  validateAddress _ := .success
  addressToKeys _ := ([1], [2])
  generateViewFromSpend k := k.reverse
  privateKeyToMnemonic k := String.mk (k.map fun b => Char.ofNat b.toNat)
  mnemonicToPrivateKey m := (.success, m.data.map fun ch => ch.toNat.toUInt8)
  validatePrivateKey k := if k.getLastD 0 < 0x10 then .success else .other 1

theorem toNat_ofNat_byte (b : UInt8) : (Char.ofNat b.toNat).toNat.toUInt8 = b := by
  have hb : b.toNat < 256 := UInt8.toNat_lt_size b
  have hvalid : b.toNat.isValidChar := Or.inl (by omega)
  simp [Char.ofNat, hvalid, Char.ofNatAux, Char.toNat, UInt32.toNat, BitVec.toNat_ofNatLt,
    UInt8.toUInt8_toNat]

theorem samplePrimitives_inverse (k : SecretKey) :
    samplePrimitives.mnemonicToPrivateKey (samplePrimitives.privateKeyToMnemonic k) =
      (.success, k) := by
  simp only [samplePrimitives, List.map_map, Prod.mk.injEq, true_and]
  exact List.map_id'' toNat_ofNat_byte k

/-- A container whose one sub-wallet has the spend key `[1, 2, 3]`. -/
def sampleContainer : Container := ⟨[3, 2, 1], fun _ => (.success, [1, 2, 3], 0)⟩

/-- A directory in which every new name may be created. -/
def emptyDir : FileSystem := ⟨fun _ => none, fun _ => true⟩

theorem importWalletFromSeed_getMnemonicSeedForAddress_sample :
    getMnemonicSeedForAddress samplePrimitives sampleContainer "addr" =
      (.success, samplePrimitives.privateKeyToMnemonic [1, 2, 3]) ∧
    importWalletFromSeed samplePrimitives emptyDir
      (samplePrimitives.privateKeyToMnemonic [1, 2, 3]) "new.wallet" = .ok ([1, 2, 3], [3, 2, 1]) := by
  have hseed : getMnemonicSeedForAddress samplePrimitives sampleContainer "addr" =
      (.success, samplePrimitives.privateKeyToMnemonic [1, 2, 3]) := rfl
  exact ⟨hseed, ((importWalletFromSeed_getMnemonicSeedForAddress samplePrimitives sampleContainer
    samplePrimitives_inverse rfl "addr" _).1 hseed).2 emptyDir "new.wallet" rfl⟩

/-- A container whose spend key `[0xF0, 2, 3]` derives the view key `[3, 2, 0xF0]`, which
    `validatePrivateKey` rejects. -/
def highContainer : Container := ⟨[3, 2, 0xF0], fun _ => (.success, [0xF0, 2, 3], 0)⟩

/-- The seed `highContainer` exports passes the filename and mnemonic checks of the import
    and fails its view-key check, although the mnemonic codec inverts. -/
theorem importWalletFromSeed_rejects_view_key :
    (∀ k, samplePrimitives.mnemonicToPrivateKey (samplePrimitives.privateKeyToMnemonic k) =
      (.success, k)) ∧
    getMnemonicSeedForAddress samplePrimitives highContainer "addr" =
      (.success, samplePrimitives.privateKeyToMnemonic [0xF0, 2, 3]) ∧
    (checkNewWalletFilename emptyDir "new.wallet").1 = some .success ∧
    importWalletFromSeed samplePrimitives emptyDir
      (samplePrimitives.privateKeyToMnemonic [0xF0, 2, 3]) "new.wallet" = .error (some (.other 1)) :=
  ⟨samplePrimitives_inverse, rfl, rfl, by
    simp only [importWalletFromSeed, show (checkNewWalletFilename emptyDir "new.wallet").1 =
      some .success from rfl, samplePrimitives_inverse]
    rfl⟩

end WalletKeys
