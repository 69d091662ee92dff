import Mathlib.Logic.Function.Basic
import RTcoinWallet.Errors

/-! # The prepared-transaction cache

    `sendTransactionBasic` and `sendTransactionAdvanced` (`WalletBackend.cpp`), asked not to
    send, cache the transaction the transfer code prepared under the hash it returned;
    `sendPreparedTransaction(hash)` looks the hash up, hands the cached transaction to the
    transfer code, and on success or expiry calls `removePreparedTransaction` with the
    cached transaction's own `transactionHash` field; `removePreparedTransaction` erases a
    key.  The transfer code (`SendTransaction`) is not in the sources: what it returns is a
    parameter of each call.

    * `sendPreparedTransaction_keeps_key` — when the cached transaction's hash is not its
      key, a successful send erases that hash and leaves the key it looked up in the cache;
    * `keyedByOwnHash_run` — every entry is cached under its own hash after any sequence
      of calls, as long as the transfer code returns, with each prepared transaction, the
      hash of that transaction; under it a successful or expired send removes exactly the
      key it was given (`sendPreparedTransaction_of_keyedByOwnHash`). -/

namespace PreparedCache

open WalletErrors

/-- A transaction hash (`Crypto::Hash`). -/
abbrev Hash := Bytes

/-- `Crypto::Hash()`: 32 zero bytes. -/
def nullHash : Hash := List.replicate 32 0

/-- `WalletTypes::PreparedTransactionInfo`, as far as the backend reads it. -/
structure PreparedTransactionInfo where
  transactionHash : Hash
  deriving DecidableEq, Repr

/-- `m_preparedTransactions`: an `std::unordered_map` from hashes. -/
abbrev Cache := Hash → Option PreparedTransactionInfo

/-- The empty cache a new `WalletBackend` starts with. -/
def emptyCache : Cache := fun _ => none

/-- `WalletBackend::removePreparedTransaction`: whether `erase` removed an entry, and the
    cache after it. -/
def removePreparedTransaction (m : Cache) (transactionHash : Hash) : Bool × Cache :=
  ((m transactionHash).isSome, Function.update m transactionHash none)

/-- `WalletBackend::sendPreparedTransaction`, where `send` is what
    `SendTransaction::sendPreparedTransaction` returns for a prepared transaction. -/
def sendPreparedTransaction (send : PreparedTransactionInfo → Error × Hash) (m : Cache)
    (transactionHash : Hash) : (Error × Hash) × Cache :=
  match m transactionHash with
  | none => ((.preparedTransactionNotFound, nullHash), m)
  | some preparedTransaction =>
    let (error, hash) := send preparedTransaction
    if error = .preparedTransactionExpired ∨ error = .success then
      ((error, hash), (removePreparedTransaction m preparedTransaction.transactionHash).2)
    else ((error, hash), m)

/-- The body `sendTransactionBasic` and `sendTransactionAdvanced` share: the transfer
    code's `result` is returned, and its prepared transaction cached under its hash when
    the transaction was not to be sent and was prepared without error. -/
def cachePrepared (sendTransaction : Bool) (result : Error × Hash × PreparedTransactionInfo)
    (m : Cache) : (Error × Hash × PreparedTransactionInfo) × Cache :=
  if !sendTransaction ∧ result.1 = .success then
    (result, Function.update m result.2.1 (some result.2.2))
  else (result, m)

/-- `WalletBackend::sendTransactionBasic`, where `result` is what
    `SendTransaction::sendTransactionBasic` returned. -/
def sendTransactionBasic (sendTransaction : Bool) (result : Error × Hash × PreparedTransactionInfo)
    (m : Cache) : (Error × Hash × PreparedTransactionInfo) × Cache :=
  cachePrepared sendTransaction result m

/-- `WalletBackend::sendTransactionAdvanced`, where `result` is what
    `SendTransaction::sendTransactionAdvanced` returned. -/
def sendTransactionAdvanced (sendTransaction : Bool)
    (result : Error × Hash × PreparedTransactionInfo) (m : Cache) :
    (Error × Hash × PreparedTransactionInfo) × Cache :=
  cachePrepared sendTransaction result m

/-- `WalletBackend::sendFusionTransactionBasic`: the transfer code's result. -/
def sendFusionTransactionBasic (result : Error × Hash) (m : Cache) : (Error × Hash) × Cache :=
  (result, m)

/-- `WalletBackend::sendFusionTransactionAdvanced`: the transfer code's result. -/
def sendFusionTransactionAdvanced (result : Error × Hash) (m : Cache) : (Error × Hash) × Cache :=
  (result, m)

-- ── Transitions ──

theorem cachePrepared_cache (sendTransaction : Bool)
    (result : Error × Hash × PreparedTransactionInfo) (m : Cache) :
    (cachePrepared sendTransaction result m).2 =
      if !sendTransaction ∧ result.1 = .success then Function.update m result.2.1 (some result.2.2)
      else m := by
  unfold cachePrepared
  split_ifs <;> rfl

theorem sendPreparedTransaction_of_none {send : PreparedTransactionInfo → Error × Hash}
    {m : Cache} {transactionHash : Hash} (h : m transactionHash = none) :
    sendPreparedTransaction send m transactionHash =
      ((.preparedTransactionNotFound, nullHash), m) := by
  simp [sendPreparedTransaction, h]

theorem sendPreparedTransaction_of_some {send : PreparedTransactionInfo → Error × Hash}
    {m : Cache} {transactionHash : Hash} {preparedTransaction : PreparedTransactionInfo}
    (h : m transactionHash = some preparedTransaction) :
    sendPreparedTransaction send m transactionHash =
      (send preparedTransaction,
        if (send preparedTransaction).1 = .preparedTransactionExpired ∨
            (send preparedTransaction).1 = .success
        then Function.update m preparedTransaction.transactionHash none else m) := by
  simp only [sendPreparedTransaction, h, removePreparedTransaction]
  split_ifs <;> rfl

/-- A cache whose only entry, under `[1]`, is a transaction whose own hash is `[2]`. -/
def mismatchedCache : Cache := fun h => if h = [1] then some ⟨[2]⟩ else none

/-- A successful send of the entry under `[1]` of `mismatchedCache` erases `[2]` and
    leaves `[1]` in the cache. -/
theorem sendPreparedTransaction_keeps_key :
    (sendPreparedTransaction (fun _ => (.success, [2])) mismatchedCache [1]).1.1 = .success ∧
    (sendPreparedTransaction (fun _ => (.success, [2])) mismatchedCache [1]).2 [1] =
      some ⟨[2]⟩ := by
  decide

-- ── Entries cached under their own hash ──

/-- Every entry is cached under its own `transactionHash`. -/
def KeyedByOwnHash (m : Cache) : Prop :=
  ∀ h preparedTransaction, m h = some preparedTransaction → preparedTransaction.transactionHash = h

/-- The transfer code's result names the hash of the transaction it prepared. -/
def Consistent (result : Error × Hash × PreparedTransactionInfo) : Prop :=
  result.2.2.transactionHash = result.2.1

theorem keyedByOwnHash_emptyCache : KeyedByOwnHash emptyCache := fun _ _ h => by cases h

theorem keyedByOwnHash_erase {m : Cache} (hm : KeyedByOwnHash m) (h : Hash) :
    KeyedByOwnHash (Function.update m h none) := by
  intro k pt hk
  by_cases hkh : k = h
  · subst hkh; simp at hk
  · rw [Function.update_noteq hkh] at hk
    exact hm k pt hk

theorem keyedByOwnHash_cachePrepared {m : Cache} (hm : KeyedByOwnHash m)
    (sendTransaction : Bool) {result : Error × Hash × PreparedTransactionInfo}
    (hc : Consistent result) : KeyedByOwnHash (cachePrepared sendTransaction result m).2 := by
  rw [cachePrepared_cache]
  split_ifs
  · intro k pt hk
    by_cases hkh : k = result.2.1
    · subst hkh; simp only [Function.update_same, Option.some.injEq] at hk; exact hk ▸ hc
    · rw [Function.update_noteq hkh] at hk
      exact hm k pt hk
  · exact hm

theorem keyedByOwnHash_sendPreparedTransaction {m : Cache} (hm : KeyedByOwnHash m)
    (send : PreparedTransactionInfo → Error × Hash) (transactionHash : Hash) :
    KeyedByOwnHash (sendPreparedTransaction send m transactionHash).2 := by
  cases hh : m transactionHash with
  | none => rw [sendPreparedTransaction_of_none hh]; exact hm
  | some pt =>
    rw [sendPreparedTransaction_of_some hh]
    split_ifs
    · exact keyedByOwnHash_erase hm _
    · exact hm

/-- **With entries under their own hash, a successful or expired send consumes exactly the
    key it was given.** -/
theorem sendPreparedTransaction_of_keyedByOwnHash {m : Cache} (hm : KeyedByOwnHash m)
    {send : PreparedTransactionInfo → Error × Hash} {transactionHash : Hash}
    {preparedTransaction : PreparedTransactionInfo}
    (h : m transactionHash = some preparedTransaction)
    (hs : (send preparedTransaction).1 = .success ∨
      (send preparedTransaction).1 = .preparedTransactionExpired) :
    (sendPreparedTransaction send m transactionHash).2 = Function.update m transactionHash none := by
  rw [sendPreparedTransaction_of_some h, if_pos (Or.comm.mp hs), hm _ _ h]

/-- A call on the cache, with what the transfer code returned to it. -/
inductive Call where
  | sendTransactionBasic (sendTransaction : Bool) (result : Error × Hash × PreparedTransactionInfo)
  | sendTransactionAdvanced (sendTransaction : Bool)
      (result : Error × Hash × PreparedTransactionInfo)
  | sendPreparedTransaction (send : PreparedTransactionInfo → Error × Hash) (transactionHash : Hash)
  | removePreparedTransaction (transactionHash : Hash)
  | sendFusionTransactionBasic (result : Error × Hash)
  | sendFusionTransactionAdvanced (result : Error × Hash)

/-- The cache after a call. -/
def Call.apply : Call → Cache → Cache
  | .sendTransactionBasic sendTransaction result, m =>
    (PreparedCache.sendTransactionBasic sendTransaction result m).2
  | .sendTransactionAdvanced sendTransaction result, m =>
    (PreparedCache.sendTransactionAdvanced sendTransaction result m).2
  | .sendPreparedTransaction send transactionHash, m =>
    (PreparedCache.sendPreparedTransaction send m transactionHash).2
  | .removePreparedTransaction transactionHash, m =>
    (PreparedCache.removePreparedTransaction m transactionHash).2
  | .sendFusionTransactionBasic result, m => (PreparedCache.sendFusionTransactionBasic result m).2
  | .sendFusionTransactionAdvanced result, m =>
    (PreparedCache.sendFusionTransactionAdvanced result m).2

/-- The transfer code returned, with each prepared transaction, that transaction's hash. -/
def Call.Consistent : Call → Prop
  | .sendTransactionBasic _ result => PreparedCache.Consistent result
  | .sendTransactionAdvanced _ result => PreparedCache.Consistent result
  | _ => True

theorem keyedByOwnHash_apply {m : Cache} (hm : KeyedByOwnHash m) :
    ∀ {call : Call}, call.Consistent → KeyedByOwnHash (call.apply m)
  | .sendTransactionBasic _ _, hc => keyedByOwnHash_cachePrepared hm _ hc
  | .sendTransactionAdvanced _ _, hc => keyedByOwnHash_cachePrepared hm _ hc
  | .sendPreparedTransaction _ _, _ => keyedByOwnHash_sendPreparedTransaction hm _ _
  | .removePreparedTransaction _, _ => keyedByOwnHash_erase hm _
  | .sendFusionTransactionBasic _, _ => hm
  | .sendFusionTransactionAdvanced _, _ => hm

/-- **Every entry stays under its own hash** through any sequence of calls whose transfer
    results are consistent, from the empty cache. -/
theorem keyedByOwnHash_run :
    ∀ (calls : List Call), (∀ call ∈ calls, call.Consistent) →
      KeyedByOwnHash (calls.foldl (fun m call => call.apply m) emptyCache) := by
  intro calls hcalls
  suffices ∀ m, KeyedByOwnHash m → KeyedByOwnHash (calls.foldl (fun m call => call.apply m) m) from
    this _ keyedByOwnHash_emptyCache
  induction calls with
  | nil => exact fun _ hm => hm
  | cons call calls ih =>
    intro m hm
    exact ih (fun c hc => hcalls c (List.mem_cons_of_mem _ hc)) _
      (keyedByOwnHash_apply hm (hcalls call (List.mem_cons_self _ _)))

/-- A deferred prepare of `[1]`, an advanced transfer of `[2]` sent at once, then a remove
    of `[1]`. -/
theorem keyedByOwnHash_run_prepare_remove :
    KeyedByOwnHash ([Call.sendTransactionBasic false (.success, [1], ⟨[1]⟩),
      .sendTransactionAdvanced true (.success, [2], ⟨[2]⟩), .removePreparedTransaction [1]].foldl
        (fun m call => call.apply m) emptyCache) :=
  keyedByOwnHash_run _ (by simp [Call.Consistent, Consistent])

end PreparedCache
