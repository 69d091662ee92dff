import Mathlib.Data.List.Nodup
import RTcoinWallet.PreparedCache

/-! # The prepared-transaction cache under concurrent callers

    Each thread makes one API call.  `sendTransactionBasic` / `sendTransactionAdvanced`
    (not sending) and `sendPreparedTransaction` take `m_transactionMutex` for their whole
    body; `removePreparedTransaction` takes no lock.  The steps of a call are the ones the
    code performs between which another thread can run: taking the lock, the body of a
    prepare, the lookup of a send (which copies the entry), the broadcast, the erase of the
    sent entry, and releasing the lock; an unlocked remove is one step.

    Every insertion makes a new entry, with an identity of its own.  An entry is consumed
    when a `sendPreparedTransaction` call broadcasts it with `success`, or when a
    `removePreparedTransaction` call of the API erases it (returns `true`); the erase
    `sendPreparedTransaction` makes itself is not a consumption.

    * `run_consumes_twice` — a remove between the lookup and the broadcast of a send
      consumes the entry the send then broadcasts;
    * `consumed_nodup_of_quietRemoves` — when prepares cache under the hash of their own
      transaction, a schedule whose removes all run while no call holds the lock consumes
      no entry twice: the double consumption needs the race.  An invariant (`Inv`) is kept
      by every step of a locked call (`inv_transition`, over the inversion lemma
      `step_transition`) and by a remove while the lock is free (`inv_unlockedRemove`). -/

namespace PreparedInterleaving

open WalletErrors PreparedCache

/-- A cached entry: the prepared transaction and the insertion that made it. -/
structure Entry where
  id : Nat
  info : PreparedTransactionInfo
  deriving DecidableEq, Repr

/-- The API call a thread makes, with what the transfer code returns to it. -/
inductive Call where
  /-- `sendTransactionBasic` or `sendTransactionAdvanced`. -/
  | prepare (sendTransaction : Bool) (result : Error × Hash × PreparedTransactionInfo)
  | sendPreparedTransaction (transactionHash : Hash) (send : PreparedTransactionInfo → Error × Hash)
  | removePreparedTransaction (transactionHash : Hash)

/-- Where a thread is in its call. -/
inductive Phase where
  | start
  /-- Holding `m_transactionMutex`, before the body. -/
  | locked
  /-- `sendPreparedTransaction`: the entry it found and copied. -/
  | found (e : Entry)
  /-- `sendPreparedTransaction`: the transfer code has returned for the copied entry. -/
  | sent (e : Entry)
  /-- About to release `m_transactionMutex` and return. -/
  | releasing
  | done
  deriving DecidableEq, Repr

/-- The shared state and every thread's phase. -/
structure Sys where
  cache : Hash → Option Entry
  /-- The thread holding `m_transactionMutex`. -/
  lock : Option Nat
  nextId : Nat
  /-- The entries consumed, in order. -/
  consumed : List Nat
  phase : Nat → Phase

/-- No entries, no lock holder, every thread at its start. -/
def initial : Sys := ⟨fun _ => none, none, 0, [], fun _ => .start⟩

namespace Sys

def setPhase (s : Sys) (t : Nat) (p : Phase) : Sys :=
  { s with phase := Function.update s.phase t p }

/-- `m_preparedTransactions[hash] = preparedTransaction`: a new entry. -/
def insert (s : Sys) (hash : Hash) (info : PreparedTransactionInfo) : Sys :=
  { s with cache := Function.update s.cache hash (some ⟨s.nextId, info⟩), nextId := s.nextId + 1 }

/-- `m_preparedTransactions.erase(hash)`. -/
def erase (s : Sys) (hash : Hash) : Sys :=
  { s with cache := Function.update s.cache hash none }

def consume (s : Sys) (e : Entry) : Sys :=
  { s with consumed := s.consumed ++ [e.id] }

@[simp] theorem setPhase_cache (s : Sys) (t : Nat) (p : Phase) : (s.setPhase t p).cache = s.cache :=
  rfl
@[simp] theorem setPhase_lock (s : Sys) (t : Nat) (p : Phase) : (s.setPhase t p).lock = s.lock :=
  rfl
@[simp] theorem setPhase_nextId (s : Sys) (t : Nat) (p : Phase) :
    (s.setPhase t p).nextId = s.nextId := rfl
@[simp] theorem setPhase_consumed (s : Sys) (t : Nat) (p : Phase) :
    (s.setPhase t p).consumed = s.consumed := rfl
@[simp] theorem setPhase_phase_self (s : Sys) (t : Nat) (p : Phase) :
    (s.setPhase t p).phase t = p := by
  simp [setPhase]
theorem setPhase_phase_ne (s : Sys) {t u : Nat} (p : Phase) (h : u ≠ t) :
    (s.setPhase t p).phase u = s.phase u := by
  simp [setPhase, h]

@[simp] theorem insert_lock (s : Sys) (hash : Hash) (info : PreparedTransactionInfo) :
    (s.insert hash info).lock = s.lock := rfl
@[simp] theorem insert_phase (s : Sys) (hash : Hash) (info : PreparedTransactionInfo) :
    (s.insert hash info).phase = s.phase := rfl
@[simp] theorem insert_consumed (s : Sys) (hash : Hash) (info : PreparedTransactionInfo) :
    (s.insert hash info).consumed = s.consumed := rfl
@[simp] theorem erase_lock (s : Sys) (hash : Hash) : (s.erase hash).lock = s.lock := rfl
@[simp] theorem erase_phase (s : Sys) (hash : Hash) : (s.erase hash).phase = s.phase := rfl
@[simp] theorem erase_consumed (s : Sys) (hash : Hash) : (s.erase hash).consumed = s.consumed :=
  rfl
@[simp] theorem erase_nextId (s : Sys) (hash : Hash) : (s.erase hash).nextId = s.nextId := rfl
@[simp] theorem consume_lock (s : Sys) (e : Entry) : (s.consume e).lock = s.lock := rfl
@[simp] theorem consume_phase (s : Sys) (e : Entry) : (s.consume e).phase = s.phase := rfl
@[simp] theorem consume_cache (s : Sys) (e : Entry) : (s.consume e).cache = s.cache := rfl
@[simp] theorem consume_nextId (s : Sys) (e : Entry) : (s.consume e).nextId = s.nextId := rfl
@[simp] theorem consume_consumed (s : Sys) (e : Entry) :
    (s.consume e).consumed = s.consumed ++ [e.id] := rfl

end Sys

/-- Taking `m_transactionMutex`: possible only when no thread holds it. -/
def acquire (s : Sys) (t : Nat) : Option Sys :=
  if s.lock = none then some ({ s with lock := some t }.setPhase t .locked) else none

/-- `removePreparedTransaction(hash)` called through the API, in one step and without the
    lock: the entry it erases is consumed. -/
def removeBody (s : Sys) (t : Nat) (hash : Hash) : Sys :=
  let s' := match s.cache hash with
    | some e => s.consume e
    | none => s
  (s'.erase hash).setPhase t .done

@[simp] theorem removeBody_phase (s : Sys) (t : Nat) (hash : Hash) :
    (removeBody s t hash).phase = Function.update s.phase t .done := by
  unfold removeBody
  split <;> rfl

/-- One step of thread `t`; `none` when it is blocked or done. -/
def step (calls : Nat → Call) (s : Sys) (t : Nat) : Option Sys :=
  match calls t, s.phase t with
  | .removePreparedTransaction hash, .start => some (removeBody s t hash)
  | _, .start => acquire s t
  | .prepare sendTransaction result, .locked =>
    some ((if !sendTransaction ∧ result.1 = .success then s.insert result.2.1 result.2.2
      else s).setPhase t .releasing)
  | .sendPreparedTransaction hash _, .locked =>
    match s.cache hash with
    | none => some (s.setPhase t .releasing)
    | some e => some (s.setPhase t (.found e))
  | .sendPreparedTransaction _ send, .found e =>
    some ((if (send e.info).1 = .success then s.consume e else s).setPhase t (.sent e))
  | .sendPreparedTransaction _ send, .sent e =>
    some ((if (send e.info).1 = .preparedTransactionExpired ∨ (send e.info).1 = .success
      then s.erase e.info.transactionHash else s).setPhase t .releasing)
  | _, .releasing => some ({ s with lock := none }.setPhase t .done)
  | _, _ => none

/-- A schedule run from `s`: each listed thread takes a step, when it can. -/
def run (calls : Nat → Call) : Sys → List Nat → Sys
  | s, [] => s
  | s, t :: ts => run calls ((step calls s t).getD s) ts

/-- Thread 0 prepares the transaction `[1]` without sending it, thread 1 sends it, thread
    2 removes it. -/
def racingCalls : Nat → Call
  | 0 => .prepare false (.success, [1], ⟨[1]⟩)
  | 1 => .sendPreparedTransaction [1] fun _ => (.success, [1])
  | _ => .removePreparedTransaction [1]

/-- Thread 0 runs to completion, thread 1 takes the lock and copies the entry, thread 2
    removes it, thread 1 broadcasts the copy: the entry is consumed twice. -/
theorem run_consumes_twice :
    (run racingCalls initial [0, 0, 0, 1, 1, 2, 1, 1, 1]).consumed = [0, 0] ∧
    ¬ (run racingCalls initial [0, 0, 0, 1, 1, 2, 1, 1, 1]).consumed.Nodup := by
  decide

/-! ## The steps of the locked calls -/

/-- What one step of thread `t` inside a call that takes `m_transactionMutex` can do. -/
inductive Transition (calls : Nat → Call) : Sys → Nat → Sys → Prop where
  | acquire {s : Sys} {t : Nat} : s.phase t = .start → s.lock = none →
      Transition calls s t ({ s with lock := some t }.setPhase t .locked)
  | prepare {s : Sys} {t : Nat} {sendTransaction : Bool}
      {result : Error × Hash × PreparedTransactionInfo} :
      calls t = .prepare sendTransaction result → s.phase t = .locked →
      Transition calls s t ((if !sendTransaction ∧ result.1 = .success then
        s.insert result.2.1 result.2.2 else s).setPhase t .releasing)
  | lookupMiss {s : Sys} {t : Nat} {hash : Hash} {send : PreparedTransactionInfo → Error × Hash} :
      calls t = .sendPreparedTransaction hash send → s.phase t = .locked → s.cache hash = none →
      Transition calls s t (s.setPhase t .releasing)
  | lookupHit {s : Sys} {t : Nat} {hash : Hash} {send : PreparedTransactionInfo → Error × Hash}
      {e : Entry} :
      calls t = .sendPreparedTransaction hash send → s.phase t = .locked → s.cache hash = some e →
      Transition calls s t (s.setPhase t (.found e))
  | broadcast {s : Sys} {t : Nat} {hash : Hash} {send : PreparedTransactionInfo → Error × Hash}
      {e : Entry} :
      calls t = .sendPreparedTransaction hash send → s.phase t = .found e →
      Transition calls s t ((if (send e.info).1 = .success then s.consume e else s).setPhase t
        (.sent e))
  | eraseSent {s : Sys} {t : Nat} {hash : Hash} {send : PreparedTransactionInfo → Error × Hash}
      {e : Entry} :
      calls t = .sendPreparedTransaction hash send → s.phase t = .sent e →
      Transition calls s t ((if (send e.info).1 = .preparedTransactionExpired ∨
        (send e.info).1 = .success then s.erase e.info.transactionHash else s).setPhase t
          .releasing)
  | release {s : Sys} {t : Nat} : s.phase t = .releasing →
      Transition calls s t ({ s with lock := none }.setPhase t .done)

theorem acquire_transition {calls : Nat → Call} {s s' : Sys} {t : Nat}
    (hp : s.phase t = .start) (h : acquire s t = some s') : Transition calls s t s' := by
  unfold acquire at h
  split_ifs at h with hl
  cases h
  exact .acquire hp hl

/-- Every step a thread takes is a remove at its start, made without the lock, or one of
    the transitions of a locked call. -/
theorem step_transition {calls : Nat → Call} {s s' : Sys} {t : Nat}
    (h : step calls s t = some s') :
    (∃ hash, calls t = .removePreparedTransaction hash ∧ s.phase t = .start ∧
      s' = removeBody s t hash) ∨ Transition calls s t s' := by
  unfold step at h
  split at h
  · cases h; exact .inl ⟨_, ‹_›, ‹_›, rfl⟩
  · exact .inr (acquire_transition (by assumption) h)
  · cases h; exact .inr (.prepare (by assumption) (by assumption))
  · split at h <;> cases h
    · exact .inr (.lookupMiss (by assumption) (by assumption) (by assumption))
    · exact .inr (.lookupHit (by assumption) (by assumption) (by assumption))
  · cases h; exact .inr (.broadcast (by assumption) (by assumption))
  · cases h; exact .inr (.eraseSent (by assumption) (by assumption))
  · cases h; exact .inr (.release (by assumption))
  · cases h

/-- The phases in which a thread holds `m_transactionMutex`. -/
def Phase.active : Phase → Bool
  | .start | .done => false
  | _ => true

/-- Whether a call's send of entry `e` succeeds. -/
def Call.SendSucceeds : Call → Entry → Prop
  | .sendPreparedTransaction _ send, e => (send e.info).1 = .success
  | _, _ => False

/-- The transfer code of a prepare names the hash of the transaction it prepared. -/
def Call.Consistent : Call → Prop
  | .prepare _ result => PreparedCache.Consistent result
  | _ => True

/-- What holds along every run whose removes run while no call holds the lock. -/
structure Inv (calls : Nat → Call) (s : Sys) : Prop where
  nodup : s.consumed.Nodup
  keyed : ∀ k e, s.cache k = some e → e.info.transactionHash = k
  cacheFresh : ∀ k e, s.cache k = some e → e.id < s.nextId
  consumedFresh : ∀ i ∈ s.consumed, i < s.nextId
  unique : ∀ k k' e e', s.cache k = some e → s.cache k' = some e' → e.id = e'.id → k = k'
  /-- A thread inside a call holds the lock. -/
  mutex : ∀ t, (s.phase t).active → s.lock = some t
  /-- A consumed entry still cached is the one a send has just broadcast. -/
  cachedConsumed : ∀ k e, s.cache k = some e → e.id ∈ s.consumed → ∃ t, s.phase t = .sent e
  found : ∀ t e, s.phase t = .found e → s.cache e.info.transactionHash = some e ∧ e.id ∉ s.consumed
  sent : ∀ t e, s.phase t = .sent e →
    s.cache e.info.transactionHash = some e ∧ (e.id ∈ s.consumed ↔ (calls t).SendSucceeds e)

theorem inv_initial (calls : Nat → Call) : Inv calls initial where
  nodup := List.nodup_nil
  keyed _ _ h := by cases h
  cacheFresh _ _ h := by cases h
  consumedFresh _ h := by cases h
  unique _ _ _ _ h := by cases h
  mutex _ h := by cases h
  cachedConsumed _ _ h := by cases h
  found _ _ h := by cases h
  sent _ _ h := by cases h

namespace Inv

variable {calls : Nat → Call} {s : Sys}

/-- Two threads inside a call are the same thread. -/
theorem active_eq (hi : Inv calls s) {t u : Nat} (ht : (s.phase t).active)
    (hu : (s.phase u).active) : u = t := by
  have := (hi.mutex u hu).symm.trans (hi.mutex t ht)
  exact Option.some.inj this

/-- While the lock holder is not between a broadcast and its erase, no cached entry is
    consumed. -/
theorem not_consumed (hi : Inv calls s) {t : Nat} (ht : (s.phase t).active)
    (hnot : ∀ e, s.phase t ≠ .sent e) {k : Hash} {e : Entry} (hk : s.cache k = some e) :
    e.id ∉ s.consumed := fun hc => by
  obtain ⟨u, hu⟩ := hi.cachedConsumed k e hk hc
  have hut := hi.active_eq ht (by rw [hu]; rfl)
  exact hnot e (hut ▸ hu)

/-- With no lock holder, every thread is outside its call. -/
theorem inactive_of_unlocked (hi : Inv calls s) (hl : s.lock = none) (u : Nat) :
    (s.phase u).active = false := by
  cases h : (s.phase u).active
  · rfl
  · have := hi.mutex u h
    rw [hl] at this
    cases this

/-- Besides the lock holder, every thread is outside its call. -/
theorem inactive (hi : Inv calls s) {t : Nat} (ht : (s.phase t).active) {u : Nat} (hu : u ≠ t) :
    (s.phase u).active = false := by
  cases h : (s.phase u).active
  · rfl
  · exact absurd (hi.active_eq ht h) hu

/-- The lock holder in a phase other than `sent`: no cached entry is consumed. -/
theorem holder (hi : Inv calls s) {t : Nat} {p : Phase} (hp : s.phase t = p)
    (hact : p.active = true) (hnot : ∀ e, p ≠ .sent e) :
    (s.phase t).active ∧ ∀ k e, s.cache k = some e → e.id ∉ s.consumed := by
  subst hp
  exact ⟨hact, fun _ _ => hi.not_consumed hact hnot⟩

/-- Consuming a cached entry that was not consumed keeps the log duplicate-free and every
    consumed entry older than the next one. -/
theorem consume_data (hi : Inv calls s) {k : Hash} {e : Entry} (hk : s.cache k = some e)
    (hfresh : e.id ∉ s.consumed) :
    (s.consume e).consumed.Nodup ∧ ∀ i ∈ (s.consume e).consumed, i < s.nextId := by
  refine ⟨by simpa using hi.nodup.concat hfresh, fun i hi' => ?_⟩
  rcases List.mem_append.mp hi' with hi' | hi'
  · exact hi.consumedFresh i hi'
  · rw [List.mem_singleton.mp hi']
    exact hi.cacheFresh k e hk

end Inv

section Preservation

variable {calls : Nat → Call} {s : Sys} {t : Nat}

/-- The control part of the invariant after a step of the lock holder `t` that moves it to
    `p` and, when `p` is `done`, releases the lock; `hdata` gives the data part. -/
theorem inv_of_holder_step (hi : Inv calls s) (ht : (s.phase t).active) {s' : Sys} {p : Phase}
    (hphase : s'.phase = Function.update s.phase t p)
    (hlock : p.active → s'.lock = some t)
    (hnodup : s'.consumed.Nodup)
    (hkeyed : ∀ k e, s'.cache k = some e → e.info.transactionHash = k)
    (hcacheFresh : ∀ k e, s'.cache k = some e → e.id < s'.nextId)
    (hconsumedFresh : ∀ i ∈ s'.consumed, i < s'.nextId)
    (hunique : ∀ k k' e e', s'.cache k = some e → s'.cache k' = some e' → e.id = e'.id → k = k')
    (hcachedConsumed : ∀ k e, s'.cache k = some e → e.id ∈ s'.consumed → p = .sent e)
    (hfound : ∀ e, p = .found e → s'.cache e.info.transactionHash = some e ∧ e.id ∉ s'.consumed)
    (hsent : ∀ e, p = .sent e →
      s'.cache e.info.transactionHash = some e ∧ (e.id ∈ s'.consumed ↔ (calls t).SendSucceeds e)) :
    Inv calls s' := by
  -- a thread inside its call after the step is `t`, at `p`: every other one was outside
  have hself : ∀ u q, s'.phase u = q → q.active → u = t ∧ q = p := fun u q hu hq => by
    by_cases hut : u = t
    · subst hut
      rw [hphase, Function.update_same] at hu
      exact ⟨rfl, hu.symm⟩
    · rw [hphase, Function.update_noteq hut] at hu
      have := hi.inactive ht hut
      rw [hu, hq] at this
      cases this
  refine ⟨hnodup, hkeyed, hcacheFresh, hconsumedFresh, hunique, fun u hu => ?_,
    fun k e hk hc => ⟨t, by rw [hphase, Function.update_same, hcachedConsumed k e hk hc]⟩,
    fun u e hu => ?_, fun u e hu => ?_⟩
  · obtain ⟨rfl, hq⟩ := hself u _ rfl hu
    exact hlock (hq ▸ hu)
  · obtain ⟨rfl, rfl⟩ := hself u _ hu rfl
    exact hfound e rfl
  · obtain ⟨rfl, rfl⟩ := hself u _ hu rfl
    exact hsent e rfl

theorem inv_acquire (hi : Inv calls s) (hl : s.lock = none) :
    Inv calls ({ s with lock := some t }.setPhase t .locked) := by
  -- no thread was inside its call; after the acquire only `t` is, at `locked`
  have honly : ∀ u, (({ s with lock := some t }.setPhase t .locked).phase u).active → u = t :=
    fun u hu => by
      by_contra hut
      rw [Sys.setPhase_phase_ne _ _ hut, hi.inactive_of_unlocked hl u] at hu
      cases hu
  refine ⟨hi.nodup, hi.keyed, hi.cacheFresh, hi.consumedFresh, hi.unique,
    fun u hu => by rw [honly u hu]; rfl, fun k e hk hc => ?_, fun u e hu => ?_, fun u e hu => ?_⟩
  · obtain ⟨u, hu⟩ := hi.cachedConsumed k e hk hc
    have := hi.inactive_of_unlocked hl u
    rw [hu] at this
    cases this
  · obtain rfl := honly u (by rw [hu]; rfl)
    simp at hu
  · obtain rfl := honly u (by rw [hu]; rfl)
    simp at hu

/-- The lock holder moves to `releasing` without touching the data, while no cached entry
    is consumed. -/
theorem inv_releasing (hi : Inv calls s) (ht : (s.phase t).active)
    (hnc : ∀ k e, s.cache k = some e → e.id ∉ s.consumed) :
    Inv calls (s.setPhase t .releasing) :=
  inv_of_holder_step hi ht rfl (fun _ => hi.mutex t ht) hi.nodup hi.keyed hi.cacheFresh
    hi.consumedFresh hi.unique
    (fun k e hk hc => absurd hc (hnc k e hk)) (fun _ h => by cases h) (fun _ h => by cases h)

theorem Sys.insert_cache_some {s : Sys} {hash k : Hash} {info : PreparedTransactionInfo}
    {e : Entry} (h : (s.insert hash info).cache k = some e) :
    (k = hash ∧ e = ⟨s.nextId, info⟩) ∨ (k ≠ hash ∧ s.cache k = some e) := by
  by_cases hk : k = hash
  · subst hk
    simp only [Sys.insert, Function.update_same, Option.some.injEq] at h
    exact .inl ⟨rfl, h.symm⟩
  · exact .inr ⟨hk, by simpa [Sys.insert, hk] using h⟩

theorem inv_prepare (hi : Inv calls s) (hp : s.phase t = .locked) {sendTransaction : Bool}
    {result : Error × Hash × PreparedTransactionInfo} (hcons : PreparedCache.Consistent result) :
    Inv calls ((if !sendTransaction ∧ result.1 = .success then s.insert result.2.1 result.2.2
      else s).setPhase t .releasing) := by
  obtain ⟨ht, hnc⟩ := hi.holder hp rfl nofun
  split_ifs
  · have hnew : ∀ i ∈ s.consumed, i ≠ s.nextId := fun i hi' h => by
      have := hi.consumedFresh i hi'; omega
    refine inv_of_holder_step hi ht rfl (fun _ => hi.mutex t ht) hi.nodup ?_ ?_ ?_ ?_ ?_
      (fun _ h => by cases h) (fun _ h => by cases h)
    · intro k e hk
      rcases Sys.insert_cache_some hk with ⟨rfl, rfl⟩ | ⟨-, hk⟩
      exacts [hcons, hi.keyed k e hk]
    · intro k e hk
      rcases Sys.insert_cache_some hk with ⟨-, rfl⟩ | ⟨-, hk⟩
      · exact Nat.lt_succ_self _
      · exact Nat.lt_succ_of_lt (hi.cacheFresh k e hk)
    · exact fun i hi' => Nat.lt_succ_of_lt (hi.consumedFresh i hi')
    · intro k k' e e' hk hk' he
      rcases Sys.insert_cache_some hk with ⟨rfl, rfl⟩ | ⟨hkh, hk⟩ <;>
        rcases Sys.insert_cache_some hk' with ⟨rfl, rfl⟩ | ⟨hkh', hk'⟩
      · rfl
      · exact absurd he (by have := hi.cacheFresh k' e' hk'; simp only; omega)
      · exact absurd he (by have := hi.cacheFresh k e hk; simp only; omega)
      · exact hi.unique k k' e e' hk hk' he
    · intro k e hk hc
      rcases Sys.insert_cache_some hk with ⟨-, rfl⟩ | ⟨-, hk⟩
      · exact absurd rfl (hnew _ hc)
      · exact absurd hc (hnc k e hk)
  · exact inv_releasing hi ht hnc

theorem Sys.erase_cache_some {s : Sys} {hash k : Hash} {e : Entry}
    (h : (s.erase hash).cache k = some e) : k ≠ hash ∧ s.cache k = some e := by
  by_cases hk : k = hash
  · subst hk; simp [Sys.erase] at h
  · exact ⟨hk, by simpa [Sys.erase, hk] using h⟩

/-- The data part of the invariant survives an erase. -/
theorem Inv.erase_data (hi : Inv calls s) (hash : Hash) :
    (∀ k e, (s.erase hash).cache k = some e → e.info.transactionHash = k) ∧
    (∀ k e, (s.erase hash).cache k = some e → e.id < s.nextId) ∧
    (∀ k k' e e', (s.erase hash).cache k = some e → (s.erase hash).cache k' = some e' →
      e.id = e'.id → k = k') :=
  ⟨fun k e hk => hi.keyed k e (Sys.erase_cache_some hk).2,
   fun k e hk => hi.cacheFresh k e (Sys.erase_cache_some hk).2,
   fun k k' e e' hk hk' => hi.unique k k' e e' (Sys.erase_cache_some hk).2
     (Sys.erase_cache_some hk').2⟩

/-- A consumed entry still cached is the one the lock holder `t` has just sent. -/
theorem Inv.cachedConsumed_holder (hi : Inv calls s) {t : Nat} (ht : (s.phase t).active)
    {k : Hash} {e : Entry} (hk : s.cache k = some e) (hc : e.id ∈ s.consumed) :
    s.phase t = .sent e := by
  obtain ⟨u, hu⟩ := hi.cachedConsumed k e hk hc
  exact hi.active_eq ht (by rw [hu]; rfl) ▸ hu

theorem inv_lookupHit (hi : Inv calls s) (hp : s.phase t = .locked) {hash : Hash} {e : Entry}
    (he : s.cache hash = some e) : Inv calls (s.setPhase t (.found e)) := by
  obtain ⟨ht, hnc⟩ := hi.holder hp rfl nofun
  refine inv_of_holder_step hi ht rfl (fun _ => hi.mutex t ht) hi.nodup hi.keyed hi.cacheFresh
    hi.consumedFresh hi.unique (fun k e hk hc => absurd hc (hnc k e hk)) ?_ (fun _ h => by cases h)
  rintro e' ⟨⟩
  exact ⟨hi.keyed hash e he ▸ he, hnc hash e he⟩

theorem inv_broadcast (hi : Inv calls s) {hash : Hash}
    {send : PreparedTransactionInfo → Error × Hash}
    (hcall : calls t = .sendPreparedTransaction hash send) {e : Entry} (hp : s.phase t = .found e) :
    Inv calls ((if (send e.info).1 = .success then s.consume e else s).setPhase t (.sent e)) := by
  obtain ⟨ht, hnc⟩ := hi.holder hp rfl nofun
  obtain ⟨hcached, hfresh⟩ := hi.found t e hp
  have hsucc : (calls t).SendSucceeds e ↔ (send e.info).1 = .success := by
    rw [hcall]; rfl
  split_ifs with hs
  · obtain ⟨hnodup, hconsumedFresh⟩ := hi.consume_data hcached hfresh
    refine inv_of_holder_step hi ht rfl (fun _ => hi.mutex t ht) hnodup hi.keyed hi.cacheFresh
      hconsumedFresh hi.unique ?_ (fun _ h => by cases h) ?_
    · intro k e' hk hc
      rcases List.mem_append.mp hc with hc | hc
      · exact absurd hc (hnc k e' hk)
      · have hk' := hi.unique k _ e' e hk hcached (List.mem_singleton.mp hc)
        subst hk'
        rw [Option.some.inj (hcached.symm.trans hk)]
    · rintro e' ⟨⟩
      exact ⟨hcached, iff_of_true (List.mem_append_right _ (List.mem_singleton_self _))
        (hsucc.mpr hs)⟩
  · refine inv_of_holder_step hi ht rfl (fun _ => hi.mutex t ht) hi.nodup hi.keyed hi.cacheFresh
      hi.consumedFresh hi.unique (fun k e hk hc => absurd hc (hnc k e hk)) (fun _ h => by cases h)
      ?_
    rintro e' ⟨⟩
    exact ⟨hcached, iff_of_false hfresh (mt hsucc.mp hs)⟩

theorem inv_eraseSent (hi : Inv calls s) {hash : Hash}
    {send : PreparedTransactionInfo → Error × Hash}
    (hcall : calls t = .sendPreparedTransaction hash send) {e : Entry} (hp : s.phase t = .sent e) :
    Inv calls ((if (send e.info).1 = .preparedTransactionExpired ∨ (send e.info).1 = .success
      then s.erase e.info.transactionHash else s).setPhase t .releasing) := by
  have ht : (s.phase t).active := by rw [hp]; rfl
  obtain ⟨hcached, hiff⟩ := hi.sent t e hp
  have hsucc : (calls t).SendSucceeds e ↔ (send e.info).1 = .success := by
    rw [hcall]; rfl
  -- the only cached consumed entry is `e`, under its own hash
  have honly : ∀ k e', s.cache k = some e' → e'.id ∈ s.consumed →
      k = e.info.transactionHash ∧ e' = e := fun k e' hk hc => by
      have := hi.cachedConsumed_holder ht hk hc
      rw [hp] at this
      cases this
      exact ⟨(hi.keyed k _ hk).symm, rfl⟩
  split_ifs with hs
  · obtain ⟨hkeyed, hcacheFresh, hunique⟩ := hi.erase_data e.info.transactionHash
    refine inv_of_holder_step hi ht rfl (fun _ => hi.mutex t ht) hi.nodup hkeyed hcacheFresh
      hi.consumedFresh hunique ?_ (fun _ h => by cases h) (fun _ h => by cases h)
    intro k e' hk hc
    obtain ⟨hne, hk⟩ := Sys.erase_cache_some hk
    exact absurd (honly k e' hk hc).1 hne
  · refine inv_of_holder_step hi ht rfl (fun _ => hi.mutex t ht) hi.nodup hi.keyed hi.cacheFresh
      hi.consumedFresh hi.unique ?_ (fun _ h => by cases h) (fun _ h => by cases h)
    intro k e' hk hc
    obtain ⟨-, rfl⟩ := honly k e' hk hc
    exact absurd (hsucc.mp (hiff.mp hc)) fun h => hs (.inr h)

/-- The data part of the invariant after a remove of `hash`, made when no cached entry is
    consumed; afterwards none is either. -/
theorem Inv.removeBody_data (hi : Inv calls s)
    (hnc : ∀ k e, s.cache k = some e → e.id ∉ s.consumed) (t : Nat) (hash : Hash) :
    (removeBody s t hash).consumed.Nodup ∧
    (∀ k e, (removeBody s t hash).cache k = some e → e.info.transactionHash = k) ∧
    (∀ k e, (removeBody s t hash).cache k = some e → e.id < (removeBody s t hash).nextId) ∧
    (∀ i ∈ (removeBody s t hash).consumed, i < (removeBody s t hash).nextId) ∧
    (∀ k k' e e', (removeBody s t hash).cache k = some e →
      (removeBody s t hash).cache k' = some e' → e.id = e'.id → k = k') ∧
    (∀ k e, (removeBody s t hash).cache k = some e → e.id ∉ (removeBody s t hash).consumed) := by
  obtain ⟨hkeyed, hcacheFresh, hunique⟩ := hi.erase_data hash
  unfold removeBody
  split
  · next e he =>
    obtain ⟨hnodup, hconsumedFresh⟩ := hi.consume_data he (hnc hash e he)
    refine ⟨hnodup, hkeyed, hcacheFresh, hconsumedFresh, hunique, fun k e' hk hc => ?_⟩
    obtain ⟨hne, hk⟩ := Sys.erase_cache_some hk
    rcases List.mem_append.mp hc with hc | hc
    · exact hnc k e' hk hc
    · exact hne (hi.unique k hash e' e hk he (List.mem_singleton.mp hc))
  · exact ⟨hi.nodup, hkeyed, hcacheFresh, hi.consumedFresh, hunique,
      fun k e' hk => hnc k e' (Sys.erase_cache_some hk).2⟩

theorem inv_release (hi : Inv calls s) (hp : s.phase t = .releasing) :
    Inv calls ({ s with lock := none }.setPhase t .done) := by
  obtain ⟨ht, hnc⟩ := hi.holder hp rfl nofun
  exact inv_of_holder_step hi ht rfl (fun h => by cases h) hi.nodup hi.keyed hi.cacheFresh
    hi.consumedFresh hi.unique (fun k e hk hc => absurd hc (hnc k e hk)) (fun _ h => by cases h)
    (fun _ h => by cases h)

theorem inv_lookupMiss (hi : Inv calls s) (hp : s.phase t = .locked) :
    Inv calls (s.setPhase t .releasing) :=
  inv_releasing hi (hi.holder hp rfl nofun).1 (hi.holder hp rfl nofun).2

/-- Every transition of a locked call keeps the invariant when every prepare names the hash
    of its transaction. -/
theorem inv_transition (hcons : ∀ t, (calls t).Consistent) (hi : Inv calls s) {s' : Sys}
    (h : Transition calls s t s') : Inv calls s' := by
  cases h with
  | acquire _ hl => exact inv_acquire hi hl
  | prepare hc hp =>
    have := hcons t
    rw [hc] at this
    exact inv_prepare hi hp this
  | lookupMiss _ hp _ => exact inv_lookupMiss hi hp
  | lookupHit _ hp he => exact inv_lookupHit hi hp he
  | broadcast hc hp => exact inv_broadcast hi hc hp
  | eraseSent hc hp => exact inv_eraseSent hi hc hp
  | release hp => exact inv_release hi hp

end Preservation

theorem racingCalls_consistent : ∀ t, (racingCalls t).Consistent
  | 0 => rfl
  | 1 => trivial
  | _ + 2 => trivial

/-! ## Removes away from locked calls -/

/-- A step of `t` is quiet unless it is an unlocked remove while a thread holds the lock. -/
def quietStep (calls : Nat → Call) (s : Sys) (t : Nat) : Bool :=
  match calls t, s.phase t with
  | .removePreparedTransaction _, .start => s.lock.isNone
  | _, _ => true

/-- Whether every unlocked remove of a schedule runs while no thread holds the lock. -/
def quietRemoves (calls : Nat → Call) : Sys → List Nat → Bool
  | _, [] => true
  | s, t :: ts => quietStep calls s t && quietRemoves calls ((step calls s t).getD s) ts

section Unlocked

variable {calls : Nat → Call} {s : Sys} {t : Nat}

/-- An unlocked remove while no thread holds the lock keeps the invariant. -/
theorem inv_unlockedRemove (hi : Inv calls s) (hl : s.lock = none) (hash : Hash) :
    Inv calls (removeBody s t hash) := by
  have hnc : ∀ k e, s.cache k = some e → e.id ∉ s.consumed := fun k e hk hc => by
    obtain ⟨u, hu⟩ := hi.cachedConsumed k e hk hc
    have := hi.inactive_of_unlocked hl u
    rw [hu] at this
    cases this
  -- no thread is inside its call before the remove, nor after it
  have hout : ∀ u q, (removeBody s t hash).phase u = q → q.active → False :=
    fun u q hu hq => by
      rw [removeBody_phase] at hu
      by_cases hut : u = t
      · subst hut
        rw [Function.update_same] at hu
        subst hu
        cases hq
      · rw [Function.update_noteq hut] at hu
        have := hi.inactive_of_unlocked hl u
        rw [hu, hq] at this
        cases this
  obtain ⟨hnodup, hkeyed, hcacheFresh, hconsumedFresh, hunique, hnc'⟩ :=
    hi.removeBody_data hnc t hash
  exact ⟨hnodup, hkeyed, hcacheFresh, hconsumedFresh, hunique, fun u hu => (hout u _ rfl hu).elim,
    fun k e hk hc => absurd hc (hnc' k e hk), fun u _ hu => (hout u _ hu rfl).elim,
    fun u _ hu => (hout u _ hu rfl).elim⟩

/-- A quiet step keeps the invariant. -/
theorem inv_step (hcons : ∀ t, (calls t).Consistent) (hi : Inv calls s)
    (hq : quietStep calls s t = true) {s' : Sys} (h : step calls s t = some s') :
    Inv calls s' := by
  rcases step_transition h with ⟨hash, hc, hp, rfl⟩ | htr
  · rw [quietStep, hc, hp] at hq
    exact inv_unlockedRemove hi (Option.isNone_iff_eq_none.mp hq) hash
  · exact inv_transition hcons hi htr

theorem inv_run (hcons : ∀ t, (calls t).Consistent) :
    ∀ {s : Sys} (schedule : List Nat), Inv calls s → quietRemoves calls s schedule = true →
      Inv calls (run calls s schedule)
  | _, [], hi, _ => hi
  | s, t :: ts, hi, hq => by
    rw [quietRemoves, Bool.and_eq_true] at hq
    rw [run]
    refine inv_run hcons ts ?_ hq.2
    cases hs : step calls s t with
    | none => exact hi
    | some s' => exact inv_step hcons hi hq.1 hs

/-- **The double consumption is a race.**  With the code's unlocked remove, a schedule in
    which every remove runs while no call holds `m_transactionMutex` consumes no entry twice,
    when every prepare names the hash of its transaction. -/
theorem consumed_nodup_of_quietRemoves (hcons : ∀ t, (calls t).Consistent)
    (schedule : List Nat) (hq : quietRemoves calls initial schedule = true) :
    (run calls initial schedule).consumed.Nodup :=
  (inv_run hcons schedule (inv_initial calls) hq).nodup

end Unlocked

/-- The racing schedule is not quiet: its remove runs while the send holds the lock. -/
example : quietRemoves racingCalls initial [0, 0, 0, 1, 1, 2, 1, 1, 1] = false := rfl

/-- The racing calls, with the remove after the send has returned: one consumption. -/
theorem consumed_nodup_of_quietRemoves_racing :
    (run racingCalls initial [0, 0, 0, 1, 1, 1, 1, 1, 2]).consumed.Nodup :=
  consumed_nodup_of_quietRemoves racingCalls_consistent _ rfl

end PreparedInterleaving
