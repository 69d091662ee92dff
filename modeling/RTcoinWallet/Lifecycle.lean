import RTcoinWallet.Errors

/-!
# The lifecycle of a `WalletBackend` object

A `WalletBackend` is made by one of three constructors and brought up by `init()`
(`WalletBackend.cpp`).  The default constructor, used by `openWallet` before `fromJSON`,
leaves `m_daemon` null; the standard and view constructors, used by the four creation
functions, set it.  `init()` then calls into its collaborators (the daemon, the wallet
synchronizer and its thread), any of which may throw, and assigns `m_syncRAIIWrapper`
last.  The destructor saves, through `m_syncRAIIWrapper`, whenever `m_daemon` is non-null.

The object is modelled by the nullness of its pointers and the run by `EStateM`: an
exception keeps the assignments made before it, as a C++ exception does.  The object
is destroyed in the state the run ends in — by its caller after a normal return, or while
the exception unwinds past the creating function's local `shared_ptr`.

  * `init_ok` / `init_error` — a normal return of `init()` sets `m_syncRAIIWrapper`; an
    exception leaves both `m_daemon` and `m_syncRAIIWrapper` as they were;
  * `saveIsSafe_run_iff` — the destructor saves through a null `m_syncRAIIWrapper`
    exactly when one of `init()`'s collaborators threw.
-/

namespace WalletLifecycle

open WalletErrors

/-- The pointers of a `WalletBackend` whose nullness the lifecycle decides (`true` is
non-null). -/
structure Backend where
  daemon : Bool
  subWallets : Bool
  walletSynchronizer : Bool
  syncRAIIWrapper : Bool
  deriving DecidableEq, Repr

/-- The collaborator calls `init()` makes, in its order. -/
inductive InitCall where
  | daemonInit
  | constructSynchronizer
  | initializeAfterLoad
  | setSubWallets
  | start
  deriving DecidableEq, Repr

/-- An exception leaving `init()`. -/
inductive Exception where
  /-- `std::runtime_error("Daemon has not been initialized!")`. -/
  | daemonNotInitialized
  /-- Whatever the collaborator call threw. -/
  | threwIn (call : InitCall)
  deriving DecidableEq, Repr

/-- A run over a `WalletBackend` that may end by an exception. -/
abbrev Lifecycle := EStateM Exception Backend

/-- A collaborator call: it throws when `throws call` holds. -/
def collaborator (throws : InitCall → Bool) (call : InitCall) : Lifecycle Unit :=
  if throws call then throw (.threwIn call) else pure ()

/-- `WalletBackend()`: only the event handler is made. -/
def defaultConstructor : Backend := ⟨false, false, false, false⟩

/-- The standard and view constructors: `m_daemon` and `m_subWallets` are made. -/
def standardConstructor : Backend := ⟨true, true, false, false⟩

/-- `WalletBackend::init`. -/
def init (throws : InitCall → Bool) : Lifecycle Unit := do
  if !(← get).daemon then throw .daemonNotInitialized
  collaborator throws .daemonInit
  if !(← get).walletSynchronizer then
    collaborator throws .constructSynchronizer
    modify fun s => { s with walletSynchronizer := true }
  else
    collaborator throws .initializeAfterLoad
  collaborator throws .setSubWallets
  collaborator throws .start
  modify fun s => { s with syncRAIIWrapper := true }

/-- `fromJSON(j)`: the format-version check, then `m_subWallets` and
`m_walletSynchronizer` are read from the document. -/
def fromJSONDocument (versionOk : Bool) : Lifecycle Error := do
  if !versionOk then return .unsupportedWalletFileFormatVersion
  modify fun s => { s with subWallets := true, walletSynchronizer := true }
  return .success

/-- `fromJSON(j, filename, password, daemonHost, ...)`, as `openWallet` calls it. -/
def fromJSON (throws : InitCall → Bool) (versionOk : Bool) : Lifecycle Error := do
  let error ← fromJSONDocument versionOk
  if error != .success then return error
  modify fun s => { s with daemon := true }
  init throws
  return .success

/-- The functions that make a `WalletBackend` object and drive its lifecycle. -/
inductive Driver where
  /-- `createWallet`, `importWalletFromSeed`, `importWalletFromKeys`, `importViewWallet`:
  the standard or view constructor, then `init()`. -/
  | create
  /-- `openWallet`: the default constructor, then `fromJSON`. -/
  | openWallet (versionOk : Bool)
  deriving DecidableEq, Repr

/-- The run of a driver from the object's construction. -/
def Driver.run (throws : InitCall → Bool) : Driver → EStateM.Result Exception Backend Unit
  | .create => (init throws).run standardConstructor
  | .openWallet versionOk => ((fromJSON throws versionOk).map fun _ => ()).run defaultConstructor

/-- The state a run leaves the object in, whether it returned or threw. -/
def endState {α : Type} : EStateM.Result Exception Backend α → Backend
  | .ok _ s => s
  | .error _ s => s

/-- `~WalletBackend` saves when `m_daemon` is non-null, and `save()` goes through
`m_syncRAIIWrapper`: that save is safe unless the wrapper is null. -/
def saveIsSafe (s : Backend) : Bool := !s.daemon || s.syncRAIIWrapper

-- ── Running a lifecycle ──

section Run

variable {α β : Type} {s : Backend}

@[simp] theorem run_get_bind (f : Backend → Lifecycle α) : (get >>= f).run s = (f s).run s :=
  rfl

@[simp] theorem run_pure_bind (a : β) (f : β → Lifecycle α) : (pure a >>= f).run s = (f a).run s :=
  rfl

@[simp] theorem run_throw_bind (e : Exception) (f : β → Lifecycle α) :
    (throw e >>= f).run s = .error e s := rfl

@[simp] theorem run_modify_bind (g : Backend → Backend) (f : PUnit → Lifecycle α) :
    (modify g >>= f).run s = (f ⟨⟩).run (g s) := rfl

@[simp] theorem run_modify (g : Backend → Backend) :
    (modify g : Lifecycle PUnit).run s = .ok ⟨⟩ (g s) := rfl

@[simp] theorem run_ite (c : Prop) [Decidable c] (x y : Lifecycle α) :
    (if c then x else y).run s = if c then x.run s else y.run s := by
  split <;> rfl

@[simp] theorem run_collaborator_bind (throws : InitCall → Bool) (call : InitCall)
    (f : Unit → Lifecycle α) :
    (collaborator throws call >>= f).run s =
      if throws call then .error (.threwIn call) s else (f ()).run s := by
  unfold collaborator; split <;> rfl

theorem run_bind_of_ok {x : Lifecycle β} {f : β → Lifecycle α} {a : β} {s' : Backend}
    (h : x.run s = .ok a s') : (x >>= f).run s = (f a).run s' := by
  change x s = _ at h
  change EStateM.bind x f s = _
  simp only [EStateM.bind, h]
  rfl

theorem run_bind_of_error {x : Lifecycle β} {f : β → Lifecycle α} {e : Exception} {s' : Backend}
    (h : x.run s = .error e s') : (x >>= f).run s = .error e s' := by
  change x s = _ at h
  change EStateM.bind x f s = _
  simp only [EStateM.bind, h]

theorem run_map_of_ok {x : Lifecycle β} {f : β → α} {a : β} {s' : Backend}
    (h : x.run s = .ok a s') : (x.map f).run s = .ok (f a) s' := by
  change x s = _ at h
  change EStateM.map f x s = _
  simp only [EStateM.map, h]

theorem run_map_of_error {x : Lifecycle β} {f : β → α} {e : Exception} {s' : Backend}
    (h : x.run s = .error e s') : (x.map f).run s = .error e s' := by
  change x s = _ at h
  change EStateM.map f x s = _
  simp only [EStateM.map, h]

end Run

/-- A normal return of `init()` leaves `m_daemon` as it was and `m_syncRAIIWrapper` set. -/
theorem init_ok {throws : InitCall → Bool} {s s' : Backend} {u : Unit}
    (h : (init throws).run s = .ok u s') : s'.daemon = s.daemon ∧ s'.syncRAIIWrapper = true := by
  simp only [init, run_get_bind, run_pure_bind, run_throw_bind, run_modify_bind, run_modify,
    run_collaborator_bind, run_ite, ite_eq_iff, reduceCtorEq, and_false, false_or, or_false,
    EStateM.Result.ok.injEq, true_and] at h
  -- the two normal returns: with a synchronizer constructed, or one loaded from the file
  rcases h with ⟨-, -, ⟨-, -, -, -, rfl⟩ | ⟨-, -, -, -, rfl⟩⟩ <;> exact ⟨rfl, rfl⟩

/-- An exception out of `init()` leaves `m_daemon` and `m_syncRAIIWrapper` as they were;
once `m_daemon` is set it is a collaborator's. -/
theorem init_error {throws : InitCall → Bool} {s s' : Backend} {e : Exception}
    (h : (init throws).run s = .error e s') :
    s'.daemon = s.daemon ∧ s'.syncRAIIWrapper = s.syncRAIIWrapper ∧
      (s.daemon = true → ∃ call, e = .threwIn call) := by
  simp only [init, run_get_bind, run_pure_bind, run_throw_bind, run_modify_bind, run_modify,
    run_collaborator_bind, run_ite, ite_eq_iff, reduceCtorEq, and_false, false_or, or_false,
    EStateM.Result.error.injEq, true_and, false_and] at h
  -- the null-daemon check, then the seven collaborator calls that can throw
  rcases h with ⟨hd, rfl, rfl⟩ | ⟨-, ⟨-, rfl, rfl⟩ | ⟨-,
    ⟨-, ⟨-, rfl, rfl⟩ | ⟨-, ⟨-, rfl, rfl⟩ | ⟨-, -, rfl, rfl⟩⟩⟩ |
    ⟨-, ⟨-, rfl, rfl⟩ | ⟨-, ⟨-, rfl, rfl⟩ | ⟨-, -, rfl, rfl⟩⟩⟩⟩⟩
  · exact ⟨rfl, rfl, fun h => by simp [h] at hd⟩
  all_goals exact ⟨rfl, rfl, fun _ => ⟨_, rfl⟩⟩

/-- A normal return sets the wrapper, so from a state with `m_daemon` set and no wrapper
the destructor's save is unsafe exactly when a collaborator threw. -/
theorem saveIsSafe_init_iff {throws : InitCall → Bool} {s : Backend} (hd : s.daemon = true)
    (hw : s.syncRAIIWrapper = false) :
    saveIsSafe (endState ((init throws).run s)) = false ↔
      ∃ call s', (init throws).run s = .error (.threwIn call) s' := by
  cases hr : (init throws).run s with
  | ok u s' => simp [endState, saveIsSafe, (init_ok hr).2]
  | error e s' =>
    obtain ⟨hd', hw', he⟩ := init_error hr
    obtain ⟨call, rfl⟩ := he hd
    simp [endState, saveIsSafe, hd', hw', hd, hw]

/-- **The destructor's save goes through a null wrapper exactly when `init()` threw.**
For every driver and every choice of throwing collaborators, the object is destroyed
with `m_daemon` set and `m_syncRAIIWrapper` null exactly when the run ended by an
exception from one of `init()`'s collaborators. -/
theorem saveIsSafe_run_iff (throws : InitCall → Bool) (d : Driver) :
    saveIsSafe (endState (d.run throws)) = false ↔
      ∃ call s', d.run throws = .error (.threwIn call) s' := by
  match d with
  | .create => exact saveIsSafe_init_iff rfl rfl
  | .openWallet false =>
    have hrun : Driver.run throws (.openWallet false) = .ok () defaultConstructor := rfl
    simp [hrun, endState, saveIsSafe, defaultConstructor]
  | .openWallet true =>
    -- `fromJSON` has loaded the document and set `m_daemon` before `init()`
    have hrun : Driver.run throws (.openWallet true) =
        ((init throws >>= fun _ => pure Error.success).map fun _ => ()).run
          ⟨true, true, true, false⟩ := rfl
    have key := @saveIsSafe_init_iff throws ⟨true, true, true, false⟩ rfl rfl
    rw [hrun]
    cases hr : (init throws).run ⟨true, true, true, false⟩ with
    | ok u s' =>
      have hok : (init throws >>= fun _ => pure Error.success).run ⟨true, true, true, false⟩ =
          .ok Error.success s' := run_bind_of_ok hr
      rw [run_map_of_ok hok]
      rw [hr] at key
      simpa [endState] using key
    | error e s' =>
      rw [run_map_of_error (run_bind_of_error hr)]
      rw [hr] at key
      simpa [endState] using key

/-- `createWallet` whose `m_daemon->init()` throws: the exception unwinds past the local
`shared_ptr`, and the object is destroyed with `m_daemon` set and no wrapper. -/
theorem run_create_daemonInit_throws :
    Driver.run (fun call => call == .daemonInit) .create =
      .error (.threwIn .daemonInit) standardConstructor ∧
    standardConstructor.daemon = true ∧ standardConstructor.syncRAIIWrapper = false :=
  ⟨rfl, rfl, rfl⟩

end WalletLifecycle
