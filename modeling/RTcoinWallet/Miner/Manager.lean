import RTcoinWallet.Miner.Template

/-! # The event loop of `MinerManager`

    `MinerManager::start` spawns the blockchain checker and runs `eventLoop`.  The checker,
    the loop and every mining context are contexts of one `System::Dispatcher`, which
    switches between them only where one of them waits.  The loop waits only in
    `waitEvent`, on an empty queue; its template requests and submissions block the whole
    thread.  So once it runs it handles every queued event before anything else runs, and
    the other contexts run, each up to its next wait, only while it is waiting:

    * the checker pushes `BLOCK_MINE_START` when it starts, and again after each check
      period whose `getCheckerStatus()` is `false`; it stops at the first `true`;
    * a mining context returns from `m_miner.mine` with a block, stores it in the one slot
      `m_minedBlock` and pushes `BLOCK_MINED`, or its exception is swallowed;
    * the loop takes the events in order: `BLOCK_MINE_START` requests a template, adjusts it
      and starts mining it; `BLOCK_MINED` submits `m_minedBlock`, counts an accepted block
      against `blocksLimit` and returns at the limit, else requests and starts a new
      template; no case handles `BLOCKCHAIN_UPDATED`.

    `Miner::mine`, the daemon and the checker's timer are not under src/: what they answer
    labels the steps (`Action`).

    * `reachable_blocksLimit` — over every schedule, `blocksMined` counts the accepted
      blocks (it stays `0` without a limit), at most `blocksLimit` blocks are accepted, and
      the loop returns exactly when the limit is reached;
    * `reachable_templates` — `m_lastBlockTimestamp` is the timestamp of the last accepted
      block, and every mining context mines the daemon's template adjusted against the
      block accepted last before it started;
    * `reachable_submissions` — the daemon gets one submission per block the miner returned
      (once the loop has taken its event), each of them a block the miner returned; two
      blocks returned before the loop runs share the slot (`sampleFinal`);
    * `reachableInTurn_submitted` — when the loop takes each mined block before the next one
      arrives, the submissions are exactly the returned blocks, each once. -/

namespace Miner

/-- `MinerEventType`. -/
inductive MinerEventType where
  | blockMined
  | blockchainUpdated
  | blockMineStart
  deriving DecidableEq, Repr

/-- Where `eventLoop` is: `waiting` in `waitEvent` (blocked, or woken and not yet running);
    `draining` while it runs with events still queued, when no other context runs;
    `returned` after `blocksLimit` blocks; `crashed` after an exception left it.  `start()`
    never joins its `reporter` thread, so when the loop has ended, by a return or an
    exception, the thread's destructor calls `std::terminate`: nothing runs after. -/
inductive LoopState where
  | waiting
  | draining
  | returned
  | crashed (e : Thrown)
  deriving DecidableEq, Repr

/-- The context of `startBlockchainChecker`. -/
inductive CheckerState where
  | spawned
  | waiting
  | stopped
  deriving DecidableEq, Repr

/-- A context of `startMining`: the parameters it mines and, as ghost state, the template
    the daemon sent and how many blocks had been accepted when it started. -/
structure MiningContext (Body : Type) where
  params : BlockMiningParameters Body
  daemonTemplate : BlockTemplate Body
  acceptedBefore : Nat

/-- `m_events`, `m_minedBlock`, `m_lastBlockTimestamp`, the loop's `blocksMined`, where the
    loop and the checker are, and the mining contexts in progress; as ghost state, the
    blocks `m_miner.mine` returned, the blocks submitted, and those the daemon accepted. -/
structure Sys (Body : Type) where
  events : List MinerEventType
  minedBlock : BlockTemplate Body
  lastBlockTimestamp : Nat
  blocksMined : Nat
  loop : LoopState
  checker : CheckerState
  mining : List (MiningContext Body)
  mined : List (BlockTemplate Body)
  submitted : List (BlockTemplate Body)
  accepted : List (BlockTemplate Body)

variable {Body : Type}

/-- `start()` after spawning the checker: nothing queued, `m_minedBlock` as constructed
    (`emptyBlock`), `m_lastBlockTimestamp(0)`, `blocksMined = 0`. -/
def initial (emptyBlock : BlockTemplate Body) : Sys Body :=
  ⟨[], emptyBlock, 0, 0, .waiting, .spawned, [], [], [], []⟩

/-- One context running to its next wait, with what its collaborators answer. -/
inductive Action (Body : Type) where
  /-- The checker's first `pushEvent`. -/
  | checkerStart
  /-- `waitBlockchainCheckerExpired()` returns, then `getCheckerStatus()`. -/
  | checkerExpired (checkerStatus : Bool)
  /-- An exception ends the checker; its `catch` swallows it. -/
  | checkerThrows
  /-- The mining context at position `i` gets `block` from `m_miner.mine`. -/
  | mineReturns (i : Nat) (block : BlockTemplate Body)
  /-- `m_miner.mine` throws in the context at position `i`; its `catch` swallows it. -/
  | mineThrows (i : Nat)
  /-- The loop takes the next event; the daemon answers the submission and the template
      requests. -/
  | handle (submitResponse : Option Response) (templateResponses : List (Option Response))

/-- `submitBlock`: the block counts as found when the daemon answers `202`. -/
def submitBlock : Option Response → Bool
  | some res => res.status == 202
  | none => false

/-- The timestamp of the last block of a list, `0` for none. -/
def lastTimestamp (blocks : List (BlockTemplate Body)) : Nat :=
  (blocks.getLast?.map BlockTemplate.timestamp).getD 0

namespace Sys

/-- `pushEvent`. -/
def pushEvent (s : Sys Body) (event : MinerEventType) : Sys Body :=
  { s with events := s.events ++ [event] }

/-- `submitBlock(m_minedBlock)` answered `found`; a found block sets `m_lastBlockTimestamp`. -/
def submit (s : Sys Body) (found : Bool) : Sys Body :=
  if found then
    { s with
      submitted := s.submitted ++ [s.minedBlock]
      accepted := s.accepted ++ [s.minedBlock]
      lastBlockTimestamp := s.minedBlock.timestamp }
  else { s with submitted := s.submitted ++ [s.minedBlock] }

@[simp] theorem submit_blocksMined (s : Sys Body) (found : Bool) :
    (s.submit found).blocksMined = s.blocksMined := by
  cases found <;> rfl

@[simp] theorem submit_events (s : Sys Body) (found : Bool) :
    (s.submit found).events = s.events := by
  cases found <;> rfl

@[simp] theorem submit_minedBlock (s : Sys Body) (found : Bool) :
    (s.submit found).minedBlock = s.minedBlock := by
  cases found <;> rfl

@[simp] theorem submit_mined (s : Sys Body) (found : Bool) : (s.submit found).mined = s.mined := by
  cases found <;> rfl

@[simp] theorem submit_submitted (s : Sys Body) (found : Bool) :
    (s.submit found).submitted = s.submitted ++ [s.minedBlock] := by
  cases found <;> rfl

/-- After an event the loop goes on draining, or waits once the queue is empty. -/
def afterEvent (s : Sys Body) : Sys Body :=
  match s.loop with
  | .waiting | .draining => { s with loop := if s.events = [] then .waiting else .draining }
  | _ => s

/-- `afterEvent` moves the loop only. -/
theorem afterEvent_eq (s : Sys Body) : ∃ loop, s.afterEvent = { s with loop := loop } := by
  unfold afterEvent
  split
  exacts [⟨_, rfl⟩, ⟨_, rfl⟩, ⟨s.loop, rfl⟩]

end Sys

variable (C : ChainOps Body) (config : MiningConfig)

/-- `params = requestMiningParameters(); adjustBlockTemplate(params.blockTemplate);
    if (!params.isEmpty) startMining(params);` — `none` while the daemon's answers are all
    refused. -/
def requestAndStart (s : Sys Body) (responses : List (Option Response)) : Option (Sys Body) :=
  (requestMiningParameters C responses).map fun
    | .error e => { s with loop := .crashed e }
    | .ok params =>
      match adjustBlockTemplate C config s.lastBlockTimestamp params.blockTemplate with
      | .error e => { s with loop := .crashed e }
      | .ok blockTemplate =>
        if params.isEmpty then s
        else
          { s with mining := s.mining ++
            [⟨{ params with blockTemplate := blockTemplate }, params.blockTemplate,
              s.accepted.length⟩] }

/-- The `switch` of `eventLoop` on an event taken from the queue. -/
def handleEvent (s : Sys Body) (submitResponse : Option Response)
    (responses : List (Option Response)) : MinerEventType → Option (Sys Body)
  | .blockMineStart => requestAndStart C config s responses
  | .blockMined =>
    let s := s.submit (submitBlock submitResponse)
    if submitBlock submitResponse ∧ config.blocksLimit ≠ 0 then
      if s.blocksMined + 1 = config.blocksLimit then
        some { s with blocksMined := s.blocksMined + 1, loop := .returned }
      else requestAndStart C config { s with blocksMined := s.blocksMined + 1 } responses
    else requestAndStart C config s responses
  | .blockchainUpdated => some s

/-- One step of the dispatcher: the loop handles an event while it runs; the other
    contexts run only while it waits. -/
def step (s : Sys Body) : Action Body → Option (Sys Body)
  | .checkerStart =>
    if s.loop = .waiting ∧ s.checker = .spawned then
      some ({ s with checker := .waiting }.pushEvent .blockMineStart)
    else none
  | .checkerExpired checkerStatus =>
    if s.loop = .waiting ∧ s.checker = .waiting then
      some (if checkerStatus then { s with checker := .stopped } else s.pushEvent .blockMineStart)
    else none
  | .checkerThrows =>
    if s.loop = .waiting ∧ s.checker ≠ .stopped then some { s with checker := .stopped }
    else none
  | .mineReturns i block =>
    if s.loop = .waiting ∧ i < s.mining.length then
      some ({ s with
        minedBlock := block
        mining := s.mining.eraseIdx i
        mined := s.mined ++ [block] }.pushEvent .blockMined)
    else none
  | .mineThrows i =>
    if s.loop = .waiting ∧ i < s.mining.length then some { s with mining := s.mining.eraseIdx i }
    else none
  | .handle submitResponse responses =>
    match s.loop, s.events with
    | .waiting, event :: events | .draining, event :: events =>
      (handleEvent C config { s with events := events } submitResponse responses event).map
        Sys.afterEvent
    | _, _ => none

/-- The states some schedule reaches from `initial emptyBlock`. -/
inductive Reachable (emptyBlock : BlockTemplate Body) : Sys Body → Prop
  | initial : Reachable emptyBlock (initial emptyBlock)
  | step {s s' : Sys Body} (a : Action Body) :
      Reachable emptyBlock s → Miner.step C config s a = some s' → Reachable emptyBlock s'

/-! ## What every schedule keeps -/

/-- The invariant: the loop's count against `blocksLimit`, `m_lastBlockTimestamp` and the
    templates of the mining contexts against the accepted blocks, and the slot
    `m_minedBlock` against what the miner returned and what was submitted. -/
structure Inv (s : Sys Body) : Prop where
  blocksMined : s.blocksMined = if config.blocksLimit = 0 then 0 else s.accepted.length
  accepted_le : config.blocksLimit ≠ 0 → s.accepted.length ≤ config.blocksLimit
  returned_iff :
    s.loop = .returned ↔ config.blocksLimit ≠ 0 ∧ s.accepted.length = config.blocksLimit
  lastBlockTimestamp : s.lastBlockTimestamp = lastTimestamp s.accepted
  mining : ∀ c ∈ s.mining, c.acceptedBefore ≤ s.accepted.length ∧
    adjustBlockTemplate C config (lastTimestamp (s.accepted.take c.acceptedBefore))
      c.daemonTemplate = .ok c.params.blockTemplate
  minedBlock : ∀ b, s.mined.getLast? = some b → b = s.minedBlock
  submitted_mined : ∀ b ∈ s.submitted, b ∈ s.mined
  count : s.submitted.length + s.events.count .blockMined = s.mined.length
  accepted_sublist : List.Sublist s.accepted s.submitted

variable {C config}

theorem inv_initial (emptyBlock : BlockTemplate Body) : Inv C config (initial emptyBlock) where
  blocksMined := by simp [initial]
  accepted_le _ := Nat.zero_le _
  returned_iff := ⟨nofun, fun ⟨hlimit, hzero⟩ => absurd hzero.symm hlimit⟩
  lastBlockTimestamp := rfl
  mining := nofun
  minedBlock := nofun
  submitted_mined := nofun
  count := rfl
  accepted_sublist := List.Sublist.slnil

/-- What starting a template can do: leave the loop by an exception, change nothing (an
    empty template), or add a mining context for the adjusted template. -/
theorem requestAndStart_cases {s s' : Sys Body} {responses : List (Option Response)}
    (h : requestAndStart C config s responses = some s') :
    (∃ e, s' = { s with loop := .crashed e }) ∨ s' = s ∨
      ∃ (params : BlockMiningParameters Body) (blockTemplate : BlockTemplate Body),
        adjustBlockTemplate C config s.lastBlockTimestamp params.blockTemplate =
          .ok blockTemplate ∧
        s' = { s with mining := s.mining ++
          [⟨{ params with blockTemplate := blockTemplate }, params.blockTemplate,
            s.accepted.length⟩] } := by
  unfold requestAndStart at h
  cases hr : requestMiningParameters C responses with
  | none => rw [hr] at h; cases h
  | some request =>
    rw [hr, Option.map_some'] at h
    obtain rfl := Option.some.inj h
    cases request with
    | error e => exact .inl ⟨e, rfl⟩
    | ok params =>
      dsimp only
      cases ha : adjustBlockTemplate C config s.lastBlockTimestamp params.blockTemplate with
      | error e => exact .inl ⟨e, rfl⟩
      | ok blockTemplate =>
        dsimp only
        split
        · exact .inr (.inl rfl)
        · exact .inr (.inr ⟨params, blockTemplate, ha, rfl⟩)

/-- A step of the loop: it takes the first queued event and handles it. -/
theorem step_handle {s s' : Sys Body} {submitResponse : Option Response}
    {responses : List (Option Response)}
    (h : Miner.step C config s (.handle submitResponse responses) = some s') :
    ∃ event events s₁, s.loop ≠ .returned ∧ s.events = event :: events ∧
      handleEvent C config { s with events := events } submitResponse responses event =
        some s₁ ∧ s' = s₁.afterEvent := by
  simp only [Miner.step] at h
  split at h
  all_goals first
    | (obtain ⟨s₁, h₁, rfl⟩ := Option.map_eq_some'.mp h
       exact ⟨_, _, s₁, by simp [*], ‹_›, h₁, rfl⟩)
    | cases h

/-- Handling an event leaves the queue, the slot and the returned blocks alone, and
    submits the slot exactly for a `BLOCK_MINED`. -/
theorem handleEvent_frame {s s' : Sys Body} {submitResponse : Option Response}
    {responses : List (Option Response)} {event : MinerEventType}
    (h : handleEvent C config s submitResponse responses event = some s') :
    s'.events = s.events ∧ s'.minedBlock = s.minedBlock ∧ s'.mined = s.mined ∧
      s'.submitted = s.submitted ++ (if event = .blockMined then [s.minedBlock] else []) := by
  have hstart : ∀ {t t' : Sys Body}, requestAndStart C config t responses = some t' →
      t'.events = t.events ∧ t'.minedBlock = t.minedBlock ∧ t'.mined = t.mined ∧
        t'.submitted = t.submitted := fun h => by
    rcases requestAndStart_cases h with ⟨e, rfl⟩ | rfl | ⟨_, _, _, rfl⟩ <;>
      exact ⟨rfl, rfl, rfl, rfl⟩
  cases event with
  | blockMineStart => simpa using hstart h
  | blockchainUpdated =>
    obtain rfl := Option.some.inj h
    simp
  | blockMined =>
    simp only [handleEvent] at h
    split_ifs at h
    · obtain rfl := Option.some.inj h
      simp
    all_goals simpa using hstart h

namespace Inv

variable {s : Sys Body}

/-- The loop may move between states other than `returned`. -/
theorem setLoop (hi : Inv C config s) (hl : s.loop ≠ .returned) {loop : LoopState}
    (hloop : loop ≠ .returned) : Inv C config { s with loop := loop } :=
  { hi with
    returned_iff := ⟨fun h => absurd h hloop, fun h => absurd (hi.returned_iff.mpr h) hl⟩ }

theorem afterEvent (hi : Inv C config s) : Inv C config s.afterEvent := by
  unfold Sys.afterEvent
  split
  · exact hi.setLoop (by simp [*]) (by split_ifs <;> nofun)
  · exact hi.setLoop (by simp [*]) (by split_ifs <;> nofun)
  · exact hi

/-- Taking an event other than `BLOCK_MINED` off the queue. -/
theorem pop (hi : Inv C config s) {event : MinerEventType} {events : List MinerEventType}
    (hev : s.events = event :: events) (hne : event ≠ .blockMined) :
    Inv C config { s with events := events } :=
  { hi with count := by rw [← hi.count, hev, List.count_cons, if_neg (by simpa using hne)]; rfl }

/-- A queued `BLOCK_MINED` means `m_minedBlock` holds a block the miner returned. -/
theorem minedBlock_mem (hi : Inv C config s) (hev : .blockMined ∈ s.events) :
    s.minedBlock ∈ s.mined := by
  have hne : s.mined ≠ [] := fun h => by
    have hcount := hi.count
    have hpos := List.count_pos_iff.mpr hev
    rw [h, List.length_nil] at hcount
    omega
  rw [← hi.minedBlock _ (List.getLast?_eq_getLast _ hne)]
  exact List.getLast_mem hne

theorem requestAndStart {s' : Sys Body} {responses : List (Option Response)}
    (hi : Inv C config s) (hl : s.loop ≠ .returned)
    (h : requestAndStart C config s responses = some s') : Inv C config s' := by
  rcases requestAndStart_cases h with ⟨e, rfl⟩ | rfl | ⟨params, blockTemplate, ha, rfl⟩
  · exact hi.setLoop hl nofun
  · exact hi
  · refine { hi with mining := fun c hc => ?_ }
    rcases List.mem_append.mp hc with hc | hc
    · exact hi.mining c hc
    · rw [List.mem_singleton] at hc
      subst hc
      refine ⟨le_refl _, ?_⟩
      rw [List.take_length, ← hi.lastBlockTimestamp]
      exact ha

/-- `submitBlock` refused: the block is submitted and nothing else changes. -/
theorem submitRefused (hi : Inv C config s) {events : List MinerEventType}
    (hev : s.events = .blockMined :: events) :
    Inv C config (({ s with events := events } : Sys Body).submit false) := by
  have hmem := hi.minedBlock_mem (hev ▸ List.mem_cons_self _ _)
  have hcount := hi.count
  rw [hev, List.count_cons_self] at hcount
  exact { hi with
    submitted_mined := fun b hb => by
      rcases List.mem_append.mp hb with hb | hb
      · exact hi.submitted_mined b hb
      · rw [List.mem_singleton.mp hb]; exact hmem
    count := by
      simp only [Sys.submit, Bool.false_eq_true, ↓reduceIte, List.length_append,
        List.length_singleton]
      omega
    accepted_sublist := hi.accepted_sublist.trans (List.sublist_append_left _ _) }

/-- `submitBlock` accepted: with a loop count and a loop state that agree with one more
    accepted block. -/
theorem submitFound (hi : Inv C config s) {events : List MinerEventType}
    (hev : s.events = .blockMined :: events) (blocksMined : Nat) (loop : LoopState)
    (hb : blocksMined = if config.blocksLimit = 0 then 0 else s.accepted.length + 1)
    (hle : config.blocksLimit ≠ 0 → s.accepted.length + 1 ≤ config.blocksLimit)
    (hr : loop = .returned ↔
      config.blocksLimit ≠ 0 ∧ s.accepted.length + 1 = config.blocksLimit) :
    Inv C config
      { ({ s with events := events } : Sys Body).submit true with blocksMined, loop } := by
  have hmem := hi.minedBlock_mem (hev ▸ List.mem_cons_self _ _)
  have hcount := hi.count
  rw [hev, List.count_cons_self] at hcount
  refine
    { blocksMined := by simpa [Sys.submit] using hb
      accepted_le := by simpa [Sys.submit] using hle
      returned_iff := by simpa [Sys.submit] using hr
      lastBlockTimestamp := by simp [Sys.submit, lastTimestamp]
      mining := fun c hc => ?_
      minedBlock := hi.minedBlock
      submitted_mined := fun b hb => ?_
      count := by
        simp only [Sys.submit, ↓reduceIte, List.length_append, List.length_singleton]
        omega
      accepted_sublist := hi.accepted_sublist.append (List.Sublist.refl _) }
  · obtain ⟨hbefore, hadjust⟩ := hi.mining c hc
    simp only [Sys.submit, ↓reduceIte, List.length_append, List.length_singleton]
    rw [List.take_append_of_le_length hbefore]
    exact ⟨by omega, hadjust⟩
  · simp only [Sys.submit, ↓reduceIte, List.mem_append, List.mem_singleton] at hb
    rcases hb with hb | rfl
    exacts [hi.submitted_mined b hb, hmem]

theorem handleEvent {s' : Sys Body} {event : MinerEventType} {events : List MinerEventType}
    {submitResponse : Option Response} {responses : List (Option Response)}
    (hi : Inv C config s) (hl : s.loop ≠ .returned) (hev : s.events = event :: events)
    (h : handleEvent C config { s with events := events } submitResponse responses event =
      some s') : Inv C config s' := by
  cases event with
  | blockMineStart => exact (hi.pop hev nofun).requestAndStart hl h
  | blockchainUpdated =>
    obtain rfl := Option.some.inj h
    exact hi.pop hev nofun
  | blockMined =>
    simp only [Miner.handleEvent] at h
    cases hfound : submitBlock submitResponse
    · simp only [hfound, Bool.false_eq_true, false_and, ↓reduceIte] at h
      exact (hi.submitRefused hev).requestAndStart hl h
    · have hcount := hi.blocksMined
      by_cases hlim : config.blocksLimit = 0
      · simp only [hfound, hlim, ne_eq, not_true_eq_false, and_false, ↓reduceIte] at h
        refine (hi.submitFound hev s.blocksMined s.loop ?_ (absurd hlim) ?_).requestAndStart hl h
        · simp only [hcount, hlim, ↓reduceIte]
        · exact ⟨fun h => absurd h hl, fun h => absurd hlim h.1⟩
      · have hlt : s.accepted.length < config.blocksLimit := lt_of_le_of_ne
          (hi.accepted_le hlim) fun heq => hl (hi.returned_iff.mpr ⟨hlim, heq⟩)
        simp only [hfound, hlim, ne_eq, not_false_eq_true, and_self, ↓reduceIte,
          Sys.submit_blocksMined] at h
        have hb : s.blocksMined + 1 =
            if config.blocksLimit = 0 then 0 else s.accepted.length + 1 := by
          simp only [hcount, hlim, ↓reduceIte]
        have hacc : s.blocksMined + 1 = config.blocksLimit ↔
            s.accepted.length + 1 = config.blocksLimit := by
          rw [hcount, if_neg hlim]
        split_ifs at h with hreached
        · obtain rfl := Option.some.inj h
          exact hi.submitFound hev _ .returned hb (fun _ => hlt)
            ⟨fun _ => ⟨hlim, hacc.mp hreached⟩, fun _ => rfl⟩
        · exact (hi.submitFound hev _ _ hb (fun _ => hlt)
            ⟨fun h => absurd h hl, fun h => (hreached (hacc.mpr h.2)).elim⟩).requestAndStart
              hl h

/-- **Every step keeps the invariant.** -/
theorem step {s' : Sys Body} {a : Action Body} (hi : Inv C config s)
    (h : Miner.step C config s a = some s') : Inv C config s' := by
  cases a with
  | checkerStart =>
    simp only [Miner.step] at h
    split_ifs at h
    obtain rfl := Option.some.inj h
    exact { hi with count := by simpa [Sys.pushEvent] using hi.count }
  | checkerExpired checkerStatus =>
    simp only [Miner.step] at h
    split_ifs at h <;> obtain rfl := Option.some.inj h
    · exact { hi with }
    · exact { hi with count := by simpa [Sys.pushEvent] using hi.count }
  | checkerThrows =>
    simp only [Miner.step] at h
    split_ifs at h
    obtain rfl := Option.some.inj h
    exact { hi with }
  | mineReturns i block =>
    simp only [Miner.step] at h
    split_ifs at h
    obtain rfl := Option.some.inj h
    exact
      { hi with
        mining := fun c hc => hi.mining c (List.mem_of_mem_eraseIdx hc)
        minedBlock := fun b hb => by simpa [Sys.pushEvent] using hb.symm
        submitted_mined := fun b hb => List.mem_append_left _ (hi.submitted_mined b hb)
        count := by simp [Sys.pushEvent, ← hi.count]; omega }
  | mineThrows i =>
    simp only [Miner.step] at h
    split_ifs at h
    obtain rfl := Option.some.inj h
    exact { hi with mining := fun c hc => hi.mining c (List.mem_of_mem_eraseIdx hc) }
  | handle submitResponse responses =>
    obtain ⟨_, _, s₁, hl, hev, h₁, rfl⟩ := step_handle h
    exact (hi.handleEvent hl hev h₁).afterEvent

end Inv

/-- Every reachable state satisfies the invariant. -/
theorem reachable_inv {emptyBlock : BlockTemplate Body} {s : Sys Body}
    (h : Reachable C config emptyBlock s) : Inv C config s := by
  induction h with
  | initial => exact inv_initial emptyBlock
  | step _ _ hstep ih => exact ih.step hstep

variable (C config) in
/-- A schedule from `s`, step by step; `none` when one of its steps cannot happen. -/
def run (s : Sys Body) : List (Action Body) → Option (Sys Body)
  | [] => some s
  | a :: actions => (Miner.step C config s a).bind fun s' => run s' actions

theorem reachable_run {emptyBlock : BlockTemplate Body} {s : Sys Body}
    (h : Reachable C config emptyBlock s) :
    ∀ {actions : List (Action Body)} {s' : Sys Body},
      run C config s actions = some s' → Reachable C config emptyBlock s'
  | [], _, hrun => Option.some.inj hrun ▸ h
  | a :: _, _, hrun => by
    obtain ⟨s₁, h₁, hrest⟩ := Option.bind_eq_some.mp hrun
    exact reachable_run (h.step a h₁) hrest

/-! ## A schedule with two mining contexts -/

/-- Two blocks, the first at timestamp `100`, then every `10`. -/
def sampleConfig : MiningConfig := ⟨[], 2, 100, 10⟩

/-- The checker asks twice, so two contexts mine the same template; both return before
    the loop runs, with nonces `7` and `8`, and the daemon accepts both submissions. -/
def sampleSchedule : List (Action Nat) :=
  [.checkerStart, .handle none [sampleTemplateAnswer], .checkerExpired false,
    .handle none [sampleTemplateAnswer], .mineReturns 0 ⟨1, 100, [], 7⟩,
    .mineReturns 0 ⟨1, 100, [], 8⟩, .handle (some ⟨202, []⟩) [sampleTemplateAnswer],
    .handle (some ⟨202, []⟩) []]

/-- Where the schedule ends: the block of nonce `7` was overwritten in the slot before
    the loop ran and is never submitted; the one of nonce `8` is submitted twice, the
    limit is reached, and the template started in between is stamped `100 + 10`. -/
def sampleFinal : Sys Nat :=
  ⟨[], ⟨1, 100, [], 8⟩, 100, 2, .returned, .waiting,
    [⟨⟨⟨1, 110, [], 0⟩, 1, false⟩, ⟨1, 0, [], 0⟩, 1⟩],
    [⟨1, 100, [], 7⟩, ⟨1, 100, [], 8⟩], [⟨1, 100, [], 8⟩, ⟨1, 100, [], 8⟩],
    [⟨1, 100, [], 8⟩, ⟨1, 100, [], 8⟩]⟩

theorem sampleFinal_reachable : Reachable sampleOps sampleConfig ⟨0, 0, [], 0⟩ sampleFinal :=
  reachable_run .initial
    (show run sampleOps sampleConfig (initial ⟨0, 0, [], 0⟩) sampleSchedule = some sampleFinal
      from rfl)

section Properties

variable {emptyBlock : BlockTemplate Body} {s : Sys Body}

/-- **Blocks against `blocksLimit`.**  Over every schedule of the checker, the mining
    contexts and the loop, and every answer of the daemon: `blocksMined` is the number of
    blocks the daemon accepted (it stays `0` when `blocksLimit` is `0`, as `&&` skips the
    increment), never more than `blocksLimit` blocks are accepted, and the loop has
    returned exactly when a non-zero limit has been reached. -/
theorem reachable_blocksLimit (h : Reachable C config emptyBlock s) :
    s.blocksMined = (if config.blocksLimit = 0 then 0 else s.accepted.length) ∧
      (config.blocksLimit ≠ 0 → s.accepted.length ≤ config.blocksLimit) ∧
      (s.loop = .returned ↔
        config.blocksLimit ≠ 0 ∧ s.accepted.length = config.blocksLimit) :=
  let hi := reachable_inv h
  ⟨hi.blocksMined, hi.accepted_le, hi.returned_iff⟩

/-- The sample schedule accepts its two blocks and returns. -/
theorem reachable_blocksLimit_sample :
    sampleFinal.blocksMined =
        (if sampleConfig.blocksLimit = 0 then 0 else sampleFinal.accepted.length) ∧
      (sampleConfig.blocksLimit ≠ 0 →
        sampleFinal.accepted.length ≤ sampleConfig.blocksLimit) ∧
      (sampleFinal.loop = .returned ↔
        sampleConfig.blocksLimit ≠ 0 ∧
          sampleFinal.accepted.length = sampleConfig.blocksLimit) :=
  reachable_blocksLimit sampleFinal_reachable

/-- **Submissions come from the miner.**  Over every schedule, every block submitted to the
    daemon is one `m_miner.mine` returned, never the `m_minedBlock` the manager was
    constructed with; there is one submission per returned block once the loop has taken
    its `BLOCK_MINED`; the accepted blocks are among the submissions, in order; and while
    a `BLOCK_MINED` is queued, the slot holds the last block returned, which is what the
    loop will submit for it. -/
theorem reachable_submissions (h : Reachable C config emptyBlock s) :
    (∀ b ∈ s.submitted, b ∈ s.mined) ∧
      s.submitted.length + s.events.count .blockMined = s.mined.length ∧
      List.Sublist s.accepted s.submitted ∧
      (.blockMined ∈ s.events → s.mined.getLast? = some s.minedBlock) := by
  have hi := reachable_inv h
  refine ⟨hi.submitted_mined, hi.count, hi.accepted_sublist, fun hev => ?_⟩
  have hmem := hi.minedBlock_mem hev
  obtain ⟨b, hb⟩ := Option.isSome_iff_exists.mp
    (List.getLast?_isSome.mpr (List.ne_nil_of_mem hmem))
  rw [hb, hi.minedBlock b hb]

/-- In the sample schedule the miner returned the blocks of nonces `7` and `8`, and the
    block of nonce `8` was submitted for both. -/
theorem reachable_submissions_sample :
    (∀ b ∈ sampleFinal.submitted, b ∈ sampleFinal.mined) ∧
      sampleFinal.submitted.length + sampleFinal.events.count .blockMined =
        sampleFinal.mined.length ∧
      List.Sublist sampleFinal.accepted sampleFinal.submitted ∧
      (.blockMined ∈ sampleFinal.events →
        sampleFinal.mined.getLast? = some sampleFinal.minedBlock) :=
  reachable_submissions sampleFinal_reachable

end Properties

/-! ## Mined blocks taken in turn -/

/-- Whether a step is a mining context returning its block. -/
def Action.returnsBlock : Action Body → Bool
  | .mineReturns _ _ => true
  | _ => false

variable (C config) in
/-- The states of the schedules in which no mining context returns while a `BLOCK_MINED` is
    still queued: the loop takes each mined block before the next one arrives. -/
inductive ReachableInTurn (emptyBlock : BlockTemplate Body) : Sys Body → Prop
  | initial : ReachableInTurn emptyBlock (initial emptyBlock)
  | step {s s' : Sys Body} (a : Action Body) : ReachableInTurn emptyBlock s →
      Miner.step C config s a = some s' → (a.returnsBlock → .blockMined ∉ s.events) →
      ReachableInTurn emptyBlock s'

variable (C config) in
/-- `run`, failing as soon as a mining context would return while a `BLOCK_MINED` is
    queued. -/
def runInTurn (s : Sys Body) : List (Action Body) → Option (Sys Body)
  | [] => some s
  | a :: actions =>
    if a.returnsBlock ∧ .blockMined ∈ s.events then none
    else (Miner.step C config s a).bind fun s' => runInTurn s' actions

theorem reachableInTurn_runInTurn {emptyBlock : BlockTemplate Body} {s : Sys Body}
    (h : ReachableInTurn C config emptyBlock s) :
    ∀ {actions : List (Action Body)} {s' : Sys Body},
      runInTurn C config s actions = some s' → ReachableInTurn C config emptyBlock s'
  | [], _, hrun => Option.some.inj hrun ▸ h
  | a :: _, _, hrun => by
    simp only [runInTurn] at hrun
    split_ifs at hrun with hturn
    obtain ⟨s₁, h₁, hrest⟩ := Option.bind_eq_some.mp hrun
    exact reachableInTurn_runInTurn (h.step a h₁ fun hr hm => hturn ⟨hr, hm⟩) hrest

/-- Every step in turn keeps the pending block accounted: the loop's steps by the frame of
    `handleEvent`, a returning context because no `BLOCK_MINED` was queued, the others
    because they change neither the queue's `BLOCK_MINED`s nor the blocks. -/
theorem inTurn_step {s s' : Sys Body} {a : Action Body}
    (hstep : Miner.step C config s a = some s')
    (hturn : a.returnsBlock → .blockMined ∉ s.events)
    (hcount : s.events.count .blockMined ≤ 1)
    (hlist : s.submitted ++ (if .blockMined ∈ s.events then [s.minedBlock] else []) = s.mined) :
    s'.events.count .blockMined ≤ 1 ∧
      s'.submitted ++ (if .blockMined ∈ s'.events then [s'.minedBlock] else []) = s'.mined := by
  cases a with
  | handle submitResponse responses =>
    obtain ⟨event, events, s₁, -, hev, h₁, rfl⟩ := step_handle hstep
    obtain ⟨loop, hafter⟩ := Sys.afterEvent_eq s₁
    obtain ⟨hevents, hslot, hmined, hsubmitted⟩ := handleEvent_frame h₁
    rw [hafter]
    simp only [hevents, hslot, hmined, hsubmitted]
    rw [hev] at hcount hlist
    by_cases hbm : event = .blockMined
    · subst hbm
      rw [List.count_cons_self] at hcount
      have hnot : .blockMined ∉ events := fun hm => by
        have := List.count_pos_iff.mpr hm
        omega
      simp only [List.mem_cons_self, ↓reduceIte] at hlist
      simp only [hnot, ↓reduceIte, List.append_nil]
      exact ⟨by omega, hlist⟩
    · rw [List.count_cons, if_neg (by simpa using hbm)] at hcount
      simp only [List.mem_cons, Ne.symm hbm, false_or] at hlist
      simp only [hbm, ↓reduceIte, List.append_nil]
      exact ⟨by omega, hlist⟩
  | mineReturns i block =>
    have hnot := hturn rfl
    simp only [Miner.step] at hstep
    split_ifs at hstep
    obtain rfl := Option.some.inj hstep
    simp only [hnot, ↓reduceIte, List.append_nil] at hlist
    simp [Sys.pushEvent, List.count_eq_zero_of_not_mem hnot, hlist]
  | _ =>
    simp only [Miner.step] at hstep
    split_ifs at hstep <;> obtain rfl := Option.some.inj hstep <;>
      simpa [Sys.pushEvent] using And.intro hcount hlist

/-- **No block lost or submitted twice, in turn.**  Over every schedule in which the loop
    takes each `BLOCK_MINED` before another mining context returns — as when one block is
    mined at a time — at most one `BLOCK_MINED` is ever queued, and the blocks submitted
    to the daemon, followed by the one waiting in `m_minedBlock` for its event, are exactly
    the blocks `m_miner.mine` returned, in order, each once. -/
theorem reachableInTurn_submitted {emptyBlock : BlockTemplate Body} {s : Sys Body}
    (h : ReachableInTurn C config emptyBlock s) :
    s.events.count .blockMined ≤ 1 ∧
      s.submitted ++ (if .blockMined ∈ s.events then [s.minedBlock] else []) = s.mined := by
  induction h with
  | initial => exact ⟨Nat.zero_le _, rfl⟩
  | step _ _ hstep hturn ih => exact inTurn_step hstep hturn ih.1 ih.2


/-- One block at a time: the template, its block of nonce `7`, the next template stamped
    `100 + 10`, its block of nonce `9`. -/
def sampleInTurnSchedule : List (Action Nat) :=
  [.checkerStart, .handle none [sampleTemplateAnswer], .mineReturns 0 ⟨1, 100, [], 7⟩,
    .handle (some ⟨202, []⟩) [sampleTemplateAnswer], .mineReturns 0 ⟨1, 110, [], 9⟩,
    .handle (some ⟨202, []⟩) []]

/-- Where it ends: both blocks submitted and accepted, once each. -/
def sampleInTurnFinal : Sys Nat :=
  ⟨[], ⟨1, 110, [], 9⟩, 110, 2, .returned, .waiting, [],
    [⟨1, 100, [], 7⟩, ⟨1, 110, [], 9⟩], [⟨1, 100, [], 7⟩, ⟨1, 110, [], 9⟩],
    [⟨1, 100, [], 7⟩, ⟨1, 110, [], 9⟩]⟩

theorem reachableInTurn_submitted_sample :
    sampleInTurnFinal.events.count .blockMined ≤ 1 ∧
      sampleInTurnFinal.submitted ++
          (if .blockMined ∈ sampleInTurnFinal.events then [sampleInTurnFinal.minedBlock]
            else []) =
        sampleInTurnFinal.mined :=
  reachableInTurn_submitted (reachableInTurn_runInTurn .initial
    (show runInTurn sampleOps sampleConfig (initial ⟨0, 0, [], 0⟩) sampleInTurnSchedule =
      some sampleInTurnFinal from rfl))

end Miner
