import RTcoinWallet.Errors
import RTcoinWallet.GetInput

/-! # The prompt loops of `GetInput.cpp`

    `getAmountToAtomic`, `getAddress`, `getPaymentID`, `getHash` and `getDaemonAddress` share
    one loop: read a line, return a fixed value when `std::getline` fails (the end of
    input), otherwise run one pass over the line, which either returns or asks again.
    The passes differ: `getAddress` asks again on an empty line, `getPaymentID` returns it
    as "no payment ID", `getHash` hands it to `validateHash`; `getDaemonAddress` takes its
    defaults on a line that is empty before trimming.  The validators and
    `Utilities::parseDaemonAddressFromString` are not in the sources and are parameters.
    As in `GetInput.lean`, a line is a `std::string` of bytes, modelled with one `Char` per
    byte.

    * `promptLoop_spec` — a prompt loop returns its end-of-input value after refusing every
      line, or what its pass returns on the first line the pass accepts;
    * `getAddress_result` — `getAddress` returns the first trimmed line that is not empty
      and is either `cancel` with cancelling allowed or an address `validateAddresses`
      accepts, and `cancel` when no line is, even when cancelling is not allowed;
    * `getHeight_leading_digits` — `getHeight` accepts a line whose digits are followed by
      anything, reading the leading digits, and wraps a leading `-` modulo `2^64`;
    * `getPrompt_eq` — the prompt shows the first `20` characters of the filename without a
      trailing `.wallet`, and `std::equal` reads before the start of the filename when it is
      a proper suffix of `.wallet`. -/

namespace GetInput

open WalletErrors

variable {α : Type}

/-- The loop of the prompts on the lines the terminal delivers: the end of input (a
    failed `std::getline`) returns `eof`; otherwise the pass `iteration` on the line
    either returns or asks again. -/
def promptLoop (eof : α) (iteration : String → Option α) : List String → α
  | [] => eof
  | line :: lines =>
    match iteration line with
    | some result => result
    | none => promptLoop eof iteration lines

/-- `getAmountToAtomic` is the prompt loop of `amountIteration`. -/
theorem getAmountToAtomic_eq_promptLoop (cfg : WalletConfig) (cancelAllowed : Bool) :
    getAmountToAtomic cfg cancelAllowed =
      promptLoop (false, 0) fun line => amountIteration cfg cancelAllowed line.toList := by
  funext lines
  induction lines with
  | nil => rfl
  | cons line lines ih =>
    simp only [getAmountToAtomic, promptLoop, ih]
    cases amountIteration cfg cancelAllowed line.toList <;> rfl

/-- **The first accepted line.**  A prompt loop returns `eof` after refusing every line of
    its input, or what its pass returns on the first line the pass accepts. -/
theorem promptLoop_spec (eof : α) (iteration : String → Option α) (lines : List String) :
    (promptLoop eof iteration lines = eof ∧ ∀ line ∈ lines, iteration line = none) ∨
      ∃ refused line rest, lines = refused ++ line :: rest ∧
        (∀ l ∈ refused, iteration l = none) ∧
        iteration line = some (promptLoop eof iteration lines) := by
  induction lines with
  | nil => exact .inl ⟨rfl, fun _ h => absurd h (List.not_mem_nil _)⟩
  | cons line lines ih =>
    cases h : iteration line with
    | some result => exact .inr ⟨[], line, lines, rfl, nofun, by simp [promptLoop, h]⟩
    | none =>
      have hrun : promptLoop eof iteration (line :: lines) = promptLoop eof iteration lines := by
        simp [promptLoop, h]
      rw [hrun]
      rcases ih with ⟨heof, hall⟩ | ⟨refused, l, rest, rfl, hrefused, hl⟩
      · exact .inl ⟨heof, List.forall_mem_cons.mpr ⟨h, hall⟩⟩
      · exact .inr ⟨line :: refused, l, rest, rfl, List.forall_mem_cons.mpr ⟨h, hrefused⟩, hl⟩

/-! ## Prompting for a string -/

/-- One pass of `getAddress`'s loop on a line read: an empty line asks again, `cancel`
    returns when cancelling is allowed, and otherwise the address returns once
    `validateAddresses({address}, integratedAddressesAllowed)` passes. -/
def addressIteration (validateAddresses : List Char → Bool → Error)
    (integratedAddressesAllowed cancelAllowed : Bool) (line : String) : Option (List Char) :=
  let address := trim line.toList
  if address = [] then none
  else if address = "cancel".toList ∧ cancelAllowed then some address
  else if validateAddresses address integratedAddressesAllowed ≠ .success then none
  else some address

/-- `getAddress(msg, integratedAddressesAllowed, cancelAllowed)`. -/
def getAddress (validateAddresses : List Char → Bool → Error)
    (integratedAddressesAllowed cancelAllowed : Bool) : List String → List Char :=
  promptLoop "cancel".toList
    (addressIteration validateAddresses integratedAddressesAllowed cancelAllowed)

/-- One pass of `getPaymentID`'s loop: `cancel` returns when cancelling is allowed, an
    empty line returns as the default of no payment ID, and otherwise the payment ID
    returns once `validatePaymentID` passes. -/
def paymentIDIteration (validatePaymentID : List Char → Error) (cancelAllowed : Bool)
    (line : String) : Option (List Char) :=
  let paymentID := trim line.toList
  if paymentID = "cancel".toList ∧ cancelAllowed then some paymentID
  else if paymentID = [] then some paymentID
  else if validatePaymentID paymentID ≠ .success then none
  else some paymentID

/-- `getPaymentID(msg, cancelAllowed)`. -/
def getPaymentID (validatePaymentID : List Char → Error) (cancelAllowed : Bool) :
    List String → List Char :=
  promptLoop "cancel".toList (paymentIDIteration validatePaymentID cancelAllowed)

/-- One pass of `getHash`'s loop: `cancel` returns when cancelling is allowed, and
    otherwise the line returns once `validateHash` passes; an empty line is not singled
    out. -/
def hashIteration (validateHash : List Char → Error) (cancelAllowed : Bool) (line : String) :
    Option (List Char) :=
  let hash := trim line.toList
  if hash = "cancel".toList ∧ cancelAllowed then some hash
  else if validateHash hash ≠ .success then none
  else some hash

/-- `getHash(msg, cancelAllowed)`. -/
def getHash (validateHash : List Char → Error) (cancelAllowed : Bool) :
    List String → List Char :=
  promptLoop "cancel".toList (hashIteration validateHash cancelAllowed)

section Passes

variable {line : String} {result : List Char}

/-- The lines `getAddress`'s pass refuses are the ones it does not accept. -/
theorem addressIteration_eq_none_iff {validateAddresses : List Char → Bool → Error}
    {integratedAddressesAllowed cancelAllowed : Bool} :
    addressIteration validateAddresses integratedAddressesAllowed cancelAllowed line = none ↔
      ¬ (trim line.toList ≠ [] ∧ (trim line.toList = "cancel".toList ∧ cancelAllowed = true ∨
        validateAddresses (trim line.toList) integratedAddressesAllowed = .success)) := by
  dsimp only [addressIteration]
  split_ifs <;> simp_all

theorem addressIteration_eq_some {validateAddresses : List Char → Bool → Error}
    {integratedAddressesAllowed cancelAllowed : Bool}
    (h : addressIteration validateAddresses integratedAddressesAllowed cancelAllowed line =
      some result) :
    result = trim line.toList ∧ result ≠ [] ∧
      (result = "cancel".toList ∧ cancelAllowed = true ∨
        validateAddresses result integratedAddressesAllowed = .success) := by
  dsimp only [addressIteration] at h
  split_ifs at h with hempty hcancel hvalid <;> cases h
  · exact ⟨rfl, hempty, .inl hcancel⟩
  · exact ⟨rfl, hempty, .inr (not_not.mp hvalid)⟩

end Passes

/-- **What `getAddress` returns.**  A line is accepted when, trimmed, it is not empty and
    is either `cancel` with cancelling allowed or an address `validateAddresses` accepts.
    Over every input, `getAddress` returns the first accepted line, trimmed, having asked
    again on every line before it; when no line is accepted, it returns `cancel` at the end
    of input, whether or not cancelling is allowed. -/
theorem getAddress_result (validateAddresses : List Char → Bool → Error)
    (integratedAddressesAllowed cancelAllowed : Bool) (lines : List String) :
    let accepted := fun line : String => trim line.toList ≠ [] ∧
      (trim line.toList = "cancel".toList ∧ cancelAllowed = true ∨
        validateAddresses (trim line.toList) integratedAddressesAllowed = .success)
    let result := getAddress validateAddresses integratedAddressesAllowed cancelAllowed lines
    ((∀ line ∈ lines, ¬ accepted line) ∧ result = "cancel".toList) ∨
      ∃ refused line rest, lines = refused ++ line :: rest ∧ (∀ l ∈ refused, ¬ accepted l) ∧
        accepted line ∧ result = trim line.toList := by
  rcases promptLoop_spec _ _ lines with ⟨heof, hall⟩ | ⟨refused, line, rest, hl, hrefused, hline⟩
  · exact .inl ⟨fun l h => addressIteration_eq_none_iff.mp (hall l h), heof⟩
  · obtain ⟨htrim, hne, hacc⟩ := addressIteration_eq_some hline
    rw [htrim] at hne hacc
    exact .inr ⟨refused, line, rest, hl, fun l h => addressIteration_eq_none_iff.mp (hrefused l h),
      ⟨hne, hacc⟩, htrim⟩

/-- With cancelling not allowed, a typed `cancel` is checked as an address; when the check
    refuses it, the end of input still returns `cancel`. -/
example : getAddress (fun _ _ => .other 1) false false ["cancel"] = "cancel".toList := rfl

/-! ## Prompting for the daemon -/

/-- One pass of `getDaemonAddress`'s loop, built without `CPPHTTPLIB_OPENSSL_SUPPORT` (so
    `ssl` stays `false`): a line that is empty before trimming takes the defaults
    `127.0.0.1` and `RPC_DEFAULT_PORT`; otherwise the trimmed line goes to
    `Utilities::parseDaemonAddressFromString` with the host and port at their defaults,
    which returns the host and port it set when it accepts the line. -/
def daemonAddressIteration (rpcDefaultPort : UInt16)
    (parseDaemonAddressFromString : String → UInt16 → List Char → Option (String × UInt16))
    (line : String) : Option (String × UInt16 × Bool) :=
  if line = "" then some ("127.0.0.1", rpcDefaultPort, false)
  else
    match parseDaemonAddressFromString "127.0.0.1" rpcDefaultPort (trim line.toList) with
    | some (host, port) => some (host, port, false)
    | none => none

/-- `getDaemonAddress()`: the end of input takes the defaults. -/
def getDaemonAddress (rpcDefaultPort : UInt16)
    (parseDaemonAddressFromString : String → UInt16 → List Char → Option (String × UInt16)) :
    List String → String × UInt16 × Bool :=
  promptLoop ("127.0.0.1", rpcDefaultPort, false)
    (daemonAddressIteration rpcDefaultPort parseDaemonAddressFromString)

/-! ## Prompting for a scan height -/

/-- One pass of `getHeight(msg)`'s loop on a line read: the commas are removed, an empty line
    is height `0`, and otherwise `std::stoull` decides, its `std::out_of_range` and
    `std::invalid_argument` asking again.  The line is not trimmed. -/
def heightIteration (line : String) : Option Nat :=
  let stringHeight := removeCharFromString line.toList ','
  if stringHeight = [] then some 0
  else
    match stoull stringHeight with
    | .value height => some height
    | _ => none

/-- `getHeight(msg)`: its `std::getline` is not checked, and at the end of input the line it
    leaves is empty, which is height `0`. -/
def getHeight : List String → Nat :=
  promptLoop 0 heightIteration

/-- `std::stoull` on digits followed by a non-digit reads the digits; a `-` before them
    negates the value modulo `2^64`. -/
theorem stoull_digits_append {ds rest : List Char} (hds : ∀ c ∈ ds, c.isDigit) (hne : ds ≠ [])
    (hrest : ∀ c ∈ rest.head?, ¬ c.isDigit) (hlt : digitsValue ds < 2 ^ 64) :
    stoull (ds ++ rest) = .value (digitsValue ds) ∧
      stoull ('-' :: ds ++ rest) = .value ((2 ^ 64 - digitsValue ds) % 2 ^ 64) := by
  have hdigits : (ds ++ rest).takeWhile Char.isDigit = ds := by
    rw [List.takeWhile_append_of_pos hds]
    cases rest with
    | nil => exact List.append_nil ds
    | cons r rs => simp [List.takeWhile_cons, hrest r rfl]
  obtain ⟨d, ds', rfl⟩ := List.exists_cons_of_ne_nil hne
  have hd : d.isDigit := hds d (List.mem_cons_self _ _)
  have hplain : takeSign ((d :: ds' ++ rest).dropWhile isSpace) = (false, d :: ds' ++ rest) := by
    rw [List.cons_append, List.dropWhile_cons, isSpace_of_isDigit hd]
    exact takeSign_of_isDigit hd _
  have hminus : takeSign (('-' :: d :: ds' ++ rest).dropWhile isSpace) =
      (true, d :: ds' ++ rest) := rfl
  have hge : ¬ 2 ^ 64 ≤ digitsValue (d :: ds') := by omega
  constructor <;>
    simp only [stoull, hplain, hminus, hdigits, if_neg (List.cons_ne_nil _ _), if_neg hge] <;> rfl

/-- **`std::stoull` reads a prefix.**  A line whose text without commas is a run of digits
    below `2^64` followed by anything that does not start with a digit — a fraction, letters,
    a space — is accepted as the height the digits denote, and a `-` before the digits wraps
    it modulo `2^64`; whatever lines follow are never read. -/
theorem getHeight_leading_digits {line : String} {ds rest : List Char}
    (hds : ∀ c ∈ ds, c.isDigit) (hne : ds ≠ []) (hrest : ∀ c ∈ rest.head?, ¬ c.isDigit)
    (hlt : digitsValue ds < 2 ^ 64) (lines : List String) :
    (removeCharFromString line.toList ',' = ds ++ rest →
      getHeight (line :: lines) = digitsValue ds) ∧
    (removeCharFromString line.toList ',' = '-' :: ds ++ rest →
      getHeight (line :: lines) = (2 ^ 64 - digitsValue ds) % 2 ^ 64) := by
  obtain ⟨hplain, hminus⟩ := stoull_digits_append hds hne hrest hlt
  have hnil : ds ++ rest ≠ [] := List.append_ne_nil_of_left_ne_nil hne _
  have hnil' : '-' :: ds ++ rest ≠ [] := List.append_ne_nil_of_left_ne_nil (List.cons_ne_nil _ _) _
  constructor <;> intro hclean <;>
    simp only [getHeight, promptLoop, heightIteration, hclean, if_neg hnil, if_neg hnil', hplain,
      hminus]

/-- `12abc`, a numeral with trailing letters, is height `12`. -/
theorem getHeight_leading_digits_letters :
    getHeight ["12abc"] = digitsValue "12".toList :=
  (@getHeight_leading_digits "12abc" "12".toList "abc".toList (by decide) (by decide)
    (by decide) (by decide) []).1 rfl

/-- **Malformed heights are accepted.**  `12abc` is read as `12`, `1.5` as `1`, and `-1` wraps
    to `2^64 - 1`, a height past any chain. -/
theorem getHeight_malformed :
    getHeight ["12abc"] = 12 ∧ getHeight ["1.5"] = 1 ∧ getHeight ["-1"] = 2 ^ 64 - 1 := by
  decide

/-! ## The prompt -/

/-- With `==`, `std::equal` reads past the end of the second sequence exactly when that is a
    proper prefix of the first range; otherwise it reports whether the first range is a
    prefix of the second. -/
theorem stdEqual_beq {β : Type} [DecidableEq β] : ∀ as bs : List β,
    stdEqual (· == ·) as bs =
      if bs <+: as ∧ bs.length < as.length then none else some (decide (as <+: bs))
  | [], bs => by simp [stdEqual]
  | _ :: _, [] => by simp [stdEqual]
  | a :: as, b :: bs => by
    by_cases hab : a = b
    · subst hab
      simp [stdEqual, stdEqual_beq as bs]
    · simp [stdEqual, hab, Ne.symm hab]

/-- `getPrompt(walletBackend)` for the wallet file `walletFileName`: `[`, the ticker, a space,
    the first `20` characters of the filename without its `.wallet` extension, and `]: `.  The
    extension is compared from the back, with `std::equal(extension.rbegin(),
    extension.rend(), walletFileName.rbegin())`; the prompt is `none` when that comparison
    reads before the start of the filename. -/
def getPrompt (ticker walletFileName : List Char) : Option (List Char) :=
  let promptLength := 20
  let extension := ".wallet".toList
  match stdEqual (· == ·) extension.reverse walletFileName.reverse with
  | none => none
  | some endsWithExtension =>
    let walletName :=
      if endsWithExtension then
        match findLastOf '.' walletFileName with
        | some extPos => walletFileName.take extPos
        | none => walletFileName
      else walletFileName
    let shortName := walletName.take promptLength
    some ("[".toList ++ ticker ++ " ".toList ++ shortName ++ "]: ".toList)

/-- The comparison from the back reads before the start of a filename exactly when the
    filename is a proper suffix of `.wallet`, and otherwise tells whether it ends in
    `.wallet`. -/
theorem stdEqual_extension (walletFileName : List Char) :
    stdEqual (· == ·) ".wallet".toList.reverse walletFileName.reverse =
      if walletFileName <:+ ".wallet".toList ∧ walletFileName.length < 7 then none
      else some (decide (".wallet".toList <:+ walletFileName)) := by
  simp only [stdEqual_beq, List.reverse_prefix, List.length_reverse]
  rfl

/-- **The prompt.**  For every filename that is not a proper suffix of `.wallet`, the
    comparison stays inside the filename and the prompt is `[`, the ticker, a space, the
    first `20` characters of the filename with a trailing `.wallet` removed, and `]: `; for
    the eight proper suffixes of `.wallet`, from the empty name to `wallet`, the comparison
    reads before the start of the filename. -/
theorem getPrompt_eq (ticker walletFileName : List Char) :
    getPrompt ticker walletFileName =
      if walletFileName <:+ ".wallet".toList ∧ walletFileName.length < 7 then none
      else some ("[".toList ++ ticker ++ " ".toList ++
        (if ".wallet".toList <:+ walletFileName
          then walletFileName.take (walletFileName.length - 7) else walletFileName).take 20 ++
        "]: ".toList) := by
  unfold getPrompt
  dsimp only
  rw [stdEqual_extension]
  split_ifs with hshort hext
  · rfl
  · simp only [decide_eq_true hext, if_true]
    obtain ⟨name, rfl⟩ := hext
    have hdot : findLastOf '.' (name ++ ".wallet".toList) = some name.length :=
      findLastOf_append_cons name "wallet".toList (by decide)
    simp only [hdot, List.length_append, List.take_left',
      show ".wallet".toList.length = 7 from rfl, Nat.add_sub_cancel]
  · simp only [decide_eq_false hext, Bool.false_eq_true, if_false]

/-- **`wallet` is read past.**  For the filename `wallet` every compared character matches,
    and the seventh comparison reads before the start of the name. -/
theorem getPrompt_wallet (ticker : List Char) :
    stdEqual (· == ·) ".wallet".toList.reverse "wallet".toList.reverse = none ∧
      getPrompt ticker "wallet".toList = none :=
  ⟨rfl, rfl⟩

/-! ## Command input -/

/-- `commandName.compare(0, c.length(), c) == 0`: `std::string::compare` on the first
    `c.length()` characters of the name, all of them when the name is shorter. -/
def compareHead (commandName c : List Char) : Bool :=
  commandName.take c.length == c

/-- The completion callback `getInput` hands to linenoise: for the text typed so far, the
    names of the available commands it accepts, pushed in the commands' order. -/
def getInputCompletions (commandNames : List (List Char)) (input : List Char) :
    List (List Char) :=
  commandNames.foldl
    (fun completions commandName =>
      if compareHead commandName input then completions ++ [commandName] else completions) []

/-- `getInput` after `linenoise::Readline`: `exit` when the user quit, otherwise the line
    trimmed.  Adding a non-empty line to the history is linenoise's, not in the sources. -/
def getInput (quit : Bool) (command : List Char) : List Char :=
  if quit then "exit".toList else trim command

theorem compareHead_iff (commandName c : List Char) :
    compareHead commandName c = true ↔ c <+: commandName := by
  rw [compareHead, beq_iff_eq, List.prefix_iff_eq_take, eq_comm]

/-- The completions are the names of the commands that begin with the typed text, in the
    commands' order; a text longer than a name completes nothing to it. -/
theorem getInputCompletions_eq (commandNames : List (List Char)) (input : List Char) :
    getInputCompletions commandNames input =
      commandNames.filter fun commandName => decide (input <+: commandName) := by
  suffices h : ∀ acc : List (List Char), commandNames.foldl
      (fun completions commandName =>
        if compareHead commandName input then completions ++ [commandName] else completions) acc =
      acc ++ commandNames.filter fun commandName => decide (input <+: commandName) from h []
  induction commandNames with
  | nil => intro acc; simp
  | cons commandName commandNames ih =>
    intro acc
    by_cases hhead : input <+: commandName
    · simp [ih, List.filter_cons, hhead, (compareHead_iff _ _).mpr hhead]
    · simp [ih, List.filter_cons, hhead, mt (compareHead_iff _ _).mp hhead]

end GetInput
