import Mathlib.Logic.Function.Basic
import RTcoinWallet.Errors

/-!
# The filesystem under the wallet file, and the new-wallet filename check

`checkNewWalletFilename` (`WalletBackend.cpp`) decides whether a new wallet may be
written to `filename` by three calls into the platform:

  1. `std::ifstream(filename)` — if the stream opens, the file "exists";
  2. `std::ofstream(filename)` — if it does not open, the name is invalid;
  3. `fs::remove(filename)` — the file the probe created is deleted again.

The platform is modelled here as far as those calls see it: named entries that are
regular files (with contents and read/write permission), directories, or symbolic links,
and for every name whether its directory lets entries be created or removed there.
Opening a stream follows links (at most `symlinkLimit` of them), `fs::remove` removes the
entry itself.

  * `checkNewWalletFilename_of_absent` — on a name with no entry the check leaves the
    filesystem exactly as it was;
  * `checkNewWalletFilename_frame` — whenever the check reports an error it has changed
    nothing;
  * `checkNewWalletFilename_success` — after `success` the name is free and may be created;
  * `checkNewWalletFilename_of_readable` — an existing readable file is reported and kept;
  * `checkNewWalletFilename_writeOnly` — a file that can be written but not read is
    not seen by the `ifstream` probe: the check returns `success` and deletes it;
  * `checkNewWalletFilename_dangling` — a dangling link: the check creates the link's
    target and deletes the link.
-/

namespace WalletFiles

open WalletErrors

/-- A file name, as the wallet API takes it (`std::string`). -/
abbrev Path := String

/-- One directory entry. -/
inductive Entry where
  /-- A regular file with its contents and the caller's read and write permission. -/
  | file (contents : Bytes) (readable writable : Bool)
  /-- A directory; its contents are not modelled. -/
  | directory (readable : Bool)
  /-- A symbolic link to `target`, which need not exist. -/
  | symlink (target : Path)
  deriving DecidableEq, Repr

/-- The filesystem as the wallet's stream and `fs::remove` calls see it. -/
@[ext]
structure FileSystem where
  /-- The entry each name refers to, if any. -/
  entries : Path → Option Entry
  /-- Whether the directory holding a name lets the caller create and remove entries. -/
  dirWritable : Path → Bool

namespace FileSystem

/-- Replace (or create) the entry at `p`. -/
def write (fs : FileSystem) (p : Path) (e : Entry) : FileSystem :=
  { fs with entries := Function.update fs.entries p (some e) }

/-- Remove the entry at `p`. -/
def erase (fs : FileSystem) (p : Path) : FileSystem :=
  { fs with entries := Function.update fs.entries p none }

@[simp] theorem write_entries_self (fs : FileSystem) (p : Path) (e : Entry) :
    (fs.write p e).entries p = some e := by
  simp [write]

@[simp] theorem write_entries_ne (fs : FileSystem) {p q : Path} (e : Entry) (h : q ≠ p) :
    (fs.write p e).entries q = fs.entries q := by
  simp [write, h]

@[simp] theorem write_dirWritable (fs : FileSystem) (p : Path) (e : Entry) :
    (fs.write p e).dirWritable = fs.dirWritable := rfl

@[simp] theorem erase_entries_self (fs : FileSystem) (p : Path) :
    (fs.erase p).entries p = none := by
  simp [erase]

/-- Creating an entry where there was none and removing it again restores the filesystem. -/
theorem erase_write_of_absent {fs : FileSystem} {p : Path} (h : fs.entries p = none)
    (e : Entry) : (fs.write p e).erase p = fs := by
  ext1
  · simp only [erase, write, Function.update_idem]
    exact Function.update_eq_self_iff.mpr h.symm
  · rfl

end FileSystem

/-- The number of links the kernel follows before it reports `ELOOP` (Linux `MAXSYMLINKS`). -/
def symlinkLimit : Nat := 40

/-- The name a stream opened on `p` refers to, following at most `fuel` links; `none` is
`ELOOP`.  The name returned holds no link. -/
def resolve (fs : FileSystem) : Nat → Path → Option Path
  | 0, _ => none
  | fuel + 1, p =>
    match fs.entries p with
    | some (.symlink target) => resolve fs fuel target
    | _ => some p

/-- `std::ifstream(filename)` converts to `true`: `fopen(filename, "r")` succeeded, which
needs a readable file or directory at the end of the links. -/
def ifstreamOpens (fs : FileSystem) (p : Path) : Bool :=
  match resolve fs symlinkLimit p with
  | none => false
  | some q =>
    match fs.entries q with
    | some (.file _ readable _) => readable
    | some (.directory readable) => readable
    | _ => false

/-- The bytes `std::ifstream(filename, std::ios_base::binary)` reads: `none` when the
stream does not open; a directory opens and reads as empty. -/
def readFile (fs : FileSystem) (p : Path) : Option Bytes :=
  match resolve fs symlinkLimit p with
  | none => none
  | some q =>
    match fs.entries q with
    | some (.file contents readable _) => if readable then some contents else none
    | some (.directory readable) => if readable then some [] else none
    | _ => none

/-- `std::ofstream(filename)` followed by writing `data`: `fopen(filename, "w")` truncates
a writable file at the end of the links or creates a missing one (readable and writable)
where its directory allows it; it fails on a directory, a non-writable file or a link
loop, changing nothing. -/
def ofstreamWrite (fs : FileSystem) (p : Path) (data : Bytes) : Option FileSystem :=
  match resolve fs symlinkLimit p with
  | none => none
  | some q =>
    match fs.entries q with
    | some (.file _ readable writable) =>
      if writable then some (fs.write q (.file data readable writable)) else none
    | none => if fs.dirWritable q then some (fs.write q (.file data true true)) else none
    | _ => none

/-- `std::ofstream(filename)` with nothing written. -/
def ofstreamOpen (fs : FileSystem) (p : Path) : Option FileSystem :=
  ofstreamWrite fs p []

/-- `fs::remove(filename)`: removes the entry itself (a link, never its target), does
nothing when there is none, and throws `filesystem_error` (`none`) when the directory
forbids it. -/
def remove (fs : FileSystem) (p : Path) : Option FileSystem :=
  match fs.entries p with
  | none => some fs
  | some _ => if fs.dirWritable p then some (fs.erase p) else none

/-- `checkNewWalletFilename`: the error it returns (`none` when `fs::remove` threw) and
the filesystem it leaves. -/
def checkNewWalletFilename (fs : FileSystem) (filename : Path) : Option Error × FileSystem :=
  if ifstreamOpens fs filename then (some .walletFileAlreadyExists, fs)
  else
    match ofstreamOpen fs filename with
    | none => (some .invalidWalletFilename, fs)
    | some opened =>
      match remove opened filename with
      | some removed => (some .success, removed)
      | none => (none, opened)

-- ── Resolution ──

/-- A name that holds no link resolves to itself. -/
theorem resolve_of_not_symlink {fs : FileSystem} {p : Path}
    (h : ∀ target, fs.entries p ≠ some (.symlink target)) (fuel : Nat) :
    resolve fs (fuel + 1) p = some p := by
  rw [resolve]
  split
  · exact absurd ‹_› (h _)
  · rfl

/-- A link to a name that holds no link resolves to that name. -/
theorem resolve_symlink {fs : FileSystem} {p target : Path}
    (hp : fs.entries p = some (.symlink target))
    (ht : ∀ t, fs.entries target ≠ some (.symlink t)) (fuel : Nat) :
    resolve fs (fuel + 2) p = some target := by
  rw [resolve, hp]
  exact resolve_of_not_symlink ht fuel

theorem resolve_of_entry_none {fs : FileSystem} {p : Path} (h : fs.entries p = none)
    (fuel : Nat) : resolve fs (fuel + 1) p = some p :=
  resolve_of_not_symlink (by simp [h]) fuel

/-- A stream that opened wrote `data` to the file at the end of the links, and changed
nothing else. -/
theorem ofstreamWrite_eq_some {fs fs' : FileSystem} {p : Path} {data : Bytes}
    (h : ofstreamWrite fs p data = some fs') :
    ∃ q, resolve fs symlinkLimit p = some q ∧ ∃ r w, fs' = fs.write q (.file data r w) := by
  unfold ofstreamWrite at h
  split at h
  · cases h
  · next q hq =>
    refine ⟨q, hq, ?_⟩
    split at h
    · split_ifs at h; cases h; exact ⟨_, _, rfl⟩
    · split_ifs at h; cases h; exact ⟨_, _, rfl⟩
    · cases h

/-- Writing a non-link entry at the end of the links leaves the resolution as it was. -/
theorem resolve_write {fs : FileSystem} {e : Entry} (he : ∀ target, e ≠ .symlink target) :
    ∀ {fuel : Nat} {p q : Path}, resolve fs fuel p = some q → resolve (fs.write q e) fuel p = some q
  | 0, _, _, h => by cases h
  | fuel + 1, p, q, h => by
    by_cases hpq : p = q
    · subst hpq
      rw [resolve, FileSystem.write_entries_self]
      split
      · next target heq => exact absurd (Option.some.inj heq) (he target)
      · rfl
    · rw [resolve] at h ⊢
      rw [FileSystem.write_entries_ne _ _ hpq]
      split at h
      · next target _ => exact resolve_write he h
      · exact h

theorem resolve_of_file {fs : FileSystem} {p : Path} {contents : Bytes} {r w : Bool}
    (h : fs.entries p = some (.file contents r w)) : resolve fs symlinkLimit p = some p :=
  resolve_of_not_symlink (by simp [h]) 39

/-- A readable file is read whole. -/
theorem readFile_of_file {fs : FileSystem} {p : Path} {contents : Bytes} {w : Bool}
    (h : fs.entries p = some (.file contents true w)) : readFile fs p = some contents := by
  simp [readFile, resolve_of_file h, h]

/-- What a stream reads: a readable file at the end of the links, or a readable directory,
which reads as empty. -/
theorem readFile_eq_some {fs : FileSystem} {p : Path} {data : Bytes}
    (h : readFile fs p = some data) : ∃ q, resolve fs symlinkLimit p = some q ∧
      ((∃ w, fs.entries q = some (.file data true w)) ∨ fs.entries q = some (.directory true)) := by
  unfold readFile at h
  split at h
  · cases h
  · next q hq =>
    refine ⟨q, hq, ?_⟩
    split at h
    · next contents readable w hfile =>
      split_ifs at h with hr
      cases h
      exact .inl ⟨w, hr ▸ hfile⟩
    · next readable hdir =>
      split_ifs at h with hr
      exact .inr (hr ▸ hdir)
    · cases h

/-- After a readable file is written at the end of the links, a stream reads it back. -/
theorem readFile_write {fs : FileSystem} {p q : Path} (hq : resolve fs symlinkLimit p = some q)
    (data : Bytes) (w : Bool) : readFile (fs.write q (.file data true w)) p = some data := by
  have hres : resolve (fs.write q (.file data true w)) symlinkLimit p = some q :=
    resolve_write (fun _ h => by cases h) hq
  simp [readFile, hres]

/-- Whether the stream opens does not depend on what is then written. -/
theorem ofstreamWrite_isSome (fs : FileSystem) (p : Path) (data data' : Bytes) :
    (ofstreamWrite fs p data).isSome = (ofstreamWrite fs p data').isSome := by
  unfold ofstreamWrite
  split
  · rfl
  · split <;> (try split_ifs) <;> rfl

/-- A stream that opened onto a readable file, or created one, leaves a readable file. -/
theorem ofstreamWrite_readable {fs fs' : FileSystem} {p q : Path} {data : Bytes}
    (h : ofstreamWrite fs p data = some fs') (hq : resolve fs symlinkLimit p = some q)
    (hr : ∀ c r w, fs.entries q = some (.file c r w) → r = true) :
    ∃ w, fs' = fs.write q (.file data true w) := by
  unfold ofstreamWrite at h
  rw [hq] at h
  dsimp only at h
  split at h
  · next c r w hfile =>
    split_ifs at h
    cases h
    exact ⟨w, by rw [hr c r w hfile]⟩
  · split_ifs at h
    cases h
    exact ⟨true, rfl⟩
  · cases h

/-- Where a name holds no entry and its directory allows it, the stream creates a readable
and writable file there. -/
theorem ofstreamWrite_of_absent {fs : FileSystem} {p : Path} (h : fs.entries p = none)
    (hw : fs.dirWritable p = true) (data : Bytes) :
    ofstreamWrite fs p data = some (fs.write p (.file data true true)) := by
  simp [ofstreamWrite, symlinkLimit, resolve_of_entry_none h, h, hw]

/-- After a stream opened on a name, the name holds an entry: the file, or the link to it. -/
theorem ofstreamWrite_entries {fs fs' : FileSystem} {p : Path} {data : Bytes}
    (h : ofstreamWrite fs p data = some fs') : fs'.entries p ≠ none := by
  obtain ⟨q, hq, r, w, rfl⟩ := ofstreamWrite_eq_some h
  by_cases hpq : p = q
  · subst hpq
    simp
  · rw [FileSystem.write_entries_ne _ _ hpq]
    intro hp
    rw [symlinkLimit, resolve_of_entry_none hp] at hq
    exact hpq (Option.some.inj hq)

-- ── The check ──

/-- **On a name with no entry the check changes nothing**: it returns `success` when the
directory allows a file there and `invalidWalletFilename` otherwise. -/
theorem checkNewWalletFilename_of_absent {fs : FileSystem} {filename : Path}
    (h : fs.entries filename = none) :
    checkNewWalletFilename fs filename =
      (some (if fs.dirWritable filename then .success else .invalidWalletFilename), fs) := by
  have hres := resolve_of_entry_none h 39
  have hopen : ifstreamOpens fs filename = false := by
    simp [ifstreamOpens, symlinkLimit, hres, h]
  cases hw : fs.dirWritable filename with
  | false =>
    simp [checkNewWalletFilename, hopen, ofstreamOpen, ofstreamWrite, symlinkLimit, hres, h, hw]
  | true =>
    simp [checkNewWalletFilename, hopen, ofstreamOpen, ofstreamWrite, symlinkLimit, hres, h, hw,
      remove, FileSystem.erase_write_of_absent h]

/-- **Every error leaves the filesystem as it was.** -/
theorem checkNewWalletFilename_frame {fs fs' : FileSystem} {filename : Path} {e : Error}
    (h : checkNewWalletFilename fs filename = (some e, fs')) (he : e ≠ .success) : fs' = fs := by
  unfold checkNewWalletFilename at h
  split at h
  · exact (Prod.mk.inj h).2.symm
  · split at h
    · exact (Prod.mk.inj h).2.symm
    · split at h
      · exact absurd (Option.some.inj (Prod.mk.inj h).1).symm he
      · cases (Prod.mk.inj h).1

/-- **A name the check passes is free.**  After `success` the name holds no entry and its
directory lets a file be created there: `fs::remove` needed that to delete what the probe
opened. -/
theorem checkNewWalletFilename_success {fs fs' : FileSystem} {filename : Path}
    (h : checkNewWalletFilename fs filename = (some .success, fs')) :
    fs'.entries filename = none ∧ fs'.dirWritable filename = true := by
  unfold checkNewWalletFilename at h
  split at h
  · cases h
  · split at h
    · cases h
    · next opened hopen =>
      split at h
      · next removed hremove =>
        cases h
        unfold remove at hremove
        split at hremove
        · exact absurd ‹_› (ofstreamWrite_entries hopen)
        · split_ifs at hremove with hw
          cases hremove
          exact ⟨FileSystem.erase_entries_self _ _, hw⟩
      · cases h

/-- **An existing readable file is kept.**  The `ifstream` probe opens it, and the check
reports `walletFileAlreadyExists` without touching the filesystem. -/
theorem checkNewWalletFilename_of_readable {fs : FileSystem} {filename : Path}
    {contents : Bytes} {w : Bool} (h : fs.entries filename = some (.file contents true w)) :
    checkNewWalletFilename fs filename = (some .walletFileAlreadyExists, fs) := by
  have hopen : ifstreamOpens fs filename = true := by
    simp [ifstreamOpens, resolve_of_file h, h]
  simp [checkNewWalletFilename, hopen]

/-- **A write-only file is deleted.**  The `ifstream` probe cannot open a file that is
writable but not readable, so the check takes it for a free name: the `ofstream` probe
truncates it and `fs::remove` deletes it, and the check reports `success`. -/
theorem checkNewWalletFilename_writeOnly {fs : FileSystem} {filename : Path} {contents : Bytes}
    (h : fs.entries filename = some (.file contents false true))
    (hw : fs.dirWritable filename = true) :
    checkNewWalletFilename fs filename = (some .success, fs.erase filename) := by
  have hres := resolve_of_file h
  have hopen : ifstreamOpens fs filename = false := by
    simp [ifstreamOpens, hres, h]
  have herase : (fs.write filename (.file [] false true)).erase filename = fs.erase filename := by
    simp [FileSystem.erase, FileSystem.write]
  simp [checkNewWalletFilename, hopen, ofstreamOpen, ofstreamWrite, hres, h,
    remove, hw, herase]

/-- **A dangling link is replaced by its target.**  The probes follow the link and create
an empty file at its target; `fs::remove` then deletes the link, not the file. -/
theorem checkNewWalletFilename_dangling {fs : FileSystem} {filename target : Path}
    (h : fs.entries filename = some (.symlink target)) (ht : fs.entries target = none)
    (hwf : fs.dirWritable filename = true) (hwt : fs.dirWritable target = true) :
    checkNewWalletFilename fs filename =
      (some .success, (fs.write target (.file [] true true)).erase filename) := by
  have hres := resolve_symlink h (by simp [ht]) 38
  have hne : filename ≠ target := fun heq => by simp [heq, ht] at h
  have hopen : ifstreamOpens fs filename = false := by
    simp [ifstreamOpens, symlinkLimit, hres, ht]
  simp [checkNewWalletFilename, hopen, ofstreamOpen, ofstreamWrite, symlinkLimit, hres, ht, hwt,
    remove, hne, h, hwf]

/-- A directory where `wallet.wallet` is a link to the missing `target.wallet`. -/
def danglingWallet : FileSystem where
  entries p := if p = "wallet.wallet" then some (.symlink "target.wallet") else none
  dirWritable _ := true

theorem checkNewWalletFilename_danglingWallet :
    checkNewWalletFilename danglingWallet "wallet.wallet" =
      (some .success,
        (danglingWallet.write "target.wallet" (.file [] true true)).erase "wallet.wallet") :=
  checkNewWalletFilename_dangling rfl rfl rfl rfl

/-- A directory holding one file, `wallet.wallet`, that the caller may write but not read. -/
def writeOnlyWallet : FileSystem where
  entries p := if p = "wallet.wallet" then some (.file [7] false true) else none
  dirWritable _ := true

/-- On `writeOnlyWallet` the check reports the existing `wallet.wallet` as free and
deletes it. -/
theorem checkNewWalletFilename_writeOnlyWallet :
    writeOnlyWallet.entries "wallet.wallet" = some (.file [7] false true) ∧
    checkNewWalletFilename writeOnlyWallet "wallet.wallet" =
      (some .success, writeOnlyWallet.erase "wallet.wallet") ∧
    (writeOnlyWallet.erase "wallet.wallet").entries "wallet.wallet" = none :=
  ⟨rfl, checkNewWalletFilename_writeOnly rfl rfl, FileSystem.erase_entries_self _ _⟩

/-- Beside the write-only file, the name `new.wallet` is free: the check reports
`success` and leaves the directory as it was. -/
theorem checkNewWalletFilename_writeOnlyWallet_new :
    writeOnlyWallet.entries "new.wallet" = none ∧
    checkNewWalletFilename writeOnlyWallet "new.wallet" = (some .success, writeOnlyWallet) :=
  ⟨rfl, checkNewWalletFilename_of_absent rfl⟩

end WalletFiles
