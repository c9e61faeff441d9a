import Kaonic.Base.Text

/-!
# Upgrade of the installer

`replace_installer_binary` writes the upload beside the installed binary, and moves it into place
while the service is stopped. A step that fails undoes what came before it, as far as it does.
-/

namespace Kaonic.Gateway

def installerService : String := "kaonic-installer.service"

structure CommandOutput where
  success : Bool
  stdout : String
  stderr : String

def CommandOutput.message (output : CommandOutput) : String :=
  let stderr := Text.trim output.stderr.toList
  String.ofList (if stderr.isEmpty then Text.trim output.stdout.toList else stderr)

/-- `run_systemctl`, from what the command comes back with. -/
def runSystemctl (action unit : String) (output : Except String CommandOutput) :
    Except String Unit :=
  match output with
  | .error err => .error ("failed to execute systemctl " ++ action ++ " " ++ unit ++ ": " ++ err)
  | .ok output =>
    if output.success then .ok ()
    else
      .error (if output.message.isEmpty then "systemctl " ++ action ++ " " ++ unit ++ " failed"
        else output.message)

structure File where
  bytes : List UInt8
  mode : Nat
  deriving DecidableEq

/-- The installed binary, the temporary file beside it, and whether the service is running. -/
structure InstallerHost where
  binary : Option File
  upgrade : Option File := none
  running : Bool
  deriving DecidableEq

/-- `std::fs::write` opens the file, which empties or creates it, and then writes. -/
inductive WriteOutcome where
  | written
  | notOpened (err : String)
  | cut (length : Nat) (err : String)

/-- The path behind the link at `INSTALLER_BINARY_PATH`, as it prints, and its directory. -/
structure TargetPath where
  display : String
  parent : Option String

/-- How the steps of one call turn out. One that fails leaves things as they were, but for the
write. -/
structure UpgradeAttempt where
  target : TargetPath
  write : WriteOutcome
  metadata : Except String Unit
  setPermissions : Except String Unit
  stop : Except String CommandOutput
  rename : Except String Unit
  start : Except String CommandOutput

namespace UpgradeAttempt

variable (attempt : UpgradeAttempt)

def makeExecutable (path : String) : Except String Unit :=
  match attempt.metadata with
  | .error err => .error ("read permissions for " ++ path ++ ": " ++ err)
  | .ok _ =>
    match attempt.setPermissions with
    | .error err => .error ("set executable permissions for " ++ path ++ ": " ++ err)
    | .ok _ => .ok ()

def stopService : Except String Unit := runSystemctl "stop" installerService attempt.stop

def startService : Except String Unit := runSystemctl "start" installerService attempt.start

/-- A new file has the permissions of the umask, one that is there keeps its own. -/
def writeFile (bytes : List UInt8) (file : Option File) : Option File × Except String Unit :=
  let mode := (file.map File.mode).getD 0o644
  match attempt.write with
  | .written => (some ⟨bytes, mode⟩, .ok ())
  | .notOpened err => (file, .error err)
  | .cut length err => (some ⟨bytes.take length, mode⟩, .error err)

def replaceInstallerBinary (binaryBytes : List UInt8) (host : InstallerHost) :
    InstallerHost × Except String String :=
  match attempt.target.parent with
  | none => (host, .error ("installer binary path has no parent: " ++ attempt.target.display))
  | some parent =>
    match attempt.writeFile binaryBytes host.upgrade with
    | (upgrade, .error err) =>
      ({ host with upgrade }, .error ("write replacement installer binary: " ++ err))
    | (upgrade, .ok _) =>
      match attempt.makeExecutable (parent ++ "/.kaonic-installer.upgrade.tmp") with
      | .error err => ({ host with upgrade := none }, .error err)
      | .ok _ =>
        let upgrade := upgrade.map fun file => { file with mode := 0o755 }
        match attempt.stopService with
        | .error err => ({ host with upgrade := none }, .error err)
        | .ok _ =>
          match attempt.rename with
          | .error renameErr =>
            -- the start is tried, and its own failure is not reported
            ({ host with upgrade := none, running := attempt.startService.isOk },
              .error ("replace installer binary " ++ attempt.target.display ++ ": " ++ renameErr))
          | .ok _ =>
            let host := { host with binary := upgrade, upgrade := none, running := false }
            match attempt.startService with
            | .error err => (host, .error err)
            | .ok _ => ({ host with running := true }, .ok "kaonic-installer binary upgraded.")

/-! ### What a call leaves -/

def Starts : Prop := attempt.startService.isOk = true

instance : Decidable attempt.Starts := inferInstanceAs (Decidable (_ = true))

/-- The upload is in place, executable, and runs. -/
structure Upgraded (binaryBytes : List UInt8) (after : InstallerHost) : Prop where
  binary : after.binary = some ⟨binaryBytes, 0o755⟩
  upgrade : after.upgrade = none
  running : after.running = true

/-- The previous binary is in place, and runs if it did and can be started. -/
structure Undone (before after : InstallerHost) : Prop where
  binary : after.binary = before.binary
  upgrade : after.upgrade = none
  running : attempt.Starts → before.running = true → after.running = true

/-- A call that succeeds has upgraded the installer, one that fails is undone. -/
def Settles (binaryBytes : List UInt8) (host : InstallerHost) : Prop :=
  match attempt.replaceInstallerBinary binaryBytes host with
  | (after, .ok _) => Upgraded binaryBytes after
  | (after, .error _) => attempt.Undone host after

/-- The steps between the write and the last start. -/
def Renames : Prop :=
  (attempt.makeExecutable (attempt.target.parent.getD "" ++ "/.kaonic-installer.upgrade.tmp")).isOk ∧
    attempt.stopService.isOk ∧ attempt.rename.isOk

/-- No temporary file stays behind a write that fails, and the service starts on a renamed binary,
if that is a new one. -/
def Recovers (binaryBytes : List UInt8) (host : InstallerHost) : Prop :=
  match attempt.target.parent, attempt.write with
  | none, _ | some _, .notOpened _ => host.upgrade = none
  | some _, .cut _ _ => False
  | some _, .written =>
    attempt.Renames → attempt.Starts ∨ host.binary = some ⟨binaryBytes, 0o755⟩

section

variable {attempt} {binaryBytes : List UInt8} {host : InstallerHost} {parent : String}

/-- A failed call that did not touch the binary or the service. -/
theorem undone_iff {upgrade : Option File} :
    attempt.Undone host { host with upgrade } ↔ upgrade = none := by
  constructor
  · exact Undone.upgrade
  · rintro rfl
    exact ⟨rfl, rfl, fun _ ran => ran⟩

theorem settles_unparented (root : attempt.target.parent = none) :
    attempt.Settles binaryBytes host ↔ host.upgrade = none := by
  unfold Settles replaceInstallerBinary
  rw [root]
  exact undone_iff

theorem settles_unwritten (within : attempt.target.parent = some parent) {upgrade : Option File}
    {err : String} (failed : attempt.writeFile binaryBytes host.upgrade = (upgrade, .error err)) :
    attempt.Settles binaryBytes host ↔ upgrade = none := by
  unfold Settles replaceInstallerBinary
  rw [within]
  dsimp only
  rw [failed]
  exact undone_iff

/-- Once the file is written, a call is undone up to the rename, and upgrades with the start. -/
theorem settles_written (within : attempt.target.parent = some parent)
    (written : attempt.write = .written) : attempt.Settles binaryBytes host ↔
      (attempt.Renames → attempt.Starts ∨ host.binary = some ⟨binaryBytes, 0o755⟩) := by
  unfold Settles Renames Starts replaceInstallerBinary writeFile
  rw [within, written]
  dsimp only [Option.getD_some]
  cases attempt.makeExecutable (parent ++ "/.kaonic-installer.upgrade.tmp") with
  | error err => simp [undone_iff, Except.isOk, Except.toBool]
  | ok _ =>
    cases attempt.stopService with
    | error err => simp [undone_iff, Except.isOk, Except.toBool]
    | ok _ =>
      cases attempt.rename with
      | error err =>
        refine iff_of_true ⟨rfl, rfl, fun starts _ => starts⟩ ?_
        intro renames
        cases renames.2.2
      | ok _ =>
        cases started : attempt.startService with
        | error err =>
          -- the new binary is in place, and nothing brings back the old one
          have stays : ¬ attempt.Starts := by
            intro starts
            rw [Starts, started] at starts
            cases starts
          constructor
          · intro undone _
            exact Or.inr undone.binary.symm
          · intro kept
            have same := (kept ⟨rfl, rfl, rfl⟩).resolve_left (by intro starts; cases starts)
            exact ⟨same.symm, rfl, fun starts => (stays starts).elim⟩
        | ok _ => exact iff_of_true ⟨rfl, rfl, rfl⟩ fun _ => Or.inl rfl

theorem upgraded_of_ok {text : String}
    (done : (attempt.replaceInstallerBinary binaryBytes host).2 = .ok text) :
    Upgraded binaryBytes (attempt.replaceInstallerBinary binaryBytes host).1 := by
  unfold replaceInstallerBinary writeFile at done ⊢
  split at done
  · cases done
  cases written : attempt.write with
  | notOpened err =>
    rw [written] at done
    cases done
  | cut length err =>
    rw [written] at done
    cases done
  | written =>
    rw [written] at done
    dsimp only at done ⊢
    split at done
    · cases done
    split at done
    · cases done
    split at done
    · cases done
    split at done
    · cases done
    exact ⟨rfl, rfl, rfl⟩

theorem settles_iff : attempt.Settles binaryBytes host ↔ attempt.Recovers binaryBytes host := by
  unfold Recovers
  cases within : attempt.target.parent with
  | none => exact settles_unparented within
  | some parent =>
    cases written : attempt.write with
    | written => exact settles_written within written
    | notOpened err =>
      have failed : attempt.writeFile binaryBytes host.upgrade = (host.upgrade, .error err) := by
        rw [writeFile, written]
      exact settles_unwritten within failed
    | cut length err =>
      have failed : attempt.writeFile binaryBytes host.upgrade =
          (some ⟨binaryBytes.take length, (host.upgrade.map File.mode).getD 0o644⟩, .error err) := by
        rw [writeFile, written]
      rw [settles_unwritten within failed]
      exact iff_of_false (by simp) id

end

/-- A call upgrades the installer, and says so, or else is undone, if and only if a failing write
leaves no temporary file and the service starts on a new binary. -/
theorem replaceInstallerBinary_settles_iff (attempt : UpgradeAttempt) (binaryBytes : List UInt8)
    (host : InstallerHost) :
    (attempt.Settles binaryBytes host ↔ attempt.Recovers binaryBytes host) ∧
    ∀ text, (attempt.replaceInstallerBinary binaryBytes host).2 = .ok text →
      Upgraded binaryBytes (attempt.replaceInstallerBinary binaryBytes host).1 :=
  ⟨settles_iff, fun _ => upgraded_of_ok⟩

/-! ### A full disk, and a binary that does not start -/

def smoothAttempt : UpgradeAttempt where
  target := ⟨"/usr/bin/kaonic-installer", some "/usr/bin"⟩
  write := .written
  metadata := .ok ()
  setPermissions := .ok ()
  stop := .ok ⟨true, "", ""⟩
  rename := .ok ()
  start := .ok ⟨true, "", ""⟩

def installedHost : InstallerHost where
  binary := some ⟨[0x7F, 0x45, 0x4C, 0x46, 1], 0o755⟩
  running := true

def upload : List UInt8 := [0x7F, 0x45, 0x4C, 0x46, 2]

def diskFull : UpgradeAttempt :=
  { smoothAttempt with write := .cut 4 "No space left on device (os error 28)" }

def unstartable : UpgradeAttempt :=
  { smoothAttempt with start := .ok ⟨false, "", "Job for kaonic-installer.service failed."⟩ }

/-- A write that fails on the way leaves what it has written, and a start that fails at the end
leaves the new binary with an error. -/
theorem replaceInstallerBinary_leaves :
    diskFull.replaceInstallerBinary upload installedHost =
        ({ installedHost with upgrade := some ⟨[0x7F, 0x45, 0x4C, 0x46], 0o644⟩ },
          .error "write replacement installer binary: No space left on device (os error 28)") ∧
      ¬ diskFull.Settles upload installedHost ∧
    unstartable.replaceInstallerBinary upload installedHost =
        ({ binary := some ⟨upload, 0o755⟩, running := false },
          .error "Job for kaonic-installer.service failed.") ∧
      ¬ unstartable.Settles upload installedHost := by
  refine ⟨by decide, ?_, by decide, ?_⟩
  · exact fun settles => settles_iff.mp settles
  · intro settles
    rcases settles_iff.mp settles ⟨by decide, by decide, by decide⟩ with starts | same
    · revert starts
      decide
    · revert same
      decide

end UpgradeAttempt

end Kaonic.Gateway
