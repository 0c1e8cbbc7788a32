import AppSalmon.Domain.Cluster

/-! What `SudoExecutor` asks sudo to run, and what the setup script lets it run.

The two are written independently of one another: the executor joins paths, the
script puts texts together.
-/

set_option autoImplicit false

namespace AppSalmon

open UnixPath (Path)

inductive PrivilegedCommand where
  | prepareWorkerDir (path : Path)
  | wipeWorkerDir (path : Path)
  | adoptStagedTree (stagingPath destPath : Path)
  deriving DecidableEq

abbrev Argv := List (List Char)

def programAndArgs : PrivilegedCommand → List Char × Argv
  | .prepareWorkerDir path => ("mkdir".toList, ["-p".toList, path])
  | .wipeWorkerDir path => ("find".toList, [path, "-mindepth".toList, "1".toList, "-delete".toList])
  | .adoptStagedTree stagingPath destPath => ("cp".toList, ["-r".toList, stagingPath ++ "/.".toList, destPath])

/-- `sudo -u <account> -- <program> <args...>` -/
structure Invocation where
  account : List Char
  program : List Char
  args : Argv
  deriving DecidableEq

def SudoExecutor.runAs (worker : WorkerUser) (command : PrivilegedCommand) : Invocation :=
  ⟨worker.name.toList, (programAndArgs command).1, (programAndArgs command).2⟩

/-! ## The setup script -/

namespace SetupScript

variable (workerDataDirBase tarStagingDirBase : List Char) (names : List (List Char)) (maxClustersPerUser : Nat)

/-- `$BASE/$name/slot-$slot` -/
def slotPath (base name : List Char) (slot : Nat) : List Char :=
  base ++ "/".toList ++ name ++ "/slot-".toList ++ (toString slot).toList

/-- The four lines that one turn of the inner loop echoes. -/
def slotLines (user name : List Char) (slot : Nat) : List (List Char) :=
  let slotDir := slotPath workerDataDirBase name slot
  let stagingDir := slotPath tarStagingDirBase name slot
  let may := user ++ " ALL=(".toList ++ name ++ ") NOPASSWD: ".toList
  [may ++ "/usr/bin/mkdir -p ".toList ++ slotDir,
    may ++ "/usr/bin/mkdir -p ".toList ++ slotDir ++ "/project/functions".toList,
    may ++ "/usr/bin/find ".toList ++ slotDir ++ " -mindepth 1 -delete".toList,
    may ++ "/usr/bin/cp -r ".toList ++ stagingDir ++ "/. ".toList ++ slotDir ++ "/project".toList]

/-- The sudoers file, without its comment. -/
def sudoersLines (user : List Char) : List (List Char) :=
  names.flatMap fun name => (List.range maxClustersPerUser).flatMap fun slot =>
    slotLines workerDataDirBase tarStagingDirBase user name slot

/-- What the lines of one slot let the program run. -/
def slotRules (name : List Char) (slot : Nat) : List Invocation :=
  let slotDir := slotPath workerDataDirBase name slot
  let stagingDir := slotPath tarStagingDirBase name slot
  [⟨name, "mkdir".toList, ["-p".toList, slotDir]⟩,
    ⟨name, "mkdir".toList, ["-p".toList, slotDir ++ "/project/functions".toList]⟩,
    ⟨name, "find".toList, [slotDir, "-mindepth".toList, "1".toList, "-delete".toList]⟩,
    ⟨name, "cp".toList, ["-r".toList, stagingDir ++ "/.".toList, slotDir ++ "/project".toList]⟩]

def sudoersRules : List Invocation :=
  names.flatMap fun name => (List.range maxClustersPerUser).flatMap fun slot =>
    slotRules workerDataDirBase tarStagingDirBase name slot

end SetupScript

/-- The line that lets `user` run this and nothing else. -/
def Invocation.line (user : List Char) (invocation : Invocation) : List Char :=
  user ++ " ALL=(".toList ++ invocation.account ++ ") NOPASSWD: ".toList ++ "/usr/bin/".toList ++ invocation.program ++
    invocation.args.flatMap fun arg => ' ' :: arg

namespace SetupScript

variable {workerDataDirBase tarStagingDirBase : List Char} {names : List (List Char)} {maxClustersPerUser : Nat}

theorem slotLines_eq (user name : List Char) (slot : Nat) :
    slotLines workerDataDirBase tarStagingDirBase user name slot =
      (slotRules workerDataDirBase tarStagingDirBase name slot).map (Invocation.line user) := by
  simp [slotLines, slotRules, Invocation.line]

/-- The script's lines are those of its rules, one by one. -/
theorem sudoersLines_eq (user : List Char) :
    sudoersLines workerDataDirBase tarStagingDirBase names maxClustersPerUser user =
      (sudoersRules workerDataDirBase tarStagingDirBase names maxClustersPerUser).map (Invocation.line user) := by
  simp only [sudoersLines, sudoersRules, List.map_flatMap, slotLines_eq]

theorem mem_sudoersRules {invocation : Invocation} {name : List Char} {slot : Nat} (isName : name ∈ names)
    (below : slot < maxClustersPerUser) (rule : invocation ∈ slotRules workerDataDirBase tarStagingDirBase name slot) :
    invocation ∈ sudoersRules workerDataDirBase tarStagingDirBase names maxClustersPerUser :=
  List.mem_flatMap.mpr ⟨name, isName, List.mem_flatMap.mpr ⟨slot, List.mem_range.mpr below, rule⟩⟩

end SetupScript

/-! ## What each rule is for -/

section
variable (workerDataDirBase tarStagingDirBase : List Char) (worker : WorkerUser) (slot : Nat)

theorem SetupScript.allows_slot : SudoExecutor.runAs worker (.prepareWorkerDir (slotPath workerDataDirBase worker.name.toList slot)) ∈
    slotRules workerDataDirBase tarStagingDirBase worker.name.toList slot := List.mem_cons_self

theorem SetupScript.allows_functions : SudoExecutor.runAs worker
      (.prepareWorkerDir (slotPath workerDataDirBase worker.name.toList slot ++ "/project/functions".toList)) ∈
    slotRules workerDataDirBase tarStagingDirBase worker.name.toList slot :=
  List.mem_cons_of_mem _ List.mem_cons_self

theorem SetupScript.allows_wipe : SudoExecutor.runAs worker (.wipeWorkerDir (slotPath workerDataDirBase worker.name.toList slot)) ∈
    slotRules workerDataDirBase tarStagingDirBase worker.name.toList slot :=
  List.mem_cons_of_mem _ (List.mem_cons_of_mem _ List.mem_cons_self)

theorem SetupScript.allows_adopt : SudoExecutor.runAs worker
      (.adoptStagedTree (slotPath tarStagingDirBase worker.name.toList slot)
        (slotPath workerDataDirBase worker.name.toList slot ++ "/project".toList)) ∈
    slotRules workerDataDirBase tarStagingDirBase worker.name.toList slot :=
  List.mem_cons_of_mem _ (List.mem_cons_of_mem _ (List.mem_cons_of_mem _ List.mem_cons_self))

end

/-! ## One path, put together twice -/

/-- A text that ends, and in something other than a slash. The script's bases are never empty. -/
def Unslashed (path : Path) : Prop := path ≠ [] ∧ path.getLast? ≠ some '/'

instance (path : Path) : Decidable (Unslashed path) := inferInstanceAs (Decidable (_ ∧ _))

/-- A name that may stand between two slashes. -/
def IsAccountName (name : String) : Prop := Unslashed name.toList ∧ UnixPath.hasRoot name.toList = false

instance (name : String) : Decidable (IsAccountName name) := inferInstanceAs (Decidable (_ ∧ _))

theorem join_unslashed {base path : Path} (unslashed : Unslashed base) (relative : UnixPath.hasRoot path = false) :
    UnixPath.join base path = base ++ '/' :: path := by
  rw [UnixPath.join, relative, if_neg Bool.false_ne_true, if_neg]
  rintro (empty | slash)
  · exact unslashed.1 empty
  · exact unslashed.2 slash

theorem Unslashed.append {base name : Path} (unslashed : Unslashed name) : Unslashed (base ++ '/' :: name) := by
  constructor
  · simp
  · rw [List.getLast?_append_cons, List.getLast?_cons_of_ne_nil unslashed.1]
    exact unslashed.2

/-- What `worker_data_dir` joins is what the script writes. -/
theorem workerDataDir_eq {base : Path} {worker : WorkerUser} (unslashed : Unslashed base)
    (named : IsAccountName worker.name) (slot : UInt32) :
    workerDataDir base worker slot = SetupScript.slotPath base worker.name.toList slot.toNat := by
  have inside : Unslashed (base ++ '/' :: worker.name.toList) := named.1.append
  have relative : UnixPath.hasRoot ("slot-" ++ toString slot.toNat).toList = false := by simp [UnixPath.hasRoot]
  rw [workerDataDir, join_unslashed unslashed named.2, join_unslashed inside relative]
  simp [SetupScript.slotPath]

/-- A slot's path ends in a digit. -/
theorem slotPath_unslashed (base name : List Char) (slot : Nat) : Unslashed (SetupScript.slotPath base name slot) := by
  have digits : (toString slot).toList = Nat.toDigits 10 slot := Nat.toList_repr
  rw [SetupScript.slotPath, digits]
  constructor
  · simp
  · intro slash
    rw [List.getLast?_append_of_ne_nil _ Nat.toDigits_ne_nil] at slash
    have digit := Nat.isDigit_of_mem_toDigits (by decide) (by decide) (List.mem_of_getLast? slash)
    exact absurd digit (by decide)

end AppSalmon
