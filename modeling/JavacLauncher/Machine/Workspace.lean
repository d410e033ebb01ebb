import JavacLauncher.Machine.Host

/-!
# A machine to work on

A fresh machine has the usual directories, the system's programs and one directory to work in, which is
also where it stands. Files, variables and directories are put there one by one before a launch. Paths
are read by their names alone and seen from the working directory.
-/

namespace JavacLauncher.Machine

/-- The directories every machine has. -/
def systemDirectories : List Path :=
  ["/boot", "/dev", "/etc/alternatives", "/home", "/media", "/mnt", "/opt", "/proc", "/root", "/run", "/srv",
    "/sys", "/tmp", "/usr/bin", "/usr/games", "/usr/include", "/usr/lib", "/usr/lib64", "/usr/local/bin",
    "/usr/local/lib", "/usr/local/sbin", "/usr/sbin", "/usr/share", "/usr/src", "/var/cache", "/var/lib",
    "/var/log", "/var/tmp"].map .ofString

/-- Links that every machine has, with what they lead to. -/
def systemLinks : List (Path × String) :=
  [("/bin", "usr/bin"), ("/sbin", "usr/sbin"), ("/lib", "usr/lib"), ("/lib64", "usr/lib64"),
    ("/usr/bin/sh", "dash"), ("/usr/bin/awk", "/etc/alternatives/awk"), ("/usr/bin/nawk", "/etc/alternatives/nawk"),
    ("/etc/alternatives/awk", "/usr/bin/mawk"), ("/etc/alternatives/nawk", "/usr/bin/mawk"),
    ("/etc/os-release", "../usr/lib/os-release")].map fun e => (Path.ofString e.1, e.2)

/-- The devices that every machine has. -/
def systemDevices : List (Path × Device) :=
  [("/dev/null", .null), ("/dev/zero", .zero), ("/dev/full", .full), ("/dev/tty", .terminal),
    ("/dev/random", .zero), ("/dev/urandom", .zero), ("/dev/stdin", .descriptor 0),
    ("/dev/stdout", .descriptor 1), ("/dev/stderr", .descriptor 2)].map fun e => (Path.ofString e.1, e.2)

/-- Files that every machine has, and what they hold. -/
def systemFiles : List (Path × String) :=
  [("/etc/group", "root:x:0:\ndaemon:x:1:\nbin:x:2:\nsys:x:3:\nnogroup:x:65534:\n"),
    ("/etc/hostname", "localhost\n"), ("/etc/hosts", "127.0.0.1\tlocalhost\n"),
    ("/etc/passwd",
      "root:x:0:0:root:/root:/bin/bash\ndaemon:x:1:1:daemon:/usr/sbin:/usr/sbin/nologin\nnobody:x:65534:65534:nobody:/nonexistent:/usr/sbin/nologin\n"),
    ("/etc/profile", "\n"), ("/etc/resolv.conf", "\n"),
    ("/usr/lib/os-release", "PRETTY_NAME=\"Ubuntu 24.04 LTS\"\nNAME=\"Ubuntu\"\nVERSION_ID=\"24.04\"\nID=ubuntu\n")].map
      fun e => (Path.ofString e.1, e.2)

/-- The directory that holds the system's programs. -/
def programDirectory : Path := .ofString "/usr/bin"

/-- The mode of programs and directories, and that of other files. -/
def programMode : Nat := 0o755

def plainMode : Nat := 0o644

/-- The names of the system's programs. -/
def programNames : List Text := Exec.shells.map (·.1) ++ Tool.names

/-- The files and programs of a machine on which nobody has worked. -/
def systemTree : FileTree :=
  let t := systemDirectories.foldl (fun t dir => FileTree.insertDirectories t dir.names) .empty
  let t := programNames.foldl (fun t name =>
    FileTree.insert t (programDirectory.names ++ [Utf8.encode name]) ⟨.program name, programMode, 0⟩) t
  let t := systemLinks.foldl (fun t e =>
    FileTree.insert t e.1.names ⟨.link (Bytes.ofString e.2), 0o777, 0⟩) t
  let t := systemDevices.foldl (fun t e => FileTree.insert t e.1.names ⟨.device e.2, 0o666, 0⟩) t
  systemFiles.foldl (fun t e => FileTree.insert t e.1.names ⟨.file (Bytes.ofString e.2), plainMode, 0⟩) t

/-- How many steps the processes of one launch may take. -/
def stepBudget : Nat := 2000000

/-- A machine with an empty directory to work in. The launcher's program lies at `program`. -/
def fresh (workplace program : Path) : Machine :=
  let tree := systemTree.insertDirectories workplace.reducedNames
  { tree := tree
    standpoint := ⟨workplace.reducedNames, (tree.numberAt? workplace.reducedNames).getD FileTree.rootNode⟩
    environment :=
      [(Bytes.ofString "HOME", (workplace.join (.ofString "home")).bytes),
        (Bytes.ofString "PATH", Bytes.ofString "/usr/bin:/bin")]
    program := program
    accountHome? := some (.ofString "/root")
    streams := standardStreams []
    nextStream := 3
    nextProcess := 4001
    processes := []
    signals := []
    clock := 1
    slept := 0
    deadlines := []
    budget := stepBudget }

/-- The place that a path names, seen from where the machine stands. -/
def place (m : Machine) (p : Path) : Place := ((Path.ofNames m.standpoint.place).join p).reducedNames

/-- Makes a directory and those on the way to it. -/
def makeDirectory (m : Machine) (p : Path) : Machine :=
  { m with tree := m.tree.insertDirectories (m.place p) }

/-- Puts something at a path, and makes the directories on the way. -/
def put (m : Machine) (p : Path) (kind : FileKind) (isExecutable : Bool) : Machine :=
  let tree := m.tree.insertDirectories (m.place p).dropLast
  { m with tree := tree.insert (m.place p) ⟨kind, if isExecutable then programMode else plainMode, m.clock⟩ }

/-- Takes away what a path names and all below it. -/
def remove (m : Machine) (p : Path) : Machine := { m with tree := m.tree.erase (m.place p) }

/-- Gives a variable a value. -/
def setVariable (m : Machine) (name value : Bytes) : Machine :=
  { m with environment := m.environment.filter (fun e => e.1 ≠ name) ++ [(name, value)] }

/-- Goes into a directory. -/
def enter (m : Machine) (p : Path) : Machine :=
  { m with standpoint := ⟨m.place p, (m.tree.numberAt? (m.place p)).getD FileTree.rootNode⟩ }

/-- Goes into a directory that is removed at once. -/
def enterRemoved (m : Machine) (p : Path) : Machine :=
  let m := (m.makeDirectory p).enter p
  { m with tree := m.tree.erase m.standpoint.place }

/-- Puts something to read on standard input. -/
def feed (m : Machine) (input : Bytes) : Machine := { m with streams := standardStreams input }

/-- What the file at a path holds. -/
def content? (m : Machine) (p : Path) : Option Bytes :=
  match (m.tree.at? (m.place p)).map Node.kind with
  | some (.file content) => some content
  | _ => none

end JavacLauncher.Machine
