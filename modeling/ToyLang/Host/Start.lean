import ToyLang.Files.Access
import ToyLang.Host.Programs

/-!
# Hosts

What every host has when something is started on it: users and groups, folders, devices, programs,
and a process with three streams.

## Main definitions

* `passwd`, `group` — the files in which a host keeps its users and groups.
* `Host.Settings` — what differs from one run to the next.
* `Host.tree` — the files that every host has.
* `Host.machine` — a host with given files and a standard input.
* `Host.contents` — what went through a stream.
-/

namespace ToyLang.Host

open Run

/-! ### Accounts -/

/-- What a host keeps of its users: their names, what they are called, where they are at home, and
the program that they start with. -/
def accounts : List (String × String × String × String) :=
  let nobody := "/usr/sbin/nologin"
  [("root", "root", "/root", "/bin/bash"), ("daemon", "daemon", "/usr/sbin", nobody),
    ("bin", "bin", "/bin", nobody), ("sys", "sys", "/dev", nobody),
    ("sync", "sync", "/bin", "/bin/sync"), ("games", "games", "/usr/games", nobody),
    ("man", "man", "/var/cache/man", nobody), ("lp", "lp", "/var/spool/lpd", nobody),
    ("mail", "mail", "/var/mail", nobody), ("news", "news", "/var/spool/news", nobody),
    ("uucp", "uucp", "/var/spool/uucp", nobody), ("proxy", "proxy", "/bin", nobody),
    ("www-data", "www-data", "/var/www", nobody),
    ("backup", "backup", "/var/backups", nobody),
    ("list", "Mailing List Manager", "/var/list", nobody),
    ("irc", "ircd", "/run/ircd", nobody), ("_apt", "", "/nonexistent", nobody),
    ("nobody", "nobody", "/nonexistent", nobody)]

/-- The file of the users. -/
def passwd : String :=
  String.join (accounts.map fun (name, called, home, program) =>
    let number := (Owner.number? false name).getD 0
    ":".intercalate
      [name, "x", toString number, toString (Owner.firstGroup number), called, home, program] ++ "\n")

/-- The file of the groups. -/
def group : String :=
  String.join (Owner.groups.map fun (name, number) => name ++ ":x:" ++ toString number ++ ":\n")

/-! ### Hosts -/

/-- What differs from one run on a host to the next. -/
structure Settings where
  /-- The folder that is worked in. -/
  workingFolder : String
  /-- The folder that is made for temporary use. -/
  temporaryFolder : String
  /-- When everything starts, in nanoseconds since the start of 1970. -/
  startTime : Int
  /-- The number of the first process. -/
  firstProcess : Nat
  /-- The mode of the files that are given. -/
  fileMode : Nat

/-- The settings of a run that was recorded. -/
def Settings.recorded : Settings where
  workingFolder := "/tmp/oracle-cli-2"
  temporaryFolder := "/tmp/.tmpqf3k7A"
  startTime :=
    let day : Int := Format.daySeconds * Format.daysOfDate 2026 1 14
    let hour : Int := 3600 * 13 + 60 * 24 + 35
    Format.nanosecondsPerSecond * (day + hour) + 246813579
  firstProcess := 1000
  fileMode := 0o755

/-- The folders that every host has. -/
def folders (c : Settings) : List String :=
  ["/boot", "/dev/fd", "/etc", "/home", "/media", "/mnt", "/opt", "/proc", "/root", "/run", "/srv",
    "/sys", "/tmp", "/usr/bin", "/usr/include", "/usr/lib", "/usr/lib64", "/usr/local/bin",
    "/usr/local/lib", "/usr/local/sbin", "/usr/sbin", "/usr/share", "/var/tmp", c.workingFolder]

/-- The folders in which everyone may make files. -/
def openFolders : List String := ["/tmp", "/var/tmp"]

/-- The mode of such a folder. -/
def openFolderMode : Nat := 0o1777

/-- The mode of a device that everyone may use. -/
def deviceMode : Nat := 0o666

/-- The mode of a stream. -/
def streamMode : Nat := 0o600

/-- The mode of a program. -/
def programMode : Nat := 0o755

/-- The mode of a file that everyone may read. -/
def textMode : Nat := 0o644

/-- The number of streams of a process that have names. -/
def namedStreams : Nat := 64

/-- The devices that every host has. -/
def devices : List (String × Content × Nat) :=
  [("/dev/null", .device .null, deviceMode), ("/dev/zero", .device .zero, deviceMode),
    ("/dev/full", .device .full, deviceMode), ("/dev/tty", .device .absent, deviceMode),
    ("/dev/stdin", .device (.stream 0), streamMode),
    ("/dev/stdout", .device (.stream 1), streamMode),
    ("/dev/stderr", .device (.stream 2), streamMode)]
  ++ (List.range namedStreams).map fun n =>
    ("/dev/fd/" ++ toString n, .device (.stream n), streamMode)

/-- The links that every host has. -/
def links : List (String × Content × Nat) :=
  [("/bin", "usr/bin"), ("/sbin", "usr/sbin"), ("/lib", "usr/lib"), ("/lib64", "usr/lib64"),
    ("/usr/bin/sh", "dash"), ("/usr/bin/rbash", "bash"), ("/proc/self/fd", "/dev/fd")].map
      fun (path, target) => (path, .link target, FileTree.linkMode)

/-- The programs that every host has. -/
def programs : List (String × Content × Nat) :=
  ("dash" :: "bash" :: toolNames).map fun name =>
    ("/usr/bin/" ++ name, .file (Program.image name), programMode)

/-- The texts that every host has. -/
def texts : List (String × Content × Nat) :=
  [("/etc/passwd", passwd), ("/etc/group", group), ("/etc/hosts", "127.0.0.1\tlocalhost\n"),
    ("/etc/shells", "# /etc/shells: valid login shells\n/bin/sh\n/bin/bash\n/usr/bin/bash\n"
      ++ "/bin/rbash\n/usr/bin/rbash\n/bin/dash\n/usr/bin/dash\n")].map
      fun (path, text) => (path, .file text.toUTF8, textMode)

/-- How long before the start the files are made that are given, in nanoseconds. -/
def preparation : Int := tenTo 7

/-- The files that every host has, a day old. -/
def tree (c : Settings) : FileTree :=
  let t := (folders c).foldl (fun t path => (t.addFolders FileTree.root (Path.names path)).2)
    (.empty (c.startTime - tenTo 9 * Format.daySeconds))
  let t := (devices ++ links ++ programs ++ texts).foldl
    (fun t (path, content, mode) => t.place FileTree.root path content mode) t
  openFolders.foldl (fun t path => match t.locate FileTree.root path with
    | .ok number => t.setMode number openFolderMode
    | .error _ => t) t

/-- The environment in which something is started. -/
def environment (c : Settings) : List (String × String) :=
  [("PATH", Program.usualFolders), ("HOME", "/root"), ("PWD", c.workingFolder)]

/-- The bits of a mode that new files do not get. -/
def usualMask : Nat := 0o022

/-- The shell of a process that is no shell. -/
def noShell : Shell := { dialect := .plain, name := "", arguments := [] }

/-- The folder that is worked in, and the files of a host when it is about to be used: this folder
holds nothing yet. -/
def prepared (c : Settings) : Nat × FileTree :=
  let (folder, t) := { tree c with now := c.startTime - preparation }.addFolders FileTree.root
    (Path.names c.workingFolder)
  (folder, t.emptied folder)

/-- Put files into a folder. -/
def placeAll (c : Settings) (folder : Nat) (t : FileTree) (files : List (String × ByteArray)) :
    FileTree :=
  files.foldl (fun t (path, bytes) => t.place folder (Text.raw path) (.file bytes) c.fileMode) t

/-- A host with given files in the folder that is worked in, and a standard input. -/
def machine (c : Settings) (files : List (String × ByteArray)) (input : ByteArray) : Machine :=
  let (folder, t) := prepared c
  let pipe (n : Nat) : OpenFile :=
    { target := .pipe n, readable := n = 0, writable := n ≠ 0 }
  { tree := { placeAll c folder t files with now := c.startTime }
    opened := ((List.range 3).map pipe).toArray
    pipes := #[{ bytes := input }, {}, {}]
    lastProcess := c.firstProcess
    process :=
      { number := c.firstProcess
        ancestors := []
        folder := folder
        streams := [(0, 0), (1, 1), (2, 2)]
        mask := usualMask
        environment := environment c }
    shell := noShell }

/-- What went through the pipe behind one of the first streams. -/
def contents (m : Machine) (stream : Nat) : ByteArray :=
  ((m.pipes[stream]?).map Pipe.bytes).getD ByteArray.empty

end ToyLang.Host
