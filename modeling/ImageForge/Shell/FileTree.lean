import ImageForge.Shell.Condition
/-!
The files that every system has, by their absolute names.
-/

namespace ImageForge.Shell

/-- The absolute form of a name of a file, without dots. What is in a directory about which nothing is
known has a name that no file has. -/
def resolvePath (directory : Option String) (path : String) : String :=
  let full := if path.startsWith "/" then path else directory.getD "/somewhere" ++ "/" ++ path
  let parts := (full.splitOn "/").foldl (fun (before : List String) part =>
    if part = "" ∨ part = "." then before
    else if part = ".." then before.tail
    else part :: before) []
  "/" ++ String.intercalate "/" parts.reverse

/-- Directories that every system has. -/
def knownDirectories : List String :=
  ["/", "/bin", "/boot", "/dev", "/etc", "/home", "/lib", "/media", "/mnt", "/opt", "/proc", "/root",
    "/run", "/sbin", "/srv", "/sys", "/tmp", "/usr", "/usr/bin", "/usr/lib", "/usr/local",
    "/usr/local/bin", "/usr/sbin", "/usr/share", "/var", "/var/lib", "/var/log", "/var/tmp", "/dev/fd",
    "/dev/shm"]

def knownDevices : List String :=
  ["/dev/null", "/dev/zero", "/dev/full", "/dev/random", "/dev/urandom", "/dev/tty"]

def knownFiles : List String :=
  ["/bin/sh", "/usr/bin/sh", "/etc/passwd", "/etc/group", "/etc/hosts", "/etc/hostname",
    "/etc/resolv.conf"]

/-- The kind of a file that every system has. -/
def fileKind? (path : String) : Option FileKind :=
  if path ∈ knownDirectories then some .directory
  else if path ∈ knownDevices then some .device
  else if path ∈ knownFiles then some .regular
  else none

/-- The directory that a file is in. -/
def parentPath (path : String) : String :=
  "/" ++ String.intercalate "/" ((path.splitOn "/").filter (· ≠ "")).dropLast

/-- The kind of a file that is named from a directory, which exists itself. -/
def kindFrom? (directory : Option String) (path : String) : Option FileKind :=
  if path.isEmpty then none
  else if path = "." ∨ path = "./" then some .directory
  else fileKind? (resolvePath directory path)

/-- Files as conditions see them. -/
def worldFrom (directory : Option String) : World := ⟨kindFrom? directory⟩

end ImageForge.Shell
