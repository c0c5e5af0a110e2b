import ImageForge.Text.Blank
import ImageForge.Text.Pieces
import ImageForge.Worker.Environment
import ImageForge.Worker.Procedure
/-!
The build: from a base image to artifacts, one command after another. The first failure ends it. The
bind of the devices into the container is the one thing that is released on every way out.
-/

namespace ImageForge.Worker

/-- The files of a successful build. -/
structure Artifacts where
  archive : String
  diskImage : Option String
  deriving DecidableEq, Repr

/-- The name a command printed: its last line that is not blank, trimmed. -/
def lastLine? (output : String) : Option String :=
  let trimmed := (Text.lines output.toList).map (Text.strip Text.isBlank)
  (trimmed.reverse.find? (!·.isEmpty)).map String.ofList

namespace Command

def buildah (subcommand container : String) : Command := ⟨"buildah", [subcommand, container], false⟩

/-- Creates a container from the base image, with credentials when there are some. -/
def createContainer (env : Environment) (authFile : Option String) : Command :=
  let credentials := match authFile with
    | some path => ["--authfile", path]
    | none => []
  ⟨"buildah", ["from", "--arch", env.arch.name] ++ credentials ++ [env.baseImage], false⟩

/-- The directory of the devices inside a container root. -/
def devices (root : String) : String := root ++ "/dev"

def bindDevices (root : String) : Command := ⟨"mount", ["--bind", "/dev", devices root], false⟩

def releaseDevices (root : String) : Command := ⟨"umount", [devices root], false⟩

def clone (source : SourceRepo) : Command :=
  ⟨"git", ["clone", "--depth", "1", "--branch", source.branch, source.url, sourceDir], false⟩

/-- The playbook inside the checkout, whatever slashes its path begins with. -/
def playbookPath (playbook : Playbook) : String :=
  sourceDir ++ "/" ++ Text.dropStart (· = '/') playbook.path

/-- Runs a playbook against a root; the comma makes the inventory a list of hosts. -/
def provision (playbook : Playbook) (root : String) : Command :=
  let extra := match playbook.extraVars with
    | some text => ["-e", text]
    | none => []
  ⟨"ansible-playbook", ["-c", "chroot", "-i", root ++ ","] ++ extra ++ [playbookPath playbook],
    false⟩

def archive (file root : String) : Command := ⟨"tar", ["-czf", file, "-C", root, "."], false⟩

def diskImage (archive image : String) : Command :=
  ⟨"virt-make-fs", ["--format=qcow2", "--type=ext4", archive, image], false⟩

end Command

/-- The target of the log entries of a build. -/
def buildTarget : String := "builder::sequence"

open Procedure

def info (message : String) (fields : List (String × String)) : Procedure Unit :=
  log ⟨.info, buildTarget, message, fields⟩

/-- Runs a command that prints the name of a resource. -/
def capture (c : Command) : Procedure String := do
  let c := { c with capture := true }
  let output ← command c
  match lastLine? output with
  | some name => pure name
  | none => fail (.emptyOutput c.line)

/-- Checks out the source and runs the playbook, each when it is asked for. -/
def provision (env : Environment) (root : String) : Procedure Unit := do
  match env.source with
  | some source =>
    info "Cloning provisioning source" [("repo", source.url), ("branch", source.branch)]
    execute (.clone source)
  | none => pure ()
  match env.playbook with
  | some playbook =>
    info "Running playbook" [("playbook", playbook.path)]
    execute (.provision playbook root)
  | none => pure ()

/-- Runs a body between the bind of the devices and its release. A bind that fails leaves nothing to
release; the error of the body wins over that of the release. -/
def withDevices (root : String) (body : Procedure Unit) : Procedure Unit := do
  execute (.bindDevices root)
  body.andThen fun result =>
    (execute (.releaseDevices root)).andThen fun release =>
      match result, release with
      | .ok (), release => .done release
      | .error e, .ok _ => fail e
      | .error e, .error r =>
        .note ⟨.warn, buildTarget, "Failed to unmount " ++ Command.devices root ++
          " after failed provisioning: " ++ r.message, []⟩ (fail e)

/-- The file of an artifact. -/
def artifactPath (filename suffix : String) : String := outputDir ++ "/" ++ filename ++ suffix

/-- Writes the archive of a root, and the disk image from it when it is asked for. -/
def writeArtifacts (env : Environment) (root : String) : Procedure Artifacts := do
  let archive := artifactPath env.outputFilename ".tar.gz"
  execute (.archive archive root)
  info ("Wrote " ++ archive) []
  if env.wantsDiskImage then
    let image := artifactPath env.outputFilename ".qcow2"
    execute (.diskImage archive image)
    info ("Wrote " ++ image) []
    pure ⟨archive, some image⟩
  else pure ⟨archive, none⟩

/-- The whole build. The container is mounted anew before it is archived, so that all a playbook wrote
is seen. -/
def build (env : Environment) (authFile : Option String) : Procedure Artifacts := do
  info "Creating working container"
    [("base_image", env.baseImage), ("arch", env.arch.name),
      ("authenticated", if authFile.isSome then "true" else "false")]
  let container ← capture (.createContainer env authFile)
  let root ← capture (.buildah "mount" container)
  info "Mounted working container" [("container", container), ("root", root)]
  withDevices root (provision env root)
  execute (.buildah "umount" container)
  let root ← capture (.buildah "mount" container)
  let artifacts ← writeArtifacts env root
  execute (.buildah "umount" container)
  execute (.buildah "rm" container)
  info "Removed working container" [("container", container)]
  pure artifacts

/-- The file with the credentials for the base image, when it is there. -/
def credentials? (isThere : String → Bool) : Option String :=
  let path := pullSecretDir ++ "/" ++ pullSecretFile
  if isThere path then some path else none

/-- What a worker does with an order: it reads it, builds, and says how that went. -/
def session (lookup : String → Option String) (authFile : Option String) : Procedure Artifacts :=
  let note := fun level message fields => (⟨level, "image_builder", message, fields⟩ : LogEntry)
  .note (note .info "Starting image-builder" []) <|
    match Environment.read lookup with
    | .error e => fail e
    | .ok env =>
      (build env authFile).andThen fun
        | .ok artifacts =>
          let image := match artifacts.diskImage with
            | some path => "Some(" ++ Text.quote path ++ ")"
            | none => "None"
          .note (note .info "Build completed"
            [("archive", artifacts.archive), ("disk_image", image)]) (pure artifacts)
        | .error e => .note (note .error ("Build failed: " ++ e.message) []) (fail e)

end ImageForge.Worker
