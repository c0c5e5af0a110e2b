/-!
What the controller and the worker in a builder pod agree on: the variables that carry the order and
the directories that are mounted. The directories are the same for every build.
-/

namespace ImageForge.Worker

/-- The image to start from. -/
def baseImageVar : String := "BASE_IMAGE"
/-- The architecture to build for. -/
def architectureVar : String := "ARCHITECTURE"
/-- The base name of the artifacts. -/
def outputFilenameVar : String := "OUTPUT_FILENAME"
/-- The artifact formats, separated by commas. -/
def outputFormatsVar : String := "OUTPUT_FORMATS"
/-- The repository with the provisioning source. -/
def gitRepoVar : String := "GIT_REPO"
/-- The branch of that repository. -/
def gitBranchVar : String := "GIT_BRANCH"
/-- The playbook, relative to the root of the repository. -/
def playbookVar : String := "PLAYBOOK"
/-- A document with extra variables for the playbook. -/
def extraVarsVar : String := "ANSIBLE_EXTRA_VARS"

/-- All variables of an order. -/
def orderVariables : List String :=
  [baseImageVar, architectureVar, outputFilenameVar, outputFormatsVar, gitRepoVar, gitBranchVar,
    playbookVar, extraVarsVar]

/-- Where the pull secret of the base image is mounted. -/
def pullSecretDir : String := "/etc/baseimage-pull-secret"
/-- The file of the pull secret, with the credentials in it. -/
def pullSecretFile : String := ".dockerconfigjson"
/-- Where the provisioning source is checked out. -/
def sourceDir : String := "/source"
/-- Where the artifacts are written. -/
def outputDir : String := "/output"
/-- Where containers are stored. -/
def storageDir : String := "/var/lib/containers/storage"

/-- The base name of the artifacts when none is given. -/
def defaultOutputFilename : String := "rootfs"
/-- The branch when none is given. -/
def defaultGitBranch : String := "main"

end ImageForge.Worker
