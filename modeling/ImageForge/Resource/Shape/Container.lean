import ImageForge.Resource.Shape.Volume
/-!
The shapes of containers.
-/

namespace ImageForge.Shape

/-- A key of a named map of texts. -/
def keySelector : Shape :=
  record [always "key" .text, always "name" .text, maybe "optional" .boolean]

def envVar : Shape := record [
  always "name" .text,
  maybe "value" .text,
  maybe "valueFrom" (record [
    maybe "configMapKeyRef" keySelector,
    maybe "fieldRef" objectFieldSelector,
    maybe "resourceFieldRef" resourceFieldSelector,
    maybe "secretKeyRef" keySelector])]

def envFromSource : Shape :=
  let source := record [always "name" .text, maybe "optional" .boolean]
  record [maybe "configMapRef" source, maybe "prefix" .text, maybe "secretRef" source]

/-- What is done to a container: a command, a request or a connection. -/
def actions : List (String × Bool × Shape) := [
  maybe "exec" (record [maybe "command" texts]),
  maybe "httpGet" (record [
    maybe "host" .text,
    maybe "httpHeaders" (.list (record [always "name" .text, always "value" .text])),
    maybe "path" .text, always "port" .numberOrText, maybe "scheme" .text]),
  maybe "tcpSocket" (record [maybe "host" .text, always "port" .numberOrText])]

def lifecycle : Shape :=
  let handler := record (maybe "sleep" (record [always "seconds" .int64]) :: actions)
  record [maybe "postStart" handler, maybe "preStop" handler]

def probe : Shape := record <|
  actions ++
    maybeEach ["failureThreshold", "initialDelaySeconds", "periodSeconds", "successThreshold",
      "timeoutSeconds"] .int32 ++
    [maybe "grpc" (record [always "port" .int32, maybe "service" .text]),
      maybe "terminationGracePeriodSeconds" .int64]

def containerPort : Shape := record [
  always "containerPort" .int32, maybe "hostIP" .text, maybe "hostPort" .int32,
  maybe "name" .text, maybe "protocol" .text]

def resourceRequirements : Shape := record [
  maybe "claims" (.list (record [always "name" .text])), maybe "limits" textMap,
  maybe "requests" textMap]

/-- Fields that the security of containers and of pods have in common. -/
def commonSecurity : List (String × Bool × Shape) :=
  let profile := record [maybe "localhostProfile" .text, always "type" .text]
  [maybe "appArmorProfile" profile, maybe "runAsGroup" .int64, maybe "runAsNonRoot" .boolean,
    maybe "runAsUser" .int64,
    maybe "seLinuxOptions" (record (maybeEach ["level", "role", "type", "user"] .text)),
    maybe "seccompProfile" profile,
    maybe "windowsOptions" (record (maybe "hostProcess" .boolean ::
      maybeEach ["gmsaCredentialSpec", "gmsaCredentialSpecName", "runAsUserName"] .text))]

def securityContext : Shape := record <|
  commonSecurity ++
    maybeEach ["allowPrivilegeEscalation", "privileged", "readOnlyRootFilesystem"] .boolean ++
    [maybe "capabilities" (record (maybeEach ["add", "drop"] texts)), maybe "procMount" .text]

def volumeMount : Shape := record <|
  alwaysEach ["mountPath", "name"] .text ++
    maybeEach ["mountPropagation", "recursiveReadOnly", "subPath", "subPathExpr"] .text ++
    [maybe "readOnly" .boolean]

def containerFields : List (String × Bool × Shape) :=
  maybeEach ["args", "command"] texts ++
    maybeEach ["image", "imagePullPolicy", "restartPolicy", "terminationMessagePath",
      "terminationMessagePolicy", "workingDir"] .text ++
    maybeEach ["livenessProbe", "readinessProbe", "startupProbe"] probe ++
    maybeEach ["stdin", "stdinOnce", "tty"] .boolean ++
    [maybe "env" (.list envVar), maybe "envFrom" (.list envFromSource),
      maybe "lifecycle" lifecycle, always "name" .text, maybe "ports" (.list containerPort),
      maybe "resizePolicy" (.list (record (alwaysEach ["resourceName", "restartPolicy"] .text))),
      maybe "resources" resourceRequirements, maybe "securityContext" securityContext,
      maybe "volumeDevices" (.list (record (alwaysEach ["devicePath", "name"] .text))),
      maybe "volumeMounts" (.list volumeMount)]

def container : Shape := record containerFields

/-- A container that is added to a pod that runs. -/
def ephemeralContainer : Shape := record (maybe "targetContainerName" .text :: containerFields)

end ImageForge.Shape
