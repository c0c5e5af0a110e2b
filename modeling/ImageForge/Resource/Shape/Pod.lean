import ImageForge.Resource.Shape.Container
/-!
The shapes of pods and of where they may run.
-/

namespace ImageForge.Shape

def nodeSelectorTerm : Shape :=
  let requirement := record [always "key" .text, always "operator" .text, maybe "values" texts]
  record (maybeEach ["matchExpressions", "matchFields"] (.list requirement))

/-- What is preferred and what is required of a place. -/
def affinityOf (preferred required : Shape) : Shape := record [
  maybe "preferredDuringSchedulingIgnoredDuringExecution" preferred,
  maybe "requiredDuringSchedulingIgnoredDuringExecution" required]

def nodeAffinity : Shape :=
  affinityOf
    (.list (record [always "preference" nodeSelectorTerm, always "weight" .int32]))
    (record [always "nodeSelectorTerms" (.list nodeSelectorTerm)])

def podAffinityTerm : Shape := record <|
  maybeEach ["labelSelector", "namespaceSelector"] labelSelector ++
    maybeEach ["matchLabelKeys", "mismatchLabelKeys", "namespaces"] texts ++
    [always "topologyKey" .text]

def podAffinity : Shape :=
  affinityOf
    (.list (record [always "podAffinityTerm" podAffinityTerm, always "weight" .int32]))
    (.list podAffinityTerm)

def affinity : Shape := record
  [maybe "nodeAffinity" nodeAffinity, maybe "podAffinity" podAffinity,
    maybe "podAntiAffinity" podAffinity]

def dnsConfig : Shape := record [
  maybe "nameservers" texts,
  maybe "options" (.list (record [maybe "name" .text, maybe "value" .text])),
  maybe "searches" texts]

def podSecurityContext : Shape := record <|
  commonSecurity ++
    [maybe "fsGroup" .int64, maybe "fsGroupChangePolicy" .text,
      maybe "supplementalGroups" (.list .int64),
      maybe "sysctls" (.list (record [always "name" .text, always "value" .text]))]

def toleration : Shape := record <|
  maybe "tolerationSeconds" .int64 :: maybeEach ["effect", "key", "operator", "value"] .text

def topologySpreadConstraint : Shape := record [
  maybe "labelSelector" labelSelector, maybe "matchLabelKeys" texts, always "maxSkew" .int32,
  maybe "minDomains" .int32, maybe "nodeAffinityPolicy" .text, maybe "nodeTaintsPolicy" .text,
  always "topologyKey" .text, always "whenUnsatisfiable" .text]

def podResourceClaim : Shape := record [
  always "name" .text,
  maybe "source" (record (maybeEach ["resourceClaimName", "resourceClaimTemplateName"] .text))]

def podSpec : Shape := record <|
  maybeEach ["dnsPolicy", "hostname", "nodeName", "preemptionPolicy", "priorityClassName",
    "restartPolicy", "runtimeClassName", "schedulerName", "serviceAccount", "serviceAccountName",
    "subdomain"] .text ++
  maybeEach ["automountServiceAccountToken", "enableServiceLinks", "hostIPC", "hostNetwork",
    "hostPID", "hostUsers", "setHostnameAsFQDN", "shareProcessNamespace"] .boolean ++
  maybeEach ["activeDeadlineSeconds", "terminationGracePeriodSeconds"] .int64 ++
  maybeEach ["nodeSelector", "overhead"] textMap ++
  [maybe "affinity" affinity,
    always "containers" (.list container),
    maybe "dnsConfig" dnsConfig,
    maybe "ephemeralContainers" (.list ephemeralContainer),
    maybe "hostAliases" (.list (record [maybe "hostnames" texts, always "ip" .text])),
    maybe "imagePullSecrets" (.list localReference),
    maybe "initContainers" (.list container),
    maybe "os" (record [always "name" .text]),
    maybe "priority" .int32,
    maybe "readinessGates" (.list (record [always "conditionType" .text])),
    maybe "resourceClaims" (.list podResourceClaim),
    maybe "schedulingGates" (.list (record [always "name" .text])),
    maybe "securityContext" podSecurityContext,
    maybe "tolerations" (.list toleration),
    maybe "topologySpreadConstraints" (.list topologySpreadConstraint),
    maybe "volumes" (.list volume)]

def podTemplate : Shape := record [maybe "metadata" objectMeta, maybe "spec" podSpec]

end ImageForge.Shape
