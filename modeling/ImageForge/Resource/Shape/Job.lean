import ImageForge.Resource.Shape.Pod
/-!
The shapes of jobs and of their state.
-/

namespace ImageForge.Shape

def podFailureRule : Shape := record [
  always "action" .text,
  maybe "onExitCodes" (record [
    maybe "containerName" .text, always "operator" .text, always "values" (.list .int32)]),
  maybe "onPodConditions" (.list (record [always "status" .text, always "type" .text]))]

def successRule : Shape :=
  record [maybe "succeededCount" .int32, maybe "succeededIndexes" .text]

def jobSpec : Shape := record <|
  maybeEach ["backoffLimit", "backoffLimitPerIndex", "completions", "maxFailedIndexes",
    "parallelism", "ttlSecondsAfterFinished"] .int32 ++
  maybeEach ["completionMode", "managedBy", "podReplacementPolicy"] .text ++
  maybeEach ["manualSelector", "suspend"] .boolean ++
  [maybe "activeDeadlineSeconds" .int64,
    maybe "podFailurePolicy" (record [always "rules" (.list podFailureRule)]),
    maybe "selector" labelSelector,
    maybe "successPolicy" (record [always "rules" (.list successRule)]),
    always "template" podTemplate]

def jobCondition : Shape := record <|
  alwaysEach ["status", "type"] .text ++ maybeEach ["message", "reason"] .text ++
    maybeEach ["lastProbeTime", "lastTransitionTime"] .instant

def jobStatus : Shape := record <|
  maybeEach ["active", "failed", "ready", "succeeded", "terminating"] .int32 ++
    maybeEach ["completedIndexes", "failedIndexes"] .text ++
    maybeEach ["completionTime", "startTime"] .instant ++
    [maybe "conditions" (.list jobCondition),
      maybe "uncountedTerminatedPods" (record (maybeEach ["failed", "succeeded"] texts))]

/-- A job; a document that says what it is must say that it is one. -/
def job : Shape := record [
  always "apiVersion" (.constant "batch/v1"), always "kind" (.constant "Job"),
  always "metadata" objectMeta, maybe "spec" jobSpec, maybe "status" jobStatus]

end ImageForge.Shape
