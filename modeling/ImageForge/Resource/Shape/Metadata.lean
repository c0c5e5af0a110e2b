import ImageForge.Json.Shape
/-!
The shapes of the metadata of an object and of references between objects.
-/

namespace ImageForge.Shape

def texts : Shape := .list .text

def textMap : Shape := .map .text

def ownerReference : Shape := record <|
  alwaysEach ["apiVersion", "kind", "name", "uid"] .text ++
    maybeEach ["blockOwnerDeletion", "controller"] .boolean

/-- What one manager of fields has set. -/
def managedFieldsEntry : Shape := record <|
  maybeEach ["apiVersion", "fieldsType", "manager", "operation", "subresource"] .text ++
    [maybe "fieldsV1" .anything, maybe "time" .instant]

def objectMeta : Shape := record <|
  maybeEach ["generateName", "name", "namespace", "resourceVersion", "selfLink", "uid"] .text ++
    maybeEach ["annotations", "labels"] textMap ++
    maybeEach ["creationTimestamp", "deletionTimestamp"] .instant ++
    maybeEach ["deletionGracePeriodSeconds", "generation"] .int64 ++
    [maybe "finalizers" texts, maybe "managedFields" (.list managedFieldsEntry),
      maybe "ownerReferences" (.list ownerReference)]

/-- A reference to an object of the same namespace. -/
def localReference : Shape := record [always "name" .text]

def labelSelectorRequirement : Shape :=
  record [always "key" .text, always "operator" .text, maybe "values" texts]

def labelSelector : Shape := record
  [maybe "matchExpressions" (.list labelSelectorRequirement), maybe "matchLabels" textMap]

end ImageForge.Shape
