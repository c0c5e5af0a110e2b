import ImageForge.Json.Basic
/-!
Schemas of documents. A schema is the list of the entries that make it up.
-/

namespace ImageForge

abbrev Schema := List (String × Json)

namespace Schema

def toJson (s : Schema) : Json := .ofEntries s

def ofType (type : String) : Schema := [("type", .str type)]

def text : Schema := ofType "string"

def boolean : Schema := ofType "boolean"

/-- An integer of 64 bits. -/
def int64 : Schema := ofType "integer" ++ [("format", .str "int64")]

/-- A point in time. -/
def instant : Schema := text ++ [("format", .str "date-time")]

/-- One of some texts. -/
def oneOf (values : List String) : Schema := text ++ [("enum", .ofTexts values)]

def list (item : Schema) : Schema := ofType "array" ++ [("items", item.toJson)]

/-- An object of any shape. -/
def anyObject : Schema := ofType "object" ++ [("x-kubernetes-preserve-unknown-fields", .bool true)]

/-- The schema with a description, which replaces an earlier one. -/
def describe (s : Schema) (description : String) : Schema :=
  s ++ [("description", .str description)]

/-- A rule over several fields, and what is said when it is broken. -/
def rule (s : Schema) (rule message : String) : Schema :=
  s ++ [("x-kubernetes-validations",
    .arr [.ofEntries [("rule", .str rule), ("message", .str message)]])]

/-- Whether a field must be there: it must, it may be null or absent, it may be absent, or a value
stands for it when it is. -/
inductive Presence
  | required
  | nullable
  | omissible
  | defaultTo (value : Json)

/-- The schema of a field with some presence. -/
def withPresence (s : Schema) : Presence → Schema
  | .required | .omissible => s
  | .nullable => s ++ [("nullable", .bool true)]
  | .defaultTo value => s ++ [("default", value)]

structure Field where
  name : String
  schema : Schema
  presence : Presence

/-- The names of the required fields, in order. -/
def requiredNames (fields : List Field) : List String :=
  (fields.filterMap fun f =>
    match f.presence with
    | .required => some f.name
    | _ => none).mergeSort fun a b => decide (a ≤ b)

def object (fields : List Field) : Schema :=
  ofType "object" ++
    [("properties", .ofEntries (fields.map fun f =>
      (f.name, (f.schema.withPresence f.presence).toJson)))] ++
    match requiredNames fields with
    | [] => []
    | names => [("required", .ofTexts names)]

end Schema

end ImageForge
