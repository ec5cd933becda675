import TaskShell.Schema.Violation

/-!
# Schema documents

The rules that records are checked against, written as a JSON Schema.

## Main definitions

* `Schema.document` — the JSON Schema of whole records, or of parts.
-/

set_option autoImplicit false

namespace TaskShell.Schema

/-- A map with text keys. -/
def object (entries : List (String × Value)) : Value :=
  Value.ofFields entries

/-- The rules for the value of a field. -/
def fieldDocument (f : Field) : Value :=
  match f.kind with
  | .choice words =>
    object [("type", .text "string"), ("enum", .list (words.map .text))]
  | .list => object [("type", .text "array"), ("items", object [("type", .text "string")])]
  | .number =>
    object ([("type", .text "number")] ++
      if f.name = "progress" then [("minimum", .int 0), ("maximum", .int 100)] else [])
  | .text => object [("type", .text "string"), ("minLength", .int 1)]

/-- The rules for whole records, or for parts. -/
def document (s : Schema) (isPartial : Bool := false) : Value :=
  object
    ([("type", .text "object"),
      ("properties", object (s.fields.map fun f => (f.name, fieldDocument f))),
      ("additionalProperties", .bool false)] ++
      if isPartial then [] else [("required", .list (s.required.map .text))])

end TaskShell.Schema
