import Gatekeeper.Http.Catalogue
import Gatekeeper.Json.Value

/-!
# `Gatekeeper.Http.Document`: the description of the interface as a document

The server hands out the description of its interface as one JSON document in the form of
OpenAPI 3.1: the operations by path and method, and under the components the records that they
refer to and the ways in which a credential is presented.
-/

set_option autoImplicit false

namespace Gatekeeper.Http

open Gatekeeper.Json (Value)

/-- The place of a record in the document. -/
def Schema.reference (name : String) : Value :=
  .object [("$ref", .text ("#/components/schemas/" ++ name))]

/-- A record or a choice of names. Of the members of a record only their names are told. -/
def Schema.document : Schema → Value
  | choice names => .object [("type", .text "string"), ("enum", .array (names.map .text))]
  | object needed others =>
    .object [("type", .text "object"), ("required", .array (needed.map .text)),
      ("properties", .object ((needed ++ others).map fun name => (name, .object [])))]

namespace Operation

/-- The body of a request: JSON, in the form of a record. -/
def bodyDocument (record : String) : Value :=
  let content := Value.object [("schema", Schema.reference record)]
  .object [("content", .object [("application/json", content)]), ("required", .boolean true)]

/-- An operation. One that needs a credential takes it in any of the given ways. -/
def document (security : List String) (o : Operation) : Value :=
  .object <|
    [("tags", .array [.text o.tag]), ("summary", .text o.summary), ("operationId", .text o.name)] ++
    (match o.body with
      | some record => [("requestBody", bodyDocument record)]
      | none => []) ++
    [("responses", .object (o.responses.map fun (status, meaning) =>
      (toString status, .object [("description", .text meaning)])))] ++
    if o.secured then
      [("security", .array (security.map fun way => .object [(way, .array [])]))]
    else []

end Operation

namespace Catalogue

/-- The paths of the interface, each once. -/
def paths (c : Catalogue) : List String := (c.operations.map (·.path)).eraseDups

/-- The operations at a path. -/
def operationsAt (c : Catalogue) (path : String) : List Operation :=
  c.operations.filter (·.path == path)

/-- A way in which a credential is presented: in the header for credentials. -/
def wayDocument (way : String) : Value := .object [("type", .text "http"), ("scheme", .text way)]

/-- The whole document. -/
def document (c : Catalogue) : Value :=
  .object [
    ("openapi", .text "3.1.0"),
    ("info", .object [("title", .text c.title), ("version", .text c.version)]),
    ("paths", .object (c.paths.map fun path =>
      (path, .object ((c.operationsAt path).map fun o => (o.method, o.document c.security))))),
    ("components", .object [
      ("schemas", .object (c.schemas.map fun (name, schema) => (name, schema.document))),
      ("securitySchemes", .object (c.security.map fun way => (way, wayDocument way)))]),
    ("tags", .array (c.tags.map fun (name, description) =>
      .object [("name", .text name), ("description", .text description)]))]

end Catalogue

end Gatekeeper.Http
