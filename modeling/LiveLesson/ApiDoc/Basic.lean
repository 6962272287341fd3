import LiveLesson.Json.Value

/-!
Documents that describe an interface: its paths with what they take and answer, and the shapes of
its bodies. Their JSON follows version 3.1.0 of the OpenAPI format.
-/

namespace LiveLesson.ApiDoc

inductive Shape where
  | text
  | moment
  | integer
  | texts
  | anything
  | named (name : String)
  deriving DecidableEq, Repr

structure Property where
  name : String
  shape : Shape
  isRequired : Bool
  isNullable : Bool
  description : Option String

namespace Property

def required (name : String) (shape : Shape) : Property := ⟨name, shape, true, false, none⟩

def optional (name : String) (shape : Shape) : Property := ⟨name, shape, false, false, none⟩

def nullable (name : String) (shape : Shape) : Property := ⟨name, shape, false, true, none⟩

def describedAs (p : Property) (description : String) : Property :=
  { p with description := some description }

end Property

inductive Body where
  | record (properties : List Property)
  | choice (words : List String)
  | identifier

structure Schema where
  name : String
  description : Option String
  body : Body

structure Parameter where
  name : String
  description : String

structure Response where
  status : Nat
  description : String
  body : String

structure Operation where
  path : String
  method : String
  id : String
  tag : String
  parameters : List Parameter
  request : Option String
  responses : List Response

structure Tag where
  name : String
  description : String

structure Document where
  title : String
  description : String
  version : String
  contact : String
  license : String
  tags : List Tag
  schemas : List Schema
  operations : List Operation

def reference (name : String) : Json :=
  .object [("$ref", .string ("#/components/schemas/" ++ name))]

def described (description : Option String) (members : List (String × Json)) :
    List (String × Json) :=
  members ++ description.toList.map fun d => ("description", .string d)

def typeName (isNullable : Bool) (name : String) : Json :=
  if isNullable then .array [.string name, .string "null"] else .string name

/-- A named shape that may be null is one of two, and the description belongs to the one that is
not. -/
def Property.toJson (p : Property) : Json :=
  match p.shape with
  | .text => .object (described p.description [("type", typeName p.isNullable "string")])
  | .moment =>
    .object (described p.description
      [("type", typeName p.isNullable "string"), ("format", .string "date-time")])
  | .integer =>
    .object (described p.description
      [("type", typeName p.isNullable "integer"), ("format", .string "int64")])
  | .texts =>
    .object (described p.description
      [("type", typeName p.isNullable "array"), ("items", .object [("type", .string "string")])])
  | .anything => .object (described p.description [])
  | .named name =>
    let target := described p.description [("$ref", .string ("#/components/schemas/" ++ name))]
    if p.isNullable then
      .object [("oneOf", .array [.object [("type", .string "null")], .object target])]
    else .object target

def Schema.toJson (s : Schema) : Json :=
  .object <| described s.description <|
    match s.body with
    | .record properties =>
      [("type", .string "object"),
        ("required", .array ((properties.filter (·.isRequired)).map fun p => .string p.name)),
        ("properties", .object (properties.map fun p => (p.name, p.toJson)))]
    | .choice words => [("type", .string "string"), ("enum", .array (words.map .string))]
    | .identifier => [("type", .string "integer"), ("format", .string "int64")]

def content (schema : String) : String × Json :=
  ("content", .object [("application/json", .object [("schema", reference schema)])])

def Parameter.toJson (p : Parameter) : Json :=
  .object [("name", .string p.name), ("in", .string "path"), ("description", .string p.description),
    ("required", .bool true),
    ("schema", .object [("type", .string "integer"), ("format", .string "int64")])]

def Response.toJson (r : Response) : Json :=
  .object [("description", .string r.description), content r.body]

def Operation.toJson (o : Operation) : Json :=
  .object <|
    [("tags", Json.array [.string o.tag]), ("operationId", .string o.id)] ++
    (if o.parameters.isEmpty then []
      else [("parameters", .array (o.parameters.map Parameter.toJson))]) ++
    o.request.toList.map (fun schema =>
      ("requestBody", .object [content schema, ("required", .bool true)])) ++
    [("responses", .object (o.responses.map fun r => (toString r.status, r.toJson)))]

def Tag.toJson (t : Tag) : Json :=
  .object [("name", .string t.name), ("description", .string t.description)]

namespace Document

def info (d : Document) : Json :=
  .object [("title", .string d.title), ("description", .string d.description),
    ("contact", .object [("name", .string d.contact)]),
    ("license", .object [("name", .string d.license), ("identifier", .string d.license)]),
    ("version", .string d.version)]

def toJson (d : Document) : Json :=
  .object [("openapi", .string "3.1.0"), ("info", d.info),
    ("paths", .object (d.operations.map fun o => (o.path, .object [(o.method, o.toJson)]))),
    ("components", .object [("schemas", .object (d.schemas.map fun s => (s.name, s.toJson)))]),
    ("tags", .array (d.tags.map Tag.toJson))]

end Document

end LiveLesson.ApiDoc
