import CordonWatch.Json.Value
import CordonWatch.Json.Record

/-!
# Schemas

A schema describes the values of a field: texts, integers, lists and records.
A record names its fields in alphabetical order, and those of them that must
be there. A schema is itself written as an object, with its parts in
alphabetical order too.
-/

namespace CordonWatch

/-- What is said of a value of any type. -/
structure Schema.About where
  title : Option String := none
  description : Option String := none
  /-- Whether the value may be null. -/
  nullable : Bool := false
  /-- The value of a field that is missing. -/
  fallback : Option Json := none
  deriving Inhabited

/-- A description of values. -/
inductive Schema where
  | text (about : Schema.About) (format : Option String)
  | integer (about : Schema.About) (format : String)
  | list (about : Schema.About) (items : Schema)
  | record (about : Schema.About) (fields : List (String × Schema)) (required : List String)
  deriving Inhabited

namespace Schema

/-- A field with a value. -/
def given (name : String) (v : Json) : List (String × Json) := [(name, v)]

/-- The object of a schema, made of the parts that depend on the type and of
what is said of any value. -/
def assemble (a : About) (type : String) (format items properties required : List (String × Json)) :
    Json := .object <|
  Json.present "default" id a.fallback
    ++ Json.present "description" .text a.description
    ++ format
    ++ items
    ++ (if a.nullable then given "nullable" (.bool true) else [])
    ++ properties
    ++ required
    ++ Json.present "title" .text a.title
    ++ given "type" (.text type)

mutual

/-- A schema as an object. -/
def toJson : Schema → Json
  | .text a format => assemble a "string" (Json.present "format" .text format) [] [] []
  | .integer a format => assemble a "integer" (given "format" (.text format)) [] [] []
  | .list a items => assemble a "array" [] (given "items" items.toJson) [] []
  | .record a fields required =>
    assemble a "object" [] [] (given "properties" (.object (fieldsToJson fields)))
      (if required.isEmpty then [] else given "required" (.list (required.map .text)))

def fieldsToJson : List (String × Schema) → List (String × Json)
  | [] => []
  | (name, s) :: rest => (name, s.toJson) :: fieldsToJson rest

end

end Schema

end CordonWatch
