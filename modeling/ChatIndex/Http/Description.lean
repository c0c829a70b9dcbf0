import ChatIndex.Json

/-! # The description of the interface

The constant document in OpenAPI form that tells which paths the service answers, with which
bodies and which statuses.
-/

namespace ChatIndex.Http.Description

open Json

/-- An object from its members. -/
private def node (members : List (String × Json)) : Json :=
  .ofMembers members

/-- A member that is a text. -/
private def text (name value : String) : String × Json :=
  (name, .string value)

/-- A reference to a schema. -/
private def schemaRef (name : String) : Json :=
  node [text "$ref" ("#/components/schemas/" ++ name)]

/-- The schema of a text. -/
private def textSchema : Json :=
  node [text "type" "string"]

/-- The members of the schema of a text that may be `null`. -/
private def nullableText : List (String × Json) :=
  [("type", .array [.string "string", .string "null"])]

/-- The schema of a list. -/
private def listOf (items : Json) : Json :=
  node [("items", items), text "type" "array"]

/-- The schema of an object with properties, some of them required. -/
private def objectSchema (properties : List (String × Json)) (required : List String) :
    List (String × Json) :=
  [("properties", node properties), ("required", .array (required.map .string)),
   text "type" "object"]

/-- An answer that is described in words only. -/
private def answer (status description : String) : String × Json :=
  (status, node [text "description" description])

/-- A JSON body of a schema. -/
private def jsonBody (schema : String) : String × Json :=
  ("content", node [("application/json", node [("schema", schemaRef schema)])])

/-- The schemas of bodies. -/
private def schemas : Json :=
  node
    [("MessageSearchResult", node (objectSchema
        [("avatar_url", node nullableText), ("content", textSchema),
         ("display_name", node nullableText), ("id", textSchema), ("room_id", textSchema),
         ("room_name", node (text "description" "\x60None\x60 for direct rooms." :: nullableText)),
         ("sender", textSchema)]
        ["id", "room_id", "content", "sender"])),
     ("RoomSearchResult", node (objectSchema
        [("avatar_url", node nullableText), ("id", textSchema), ("name", textSchema)]
        ["id", "name"])),
     ("SearchRequest", node (text "description" "Body of \x60POST /search\x60." :: objectSchema
        [("searchValue", textSchema)] ["searchValue"])),
     ("SearchResults", node (objectSchema
        [("mails", node
            [text "description" "Mail documents as stored by the mail indexer, plus their \x60id\x60.",
             ("items", node [text "type" "object"]), text "type" "array"]),
         ("messages", listOf (schemaRef "MessageSearchResult")),
         ("rooms", listOf (schemaRef "RoomSearchResult"))]
        ["rooms", "messages", "mails"]))]

/-- General facts about the service. -/
private def info : Json :=
  node
    [("contact", node [text "email" "team@nova.dev", text "name" "Nova Team"]),
     text "description" "Search over clear rooms, their messages and the caller's mails",
     ("license", node [text "name" "MIT"]), text "title" "Room Search Service API",
     text "version" "0.1.0"]

/-- The description of `GET /health`. -/
private def healthPath : Json :=
  node [("get", node
    [text "operationId" "health",
     ("responses", node
       [answer "200" "Search engine reachable", answer "503" "Search engine unreachable"]),
     ("tags", .array [.string "Health"])])]

/-- The description of `POST /opensearch/restore`. -/
private def restorePath : Json :=
  node [("post", node
    [text "description" "Runs even when startup bootstrap is disabled. Existing indices are kept.",
     text "operationId" "restore",
     ("responses", node
       [answer "204" "Restore finished",
        answer "403" "Restore disabled or invalid administrative token",
        answer "500" "Restore failed"]),
     text "summary" "Create missing indices and backfill them from the room store.",
     ("tags", .array [.string "Admin"])])]

/-- The description of `POST /search`. -/
private def searchPath : Json :=
  node [("post", node
    [text "description" "**Endpoint**: \x60POST /search\x60",
     text "operationId" "search",
     ("requestBody", node [jsonBody "SearchRequest", ("required", .bool true)]),
     ("responses", node
       [("200", node
          [jsonBody "SearchResults", text "description" "Matching rooms, messages and mails"]),
        answer "400" "searchValue missing or not a string",
        answer "401" "Unknown or missing access token",
        answer "502" "Search engine failure"]),
     text "summary" "Search rooms, messages and mails visible to the caller.",
     ("tags", .array [.string "Search"])])]

/-- A group of paths. -/
private def tag (name description : String) : Json :=
  node [text "description" description, text "name" name]

/-- The whole description. -/
def document : Json :=
  node
    [("components", node [("schemas", schemas)]),
     ("info", info),
     text "openapi" "3.1.0",
     ("paths", node
       [("/health", healthPath), ("/opensearch/restore", restorePath), ("/search", searchPath)]),
     ("tags", .array
       [tag "Health" "Service health checks", tag "Search" "Room, message and mail search",
        tag "Admin" "Index maintenance"])]

end ChatIndex.Http.Description
