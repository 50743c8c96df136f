import StreamQuery.Json.Printer
/-!
# Request bodies

A statement travels in an object of its text and the properties it runs under; no properties, no
member for them.
-/

namespace StreamQuery.Request

/-- The type of request and response bodies. -/
def mediaType : String := "application/vnd.ksql.v1+json"

/-- What a request names as its sender. -/
def userAgent : String := "streamql/0.1.0"

/-- The body of a request. -/
def envelope (statement : String) (properties : Keyed String) : String :=
  let content := [("ksql", Json.string statement)]
  let settings :=
    if properties.isEmpty then []
    else [("streamsProperties", Json.object (properties.map fun (key, value) =>
      (key, Json.string value)))]
  (Json.object (content ++ settings)).print

end StreamQuery.Request
