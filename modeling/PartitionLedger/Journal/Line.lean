/-
# Journal lines

An event is written on one line, in one of three forms: with its parts between
bars and its fields sorted by name, as text for people with the fields in their own
order, or as a JSON object with sorted keys.
-/

import PartitionLedger.Journal.Event
import PartitionLedger.Json.Writer

namespace PartitionLedger.Event

open Collection

/-- One field of a line of text. -/
def fieldText (field : String × FieldValue) : String := field.1 ++ "=" ++ field.2.plain

/-- Level and target, message, and fields sorted by name, between bars. -/
def barLine (event : Event) : String :=
  let sorted := event.fields.foldl
    (fun fields field => Sorted.insert field.1 field.2 fields) ([] : List (String × FieldValue))
  event.level.name ++ " " ++ event.target ++ " | " ++ event.message ++ " | " ++
    " ".intercalate (sorted.map fieldText)

/-- The name of a level, filled up to five characters from the left. -/
def paddedLevel (level : Level) : String :=
  String.ofList (List.replicate (5 - level.name.length) ' ') ++ level.name

/-- Level, target, message and fields for people to read. -/
def prettyLine (event : Event) : String :=
  paddedLevel event.level ++ " " ++ event.target ++ ": " ++
    " ".intercalate (event.message :: event.fields.map fieldText)

/-- The value of a field in a JSON line. -/
def fieldJson : FieldValue → Json
  | .text content => .string content
  | .count number => .ofNat number
  | .flag value => .boolean value

/-- The event as a JSON object; the message is one of its fields. -/
def toJson (event : Event) : Json :=
  .object [("fields", .ofMembers (("message", .string event.message) ::
      event.fields.map fun field => (field.1, fieldJson field.2))),
    ("level", .string event.level.name), ("target", .string event.target)]

/-- The event as one line of JSON. -/
def jsonLine (event : Event) : String := event.toJson.text

end PartitionLedger.Event
