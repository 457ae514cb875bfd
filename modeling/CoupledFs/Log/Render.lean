import CoupledFs.Log.Record
import CoupledFs.Log.Settings

/-! Records as lines of text. -/

namespace CoupledFs.Log

private def fieldValue : FieldValue → Json.Value
  | .number n => .ofNat n
  | .text t => .ofString t

private def fieldText : FieldValue → String
  | .number n => toString n
  | .text t => t

private def members (fields : List (String × FieldValue)) : List (String × Json.Value) :=
  fields.map fun (name, value) => (name, fieldValue value)

namespace Record

def toValue (record : Record) : Json.Value :=
  .ofMembers ([
    ("level", .ofString record.event.level.label),
    ("fields", .ofMembers
      (("message", .ofString record.event.message) :: members record.event.fields)),
    ("target", .ofString record.event.source)] ++
    record.span.toList.map fun span =>
      ("span", .ofMembers (members span.fields ++ [("name", .ofString span.operation)])))

def toSentence (record : Record) : String :=
  let particulars (fields : List (String × FieldValue)) : String :=
    String.join (fields.map fun (name, value) => " " ++ name ++ "=" ++ fieldText value)
  let span := match record.span with
    | some span => " " ++ span.operation ++ ":" ++ particulars span.fields
    | none => ""
  record.event.level.label ++ span ++ " " ++ record.event.source ++ ": " ++
    record.event.message ++ particulars record.event.fields

def line (format : Format) (record : Record) : List UInt8 :=
  (match format with
    | .json => record.toValue.compact
    | .plaintext => record.toSentence.toList.flatMap String.utf8EncodeChar) ++ [0x0A]

end Record

end CoupledFs.Log
