import WalletGateway.Api.Error
import WalletGateway.Device.Resolution

/-!
# Answers

The response for each way in which an operation ends.
-/

namespace WalletGateway

mutual

/-- The JSON form of a field's content.  Bytes are a list of numbers. -/
def Json.Value.ofDatum : Protobuf.Datum → Json.Value
  | .absent => .null
  | .text value => .text value
  | .bytes value => .list (value.map fun byte => .number byte.toNat)
  | .flag value => .flag value
  | .word32 value => .number value.toNat
  | .int32 value => .number value.toInt
  | .word64 value => .number value.toNat
  | .many values => .list (ofData values)
  | .record fields => .object (ofFields fields)

/-- The JSON forms of the entries of a repeated field. -/
def Json.Value.ofData : List Protobuf.Datum → List Json.Value
  | [] => []
  | datum :: data => ofDatum datum :: ofData data

/-- The fields of a record that are present. -/
def Json.Value.ofFields : List (String × Protobuf.Datum) → List (String × Json.Value)
  | [] => []
  | (_, .absent) :: fields => ofFields fields
  | (name, datum) :: fields => (name, ofDatum datum) :: ofFields fields

end

namespace Api

/-- The features that are present, in the order of their tags. -/
def featuresValue (features : Payload.Features) : Json.Value :=
  .object (Json.Value.ofFields (Protobuf.Record.view features))

/-- A list of texts. -/
def textsValue (texts : List String) : Json.Value :=
  .list (texts.map .text)

/-- The data of an answer with a result. -/
def completionValue : Completion → Json.Value
  | .text text => .text text
  | .addresses addresses => .object [("addresses", textsValue addresses)]
  | .signature signature => .object [("signature", .text signature)]
  | .signatures signatures => .object [("signatures", textsValue signatures)]
  | .features features => .object [("features", featuresValue features)]

/-- The response to an operation that was resolved.  A refusal of the device is a conflict. -/
def resolutionResponse : Resolution → Http.Response
  | .complete completion => dataResponse (completionValue completion)
  | .interaction interaction =>
    dataResponse (.object [("request_type", .text interaction.name)])
  | .refused text => (ApiError.of .conflict text).response

/-- The response to an operation. -/
def outcomeResponse : Except DeviceError Resolution → Http.Response
  | .ok resolution => resolutionResponse resolution
  | .error error => (ApiError.ofDevice error).response

end Api

end WalletGateway
