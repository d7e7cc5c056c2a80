import ProjectDesk.Event.Codec
import ProjectDesk.Uuid

/-!
The record of a delivery that failed or could not be scheduled. What names the delivery and the
moment is left open: within the dispatcher these are numbers, outside they are an identifier and
an instant.
-/

namespace ProjectDesk

structure DeliveryFailure (ι τ : Type) where
  delivery : ι
  handler : String
  topic : String
  eventKind : String
  error : String
  failedAt : τ
  deriving DecidableEq, Repr

namespace DeliveryFailure

open Json

def fieldNames : List String :=
  ["delivery_id", "handler", "topic", "event_kind", "error", "failed_at"]

def ofDocument (d : Document) : Option (DeliveryFailure Uuid Time.Instant) := do
  let fields ← d.fields? fieldNames
  let delivery ← fields.required "delivery_id" fun d => d.string?.bind Uuid.read
  let handler ← fields.string "handler"
  let topic ← fields.string "topic"
  let eventKind ← fields.string "event_kind"
  let error ← fields.string "error"
  let failedAt ← fields.required "failed_at" instantOf
  some { delivery, handler, topic, eventKind, error, failedAt }

def toValue (f : DeliveryFailure Uuid Time.Instant) : Value :=
  .object [("delivery_id", .string f.delivery.text), ("handler", .string f.handler),
    ("topic", .string f.topic), ("event_kind", .string f.eventKind), ("error", .string f.error),
    ("failed_at", instantValue f.failedAt)]

end DeliveryFailure
end ProjectDesk
