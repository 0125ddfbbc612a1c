import DeliveryGate.Document.Shape
import DeliveryGate.Store.Record

/-!
# Records in documents

How each record is written as JSON and read from a document. A subscriber leaves unset fields out,
every other record writes null for them.
-/

namespace DeliveryGate

namespace Instant

def toJson (t : Instant) : Json := .str (String.ofList t.render)

end Instant

namespace Channel

def toJson (channel : Channel) : Json := .str channel.name

def decode : Reader Channel := Reader.choice names

end Channel

namespace Json

/-- A field that is left out when it is unset. -/
def setField {α : Type} (name : String) (f : α → Json) : Option α → List (String × Json)
  | none => []
  | some a => [(name, f a)]

def text? (value : Option String) : Json := ofOption .str value

def flag? (value : Option Bool) : Json := ofOption .bool value

def value? (value : Option Json) : Json := ofOption (fun v => v) value

def texts (values : List String) : Json := .arr (values.map .str)

end Json

namespace Subscriber

/-- The structured form of a subscriber, in which field paths are resolved. -/
def toJson (s : Subscriber) : Json :=
  .obj (Json.setField "data" (fun v => v) s.data
    ++ Json.setField "email" .str s.email
    ++ Json.setField "firstName" .str s.firstName
    ++ Json.setField "isOnline" .bool s.isOnline
    ++ Json.setField "lastName" .str s.lastName
    ++ Json.setField "lastOnlineAt" Instant.toJson s.lastOnlineAt
    ++ Json.setField "locale" .str s.locale
    ++ Json.setField "phone" .str s.phone
    ++ [("subscriberId", .str s.id)])

def shape : Shape Subscriber :=
  Shape.make Subscriber.mk
    |>.required "subscriberId" Reader.text
    |>.optional "firstName" Reader.text
    |>.optional "lastName" Reader.text
    |>.optional "email" Reader.text
    |>.optional "phone" Reader.text
    |>.optional "locale" Reader.text
    |>.optional "data" Reader.value
    |>.optional "isOnline" Reader.flag
    |>.optional "lastOnlineAt" Reader.instant

def decode : Reader Subscriber := shape.reader

end Subscriber

namespace CurrentJob

def toJson (job : CurrentJob) : Json :=
  .obj [("id", .str job.id), ("parentId", Json.text? job.parentId),
    ("channel", job.channel.toJson), ("providerId", Json.text? job.providerId),
    ("payload", Json.value? job.payload)]

def shape : Shape CurrentJob :=
  Shape.make CurrentJob.mk
    |>.required "id" Reader.text
    |>.optional "parentId" Reader.text
    |>.required "channel" Channel.decode
    |>.optional "providerId" Reader.text
    |>.optional "payload" Reader.value

def decode : Reader CurrentJob := shape.reader

end CurrentJob

namespace Job

def toJson (job : Job) : Json :=
  .obj [("id", .str job.id), ("transactionId", .str job.transactionId),
    ("subscriberId", .str job.subscriberId), ("environmentId", .str job.environmentId),
    ("stepId", .str job.stepId), ("channel", job.channel.toJson)]

def shape : Shape Job :=
  Shape.make Job.mk
    |>.required "id" Reader.text
    |>.required "transactionId" Reader.text
    |>.required "subscriberId" Reader.text
    |>.required "environmentId" Reader.text
    |>.required "stepId" Reader.text
    |>.required "channel" Channel.decode

def decode : Reader Job := shape.reader

end Job

namespace Message

def toJson (message : Message) : Json :=
  .obj [("id", .str message.id), ("jobId", .str message.jobId),
    ("environmentId", .str message.environmentId), ("channel", message.channel.toJson),
    ("seen", Json.flag? message.seen), ("read", Json.flag? message.read)]

def shape : Shape Message :=
  Shape.make Message.mk
    |>.required "id" Reader.text
    |>.required "jobId" Reader.text
    |>.required "environmentId" Reader.text
    |>.required "channel" Channel.decode
    |>.optional "seen" Reader.flag
    |>.optional "read" Reader.flag

def decode : Reader Message := shape.reader

end Message

namespace OpenedEvent

def toJson (event : OpenedEvent) : Json :=
  .obj [("environmentId", .str event.environmentId), ("jobId", .str event.jobId),
    ("messageId", .str event.messageId)]

def shape : Shape OpenedEvent :=
  Shape.make OpenedEvent.mk
    |>.required "environmentId" Reader.text
    |>.required "jobId" Reader.text
    |>.required "messageId" Reader.text

def decode : Reader OpenedEvent := shape.reader

end OpenedEvent

namespace Environment

def toJson (environment : Environment) : Json :=
  .obj [("id", .str environment.id), ("organizationId", .str environment.organizationId),
    ("apiKeys", Json.texts environment.apiKeys)]

def shape : Shape Environment :=
  Shape.make Environment.mk
    |>.required "id" Reader.text
    |>.required "organizationId" Reader.text
    |>.defaulted "apiKeys" [] (Reader.list Reader.text)

def decode : Reader Environment := shape.reader

end Environment

namespace Uuid

def decode : Reader Uuid := fun d =>
  match Reader.text d with
  | .error e => .error e
  | .ok s => Reader.ofOption (fun _ => Uuid.parse? s) d

end Uuid

namespace AuditEntry

/-- The fields of an entry, without the identifier that its keeper gives it. -/
def fields (entry : AuditEntry) : List (String × Json) :=
  [("jobId", .str entry.jobId), ("environmentId", .str entry.environmentId),
    ("organizationId", .str entry.organizationId), ("subscriberId", .str entry.subscriberId),
    ("transactionId", .str entry.transactionId), ("detail", .str entry.detail),
    ("passed", .bool entry.passed), ("raw", .str entry.raw),
    ("createdAt", entry.createdAt.toJson)]

def toJson (entry : AuditEntry) : Json := .obj entry.fields

end AuditEntry

namespace AuditRecord

def toJson (record : AuditRecord) : Json :=
  .obj (("id", .str record.id.text) :: record.entry.fields)

def shape : Shape AuditRecord :=
  Shape.make (fun id a b c d e f g h i => AuditRecord.mk id ⟨a, b, c, d, e, f, g, h, i⟩)
    |>.required "id" Uuid.decode
    |>.required "jobId" Reader.text
    |>.required "environmentId" Reader.text
    |>.required "organizationId" Reader.text
    |>.required "subscriberId" Reader.text
    |>.required "transactionId" Reader.text
    |>.required "detail" Reader.text
    |>.required "passed" Reader.flag
    |>.required "raw" Reader.text
    |>.required "createdAt" Reader.instant

def decode : Reader AuditRecord := shape.reader

end AuditRecord

end DeliveryGate
