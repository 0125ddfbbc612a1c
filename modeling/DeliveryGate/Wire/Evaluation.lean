import DeliveryGate.Evaluation.Context
import DeliveryGate.Wire.Filter
import DeliveryGate.Wire.Record

/-!
# Evaluations in documents

How contexts, variables, traces and outcomes are written as JSON, and how those that are also read
are read. Variables leave out what is unset.
-/

namespace DeliveryGate

namespace Context

def toJson (ctx : Context) : Json :=
  .obj [("subscriber", Json.ofOption Subscriber.toJson ctx.subscriber),
    ("payload", Json.value? ctx.payload), ("tenant", Json.value? ctx.tenant),
    ("environmentId", .str ctx.environmentId), ("organizationId", .str ctx.organizationId),
    ("subscriberId", .str ctx.subscriberId), ("transactionId", .str ctx.transactionId),
    ("job", Json.ofOption CurrentJob.toJson ctx.job)]

def shape : Shape Context :=
  Shape.make Context.mk
    |>.optional "subscriber" Subscriber.decode
    |>.optional "payload" Reader.value
    |>.optional "tenant" Reader.value
    |>.required "environmentId" Reader.text
    |>.required "organizationId" Reader.text
    |>.required "subscriberId" Reader.text
    |>.required "transactionId" Reader.text
    |>.optional "job" CurrentJob.decode

def decode : Reader Context := shape.reader

end Context

namespace Variables

def toJson (vars : Variables) : Json :=
  .obj (Json.setField "subscriber" (fun v => v) vars.subscriber
    ++ Json.setField "payload" (fun v => v) vars.payload
    ++ Json.setField "tenant" (fun v => v) vars.tenant)

def shape : Shape Variables :=
  Shape.make Variables.mk
    |>.nullable "subscriber" Reader.value
    |>.nullable "payload" Reader.value
    |>.nullable "tenant" Reader.value

def decode : Reader Variables := shape.reader

end Variables

namespace Trace

def toJson (trace : Trace) : Json :=
  .obj [("filter", trace.filter.toJson), ("variables", trace.vars.toJson),
    ("conditions", .arr (trace.conditions.map Condition.toJson))]

def shape : Shape Trace :=
  Shape.make Trace.mk
    |>.required "filter" Node.decode
    |>.required "variables" Variables.decode
    |>.required "conditions" (Reader.list Condition.decode)

def decode : Reader Trace := shape.reader

end Trace

namespace Usage

def toJson (usage : Usage) : Json :=
  .obj [("filters", Json.texts usage.filters), ("passedFilters", Json.texts usage.passedFilters),
    ("failedFilters", Json.texts usage.failedFilters)]

def shape : Shape Usage :=
  Shape.make Usage.mk
    |>.required "filters" (Reader.list Reader.text)
    |>.required "passedFilters" (Reader.list Reader.text)
    |>.required "failedFilters" (Reader.list Reader.text)

def decode : Reader Usage := shape.reader

end Usage

namespace Outcome

def toJson (outcome : Outcome) : Json :=
  .obj [("passed", .bool outcome.passed), ("variables", outcome.vars.toJson),
    ("traces", .arr (outcome.traces.map Trace.toJson)),
    ("conditions", .arr (outcome.conditions.map Condition.toJson)),
    ("usedFilters", outcome.usage.toJson)]

end Outcome

end DeliveryGate
