import DeliveryGate.Document.Reader

/-!
# Failures

What can go wrong besides a verdict of "no". A lookup that finds nothing and a path that leads
nowhere are no failures.
-/

namespace DeliveryGate

/-- Why an evaluation or a command did not come to its end. -/
inductive Failure where
  | environmentNotFound (environmentId : String)
  | missingApiKey (environmentId : String)
  | config (text : String)
  | webhook (url reason : String)
  | repository (text : String)
  /-- A file could not be read as text. -/
  | unreadable
  /-- A YAML document is malformed or not what its place asks for. -/
  | yaml
  /-- A JSON document is malformed or not what its place asks for. -/
  | json (cause : DecodeError)
  | other (text : String)

namespace Failure

/-- The text of a failure, where it is this library's own. -/
def message? : Failure → Option String
  | .environmentNotFound id => some ("Environment is not found: " ++ id)
  | .missingApiKey id => some ("Environment " ++ id ++ " has no API key to sign webhook requests")
  | .config text => some ("Configuration error: " ++ text)
  | .webhook url reason => some ("Webhook filter failed: " ++ url ++ ": " ++ reason)
  | .repository text => some ("Repository error: " ++ text)
  | .unreadable => none
  | .yaml => none
  | .json cause => cause.message?
  | .other text => some text

/-- Whether a webhook call failed. -/
def isWebhook : Failure → Bool
  | .webhook _ _ => true
  | _ => false

/-- Whether missing or invalid configuration is the cause. -/
def isConfiguration : Failure → Bool
  | .environmentNotFound _ => true
  | .missingApiKey _ => true
  | .config _ => true
  | _ => false

end Failure

end DeliveryGate
