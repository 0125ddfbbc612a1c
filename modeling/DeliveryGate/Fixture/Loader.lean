import DeliveryGate.Failure
import DeliveryGate.Fixture.Basic
import DeliveryGate.Yaml.Document

/-!
# Loading files

Fixtures and lists of conditions come from files in JSON or YAML: the extension of the name decides.
-/

namespace DeliveryGate

namespace Loader

/-- The part of a file's name behind its last point; a name that only starts with one has none. -/
def extension? (name : String) : Option String :=
  let base := ((Text.splitOn '/' name.toList).getLast?).getD []
  match Text.splitOn '.' base with
  | [] => none
  | [_] => none
  | pieces =>
    if pieces.length == 2 && pieces.head? == some [] then none
    else pieces.getLast?.map String.ofList

/-- Whether a file of this name holds JSON. -/
def isJson (name : String) : Bool :=
  match extension? name with
  | some ext => ext.toList.map Char.toLower == ['j', 's', 'o', 'n']
  | none => false

/-- Read a JSON text. -/
def ofJsonText {α : Type} (reader : Reader α) (text : String) : Except Failure α :=
  match Json.Raw.parse? text with
  | none => .error (.json .malformed)
  | some raw => (reader raw.toDoc).mapError fun _ => .json .malformed

/-- Read a YAML text. -/
def ofYamlText {α : Type} (reader : Reader α) (text : String) : Except Failure α :=
  match Yaml.document? text with
  | none => .error .yaml
  | some doc => (reader doc).mapError fun _ => .yaml

/-- Read a file by its name and its content, which is missing if there is no such file. -/
def ofFile {α : Type} (reader : Reader α) (name : String) (content : Option ByteArray) :
    Except Failure α :=
  match content.bind String.fromUTF8? with
  | none => .error .unreadable
  | some text => if isJson name then ofJsonText reader text else ofYamlText reader text

/-- Read a fixture from a file. -/
def fixture (name : String) (content : Option ByteArray) : Except Failure Fixture :=
  ofFile Fixture.decode name content

/-- Read a list of conditions from a file. -/
def conditions (name : String) (content : Option ByteArray) : Except Failure (List Condition) :=
  ofFile (Reader.list Condition.decode) name content

end Loader

end DeliveryGate
