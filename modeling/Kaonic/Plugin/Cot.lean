import Kaonic.Base.Text

/-!
# Cursor-on-Target events

The events a payload can hold and how they are read from it. The XML parser and the reading of
floating-point numbers are parameters.
-/

namespace Kaonic.Plugin

def maxCotUidLen : Nat := 128
def maxCotEventTypeLen : Nat := 96
def maxCotOptionalAttrLen : Nat := 128

/-- An `f64` by its bits; this code only copies, prints and range-checks them. -/
structure F64 where
  bits : UInt64
  deriving DecidableEq

/-- The exponent of a finite number is not all ones. -/
def F64.isFinite (x : F64) : Bool := (x.bits >>> 52) &&& 0x7FF != 0x7FF

structure CotPoint where
  lat : F64
  lon : F64
  hae : Option F64
  ce : Option F64
  le : Option F64
  deriving DecidableEq

structure CotEvent where
  uid : String
  eventType : String
  how : Option String
  callsign : Option String
  time : Option String
  start : Option String
  stale : Option String
  point : Option CotPoint
  deriving DecidableEq

inductive CotParseError where
  | notUtf8
  | xml (err : String)
  | wrongRoot
  | missingAttribute (attr : String)
  | attributeTooLong (attr : String)
  | invalidNumber (attr : String)
  | invalidCoordinate (attr : String)
  deriving DecidableEq

def CotParseError.display : CotParseError → String
  | .notUtf8 => "payload is not UTF-8"
  | .xml err => "invalid XML: " ++ err
  | .wrongRoot => "root element is not CoT event"
  | .missingAttribute attr => "missing CoT attribute " ++ attr
  | .attributeTooLong attr => "CoT attribute " ++ attr ++ " exceeds maximum length"
  | .invalidNumber attr => "invalid CoT numeric attribute " ++ attr
  | .invalidCoordinate attr => "invalid CoT coordinate " ++ attr

/-- A node of a document: an element by its local name with its attributes outside any namespace,
or a text, a comment or an instruction. -/
inductive XmlNode where
  | element (name : String) (attributes : List (String × String)) (children : List XmlNode)
  | other

namespace XmlNode

def isElement (name : String) : XmlNode → Bool
  | element n _ _ => n == name
  | other => false

def attr (name : String) : XmlNode → Option String
  | element _ attributes _ => attributes.lookup name
  | other => none

def children : XmlNode → List XmlNode
  | element _ _ children => children
  | other => []

mutual

/-- The node and all below it, in document order. -/
def descendants : XmlNode → List XmlNode
  | element name attributes children =>
    element name attributes children :: descendantsOf children
  | other => [other]

def descendantsOf : List XmlNode → List XmlNode
  | [] => []
  | node :: rest => node.descendants ++ descendantsOf rest

end

end XmlNode

/-- `roxmltree` up to the root element, and `f64` as the standard library reads and compares it. -/
structure CotReader where
  document : String → Except String XmlNode
  parseF64 : String → Option F64
  le : F64 → F64 → Bool

namespace CotReader

def requiredAttr (node : XmlNode) (name : String) : Except CotParseError String :=
  match node.attr name with
  | some value => .ok value
  | none => .error (.missingAttribute name)

def validateAttrLen (name value : String) (maxLen : Nat) : Except CotParseError Unit :=
  if maxLen < (Text.toUtf8 value.toList).length then .error (.attributeTooLong name) else .ok ()

def boundedOptionalAttr (name value : String) : Except CotParseError String := do
  validateAttrLen name value maxCotOptionalAttrLen
  return value

/-- `Option::map` with a fallible function and `transpose`. -/
def optionally {α β : Type} (f : α → Except CotParseError β) :
    Option α → Except CotParseError (Option β)
  | some a => (f a).map some
  | none => .ok none

variable (reader : CotReader)

def parseFinite (value name : String) : Except CotParseError F64 :=
  match reader.parseF64 value with
  | some parsed => if parsed.isFinite then .ok parsed else .error (.invalidNumber name)
  | none => .error (.invalidNumber name)

def parseNumber (node : XmlNode) (name : String) : Except CotParseError F64 := do
  let value ← requiredAttr node name
  reader.parseFinite value name

def parseOptionalNumber (node : XmlNode) (name : String) : Except CotParseError (Option F64) :=
  optionally (fun value => reader.parseFinite value name) (node.attr name)

def validateCoordinate (name : String) (value min max : F64) : Except CotParseError Unit :=
  if reader.le min value && reader.le value max then .ok () else .error (.invalidCoordinate name)

/-- The bits of `-90.0` and `90.0`. -/
def latBounds : F64 × F64 := (⟨0xC056800000000000⟩, ⟨0x4056800000000000⟩)

/-- The bits of `-180.0` and `180.0`. -/
def lonBounds : F64 × F64 := (⟨0xC066800000000000⟩, ⟨0x4066800000000000⟩)

def parsePoint (point : XmlNode) : Except CotParseError CotPoint := do
  let lat ← reader.parseNumber point "lat"
  let lon ← reader.parseNumber point "lon"
  reader.validateCoordinate "lat" lat latBounds.1 latBounds.2
  reader.validateCoordinate "lon" lon lonBounds.1 lonBounds.2
  let hae ← reader.parseOptionalNumber point "hae"
  let ce ← reader.parseOptionalNumber point "ce"
  let le ← reader.parseOptionalNumber point "le"
  return ⟨lat, lon, hae, ce, le⟩

def trimmed (text : String) : String := String.ofList (Text.trim text.toList)

/-- `parse_cot_payload` at the root element. -/
def parseEvent (event : XmlNode) : Except CotParseError CotEvent := do
  if !event.isElement "event" then throw .wrongRoot
  let uid := trimmed (← requiredAttr event "uid")
  let eventType := trimmed (← requiredAttr event "type")
  if uid.isEmpty then throw (.missingAttribute "uid")
  if eventType.isEmpty then throw (.missingAttribute "type")
  validateAttrLen "uid" uid maxCotUidLen
  validateAttrLen "type" eventType maxCotEventTypeLen
  let point ← optionally reader.parsePoint (event.children.find? (·.isElement "point"))
  let contact := (event.descendants.find? (·.isElement "contact")).bind (·.attr "callsign")
  let callsign ← optionally (boundedOptionalAttr "callsign") contact
  let how ← optionally (boundedOptionalAttr "how") (event.attr "how")
  let time ← optionally (boundedOptionalAttr "time") (event.attr "time")
  let start ← optionally (boundedOptionalAttr "start") (event.attr "start")
  let stale ← optionally (boundedOptionalAttr "stale") (event.attr "stale")
  return { uid, eventType, how, callsign, time, start, stale, point }

def parseCotPayload (payload : List UInt8) : Except CotParseError CotEvent :=
  match Text.fromUtf8 payload with
  | none => .error .notUtf8
  | some text =>
    match reader.document (String.ofList text) with
    | .ok event => reader.parseEvent event
    | .error err => .error (.xml err)

end CotReader

end Kaonic.Plugin
