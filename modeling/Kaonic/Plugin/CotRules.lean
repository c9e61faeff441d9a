import Kaonic.Base.Traverse
import Kaonic.Plugin.Cot

/-!
# What counts as an event

The rules that a document has to meet to be handed on, stated on the document, against the chain of
checks that reads it.
-/

namespace Kaonic.Plugin

/-- `str::len`. -/
def byteLength (text : String) : Nat := (Text.toUtf8 text.toList).length

namespace CotReader

/-! ### The rules -/

/-- A text that must be there, with its blanks cut off: something is left, and not too much. -/
structure Trims (maxLen : Nat) (text value : String) : Prop where
  same : value = trimmed text
  visible : value ≠ ""
  short : byteLength value ≤ maxLen

/-- A text that may be there, as it is. -/
structure Copies (text value : String) : Prop where
  same : value = text
  short : byteLength value ≤ maxCotOptionalAttrLen

variable (reader : CotReader)

structure Reads (text : String) (x : F64) : Prop where
  number : reader.parseF64 text = some x
  finite : x.isFinite = true

structure Within (bounds : F64 × F64) (x : F64) : Prop where
  lower : reader.le bounds.1 x = true
  upper : reader.le x bounds.2 = true

structure DescribesPoint (node : XmlNode) (p : CotPoint) : Prop where
  lat : ∃ text, node.attr "lat" = some text ∧ reader.Reads text p.lat
  lon : ∃ text, node.attr "lon" = some text ∧ reader.Reads text p.lon
  lat_within : reader.Within latBounds p.lat
  lon_within : reader.Within lonBounds p.lon
  hae : Option.Rel reader.Reads (node.attr "hae") p.hae
  ce : Option.Rel reader.Reads (node.attr "ce") p.ce
  le : Option.Rel reader.Reads (node.attr "le") p.le

structure Describes (event : XmlNode) (e : CotEvent) : Prop where
  root : event.isElement "event" = true
  uid : ∃ text, event.attr "uid" = some text ∧ Trims maxCotUidLen text e.uid
  eventType : ∃ text, event.attr "type" = some text ∧ Trims maxCotEventTypeLen text e.eventType
  point : Option.Rel reader.DescribesPoint (event.children.find? (·.isElement "point")) e.point
  callsign : Option.Rel Copies
    ((event.descendants.find? (·.isElement "contact")).bind (·.attr "callsign")) e.callsign
  how : Option.Rel Copies (event.attr "how") e.how
  time : Option.Rel Copies (event.attr "time") e.time
  start : Option.Rel Copies (event.attr "start") e.start
  stale : Option.Rel Copies (event.attr "stale") e.stale

/-! ### The checks -/

section Checks

variable {reader} {node event : XmlNode} {name text value : String} {x : F64} {p : CotPoint}
  {e : CotEvent}

theorem requiredAttr_eq_ok : requiredAttr node name = .ok value ↔ node.attr name = some value := by
  unfold requiredAttr
  cases node.attr name with
  | none => simp
  | some found => simp

theorem validateAttrLen_eq_ok {maxLen : Nat} :
    validateAttrLen name value maxLen = .ok () ↔ byteLength value ≤ maxLen := by
  unfold validateAttrLen byteLength
  split
  · rename_i long
    simp [long]
  · rename_i short
    simp [Nat.not_lt.mp short]

theorem optionally_eq_ok {α β : Type} {f : α → Except CotParseError β} {R : α → β → Prop}
    (each : ∀ a b, f a = .ok b ↔ R a b) {a : Option α} {b : Option β} :
    optionally f a = .ok b ↔ Option.Rel R a b := by
  cases a with
  | none =>
    cases b with
    | none => exact iff_of_true rfl .none
    | some b => exact iff_of_false (fun h => by cases h) (fun h => by cases h)
  | some a =>
    rw [optionally, Traverse.map_eq_ok]
    constructor
    · rintro ⟨b, read, rfl⟩
      exact .some ((each a b).mp read)
    · rintro ⟨related⟩
      exact ⟨_, (each a _).mpr related, rfl⟩

theorem boundedOptionalAttr_eq_ok : boundedOptionalAttr name text = .ok value ↔
    Copies text value := by
  rw [boundedOptionalAttr, Traverse.bind_eq_ok]
  constructor
  · rintro ⟨_, short, same⟩
    obtain rfl := Except.ok.inj same
    exact ⟨rfl, validateAttrLen_eq_ok.mp short⟩
  · rintro ⟨rfl, short⟩
    exact ⟨(), validateAttrLen_eq_ok.mpr short, rfl⟩

theorem parseFinite_eq_ok : reader.parseFinite text name = .ok x ↔ reader.Reads text x := by
  unfold parseFinite
  split
  · rename_i y parsed
    split
    · rename_i finite
      rw [Except.ok.injEq]
      constructor
      · rintro rfl
        exact ⟨parsed, finite⟩
      · intro ⟨number, _⟩
        exact Option.some.inj (parsed.symm.trans number)
    · rename_i infinite
      refine iff_of_false (fun h => by cases h) ?_
      intro ⟨number, finite⟩
      obtain rfl := Option.some.inj (parsed.symm.trans number)
      exact infinite finite
  · rename_i unparsed
    exact iff_of_false (fun h => by cases h) fun ⟨number, _⟩ => by cases unparsed.symm.trans number

theorem parseNumber_eq_ok : reader.parseNumber node name = .ok x ↔
    ∃ text, node.attr name = some text ∧ reader.Reads text x := by
  rw [parseNumber, Traverse.bind_eq_ok]
  simp only [requiredAttr_eq_ok, parseFinite_eq_ok]

theorem parseOptionalNumber_eq_ok {x : Option F64} : reader.parseOptionalNumber node name = .ok x ↔
    Option.Rel reader.Reads (node.attr name) x :=
  optionally_eq_ok fun _ _ => parseFinite_eq_ok

theorem validateCoordinate_eq_ok {bounds : F64 × F64} :
    reader.validateCoordinate name x bounds.1 bounds.2 = .ok () ↔ reader.Within bounds x := by
  unfold validateCoordinate
  split
  · rename_i both
    rw [Bool.and_eq_true] at both
    exact iff_of_true rfl ⟨both.1, both.2⟩
  · rename_i outside
    refine iff_of_false (fun h => by cases h) ?_
    intro ⟨lower, upper⟩
    rw [lower, upper] at outside
    exact outside rfl

theorem parsePoint_eq_ok : reader.parsePoint node = .ok p ↔ reader.DescribesPoint node p := by
  simp only [parsePoint, Traverse.bind_eq_ok, parseNumber_eq_ok, parseOptionalNumber_eq_ok]
  constructor
  · rintro ⟨lat, latRead, lon, lonRead, ⟨⟩, latWithin, ⟨⟩, lonWithin, hae, haeRead, ce, ceRead, le,
      leRead, same⟩
    obtain rfl := Except.ok.inj same
    exact ⟨latRead, lonRead, validateCoordinate_eq_ok.mp latWithin,
      validateCoordinate_eq_ok.mp lonWithin, haeRead, ceRead, leRead⟩
  · intro ⟨lat, lon, latWithin, lonWithin, hae, ce, le⟩
    exact ⟨_, lat, _, lon, (), validateCoordinate_eq_ok.mpr latWithin, (),
      validateCoordinate_eq_ok.mpr lonWithin, _, hae, _, ce, _, le, rfl⟩

theorem parseEvent_eq_ok : reader.parseEvent event = .ok e ↔ reader.Describes event e := by
  have bounded : ∀ name, (∀ a b, boundedOptionalAttr name a = .ok b ↔ Copies a b) :=
    fun name a b => boundedOptionalAttr_eq_ok
  simp only [parseEvent, Traverse.throw_if_eq_ok, Traverse.bind_eq_ok, requiredAttr_eq_ok,
    optionally_eq_ok (bounded _), optionally_eq_ok (fun a b => parsePoint_eq_ok)]
  constructor
  · rintro ⟨root, uid, hasUid, type, hasType, someUid, someType, ⟨⟩, shortUid, ⟨⟩, shortType, point,
      pointRead, callsign, callsignRead, how, howRead, time, timeRead, start, startRead, stale,
      staleRead, same⟩
    obtain rfl := Except.ok.inj same
    refine ⟨by simpa using root, ⟨uid, hasUid, rfl, ?_, validateAttrLen_eq_ok.mp shortUid⟩,
      ⟨type, hasType, rfl, ?_, validateAttrLen_eq_ok.mp shortType⟩, pointRead, callsignRead, howRead,
      timeRead, startRead, staleRead⟩
    · exact fun empty => someUid (String.isEmpty_iff.mpr empty)
    · exact fun empty => someType (String.isEmpty_iff.mpr empty)
  · intro ⟨root, ⟨uid, hasUid, uidTrims⟩, ⟨type, hasType, typeTrims⟩, point, callsign, how, time,
      start, stale⟩
    obtain ⟨sameUid, someUid, shortUid⟩ := uidTrims
    obtain ⟨sameType, someType, shortType⟩ := typeTrims
    rw [sameUid] at someUid shortUid
    rw [sameType] at someType shortType
    refine ⟨by simp [root], uid, hasUid, type, hasType, mt String.isEmpty_iff.mp someUid,
      mt String.isEmpty_iff.mp someType, (), validateAttrLen_eq_ok.mpr shortUid, (),
      validateAttrLen_eq_ok.mpr shortType, _, point, _, callsign, _, how, _, time, _, start, _, stale,
      ?_⟩
    rw [← sameUid, ← sameType]
    rfl

end Checks

/-- A payload is accepted, as an event, exactly when it is text, the text is a document, and the
rules for the document describe that event. -/
theorem parseCotPayload_eq_ok (payload : List UInt8) (e : CotEvent) :
    reader.parseCotPayload payload = .ok e ↔
      ∃ text event, Text.fromUtf8 payload = some text ∧
        reader.document (String.ofList text) = .ok event ∧ reader.Describes event e := by
  unfold parseCotPayload
  cases decoded : Text.fromUtf8 payload with
  | none => simp
  | some text =>
    cases document : reader.document (String.ofList text) with
    | error err => simp [document]
    | ok event => simp [document, parseEvent_eq_ok]

end CotReader

end Kaonic.Plugin
