import Kaonic.Base.Traverse
import Kaonic.Net.Ipv4

/-!
# Wire format

Announce payloads, and the frames inside a link that are not packets. The msgpack library that
writes and reads their bodies is a parameter.
-/

namespace Kaonic.Vpn
open Net

/-- `b"kvpn"`. -/
def announceMagic : List UInt8 := [0x6B, 0x76, 0x70, 0x6E]

def announceVersion : UInt8 := 2

def ctrlTag : UInt8 := 0xFB

inductive CodecError where
  | short
  | badMagic
  | version (v : UInt8)
  | decode (err : String)
  | encode (err : String)
  | prefix_ (p : UInt8)
  deriving DecidableEq

def CodecError.display : CodecError → String
  | .short => "payload too short"
  | .badMagic => "bad magic"
  | .version v => "unsupported version " ++ toString v
  | .decode err => "msgpack decode: " ++ err
  | .encode err => "msgpack encode: " ++ err
  | .prefix_ p => "invalid subnet prefix " ++ toString p

/-- A network on the wire, `(u32_be_ip, u8_prefix)`. -/
structure Subnet where
  ip : UInt32
  len : UInt8
  deriving DecidableEq

def Subnet.fromCidr (cidr : Ipv4Cidr) : Subnet where
  ip := cidr.firstAddress
  len := UInt8.ofNat cidr.networkLength

def Subnet.toCidr (s : Subnet) : Except CodecError Ipv4Cidr :=
  if s.len > 32 then .error (.prefix_ s.len)
  else
    match Ipv4Cidr.new s.ip s.len.toNat with
    | .ok cidr => .ok cidr
    | .error _ => .error (.prefix_ s.len)

inductive Ctrl where
  | hello (routes : List Subnet)
  | routes (routes : List Subnet)
  | ping
  deriving DecidableEq

def isCtrl (data : List UInt8) : Bool := data.head? == some ctrlTag

/-- `decode_ctrl`, with the decoder of the body. -/
def decodeCtrl (body : List UInt8 → Except String Ctrl) : List UInt8 → Except CodecError Ctrl
  | [] => .error .badMagic
  | tag :: rest =>
    if tag ≠ ctrlTag then .error .badMagic
    else
      match body rest with
      | .ok ctrl => .ok ctrl
      | .error err => .error (.decode err)

structure Announce where
  routes : List Subnet
  deriving DecidableEq

/-- `rmp_serde`: `write_named` and `from_slice` at the two body types. -/
structure Msgpack where
  writeAnnounce : Announce → Except String (List UInt8)
  readAnnounce : List UInt8 → Except String Announce
  writeCtrl : Ctrl → Except String (List UInt8)
  readCtrl : List UInt8 → Except String Ctrl

section

variable (msgpack : Msgpack)

def encodeAnnounce (routes : List Ipv4Cidr) : Except CodecError (List UInt8) :=
  match msgpack.writeAnnounce ⟨routes.map Subnet.fromCidr⟩ with
  | .ok body => .ok (announceMagic ++ announceVersion :: body)
  | .error err => .error (.encode err)

def decodeAnnounce : List UInt8 → Except CodecError (List Ipv4Cidr)
  | a :: b :: c :: d :: version :: rest =>
    if [a, b, c, d] ≠ announceMagic then .error .badMagic
    else if version ≠ announceVersion then .error (.version version)
    else
      match msgpack.readAnnounce rest with
      | .ok body => body.routes.mapM Subnet.toCidr
      | .error err => .error (.decode err)
  | _ => .error .short

def isAnnounce (data : List UInt8) : Bool :=
  decide (5 ≤ data.length) && data.take 4 == announceMagic

def encodeCtrl (msg : Ctrl) : Except CodecError (List UInt8) :=
  match msgpack.writeCtrl msg with
  | .ok body => .ok (ctrlTag :: body)
  | .error err => .error (.encode err)

def encodeHello (routes : List Ipv4Cidr) : Except CodecError (List UInt8) :=
  encodeCtrl msgpack (.hello (routes.map Subnet.fromCidr))

def encodeRoutes (routes : List Ipv4Cidr) : Except CodecError (List UInt8) :=
  encodeCtrl msgpack (.routes (routes.map Subnet.fromCidr))

end

/-! ### Round trips -/

@[simp] theorem toCidr_fromCidr (cidr : Ipv4Cidr) : (Subnet.fromCidr cidr).toCidr = .ok cidr := by
  have length := cidr.length_le
  have len : (Subnet.fromCidr cidr).len.toNat = cidr.networkLength :=
    UInt8.toNat_ofNat_of_lt' (show _ < 2 ^ 8 by omega)
  have short : ¬ (Subnet.fromCidr cidr).len > 32 := by
    rw [gt_iff_lt, UInt8.lt_iff_toNat_lt, len]
    exact Nat.not_lt.mpr length
  have read : Ipv4Cidr.new (Subnet.fromCidr cidr).ip (Subnet.fromCidr cidr).len.toNat = .ok cidr :=
    Ipv4Cidr.new_ok_iff.mpr ⟨rfl, len.symm⟩
  rw [Subnet.toCidr, if_neg short, read]

section

variable {msgpack : Msgpack} {routes : List Ipv4Cidr}

theorem encodeAnnounce_ok {body : List UInt8}
    (written : msgpack.writeAnnounce ⟨routes.map Subnet.fromCidr⟩ = .ok body) :
    encodeAnnounce msgpack routes = .ok (announceMagic ++ announceVersion :: body) := by
  rw [encodeAnnounce, written]

theorem decodeAnnounce_ok {body : List UInt8} {announce : Announce}
    (read : msgpack.readAnnounce body = .ok announce) :
    decodeAnnounce msgpack (announceMagic ++ announceVersion :: body) =
      announce.routes.mapM Subnet.toCidr := by
  show decodeAnnounce msgpack (0x6B :: 0x76 :: 0x70 :: 0x6E :: announceVersion :: body) = _
  rw [decodeAnnounce, if_neg (by decide), if_neg (by decide), read]

theorem encodeCtrl_ok {msg : Ctrl} {body : List UInt8} (written : msgpack.writeCtrl msg = .ok body) :
    encodeCtrl msgpack msg = .ok (ctrlTag :: body) := by
  rw [encodeCtrl, written]

theorem encodeCtrl_isCtrl {msg : Ctrl} {frame : List UInt8}
    (encoded : encodeCtrl msgpack msg = .ok frame) : isCtrl frame = true := by
  unfold encodeCtrl at encoded
  split at encoded
  · obtain rfl := Except.ok.inj encoded
    rfl
  · cases encoded

theorem decodeCtrl_ok {msg : Ctrl} {body : List UInt8} (read : msgpack.readCtrl body = .ok msg) :
    decodeCtrl msgpack.readCtrl (ctrlTag :: body) = .ok msg := by
  rw [decodeCtrl, if_neg (not_not.mpr rfl), read]

theorem isCtrl_of_nibble {first : UInt8} (nibble : first >>> 4 = 4 ∨ first >>> 4 = 6)
    (rest : List UInt8) : isCtrl (first :: rest) = false := by
  have other : first ≠ ctrlTag := by
    rintro rfl
    revert nibble
    decide
  simpa [isCtrl] using other

/-- The msgpack library reads back what it writes for these routes. -/
structure Msgpack.Keeps (msgpack : Msgpack) (routes : List Ipv4Cidr) : Prop where
  announce : ∃ body, msgpack.writeAnnounce ⟨routes.map Subnet.fromCidr⟩ = .ok body ∧
    msgpack.readAnnounce body = .ok ⟨routes.map Subnet.fromCidr⟩
  ctrl : ∀ msg ∈ [Ctrl.hello (routes.map Subnet.fromCidr), .routes (routes.map Subnet.fromCidr)],
    ∃ body, msgpack.writeCtrl msg = .ok body ∧ msgpack.readCtrl body = .ok msg

theorem mapM_toCidr (routes : List Ipv4Cidr) :
    (routes.map Subnet.fromCidr).mapM Subnet.toCidr = .ok routes :=
  Traverse.mapM_map_of_inverse toCidr_fromCidr

theorem decode_encodeAnnounce (keeps : msgpack.Keeps routes) :
    ∃ payload, encodeAnnounce msgpack routes = .ok payload ∧ isAnnounce payload = true ∧
      decodeAnnounce msgpack payload = .ok routes := by
  obtain ⟨body, written, read⟩ := keeps.announce
  refine ⟨_, encodeAnnounce_ok written, ?_, ?_⟩
  · simp [isAnnounce, announceMagic]
  · rw [decodeAnnounce_ok read, mapM_toCidr]

/-- Announces and route frames read back as the routes they were written from, and no IP packet
is a control frame. -/
theorem codec_roundTrip (msgpack : Msgpack) (routes : List Ipv4Cidr)
    (keeps : msgpack.Keeps routes) :
    (∃ payload, encodeAnnounce msgpack routes = .ok payload ∧
      decodeAnnounce msgpack payload = .ok routes) ∧
    (∃ frame subnets, encodeHello msgpack routes = .ok frame ∧
      decodeCtrl msgpack.readCtrl frame = .ok (.hello subnets) ∧
        subnets.mapM Subnet.toCidr = .ok routes) ∧
    (∃ frame subnets, encodeRoutes msgpack routes = .ok frame ∧
      decodeCtrl msgpack.readCtrl frame = .ok (.routes subnets) ∧
        subnets.mapM Subnet.toCidr = .ok routes) ∧
    (∀ payload, decodeAnnounce msgpack payload = .ok routes →
      ∃ again, encodeAnnounce msgpack routes = .ok again ∧
        decodeAnnounce msgpack again = .ok routes) ∧
    (∀ msg frame, encodeCtrl msgpack msg = .ok frame → isCtrl frame = true) ∧
    ∀ (first : UInt8) (rest : List UInt8), first >>> 4 = 4 ∨ first >>> 4 = 6 →
      isCtrl (first :: rest) = false := by
  obtain ⟨payload, encoded, _, decoded⟩ := decode_encodeAnnounce keeps
  obtain ⟨hello, helloWritten, helloRead⟩ := keeps.ctrl _ List.mem_cons_self
  obtain ⟨refresh, routesWritten, routesRead⟩ :=
    keeps.ctrl _ (List.mem_cons_of_mem _ List.mem_cons_self)
  refine ⟨⟨payload, encoded, decoded⟩, ?_, ?_, ?_, ?_, ?_⟩
  · exact ⟨_, _, encodeCtrl_ok helloWritten, decodeCtrl_ok helloRead, mapM_toCidr routes⟩
  · exact ⟨_, _, encodeCtrl_ok routesWritten, decodeCtrl_ok routesRead, mapM_toCidr routes⟩
  · exact fun _ _ => ⟨payload, encoded, decoded⟩
  · exact fun _ _ => encodeCtrl_isCtrl
  · exact fun _ rest nibble => isCtrl_of_nibble nibble rest

end

/-! ### The msgpack of short route lists -/

namespace Msgpack

/-- The shortest of fixint, uint 8, uint 16 and uint 32. -/
def writeUint (n : Nat) : List UInt8 :=
  if n < 128 then [.ofNat n]
  else if n < 2 ^ 8 then [0xCC, .ofNat n]
  else if n < 2 ^ 16 then [0xCD, .ofNat (n / 2 ^ 8), .ofNat n]
  else [0xCE, .ofNat (n / 2 ^ 24), .ofNat (n / 2 ^ 16), .ofNat (n / 2 ^ 8), .ofNat n]

def readUint : List UInt8 → Option (Nat × List UInt8)
  | 0xCC :: a :: rest => some (a.toNat, rest)
  | 0xCD :: a :: b :: rest => some (a.toNat * 2 ^ 8 + b.toNat, rest)
  | 0xCE :: a :: b :: c :: d :: rest =>
    some (a.toNat * 2 ^ 24 + b.toNat * 2 ^ 16 + c.toNat * 2 ^ 8 + d.toNat, rest)
  | n :: rest => if n < 128 then some (n.toNat, rest) else none
  | [] => none

def writeSubnet (s : Subnet) : List UInt8 := 0x92 :: writeUint s.ip.toNat ++ writeUint s.len.toNat

def readSubnets : Nat → List UInt8 → Option (List Subnet)
  | 0, _ => some []
  | n + 1, 0x92 :: bytes => do
    let (ip, bytes) ← readUint bytes
    let (len, bytes) ← readUint bytes
    let later ← readSubnets n bytes
    return ⟨.ofNat ip, .ofNat len⟩ :: later
  | _ + 1, _ => none

/-- A map of one entry, `"routes"`. -/
def routesKey : List UInt8 := [0x81, 0xA6, 0x72, 0x6F, 0x75, 0x74, 0x65, 0x73]

def writeRoutes (routes : List Subnet) : Except String (List UInt8) :=
  if routes.length < 16 then
    .ok (routesKey ++ .ofNat (0x90 + routes.length) :: routes.flatMap writeSubnet)
  else .error "array of sixteen or more"

def readRoutes (bytes : List UInt8) : Except String (List Subnet) :=
  match (bytes.drop 8).head?.bind fun n => readSubnets (n.toNat - 0x90) (bytes.drop 9) with
  | some routes => if bytes.take 8 = routesKey then .ok routes else .error "missing field"
  | none => .error "wrong msgpack marker"

/-- `"t"` and the tag, then `"v"`. -/
def tagged (tag : UInt8) : List UInt8 := [0x82, 0xA1, 0x74, 0xA1, tag, 0xA1, 0x76]

def short : Msgpack where
  writeAnnounce a := writeRoutes a.routes
  readAnnounce bytes := (readRoutes bytes).map Announce.mk
  writeCtrl
    | .hello routes => (writeRoutes routes).map (tagged 0x68 ++ ·)
    | .routes routes => (writeRoutes routes).map (tagged 0x72 ++ ·)
    | .ping => .ok [0x81, 0xA1, 0x74, 0xA1, 0x70]
  readCtrl bytes :=
    if bytes = [0x81, 0xA1, 0x74, 0xA1, 0x70] then .ok .ping
    else if bytes.take 7 = tagged 0x68 then (readRoutes (bytes.drop 7)).map .hello
    else if bytes.take 7 = tagged 0x72 then (readRoutes (bytes.drop 7)).map .routes
    else .error "unknown variant"

end Msgpack

def sampleRoutes : List Ipv4Cidr := [.net24 192 168 10, .net16 10 20]

theorem codec_roundTrip_sample :
    ∃ payload, encodeAnnounce .short sampleRoutes = .ok payload ∧
      decodeAnnounce .short payload = .ok sampleRoutes :=
  (codec_roundTrip .short sampleRoutes ⟨⟨_, rfl, by decide⟩, by
    intro msg member
    rcases List.mem_pair.mp member with rfl | rfl
    · exact ⟨_, rfl, by decide⟩
    · exact ⟨_, rfl, by decide⟩⟩).1

end Kaonic.Vpn
