import Kaonic.Base.Text
import Kaonic.Base.Traverse
import Kaonic.Net.AddressHash
import Kaonic.Net.Ipv4

/-!
# Notation

Hashes in hexadecimal digits, networks in dotted decimals and lists of networks in JSON. These are
codecs for the parameters that stand for the libraries.
-/

namespace Kaonic.Net

/-! ### Hexadecimal -/

namespace AddressHash

def hexValue (c : Char) : Option Nat :=
  if c.isDigit then some (c.toNat - 48)
  else if 97 ≤ c.toNat ∧ c.toNat ≤ 102 then some (c.toNat - 87)
  else if 65 ≤ c.toNat ∧ c.toNat ≤ 70 then some (c.toNat - 55)
  else none

def hexByte (hi lo : Char) : Option UInt8 :=
  (hexValue hi).bind fun high => (hexValue lo).map fun low => UInt8.ofNat (16 * high + low)

def byteHex (byte : UInt8) : List Char :=
  [Nat.digitChar (byte.toNat / 16), Nat.digitChar (byte.toNat % 16)]

def hexBytes : List Char → Option (List UInt8)
  | [] => some []
  | [_] => none
  | hi :: lo :: rest =>
    (hexByte hi lo).bind fun byte => (hexBytes rest).map fun bytes => byte :: bytes

theorem hexValue_digitChar : ∀ n < 16, hexValue (Nat.digitChar n) = some n := by decide

theorem hexByte_byteHex (byte : UInt8) :
    hexByte (Nat.digitChar (byte.toNat / 16)) (Nat.digitChar (byte.toNat % 16)) = some byte := by
  have bound := byte.toNat_lt
  have value : 16 * (byte.toNat / 16) + byte.toNat % 16 = byte.toNat := by omega
  rw [hexByte, hexValue_digitChar _ (by omega), Option.bind_some, hexValue_digitChar _ (by omega),
    Option.map_some, value, UInt8.ofNat_toNat]

theorem hexBytes_byteHex (bytes : List UInt8) : hexBytes (bytes.flatMap byteHex) = some bytes := by
  induction bytes with
  | nil => rfl
  | cons byte rest ih =>
    rw [List.flatMap_cons, byteHex, List.cons_append, List.cons_append, List.nil_append, hexBytes,
      hexByte_byteHex, Option.bind_some, ih, Option.map_some]

def toHexString (hash : AddressHash) : String := String.ofList (hash.bytes.flatMap byteHex)

def newFromHexString (text : String) : Except String AddressHash :=
  match hexBytes text.toList with
  | some bytes => if length_eq : bytes.length = 16 then .ok ⟨bytes, length_eq⟩
    else .error "IncorrectHash"
  | none => .error "IncorrectHash"

def hexCodec : Text.Codec AddressHash where
  print := toHexString
  parse := newFromHexString
  parse_print hash := by
    unfold newFromHexString toHexString
    rw [String.toList_ofList, hexBytes_byteHex]
    exact dif_pos hash.length_eq

end AddressHash

/-! ### Dotted decimals -/

def parseDecimal (bound : Nat) (text : List Char) : Option Nat :=
  (Text.parseU64 text).bind fun n => if n.toNat < bound then some n.toNat else none

theorem parseDecimal_toDigits {bound n : Nat} (small : bound ≤ 2 ^ 64) (below : n < bound) :
    parseDecimal bound (Nat.toDigits 10 n) = some n := by
  have value : (UInt64.ofNat n).toNat = n := 
    UInt64.toNat_ofNat_of_lt' (Nat.lt_of_lt_of_le below small)
  have read := Text.parseU64_printU64 (UInt64.ofNat n)
  rw [Text.printU64, value] at read
  rw [parseDecimal, read, Option.bind_some, value, if_pos below]

theorem toDigits_not_mem {n : Nat} {c : Char} (sign : c.isDigit = false) :
    c ∉ Nat.toDigits 10 n := by
  intro member
  have digit := Nat.isDigit_of_mem_toDigits (by decide) (by decide) member
  rw [sign] at digit
  cases digit

namespace Ipv4Addr

def print (ip : Ipv4Addr) : List Char :=
  ['.'].intercalate (ip.octets.map fun byte => Nat.toDigits 10 byte.toNat)

def parse (text : List Char) : Option Ipv4Addr :=
  match (text.splitOn '.').map (parseDecimal 256) with
  | [some a, some b, some c, some d] =>
    some (new (UInt8.ofNat a) (UInt8.ofNat b) (UInt8.ofNat c) (UInt8.ofNat d))
  | _ => none

theorem new_octets (ip : Ipv4Addr) :
    new (UInt8.ofNat (ip.toNat / 2 ^ 24)) (UInt8.ofNat (ip.toNat / 2 ^ 16))
      (UInt8.ofNat (ip.toNat / 2 ^ 8)) (UInt8.ofNat ip.toNat) = ip := by
  have bound := ip.toNat_lt
  rw [← UInt32.toNat_inj, toNat_new]
  simp only [UInt8.toNat_ofNat']
  omega

theorem parse_print (ip : Ipv4Addr) : parse (print ip) = some ip := by
  have fields : (print ip).splitOn '.' = ip.octets.map fun byte => Nat.toDigits 10 byte.toNat := by
    apply List.splitOn_intercalate
    · intro field member
      obtain ⟨byte, _, rfl⟩ := List.mem_map.mp member
      exact toDigits_not_mem (by decide)
    · simp [octets]
  have octet : ∀ byte : UInt8, parseDecimal 256 (Nat.toDigits 10 byte.toNat) = some byte.toNat :=
    fun byte => parseDecimal_toDigits (by decide) byte.toNat_lt
  unfold parse
  rw [fields, octets]
  simp only [List.map_cons, List.map_nil, octet, UInt8.ofNat_toNat]
  rw [new_octets]

theorem print_not_mem {ip : Ipv4Addr} {c : Char} (sign : c.isDigit = false) (other : c ≠ '.') :
    c ∉ print ip := by
  simp [print, octets, List.intercalate, List.intersperse, toDigits_not_mem sign, other]

end Ipv4Addr

namespace Ipv4Cidr

/-- `Display` shows a network of one address without its length. -/
def print (cidr : Ipv4Cidr) : List Char :=
  if cidr.networkLength = 32 then cidr.firstAddress.print
  else ['/'].intercalate [cidr.firstAddress.print, Nat.toDigits 10 cidr.networkLength]

def parse (text : List Char) : Option Ipv4Cidr :=
  match text.splitOn '/' with
  | [addr] => (Ipv4Addr.parse addr).bind fun addr => (new addr 32).toOption
  | [addr, len] => (Ipv4Addr.parse addr).bind fun addr =>
    (parseDecimal 256 len).bind fun len => (new addr len).toOption
  | _ => none

theorem parse_print (cidr : Ipv4Cidr) : parse (print cidr) = some cidr := by
  have noSlash : '/' ∉ cidr.firstAddress.print := Ipv4Addr.print_not_mem (by decide) (by decide)
  have read : new cidr.firstAddress cidr.networkLength = .ok cidr := new_ok_iff.mpr ⟨rfl, rfl⟩
  unfold parse print
  by_cases single : cidr.networkLength = 32
  · have fields := @List.splitOn_intercalate _ [cidr.firstAddress.print] _ _ '/'
      (by simpa using noSlash) (by simp)
    rw [single] at read
    rw [if_pos single]
    simp only [List.intercalate_singleton] at fields
    simp only [fields, Ipv4Addr.parse_print, Option.bind_some, read]
    rfl
  · have fields := @List.splitOn_intercalate _
      [cidr.firstAddress.print, Nat.toDigits 10 cidr.networkLength] _ _ '/'
      (by simpa using ⟨noSlash, toDigits_not_mem (by decide)⟩) (by simp)
    have length := cidr.length_le
    rw [if_neg single]
    simp only [fields, Ipv4Addr.parse_print, Option.bind_some,
      parseDecimal_toDigits (show 256 ≤ 2 ^ 64 by decide) (show cidr.networkLength < 256 by omega),
      read]
    rfl

theorem print_not_mem {cidr : Ipv4Cidr} {c : Char} (sign : c.isDigit = false) (dot : c ≠ '.')
    (slash : c ≠ '/') : c ∉ print cidr := by
  have addr : c ∉ cidr.firstAddress.print := Ipv4Addr.print_not_mem sign dot
  unfold print
  split
  · exact addr
  · simp [List.intercalate, List.intersperse, addr, toDigits_not_mem sign, slash]

def codec : Text.Codec Ipv4Cidr where
  print cidr := String.ofList (print cidr)
  parse text := match parse text.toList with
    | some cidr => .ok cidr
    | none => .error "couldn't parse network"
  parse_print cidr := by rw [String.toList_ofList, parse_print]

/-! ### JSON -/

def quote (text : List Char) : List Char := '"' :: (text ++ ['"'])

def toJson (cidrs : List Ipv4Cidr) : List Char :=
  '[' :: ([','].intercalate (cidrs.map fun cidr => quote (print cidr)) ++ [']'])

def fromQuoted (text : List Char) : Except String Ipv4Cidr :=
  match parse text.tail.dropLast with
  | some cidr => .ok cidr
  | none => .error "couldn't parse network"

def fromJson (text : List Char) : Except String (List Ipv4Cidr) :=
  let inner := text.tail.dropLast
  if inner = [] then .ok [] else (inner.splitOn ',').mapM fromQuoted

theorem fromJson_toJson (cidrs : List Ipv4Cidr) : fromJson (toJson cidrs) = .ok cidrs := by
  have inner : (toJson cidrs).tail.dropLast =
      [','].intercalate (cidrs.map fun cidr => quote (print cidr)) := by
    rw [toJson, List.tail_cons, List.dropLast_concat]
  have element : ∀ cidr, fromQuoted (quote (print cidr)) = .ok cidr := by
    intro cidr
    rw [fromQuoted, quote, List.tail_cons, List.dropLast_concat, parse_print]
  unfold fromJson
  rw [inner]
  cases cidrs with
  | nil => rfl
  | cons first rest =>
    have fields : ([','].intercalate ((first :: rest).map fun cidr => quote (print cidr))).splitOn ',' =
        (first :: rest).map fun cidr => quote (print cidr) := by
      apply List.splitOn_intercalate
      · intro field member
        obtain ⟨cidr, _, rfl⟩ := List.mem_map.mp member
        have plain : ',' ∉ print cidr := print_not_mem (by decide) (by decide) (by decide)
        simp [quote, plain]
      · simp
    have some_ : [','].intercalate ((first :: rest).map fun cidr => quote (print cidr)) ≠ [] := by
      intro empty
      rw [empty] at fields
      simp [quote] at fields
    dsimp only
    rw [if_neg some_, fields]
    exact Traverse.mapM_map_of_inverse element

def jsonCodec : Text.Codec (List Ipv4Cidr) where
  print cidrs := String.ofList (toJson cidrs)
  parse text := fromJson text.toList
  parse_print cidrs := by rw [String.toList_ofList, fromJson_toJson]

end Ipv4Cidr

end Kaonic.Net
