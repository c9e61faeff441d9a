import Mathlib

/-! # Reticulum addresses -/

namespace Kaonic.Net

/-- `AddressHash`: the 16 bytes that name a Reticulum destination. -/
structure AddressHash where
  bytes : List UInt8
  length_eq : bytes.length = 16
  deriving DecidableEq

def AddressHash.repeated (byte : UInt8) : AddressHash := ⟨List.replicate 16 byte, by simp⟩

/-- The part of `DestinationDesc` that the repository reads. -/
structure DestinationDesc where
  addressHash : AddressHash
  deriving DecidableEq

end Kaonic.Net
