import Kaonic.Base.Block

/-!
# IPv4 addresses and networks

An address is the number `u32::from` gives. A network in canonical form is an aligned block of
addresses, which is what `cidr::Ipv4Cidr` can hold.
-/

namespace Kaonic.Net

abbrev Ipv4Addr := UInt32

namespace Ipv4Addr

def new (a b c d : UInt8) : Ipv4Addr :=
  UInt32.ofNat (a.toNat * 2 ^ 24 + b.toNat * 2 ^ 16 + c.toNat * 2 ^ 8 + d.toNat)

/-- `Ipv4Addr::octets`, the high octet first. -/
def octets (ip : Ipv4Addr) : List UInt8 :=
  [UInt8.ofNat (ip.toNat / 2 ^ 24), UInt8.ofNat (ip.toNat / 2 ^ 16),
    UInt8.ofNat (ip.toNat / 2 ^ 8), UInt8.ofNat ip.toNat]

theorem toNat_new (a b c d : UInt8) :
    (new a b c d).toNat = a.toNat * 2 ^ 24 + b.toNat * 2 ^ 16 + c.toNat * 2 ^ 8 + d.toNat := by
  have ha := a.toNat_lt
  have hb := b.toNat_lt
  have hc := c.toNat_lt
  have hd := d.toNat_lt
  exact UInt32.toNat_ofNat_of_lt' (show _ < 2 ^ 32 by omega)

theorem octets_new (a b c d : UInt8) : (new a b c d).octets = [a, b, c, d] := by
  have low : ∀ n (x : UInt8), n % 2 ^ 8 = x.toNat → UInt8.ofNat n = x := by
    intro n x same
    apply UInt8.toNat_inj.mp
    rw [UInt8.toNat_ofNat', same]
  have ha := a.toNat_lt
  have hb := b.toNat_lt
  have hc := c.toNat_lt
  have hd := d.toNat_lt
  unfold octets
  rw [toNat_new, low _ a (by omega), low _ b (by omega), low _ c (by omega), low _ d (by omega)]

end Ipv4Addr

/-- `cidr::Ipv4Cidr`: a network whose host bits are zero. -/
structure Ipv4Cidr where
  firstAddress : Ipv4Addr
  networkLength : Nat
  length_le : networkLength ≤ 32
  aligned : 2 ^ (32 - networkLength) ∣ firstAddress.toNat
  deriving DecidableEq

inductive NetworkParseError where
  | networkLengthTooLong
  | invalidHostPart
  deriving DecidableEq

namespace Ipv4Cidr

/-- `Ipv4Cidr::new` refuses a prefix over 32 and an address with a host bit set. -/
def new (addr : Ipv4Addr) (len : Nat) : Except NetworkParseError Ipv4Cidr :=
  if length_le : len ≤ 32 then
    if aligned : 2 ^ (32 - len) ∣ addr.toNat then .ok ⟨addr, len, length_le, aligned⟩
    else .error .invalidHostPart
  else .error .networkLengthTooLong

/-- `Ipv4Cidr::contains`: the address agrees with the network above the host bits. -/
def contains (c : Ipv4Cidr) (ip : Ipv4Addr) : Bool :=
  ip.toNat / 2 ^ (32 - c.networkLength) == c.firstAddress.toNat / 2 ^ (32 - c.networkLength)

def block (c : Ipv4Cidr) : Block := ⟨c.firstAddress.toNat, 32 - c.networkLength, c.aligned⟩

@[simp] theorem block_base (c : Ipv4Cidr) : c.block.base = c.firstAddress.toNat := rfl

@[simp] theorem block_host (c : Ipv4Cidr) : c.block.host = 32 - c.networkLength := rfl

theorem contains_iff (c : Ipv4Cidr) (ip : Ipv4Addr) :
    c.contains ip = true ↔ c.block.Mem ip.toNat := by
  rw [Block.mem_iff_div, contains, beq_iff_eq]
  rfl

theorem ext_of_eq {a b : Ipv4Cidr} (first : a.firstAddress = b.firstAddress)
    (len : a.networkLength = b.networkLength) : a = b := by
  cases a
  cases b
  simp_all

theorem block_injective {a b : Ipv4Cidr} (h : a.block = b.block) : a = b := by
  have first := congrArg Block.base h
  have host := congrArg Block.host h
  simp only [block_base, block_host] at first host
  have := a.length_le
  have := b.length_le
  exact ext_of_eq (UInt32.toNat_inj.mp first) (by omega)

theorem eq_of_contains {a b : Ipv4Cidr} {ip : Ipv4Addr} (len : a.networkLength = b.networkLength)
    (left : a.contains ip = true) (right : b.contains ip = true) : a = b := by
  rw [contains_iff] at left right
  exact block_injective (Block.eq_of_mem (by simp [len]) left right)

theorem contains_first (c : Ipv4Cidr) : c.contains c.firstAddress = true := by simp [contains]

theorem new_ok_iff {addr : Ipv4Addr} {len : Nat} {c : Ipv4Cidr} :
    new addr len = .ok c ↔ c.firstAddress = addr ∧ c.networkLength = len := by
  unfold new
  constructor
  · intro h
    split at h
    · split at h
      · obtain rfl := Except.ok.inj h
        exact ⟨rfl, rfl⟩
      · cases h
    · cases h
  · rintro ⟨rfl, rfl⟩
    rw [dif_pos c.length_le, dif_pos c.aligned]

theorem new_toOption_iff {addr : Ipv4Addr} {len : Nat} {c : Ipv4Cidr} :
    (new addr len).toOption = some c ↔ c.firstAddress = addr ∧ c.networkLength = len := by
  rw [← new_ok_iff]
  cases new addr len <;> simp [Except.toOption]

def Meets (a b : Ipv4Cidr) : Prop := a.block.Meets b.block

instance (a b : Ipv4Cidr) : Decidable (a.Meets b) := inferInstanceAs (Decidable (Block.Meets _ _))

theorem meets_self (c : Ipv4Cidr) : c.Meets c := c.block.meets_self

theorem Meets.symm {a b : Ipv4Cidr} (h : a.Meets b) : b.Meets a := Block.Meets.symm h

instance : Std.Symm (fun a b : Ipv4Cidr => ¬ a.Meets b) := ⟨fun _ _ apart h => apart h.symm⟩

theorem eq_of_meets {a b : Ipv4Cidr} (len : a.networkLength = b.networkLength) (h : a.Meets b) :
    a = b :=
  block_injective (Block.eq_of_meets (by simp [len]) h)

theorem block_last_lt (c : Ipv4Cidr) : c.block.last < 2 ^ 32 := by
  obtain ⟨k, hk⟩ := c.aligned
  have first := c.firstAddress.toNat_lt
  have size : 2 ^ (32 - c.networkLength) * 2 ^ c.networkLength = 2 ^ 32 := by
    rw [← Nat.pow_add, Nat.sub_add_cancel c.length_le]
  have pos := Block.size_pos (32 - c.networkLength)
  simp only [Block.last, block_base, block_host]
  rw [hk] at first ⊢
  rw [← size] at first ⊢
  have below : k + 1 ≤ 2 ^ c.networkLength := Nat.lt_of_mul_lt_mul_left first
  have := Nat.mul_le_mul_left (2 ^ (32 - c.networkLength)) below
  rw [Nat.mul_add, Nat.mul_one] at this
  omega

theorem meets_iff (a b : Ipv4Cidr) :
    a.Meets b ↔ ∃ ip : Ipv4Addr, a.contains ip = true ∧ b.contains ip = true := by
  simp only [contains_iff]
  constructor
  · rintro ⟨x, left, right⟩
    have bound : x < 2 ^ 32 := Nat.lt_of_le_of_lt left.2 a.block_last_lt
    refine ⟨UInt32.ofNat x, ?_⟩
    rw [UInt32.toNat_ofNat_of_lt' bound]
    exact ⟨left, right⟩
  · rintro ⟨ip, left, right⟩
    exact ⟨ip.toNat, left, right⟩

/-- The network of length `len` that holds `ip`: the address with its host bits cleared. -/
def ofAddress (ip : Ipv4Addr) (len : Nat) (length_le : len ≤ 32) : Ipv4Cidr where
  firstAddress := UInt32.ofNat (ip.toNat / 2 ^ (32 - len) * 2 ^ (32 - len))
  networkLength := len
  length_le := length_le
  aligned := by
    have bound : ip.toNat / 2 ^ (32 - len) * 2 ^ (32 - len) < 2 ^ 32 :=
      Nat.lt_of_le_of_lt (Nat.div_mul_le_self _ _) ip.toNat_lt
    rw [UInt32.toNat_ofNat_of_lt' bound]
    exact Nat.dvd_mul_left _ _

theorem contains_ofAddress (ip : Ipv4Addr) (len : Nat) (h : len ≤ 32) :
    (ofAddress ip len h).contains ip = true := by
  have bound : ip.toNat / 2 ^ (32 - len) * 2 ^ (32 - len) < 2 ^ 32 :=
    Nat.lt_of_le_of_lt (Nat.div_mul_le_self _ _) ip.toNat_lt
  simp only [contains, ofAddress, beq_iff_eq]
  rw [UInt32.toNat_ofNat_of_lt' bound, Nat.mul_div_cancel _ (Block.size_pos _)]

theorem ofAddress_of_contains {c : Ipv4Cidr} {ip : Ipv4Addr} (h : c.contains ip = true) :
    ofAddress ip c.networkLength c.length_le = c :=
  eq_of_contains rfl (contains_ofAddress ip _ _) h

theorem sixteen_le : 16 ≤ 32 := by decide

theorem twentyFour_le : 24 ≤ 32 := by decide

def net16 (a b : UInt8) : Ipv4Cidr := ofAddress (.new a b 0 0) 16 sixteen_le

def net24 (a b c : UInt8) : Ipv4Cidr := ofAddress (.new a b c 0) 24 twentyFour_le

/-- The derived order of `Ipv4Cidr`: by first address, then by length. -/
def sortKey (c : Ipv4Cidr) : ℕ ×ₗ ℕ := toLex (c.firstAddress.toNat, c.networkLength)

theorem sortKey_injective : Function.Injective sortKey := by
  intro a b h
  have pair := Prod.mk.inj (toLex.injective h)
  exact ext_of_eq (UInt32.toNat_inj.mp pair.1) pair.2

instance : LinearOrder Ipv4Cidr := LinearOrder.lift' sortKey sortKey_injective

end Ipv4Cidr

end Kaonic.Net
