import Mathlib

/-!
# Hash maps

A hash map is an association list with distinct keys. Its iteration order is unspecified: code
that iterates takes an `IterOrder`, and what is proved holds for each.
-/

abbrev HashMap (K V : Type) := AList (fun _ : K => V)

namespace HashMap

variable {K V : Type}

def toList (m : HashMap K V) : List (K × V) := m.entries.map fun e => (e.1, e.2)

/-- `HashMap::retain`. -/
def retain (p : V → Bool) (m : HashMap K V) : HashMap K V :=
  ⟨m.entries.filter fun e => p e.2, m.nodupKeys.sublist List.filter_sublist⟩

/-- An iteration order: the entries of each map in some order. -/
structure IterOrder (K V : Type) where
  order : HashMap K V → List (K × V)
  perm : ∀ m, (order m).Perm (toList m)

def IterOrder.entries : IterOrder K V := ⟨toList, fun _ => List.Perm.refl _⟩

instance : Inhabited (IterOrder K V) := ⟨IterOrder.entries⟩

/-- The entries in the opposite order. -/
def IterOrder.backwards : IterOrder K V :=
  ⟨fun m => (toList m).reverse, fun m => List.reverse_perm (toList m)⟩

theorem toList_keys_nodup (m : HashMap K V) : ((toList m).map Prod.fst).Nodup := by
  have keys : (toList m).map Prod.fst = m.keys := by
    rw [toList, List.map_map]
    rfl
  rw [keys]
  exact AList.keys_nodup m

section
variable [DecidableEq K]

theorem mem_toList {m : HashMap K V} {k : K} {v : V} :
    (k, v) ∈ toList m ↔ m.lookup k = some v := by
  rw [← Option.mem_def, AList.mem_lookup_iff, toList, List.mem_map]
  constructor
  · rintro ⟨⟨a, b⟩, member, same⟩
    obtain ⟨rfl, rfl⟩ := Prod.mk.inj same
    exact member
  · exact fun member => ⟨⟨k, v⟩, member, rfl⟩

theorem IterOrder.mem_order (it : IterOrder K V) {m : HashMap K V} {k : K} {v : V} :
    (k, v) ∈ it.order m ↔ m.lookup k = some v := by
  rw [(it.perm m).mem_iff, mem_toList]

theorem lookup_insert_eq (m : HashMap K V) (k k' : K) (v : V) :
    (m.insert k v).lookup k' = if k' = k then some v else m.lookup k' := by
  split
  · next same => rw [same, AList.lookup_insert]
  · next different => exact AList.lookup_insert_ne different

theorem lookup_erase_eq (m : HashMap K V) (k k' : K) :
    (m.erase k).lookup k' = if k' = k then none else m.lookup k' := by
  split
  · next same => rw [same, AList.lookup_erase]
  · next different => exact AList.lookup_erase_ne different

theorem lookup_retain_eq (p : V → Bool) (m : HashMap K V) (k : K) :
    (retain p m).lookup k = (m.lookup k).filter p := by
  ext v
  rw [Option.filter_eq_some_iff, ← Option.mem_def, ← Option.mem_def, AList.mem_lookup_iff,
    AList.mem_lookup_iff]
  exact List.mem_filter

theorem length_erase {m : HashMap K V} {k : K} {v : V} (found : m.lookup k = some v) :
    (m.erase k).keys.length + 1 = m.keys.length := by
  have member : k ∈ m.keys := AList.lookup_isSome.mp (by rw [found]; rfl)
  rw [AList.keys_erase, List.length_erase_of_mem member]
  exact Nat.sub_add_cancel (List.length_pos_of_mem member)

theorem length_insert_old {m : HashMap K V} {k : K} {v old : V} (found : m.lookup k = some old) :
    (m.insert k v).keys.length = m.keys.length := by
  have member : k ∈ m.keys := AList.lookup_isSome.mp (by rw [found]; rfl)
  rw [AList.keys_insert, List.length_cons, List.length_erase_of_mem member]
  exact Nat.sub_add_cancel (List.length_pos_of_mem member)

theorem length_insert_new {m : HashMap K V} {k : K} (v : V) (absent : m.lookup k = none) :
    (m.insert k v).keys.length = m.keys.length + 1 := by
  have fresh : k ∉ m.keys := AList.lookup_eq_none.mp absent
  rw [AList.keys_insert, List.length_cons, List.erase_of_not_mem fresh]

/-- The order in which a given key comes first. -/
def IterOrder.leading (k : K) : IterOrder K V where
  order m := (toList m).filter (fun e => e.1 = k) ++ (toList m).filter fun e => ¬ e.1 = k
  perm m := by
    simpa using List.filter_append_perm (fun e : K × V => decide (e.1 = k)) (toList m)

theorem IterOrder.leading_order {m : HashMap K V} {k : K} {v : V} (found : m.lookup k = some v) :
    ∃ rest, (leading k).order m = (k, v) :: rest := by
  have listed : (k, v) ∈ (toList m).filter fun e => e.1 = k := by
    simpa using mem_toList.mpr found
  have only : ∀ e ∈ (toList m).filter fun e => e.1 = k, e = (k, v) := by
    intro e member
    rw [List.mem_filter, decide_eq_true_eq] at member
    obtain ⟨member, rfl⟩ := member
    have same := mem_toList.mp member
    rw [found] at same
    rw [Option.some.inj same]
  cases first : (toList m).filter fun e => e.1 = k with
  | nil =>
    rw [first] at listed
    cases listed
  | cons e rest =>
    have head := only e (by rw [first]; exact List.mem_cons_self)
    refine ⟨rest ++ (toList m).filter fun e => ¬ e.1 = k, ?_⟩
    show (toList m).filter (fun e => e.1 = k) ++ _ = _
    rw [first, head, List.cons_append]

end

end HashMap
