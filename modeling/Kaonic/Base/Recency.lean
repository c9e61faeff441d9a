import Kaonic.Base.HashMap

/-!
# Recency lists

The latest entry of each key of a log, most recent first. A store bounded in number and in age
keeps a `take` of a `filter` of it, and the two can be cut again at every entry that comes in.
-/

namespace Recency

variable {K V : Type} {key : V → K} {p q : V → Bool} {v w : V} {l log : List V}

/-! ### Cutting a list twice -/

/-- A test that entries further back do not pass more easily can be made before the cut. -/
theorem filter_take (descends : l.Pairwise fun a b => p b → p a) (n : Nat) :
    (l.take n).filter p = (l.filter p).take n := by
  induction l generalizing n with
  | nil => simp
  | cons a rest ih =>
    obtain ⟨head, tail⟩ := List.pairwise_cons.mp descends
    cases n with
    | zero => simp
    | succ n =>
      by_cases passes : p a
      · rw [List.take_succ_cons, List.filter_cons_of_pos passes, List.filter_cons_of_pos passes,
          List.take_succ_cons, ih tail]
      · have none : ∀ b ∈ rest, ¬ p b := fun b member later => passes (head b member later)
        have empty : (a :: rest).filter p = [] := by
          rw [List.filter_cons_of_neg passes, List.filter_eq_nil_iff]
          exact none
        rw [empty, List.take_nil, List.filter_eq_nil_iff]
        intro b member
        rcases List.mem_cons.mp (List.mem_of_mem_take member) with rfl | behind
        · exact passes
        · exact none b behind

/-- A cut that leaves room for what the test takes out does not show after it. -/
theorem take_filter_take {n few : Nat} (bound : l.countP (fun a => !q a) ≤ few) :
    ((l.take (n + few)).filter q).take n = (l.filter q).take n := by
  induction l generalizing n few with
  | nil => simp
  | cons a rest ih =>
    by_cases passes : q a
    · rw [List.countP_cons_of_neg (by simp [passes])] at bound
      cases n with
      | zero => simp
      | succ n =>
        rw [Nat.add_right_comm, List.take_succ_cons, List.filter_cons_of_pos passes,
          List.filter_cons_of_pos passes, List.take_succ_cons, List.take_succ_cons, ih bound]
    · rw [List.countP_cons_of_pos (by simp [passes])] at bound
      obtain ⟨less, rfl⟩ : ∃ less, few = less + 1 := ⟨few - 1, by omega⟩
      rw [← Nat.add_assoc, List.take_succ_cons, List.filter_cons_of_neg passes,
        List.filter_cons_of_neg passes, ih (Nat.le_of_succ_le_succ bound)]

/-- An entry that comes to a list already cut shows no more of it than one that comes before. -/
theorem take_cons_take (n : Nat) : (v :: l.take n).take n = (v :: l).take n := by
  cases n with
  | zero => rfl
  | succ n => rw [List.take_succ_cons, List.take_succ_cons, List.take_take, Nat.min_eq_left n.le_succ]

/-! ### The latest entries -/

variable [DecidableEq K]

/-- An entry comes to the front, and the one of its key leaves. -/
def touch (key : V → K) (v : V) (l : List V) : List V :=
  v :: l.filter fun w => decide (key w ≠ key v)

/-- The latest entry of each key of a log, both most recent first. -/
def latest (key : V → K) : List V → List V
  | [] => []
  | v :: log => touch key v (latest key log)

theorem mem_touch : w ∈ touch key v l ↔ w = v ∨ w ∈ l ∧ key w ≠ key v := by
  simp [touch]

theorem latest_sublist : (latest key log).Sublist log := by
  induction log with
  | nil => exact List.Sublist.refl _
  | cons w log ih => exact (List.filter_sublist.trans ih).cons_cons w

theorem touch_nodup (nodup : (l.map key).Nodup) : ((touch key v l).map key).Nodup := by
  rw [touch, List.map_cons, List.nodup_cons]
  refine ⟨?_, nodup.sublist (List.filter_sublist.map key)⟩
  intro member
  obtain ⟨w, kept, same⟩ := List.mem_map.mp member
  exact of_decide_eq_true (List.mem_filter.mp kept).2 same

theorem latest_nodup : ((latest key log).map key).Nodup := by
  induction log with
  | nil => exact List.nodup_nil
  | cons w log ih => exact touch_nodup ih

/-- The new entry passes the test, and it takes no other entry through it. -/
theorem filter_touch (passes : q v) (agree : ∀ w, key w ≠ key v → q w = p w) :
    (touch key v l).filter q = touch key v (l.filter p) := by
  rw [touch, touch, List.filter_cons_of_pos passes, List.filter_filter, List.filter_filter]
  congr 1
  refine List.filter_congr ?_
  intro w _
  by_cases same : key w = key v
  · simp [same]
  · simp [same, agree w same]

/-- Of the entries behind the cut none can come back when a new one is touched. -/
theorem take_touch (nodup : (l.map key).Nodup) (n : Nat) :
    (touch key v (l.take n)).take n = (touch key v l).take n := by
  cases n with
  | zero => simp
  | succ n =>
    have once : l.countP (fun w => !decide (key w ≠ key v)) ≤ 1 := by
      have count := List.nodup_iff_count_le_one.mp nodup (key v)
      rw [List.count, List.countP_map] at count
      refine le_trans (List.countP_mono_left ?_) count
      simp
    rw [touch, touch, List.take_succ_cons, List.take_succ_cons, take_filter_take once]

/-! ### A map that holds a list -/

/-- The map holds the entries of the list, each under its key. -/
structure Holds (key : V → K) (m : HashMap K V) (l : List V) : Prop where
  nodup : (l.map key).Nodup
  lookup : ∀ k v, m.lookup k = some v ↔ v ∈ l ∧ key v = k

namespace Holds

variable {m : HashMap K V}

theorem empty : Holds key (∅ : HashMap K V) [] :=
  ⟨List.nodup_nil, fun k v => by simp⟩

theorem length (holds : Holds key m l) : m.keys.length = l.length := by
  have keys : m.keys.Perm (l.map key) := by
    refine (List.perm_ext_iff_of_nodup (AList.keys_nodup m) holds.nodup).mpr ?_
    intro k
    rw [← AList.mem_keys, ← AList.lookup_isSome, Option.isSome_iff_exists, List.mem_map]
    simp only [holds.lookup]
  rw [keys.length_eq, List.length_map]

theorem retain (holds : Holds key m l) (p : V → Bool) :
    Holds key (HashMap.retain p m) (l.filter p) := by
  refine ⟨holds.nodup.sublist (List.filter_sublist.map key), ?_⟩
  intro k v
  rw [HashMap.lookup_retain_eq, Option.filter_eq_some_iff, holds.lookup, List.mem_filter]
  exact and_right_comm

theorem insert (holds : Holds key m l) (v : V) :
    Holds key (AList.insert (key v) v m) (touch key v l) := by
  refine ⟨touch_nodup holds.nodup, ?_⟩
  intro k w
  rw [HashMap.lookup_insert_eq, mem_touch]
  split
  · rename_i same
    subst same
    rw [Option.some.injEq]
    refine ⟨fun other => by simp [other], ?_⟩
    rintro ⟨rfl | ⟨_, different⟩, same⟩
    · rfl
    · exact absurd same different
  · rename_i different
    rw [holds.lookup]
    refine ⟨fun ⟨member, same⟩ => ⟨Or.inr ⟨member, fun clash => different (same.symm.trans clash)⟩, same⟩,
      ?_⟩
    rintro ⟨rfl | ⟨member, _⟩, same⟩
    · exact absurd same.symm different
    · exact ⟨member, same⟩

/-- Erasing the last entry leaves those in front of it. -/
theorem erase_last (holds : Holds key m (l ++ [v])) : Holds key (m.erase (key v)) l := by
  have nodup := holds.nodup
  rw [List.map_append, List.map_singleton, List.nodup_append] at nodup
  obtain ⟨front, _, apart⟩ := nodup
  refine ⟨front, ?_⟩
  intro k w
  rw [HashMap.lookup_erase_eq]
  split
  · rename_i same
    subst same
    refine ⟨fun other => (by cases other), ?_⟩
    intro ⟨member, same⟩
    exact (apart _ (List.mem_map_of_mem member) _ (List.mem_singleton_self _) same).elim
  · rename_i different
    rw [holds.lookup, List.mem_append, List.mem_singleton]
    refine ⟨?_, fun ⟨member, same⟩ => ⟨Or.inl member, same⟩⟩
    rintro ⟨member | rfl, same⟩
    · exact ⟨member, same⟩
    · exact absurd same.symm different

/-- In whatever order the map is gone through, its entry with the least time is the last one. -/
theorem argmin_last {τ : Type} [LinearOrder τ] {time : V → τ} (holds : Holds key m (l ++ [v]))
    (recent : ∀ w ∈ l, time v < time w) (it : HashMap.IterOrder K V) :
    ((it.order m).argmin fun e => time e.2) = some (key v, v) := by
  have stored : (key v, v) ∈ it.order m := by
    rw [HashMap.IterOrder.mem_order, holds.lookup]
    simp
  cases least : (it.order m).argmin fun e => time e.2 with
  | none =>
    rw [List.argmin_eq_none] at least
    rw [least] at stored
    cases stored
  | some e =>
    obtain ⟨k, w⟩ := e
    have member := List.argmin_mem least
    rw [HashMap.IterOrder.mem_order, holds.lookup, List.mem_append, List.mem_singleton] at member
    have order := List.le_of_mem_argmin stored least
    obtain ⟨before | rfl, rfl⟩ := member
    · exact absurd order (not_le.mpr (recent w before))
    · rfl

end Holds

end Recency
