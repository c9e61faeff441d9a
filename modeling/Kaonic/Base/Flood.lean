import Mathlib

/-!
# Flooding over FIFO links

One node issues messages; each node logs a message the first time it arrives and sends what it
logged, in that order, on all its links. Whatever the links and their delays, every log is a prefix
of the issuer's, and equal to it at the nodes the issuer reaches once everything has arrived.
-/

namespace Flood

variable {ι α : Type}

structure State (ι α : Type) where
  log : ι → List α
  sent : ι → List α
  chan : ι → ι → List α

def State.empty : State ι α := ⟨fun _ => [], fun _ => [], fun _ _ => []⟩

/-! ### Prefixes of a list without repetition -/

/-- Of two prefixes, one a step past a prefix of the other, the other has taken that step or
stands before it. -/
theorem prefix_or_eq {whole left right : List α} {a : α} (ahead : left ++ [a] <+: whole)
    (other : right <+: whole) (below : left <+: right) : left ++ [a] <+: right ∨ right = left := by
  rcases List.prefix_or_prefix_of_prefix ahead other with inside | outside
  · exact Or.inl inside
  · rcases List.prefix_concat_iff.mp outside with same | within
    · exact Or.inl (same ▸ List.prefix_rfl)
    · exact Or.inr (within.eq_of_length_le below.length_le)

theorem concat_prefix_iff_mem {whole left right : List α} {a : α} (distinct : whole.Nodup)
    (ahead : left ++ [a] <+: whole) (other : right <+: whole) (below : left <+: right) :
    left ++ [a] <+: right ↔ a ∈ right := by
  refine ⟨fun inside => inside.subset (by simp), ?_⟩
  intro member
  rcases prefix_or_eq ahead other below with inside | same
  · exact inside
  · have apart := distinct.sublist ahead.sublist
    rw [same] at member
    exact ((List.nodup_append.mp apart).2.2 a member a (by simp) rfl).elim

/-! ### Steps -/

variable [DecidableEq ι]

def State.append (s : State ι α) (n : ι) (a : α) : State ι α :=
  { s with log := Function.update s.log n (s.log n ++ [a]) }

def State.send (s : State ι α) (link : ι → ι → Prop) [DecidableRel link] (n : ι) (a : α) :
    State ι α where
  log := s.log
  sent := Function.update s.sent n (s.sent n ++ [a])
  chan m k := if m = n ∧ link m k then s.chan m k ++ [a] else s.chan m k

def State.take (s : State ι α) (m n : ι) (rest : List α) : State ι α :=
  { s with chan := Function.update s.chan m (Function.update (s.chan m) n rest) }

inductive Step (link : ι → ι → Prop) [DecidableRel link] (issuer : ι) :
    State ι α → State ι α → Prop where
  | issue {s : State ι α} {a : α} (fresh : a ∉ s.log issuer) :
      Step link issuer s (s.append issuer a)
  | send {s : State ι α} {n : ι} {a : α} (next : s.sent n ++ [a] <+: s.log n) :
      Step link issuer s (s.send link n a)
  | accept {s : State ι α} {m n : ι} {a : α} {rest : List α} (head : s.chan m n = a :: rest)
      (fresh : a ∉ s.log n) : Step link issuer s ((s.take m n rest).append n a)
  | drop {s : State ι α} {m n : ι} {a : α} {rest : List α} (head : s.chan m n = a :: rest)
      (known : a ∈ s.log n) : Step link issuer s (s.take m n rest)

abbrev Reachable (link : ι → ι → Prop) [DecidableRel link] (issuer : ι) (s : State ι α) : Prop :=
  Relation.ReflTransGen (Step link issuer) State.empty s

/-- What a link has delivered and what it holds make up what its source sent; what it has
delivered is logged. -/
structure Safe (link : ι → ι → Prop) (issuer : ι) (s : State ι α) : Prop where
  distinct : (s.log issuer).Nodup
  logged : ∀ n, s.log n <+: s.log issuer
  sent : ∀ n, s.sent n <+: s.log n
  silent : ∀ m n, ¬ link m n → s.chan m n = []
  flow : ∀ m n, link m n → ∃ delivered, s.sent m = delivered ++ s.chan m n ∧ delivered <+: s.log n

/-! ### Safety -/

variable {link : ι → ι → Prop} [DecidableRel link] {issuer : ι} {s : State ι α}

omit [DecidableEq ι] [DecidableRel link] in
theorem Safe.empty : Safe link issuer (State.empty : State ι α) where
  distinct := List.nodup_nil
  logged _ := List.prefix_rfl
  sent _ := List.prefix_rfl
  silent _ _ _ := rfl
  flow _ _ _ := ⟨[], rfl, List.prefix_rfl⟩

omit [DecidableEq ι] [DecidableRel link] in
theorem Safe.head {m n : ι} {a : α} {rest : List α} (safe : Safe link issuer s)
    (head : s.chan m n = a :: rest) : link m n ∧ ∃ delivered,
      s.sent m = (delivered ++ [a]) ++ rest ∧ delivered <+: s.log n ∧
      delivered ++ [a] <+: s.log issuer := by
  have linked : link m n := by
    by_contra apart
    rw [safe.silent m n apart] at head
    cases head
  obtain ⟨delivered, same, inside⟩ := safe.flow m n linked
  rw [head, List.append_cons] at same
  refine ⟨linked, delivered, same, inside, ?_⟩
  exact (same ▸ List.prefix_append _ _).trans ((safe.sent m).trans (safe.logged m))

omit [DecidableEq ι] [DecidableRel link] in
theorem Safe.next {m n : ι} {a : α} {rest : List α} (safe : Safe link issuer s)
    (head : s.chan m n = a :: rest) (fresh : a ∉ s.log n) :
    n ≠ issuer ∧ s.log n ++ [a] <+: s.log issuer := by
  obtain ⟨_, delivered, _, inside, ahead⟩ := safe.head head
  refine ⟨?_, ?_⟩
  · intro same
    rw [same] at fresh
    exact fresh (ahead.subset (by simp))
  · rcases prefix_or_eq ahead (safe.logged n) inside with past | same
    · exact (fresh (past.subset (by simp))).elim
    · rwa [same]

theorem State.prefix_append (s : State ι α) (n : ι) (a : α) (k : ι) :
    s.log k <+: (s.append n a).log k := by
  by_cases same : k = n
  · subst k
    simp [State.append]
  · simp [State.append, same]

omit [DecidableRel link] in
theorem Safe.append {n : ι} {a : α} (safe : Safe link issuer s)
    (distinct : ((s.append n a).log issuer).Nodup)
    (logged : ∀ k, (s.append n a).log k <+: (s.append n a).log issuer) :
    Safe link issuer (s.append n a) where
  distinct := distinct
  logged := logged
  sent k := (safe.sent k).trans (s.prefix_append n a k)
  silent := safe.silent
  flow m k linked := by
    obtain ⟨delivered, same, inside⟩ := safe.flow m k linked
    exact ⟨delivered, same, inside.trans (s.prefix_append n a k)⟩

omit [DecidableRel link] in
theorem Safe.append_of_prefix {n : ι} {a : α} (safe : Safe link issuer s) (other : n ≠ issuer)
    (next : s.log n ++ [a] <+: s.log issuer) : Safe link issuer (s.append n a) := by
  have root : (s.append n a).log issuer = s.log issuer := by
    simp [State.append, Ne.symm other]
  refine safe.append (root ▸ safe.distinct) ?_
  intro k
  rw [root]
  by_cases same : k = n
  · subst k
    simpa [State.append] using next
  · simpa [State.append, same] using safe.logged k

omit [DecidableRel link] in
theorem Safe.take {m n : ι} {a : α} {rest : List α} (safe : Safe link issuer s)
    (head : s.chan m n = a :: rest) (known : a ∈ s.log n) :
    Safe link issuer (s.take m n rest) := by
  obtain ⟨linked, delivered, split, inside, ahead⟩ := safe.head head
  refine ⟨safe.distinct, safe.logged, safe.sent, ?_, ?_⟩
  · intro p q apart
    have elsewhere : ¬ (p = m ∧ q = n) := by
      rintro ⟨rfl, rfl⟩
      exact apart linked
    have before := safe.silent p q apart
    by_cases source : p = m
    · subst source
      have target : q ≠ n := fun same => elsewhere ⟨rfl, same⟩
      simpa [State.take, target] using before
    · simpa [State.take, source] using before
  · intro p q other
    by_cases source : p = m
    · subst source
      by_cases target : q = n
      · subst target
        refine ⟨delivered ++ [a], by simpa [State.take] using split, ?_⟩
        exact (concat_prefix_iff_mem safe.distinct ahead (safe.logged q) inside).mpr known
      · simpa [State.take, target] using safe.flow p q other
    · simpa [State.take, source] using safe.flow p q other

omit [DecidableRel link] in
theorem Safe.issue {a : α} (safe : Safe link issuer s) (fresh : a ∉ s.log issuer) :
    Safe link issuer (s.append issuer a) := by
  have root : (s.append issuer a).log issuer = s.log issuer ++ [a] := by simp [State.append]
  refine safe.append ?_ ?_
  · rw [root, List.nodup_append]
    refine ⟨safe.distinct, List.nodup_singleton a, ?_⟩
    intro b member c single same
    rw [List.mem_singleton] at single
    rw [same, single] at member
    exact fresh member
  · intro k
    by_cases same : k = issuer
    · rw [same]
    · rw [root]
      simpa [State.append, same] using (safe.logged k).trans (List.prefix_append _ _)

theorem Safe.send {n : ι} {a : α} (safe : Safe link issuer s) (next : s.sent n ++ [a] <+: s.log n) :
    Safe link issuer (s.send link n a) := by
  refine ⟨safe.distinct, safe.logged, ?_, ?_, ?_⟩
  · intro k
    by_cases same : k = n
    · subst k
      simpa [State.send] using next
    · simpa [State.send, same] using safe.sent k
  · intro m k apart
    simpa [State.send, apart] using safe.silent m k apart
  · intro m k linked
    obtain ⟨delivered, same, inside⟩ := safe.flow m k linked
    refine ⟨delivered, ?_, inside⟩
    by_cases source : m = n
    · subst m
      simp [State.send, linked, same]
    · simpa [State.send, source] using same

theorem Safe.step {s' : State ι α} (safe : Safe link issuer s) (step : Step link issuer s s') :
    Safe link issuer s' := by
  cases step with
  | issue fresh => exact safe.issue fresh
  | send next => exact safe.send next
  | drop head known => exact safe.take head known
  | accept head fresh =>
    obtain ⟨other, next⟩ := safe.next head fresh
    exact (safe.append_of_prefix other next).take head (by simp [State.append])

theorem Reachable.safe (reached : Reachable link issuer s) : Safe link issuer s := by
  induction reached with
  | refl => exact Safe.empty
  | tail _ step ih => exact ih.step step

omit [DecidableEq ι] [DecidableRel link] in
/-- Once every log is sent and every link is empty, the nodes the issuer reaches agree with it. -/
theorem Safe.agree {n : ι} (safe : Safe link issuer s) (done : ∀ m, s.sent m = s.log m)
    (arrived : ∀ m k, s.chan m k = []) (path : Relation.ReflTransGen link issuer n) :
    s.log n = s.log issuer := by
  induction path with
  | refl => rfl
  | @tail m k _ linked ih =>
    obtain ⟨delivered, same, inside⟩ := safe.flow m k linked
    rw [arrived m k, List.append_nil, done m, ih] at same
    rw [← same] at inside
    exact (safe.logged k).eq_of_length_le inside.length_le

end Flood
