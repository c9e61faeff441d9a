import Kaonic.Base.Tasks

/-!
# Tasks that keep files up to date

A task loads a file, computes from it what other files should hold, and rewrites those that differ.
Each access to a file is a step of its own, any of them can fail, and a rewrite that is cut short
leaves the file empty or half written.
-/

structure StoredFile where
  content : List UInt8
  restricted : Bool := false
  deriving DecidableEq

abbrev Files (ρ : Type) := ρ → Option StoredFile

namespace FileTasks

def contentOf {ρ : Type} (files : Files ρ) (p : ρ) : Option (List UInt8) :=
  (files p).map StoredFile.content

/-- What a task has still to do. `load` reads a file and goes on from there. -/
inductive Access (ρ κ : Type) where
  | makeDir
  | load (k : κ)
  | compare (p : ρ) (content : List UInt8)
  | truncate (p : ρ) (content : List UInt8)
  | fill (p : ρ) (content : List UInt8)
  | restrict (p : ρ)

inductive Phase (ρ κ : Type) where
  | running (todo : List (Access ρ κ))
  | failed (err : String)

def Phase.idle {ρ κ : Type} : Phase ρ κ → Bool
  | .running (_ :: _) => false
  | _ => true

/-- How one access turns out. One that fails has `written` bytes in the file if it was writing. -/
structure Input (τ : Type) where
  error : Option String := none
  written : Nat := 0
  draw : τ

structure Program (o ρ κ τ : Type) where
  plan : o → List (Access ρ κ)
  reads : κ → ρ
  resume : κ → Option (List UInt8) → τ → Except String (List (Access ρ κ))

/-- The bytes at the start of a file. -/
def overlay (bytes old : List UInt8) : List UInt8 := bytes ++ old.drop bytes.length

section

variable {ι o ρ κ τ : Type} [DecidableEq ρ] (prog : Program o ρ κ τ)

def put (files : Files ρ) (p : ρ) (bytes : List UInt8) : Files ρ :=
  Function.update files p (some
    { content := overlay bytes ((contentOf files p).getD [])
      restricted := (files p).any StoredFile.restricted })

def clear (files : Files ρ) (p : ρ) : Files ρ :=
  Function.update files p (some
    { content := [], restricted := (files p).any StoredFile.restricted })

def advance (input : Input τ) (files : Files ρ) : Phase ρ κ → Files ρ × Phase ρ κ
  | .failed err => (files, .failed err)
  | .running [] => (files, .running [])
  | .running (.makeDir :: rest) =>
    match input.error with
    | some err => (files, .failed err)
    | none => (files, .running rest)
  | .running (.load k :: rest) =>
    match input.error with
    | some err => (files, .failed err)
    | none =>
      match prog.resume k (contentOf files (prog.reads k)) input.draw with
      | .ok more => (files, .running (more ++ rest))
      | .error err => (files, .failed err)
  | .running (.compare p content :: rest) =>
    -- a file that cannot be read counts as one that differs
    if input.error = none ∧ contentOf files p = some content then (files, .running rest)
    else (files, .running (.truncate p content :: rest))
  | .running (.truncate p content :: rest) =>
    match input.error with
    | some err => (files, .failed err)
    | none => (clear files p, .running (.fill p content :: rest))
  | .running (.fill p content :: rest) =>
    match input.error with
    | some err => (put files p (content.take input.written), .failed err)
    | none => (put files p content, .running rest)
  | .running (.restrict p :: rest) =>
    match input.error, files p with
    | some err, _ => (files, .failed err)
    | none, none => (files, .failed "No such file or directory (os error 2)")
    | none, some f =>
      (Function.update files p (some { f with restricted := true }), .running rest)

def tasks : TaskSystem ι (Files ρ) (Phase ρ κ) o (Input τ) where
  idle := Phase.idle
  call _ op := .running (prog.plan op)
  advance _ := advance prog

/-- The accesses of one task while no other is there. -/
def alone (files : Files ρ) (todo : List (Access ρ κ)) (inputs : List (Input τ)) :
    Files ρ × Phase ρ κ :=
  inputs.foldl (fun r input => advance prog input r.1 r.2) (files, .running todo)

end

/-! ### What files can come to hold -/

/-- A content that rewrites leave that put in good contents, each whole or cut short, one over the
other. -/
inductive Woven (good : List UInt8 → Prop) (start : List UInt8) : List UInt8 → Prop where
  | refl : Woven good start start
  | cleared {content old : List UInt8} (ok : good content) (before : Woven good start old) :
      Woven good start []
  | filled {content old : List UInt8} (ok : good content) (n : Nat) (before : Woven good start old) :
      Woven good start (overlay (content.take n) old)

theorem Woven.trans {good : List UInt8 → Prop} {a b c : List UInt8} (first : Woven good a b)
    (second : Woven good b c) : Woven good a c := by
  induction second with
  | refl => exact first
  | cleared ok _ ih => exact .cleared ok ih
  | filled ok n _ ih => exact .filled ok n ih

theorem Woven.eq_of_none {good : List UInt8 → Prop} {a b : List UInt8} (none_ : ∀ c, ¬ good c)
    (woven : Woven good a b) : b = a := by
  cases woven with
  | refl => rfl
  | cleared ok _ => exact (none_ _ ok).elim
  | filled ok _ _ => exact (none_ _ ok).elim

section

variable {ρ : Type}

/-- From one state of the files to a later one: contents are woven of good ones, no file is opened up
or lost, and none is made without such a content. -/
structure Later (good : ρ → List UInt8 → Prop) (files later : Files ρ) : Prop where
  woven : ∀ p, Woven (good p) ((contentOf files p).getD []) ((contentOf later p).getD [])
  restricted : ∀ p, (files p).any StoredFile.restricted = true →
    (later p).any StoredFile.restricted = true
  present : ∀ p, (files p).isSome = true → (later p).isSome = true
  absent : ∀ p, (∀ c, ¬ good p c) → files p = none → later p = none

theorem Later.refl {good : ρ → List UInt8 → Prop} (files : Files ρ) : Later good files files :=
  ⟨fun _ => .refl, fun _ => id, fun _ => id, fun _ _ => id⟩

theorem Later.trans {good : ρ → List UInt8 → Prop} {a b c : Files ρ} (first : Later good a b)
    (second : Later good b c) : Later good a c :=
  ⟨fun p => (first.woven p).trans (second.woven p),
    fun p => second.restricted p ∘ first.restricted p,
    fun p => second.present p ∘ first.present p,
    fun p never => second.absent p never ∘ first.absent p never⟩

/-- A file that nothing is put into stays, whatever happens to the others. -/
theorem Later.untouched {good : ρ → List UInt8 → Prop} {files later : Files ρ}
    (step : Later good files later) {p : ρ} (never : ∀ c, ¬ good p c) :
    contentOf later p = contentOf files p := by
  unfold contentOf
  cases here : files p with
  | none => rw [step.absent p never here]
  | some f =>
    obtain ⟨f', there⟩ := Option.isSome_iff_exists.mp (step.present p (by rw [here]; rfl))
    have same := (step.woven p).eq_of_none never
    simp only [contentOf, here, there, Option.map_some, Option.getD_some] at same
    rw [there, Option.map_some, Option.map_some, same]

variable [DecidableEq ρ]

theorem Later.update {good : ρ → List UInt8 → Prop} (files : Files ρ) (p : ρ) {f : StoredFile}
    (woven : Woven (good p) ((contentOf files p).getD []) f.content)
    (restricted : (files p).any StoredFile.restricted = true → f.restricted = true)
    (made : files p = none → ∃ c, good p c) :
    Later good files (Function.update files p (some f)) := by
  refine ⟨fun q => ?_, fun q => ?_, fun q => ?_, fun q => ?_⟩
  all_goals by_cases same : q = p
  · subst same
    simpa [contentOf] using woven
  · simpa [contentOf, Function.update_of_ne same] using Woven.refl
  · subst same
    simpa using restricted
  · rw [Function.update_of_ne same]
    exact id
  · subst same
    simp
  · rw [Function.update_of_ne same]
    exact id
  · subst same
    intro never none_
    obtain ⟨c, ok⟩ := made none_
    exact (never c ok).elim
  · rw [Function.update_of_ne same]
    exact fun _ => id

end

/-! ### Tasks beside each other -/

section

variable {ι o ρ κ τ : Type} [DecidableEq ρ] {prog : Program o ρ κ τ}
  {good : ρ → List UInt8 → Prop} {start : Files ρ}

/-- What a pending access puts into a file is good for it. A file that tasks load is only compared
with what it holds. -/
def Access.Within (prog : Program o ρ κ τ) (good : ρ → List UInt8 → Prop) (start : Files ρ) :
    Access ρ κ → Prop
  | .makeDir | .load _ | .restrict _ => True
  | .compare p content =>
    good p content ∨ (∃ k, p = prog.reads k) ∧ contentOf start p = some content
  | .truncate p content | .fill p content => good p content

def Phase.Within (prog : Program o ρ κ τ) (good : ρ → List UInt8 → Prop) (start : Files ρ) :
    Phase ρ κ → Prop
  | .running todo => ∀ a ∈ todo, a.Within prog good start
  | .failed _ => True

/-- Nothing is put into the files that tasks load, and what tasks make of them is good. -/
structure Settled (prog : Program o ρ κ τ) (good : ρ → List UInt8 → Prop) (start : Files ρ) :
    Prop where
  never : ∀ k c, ¬ good (prog.reads k) c
  plans : ∀ op, ∀ a ∈ prog.plan op, a.Within prog good start
  resumes : ∀ k draw more, prog.resume k (contentOf start (prog.reads k)) draw = .ok more →
    ∀ a ∈ more, a.Within prog good start

/-- The files that tasks load can be read whenever they are compared. -/
def Readable [DecidableEq ι] (prog : Program o ρ κ τ)
    (s : TaskSystem.State ι (Files ρ) (Phase ρ κ)) : TaskSystem.Event ι o (Input τ) → Prop
  | .call _ _ => True
  | .step i input => ∀ k content rest,
    s.phase i = .running (.compare (prog.reads k) content :: rest) → input.error = none

theorem advance_within (settled : Settled prog good start) {files : Files ρ} {phase : Phase ρ κ}
    {input : Input τ} (later : Later good start files) (within : phase.Within prog good start)
    (readable : ∀ k content rest, phase = .running (.compare (prog.reads k) content :: rest) →
      input.error = none) :
    Later good start (advance prog input files phase).1 ∧
      (advance prog input files phase).2.Within prog good start := by
  unfold advance
  split
  · exact ⟨later, trivial⟩
  · exact ⟨later, within⟩
  · split
    · exact ⟨later, trivial⟩
    · exact ⟨later, (List.forall_mem_cons.mp within).2⟩
  · rename_i k rest
    split
    · exact ⟨later, trivial⟩
    · split
      · rename_i more resumed
        rw [later.untouched (settled.never k)] at resumed
        refine ⟨later, fun a member => ?_⟩
        rcases List.mem_append.mp member with new | old
        · exact settled.resumes k _ more resumed a new
        · exact (List.forall_mem_cons.mp within).2 a old
      · exact ⟨later, trivial⟩
  · rename_i p content rest
    obtain ⟨first, others⟩ := List.forall_mem_cons.mp within
    split
    · exact ⟨later, others⟩
    · rename_i differs
      refine ⟨later, List.forall_mem_cons.mpr ⟨?_, others⟩⟩
      rcases first with ok | ⟨⟨k, rfl⟩, held⟩
      · exact ok
      · rw [later.untouched (settled.never k), readable k content rest rfl] at differs
        exact (differs ⟨rfl, held⟩).elim
  · rename_i p content rest
    obtain ⟨ok, others⟩ := List.forall_mem_cons.mp within
    split
    · exact ⟨later, trivial⟩
    · refine ⟨later.trans (.update files p ?_ id fun _ => ⟨_, ok⟩), List.forall_mem_cons.mpr ⟨ok, others⟩⟩
      exact .cleared ok .refl
  · rename_i p content rest
    obtain ⟨ok, others⟩ := List.forall_mem_cons.mp within
    split
    · refine ⟨later.trans (.update files p ?_ id fun _ => ⟨_, ok⟩), trivial⟩
      exact .filled ok input.written .refl
    · refine ⟨later.trans (.update files p ?_ id fun _ => ⟨_, ok⟩), others⟩
      have whole : Woven (good p) ((contentOf files p).getD [])
          (overlay (content.take content.length) ((contentOf files p).getD [])) :=
        .filled ok content.length .refl
      rwa [List.take_length] at whole
  · rename_i p rest
    obtain ⟨_, others⟩ := List.forall_mem_cons.mp within
    split
    · exact ⟨later, trivial⟩
    · exact ⟨later, trivial⟩
    · rename_i f here
      refine ⟨later.trans (.update files p ?_ (fun _ => rfl) ?_), others⟩
      · rw [contentOf, here]
        exact .refl
      · intro none_
        rw [here] at none_
        cases none_

/-- Starts of the tasks, each after what has become of all tasks before it. -/
inductive Reboots (ι : Type) [DecidableEq ι] (prog : Program o ρ κ τ)
    (allowed : TaskSystem.State ι (Files ρ) (Phase ρ κ) → TaskSystem.Event ι o (Input τ) → Prop) :
    Files ρ → Files ρ → Prop where
  | none (files : Files ρ) : Reboots ι prog allowed files files
  | boot {files later : Files ρ} {events : List (TaskSystem.Event ι o (Input τ))}
      {s : TaskSystem.State ι (Files ρ) (Phase ρ κ)}
      (path : TaskSystem.Path (tasks prog) allowed ⟨files, fun _ => .running []⟩ events s)
      (rest : Reboots ι prog allowed s.shared later) : Reboots ι prog allowed files later

variable [DecidableEq ι]

theorem path_later (settled : Settled prog good start)
    {s s' : TaskSystem.State ι (Files ρ) (Phase ρ κ)}
    {events : List (TaskSystem.Event ι o (Input τ))}
    (path : TaskSystem.Path (tasks prog) (Readable prog) s events s')
    (later : Later good start s.shared) (within : ∀ i, (s.phase i).Within prog good start) :
    Later good start s'.shared ∧ ∀ i, (s'.phase i).Within prog good start := by
  refine path.kept (fun s => Later good start s.shared ∧ ∀ i, (s.phase i).Within prog good start)
    ?_ ⟨later, within⟩
  rintro s e s' ⟨later, within⟩ readable stepped
  obtain ⟨i, op, rfl, _, rfl⟩ | ⟨i, input, rfl, _, rfl⟩ := TaskSystem.step_cases stepped
  · refine ⟨later, (Function.forall_update_iff s.phase
      fun _ p => p.Within prog good start).mpr ⟨settled.plans op, fun j _ => within j⟩⟩
  · have own := advance_within settled later (within i) readable
    exact ⟨own.1, (Function.forall_update_iff s.phase
      fun _ p => p.Within prog good start).mpr ⟨own.2, fun j _ => within j⟩⟩

/-- However the tasks take turns, fail and are cut off, nothing but good contents gets into files. -/
theorem Reboots.later (settled : Settled prog good start) {files files' : Files ρ}
    (reboots : Reboots ι prog (Readable prog) files files') (later : Later good start files) :
    Later good start files' := by
  induction reboots with
  | none => exact later
  | boot path _ ih =>
    exact ih (path_later settled path later fun _ _ member => (List.not_mem_nil member).elim).1

end

/-! ### Loads that fail -/

section

variable {ι o ρ κ τ : Type}

/-- A load comes before any file is touched. -/
def Phase.Loads : Phase ρ κ → Prop
  | .running todo => (∀ a ∈ todo, a = .makeDir ∨ ∃ k, a = .load k) ∧ ∃ k, .load k ∈ todo
  | .failed _ => True

theorem Phase.Loads.ne_done {phase : Phase ρ κ} (loads : phase.Loads) : phase ≠ .running [] := by
  rintro rfl
  obtain ⟨_, k, member⟩ := loads
  cases member

variable [DecidableEq ρ] {prog : Program o ρ κ τ} {files : Files ρ}

/-- No call gets beyond its first load. -/
structure Barred (prog : Program o ρ κ τ) (files : Files ρ) : Prop where
  plans : ∀ op, Phase.Loads (.running (prog.plan op))
  fails : ∀ k draw more, prog.resume k (contentOf files (prog.reads k)) draw ≠ .ok more

theorem advance_loads (barred : Barred prog files) {phase : Phase ρ κ} (loads : phase.Loads)
    (input : Input τ) : (advance prog input files phase).1 = files ∧
      (advance prog input files phase).2.Loads := by
  cases phase with
  | failed err => exact ⟨rfl, trivial⟩
  | running todo =>
    cases todo with
    | nil => exact ⟨rfl, loads⟩
    | cons a rest =>
      obtain ⟨reading, k, member⟩ := loads
      obtain ⟨first, others⟩ := List.forall_mem_cons.mp reading
      unfold advance
      rcases first with rfl | ⟨k', rfl⟩
      · dsimp only
        split
        · exact ⟨rfl, trivial⟩
        · refine ⟨rfl, others, k, ?_⟩
          simpa using member
      · dsimp only
        split
        · exact ⟨rfl, trivial⟩
        · split
          · rename_i more resumed
            exact (barred.fails k' _ more resumed).elim
          · exact ⟨rfl, trivial⟩

variable [DecidableEq ι] {s s' : TaskSystem.State ι (Files ρ) (Phase ρ κ)}
  {allowed : TaskSystem.State ι (Files ρ) (Phase ρ κ) → TaskSystem.Event ι o (Input τ) → Prop}

theorem Barred.step (barred : Barred prog files) {e : TaskSystem.Event ι o (Input τ)}
    (stepped : (tasks prog).step s e = some s') (same : s.shared = files)
    (phases : ∀ i, s.phase i = .running [] ∨ (s.phase i).Loads) :
    s'.shared = files ∧ (∀ i, s'.phase i = .running [] ∨ (s'.phase i).Loads) ∧
      ∀ i, ((s.phase i).Loads ∨ ∃ op, e = .call i op) → (s'.phase i).Loads := by
  obtain ⟨i, op, rfl, _, rfl⟩ | ⟨i, input, rfl, busy, rfl⟩ := TaskSystem.step_cases stepped
  · have begins : ((tasks prog).call (ι := ι) s.shared op).Loads := barred.plans op
    refine ⟨same, (Function.forall_update_iff s.phase
      fun _ p => p = .running [] ∨ p.Loads).mpr ⟨Or.inr begins, fun j _ => phases j⟩, ?_⟩
    intro j before
    dsimp only
    by_cases own : j = i
    · subst own
      rw [Function.update_self]
      exact begins
    · rw [Function.update_of_ne own]
      rcases before with loads | ⟨other, called⟩
      · exact loads
      · cases called
        exact (own rfl).elim
  · have loads : (s.phase i).Loads := by
      rcases phases i with idle | loads
      · rw [idle] at busy
        cases busy
      · exact loads
    have own := advance_loads barred loads input
    rw [← same] at own
    refine ⟨own.1.trans same, (Function.forall_update_iff s.phase
      fun _ p => p = .running [] ∨ p.Loads).mpr ⟨Or.inr own.2, fun j _ => phases j⟩, ?_⟩
    intro j before
    dsimp only
    by_cases mine : j = i
    · subst mine
      rw [Function.update_self]
      exact own.2
    · rw [Function.update_of_ne mine]
      rcases before with loads | ⟨op, called⟩
      · exact loads
      · cases called

/-- However the tasks take turns, no file changes and no call completes. -/
theorem Barred.path (barred : Barred prog files)
    {events : List (TaskSystem.Event ι o (Input τ))}
    (path : TaskSystem.Path (tasks prog) allowed s events s') (same : s.shared = files)
    (phases : ∀ i, s.phase i = .running [] ∨ (s.phase i).Loads) :
    s'.shared = files ∧
      ∀ i, ((s.phase i).Loads ∨ ∃ op, .call i op ∈ events) → (s'.phase i).Loads := by
  induction path with
  | nil s =>
    refine ⟨same, ?_⟩
    rintro i (loads | ⟨op, called⟩)
    · exact loads
    · cases called
  | cons _ stepped _ ih =>
    obtain ⟨same, phases, next⟩ := barred.step stepped same phases
    obtain ⟨shared, loads⟩ := ih same phases
    refine ⟨shared, ?_⟩
    rintro i (before | ⟨op, called⟩)
    · exact loads i (Or.inl (next i (Or.inl before)))
    · rcases List.mem_cons.mp called with first | later
      · exact loads i (Or.inl (next i (Or.inr ⟨op, first.symm⟩)))
      · exact loads i (Or.inr ⟨op, later⟩)

theorem Barred.reboots (barred : Barred prog files) {later : Files ρ}
    (reboots : Reboots ι prog allowed files later) : later = files := by
  induction reboots with
  | none => rfl
  | boot path _ ih =>
    obtain ⟨same, _⟩ := barred.path path rfl fun _ => Or.inl rfl
    rw [same] at ih
    exact ih barred

end

/-! ### One task alone -/

section

variable {o ρ κ τ : Type} [DecidableEq ρ] {prog : Program o ρ κ τ} {D : τ → Prop}
  {files files' : Files ρ} {rest : List (Access ρ κ)}

/-- A task does what it has to do, alone and with such draws. -/
def Completes (prog : Program o ρ κ τ) (D : τ → Prop) (files : Files ρ) (todo : List (Access ρ κ))
    (files' : Files ρ) : Prop :=
  ∃ inputs : List (Input τ), (∀ input ∈ inputs, D input.draw) ∧
    alone prog files todo inputs = (files', .running [])

theorem foldl_idle {phase : Phase ρ κ} (idle : phase.idle = true) (inputs : List (Input τ)) :
    inputs.foldl (fun r input => advance prog input r.1 r.2) (files, phase) = (files, phase) := by
  induction inputs with
  | nil => rfl
  | cons input later ih =>
    have stays : advance prog input files phase = (files, phase) := by
      cases phase with
      | failed err => rfl
      | running todo =>
        cases todo with
        | nil => rfl
        | cons a rest => cases idle
    rw [List.foldl_cons, stays, ih]

theorem Completes.nil (completes : Completes prog D files [] files') : files' = files := by
  obtain ⟨inputs, _, done⟩ := completes
  exact (congrArg Prod.fst ((foldl_idle rfl inputs).symm.trans done)).symm

/-- The first access of a task that completes. -/
theorem Completes.first {a : Access ρ κ} (completes : Completes prog D files (a :: rest) files') :
    ∃ input mid todo, D input.draw ∧
      advance prog input files (.running (a :: rest)) = (mid, .running todo) ∧
      Completes prog D mid todo files' := by
  obtain ⟨inputs, draws, done⟩ := completes
  cases inputs with
  | nil => cases done
  | cons input later =>
    obtain ⟨draw, draws⟩ := List.forall_mem_cons.mp draws
    unfold alone at done
    rw [List.foldl_cons] at done
    cases first : advance prog input files (.running (a :: rest)) with
    | mk mid phase =>
      dsimp only at done
      rw [first] at done
      cases phase with
      | failed err =>
        rw [foldl_idle rfl] at done
        cases done
      | running todo => exact ⟨input, mid, todo, draw, first, later, draws, done⟩

theorem Completes.makeDir (completes : Completes prog D files (.makeDir :: rest) files') :
    Completes prog D files rest files' := by
  obtain ⟨input, mid, todo, _, first, later⟩ := completes.first
  unfold advance at first
  dsimp only at first
  split at first
  · cases first
  · cases first
    exact later

theorem Completes.load {k : κ} (completes : Completes prog D files (.load k :: rest) files') :
    ∃ draw more, D draw ∧ prog.resume k (contentOf files (prog.reads k)) draw = .ok more ∧
      Completes prog D files (more ++ rest) files' := by
  obtain ⟨input, mid, todo, draw, first, later⟩ := completes.first
  unfold advance at first
  dsimp only at first
  split at first
  · cases first
  · split at first
    · rename_i more resumed
      cases first
      exact ⟨input.draw, more, draw, resumed, later⟩
    · cases first

/-- A file after it was brought to a content. -/
def install (files : Files ρ) (p : ρ) (content : List UInt8) : Files ρ :=
  Function.update files p (some
    { content, restricted := (files p).any StoredFile.restricted })

theorem Completes.compare {p : ρ} {content : List UInt8}
    (completes : Completes prog D files (.compare p content :: rest) files') :
    Completes prog D (install files p content) rest files' := by
  obtain ⟨input, mid, todo, _, first, later⟩ := completes.first
  unfold advance at first
  dsimp only at first
  split at first
  · rename_i same
    cases first
    obtain ⟨f, here, rfl⟩ := Option.map_eq_some_iff.mp same.2
    have kept : install files p f.content = files := by
      rw [install, here, Option.any_some, ← here]
      exact Function.update_eq_self p files
    rw [kept]
    exact later
  · cases first
    obtain ⟨input, mid, todo, _, first, later⟩ := later.first
    unfold advance at first
    dsimp only at first
    split at first
    · cases first
    cases first
    obtain ⟨input, mid, todo, _, first, later⟩ := later.first
    unfold advance at first
    dsimp only at first
    split at first
    · cases first
    cases first
    have filled : put (clear files p) p content = install files p content := by
      simp [put, clear, install, contentOf, overlay]
    rwa [filled] at later

theorem Completes.restrict {p : ρ}
    (completes : Completes prog D files (.restrict p :: rest) files') :
    ∃ f, files p = some f ∧
      Completes prog D (Function.update files p (some { f with restricted := true })) rest files' := by
  obtain ⟨input, mid, todo, _, first, later⟩ := completes.first
  unfold advance at first
  dsimp only at first
  split at first
  · cases first
  · cases first
  · rename_i f _ here
    cases first
    exact ⟨f, here, later⟩

end

end FileTasks
