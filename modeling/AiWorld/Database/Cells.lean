import AiWorld.Database.Isolation

set_option autoImplicit false

namespace AiWorld.Database

variable {pid other : Nat}

-- A row that is never deleted and keeps the columns that `pins` compares.
def Persists {α : Type} (pins : α → α → Prop) : Option α → Option α → Prop
  | none, _ => True
  | some _, none => False
  | some before, some after => pins before after

variable {α : Type} {pins : α → α → Prop}

theorem persists_refl (refl : ∀ row, pins row row) (row : Option α) : Persists pins row row := by
  cases row with
  | none => trivial
  | some row => exact refl row

theorem persists_trans (trans : ∀ a b c, pins a b → pins b c → pins a c) (a : Option α) {b : Option α} (c : Option α)
    (first : Persists pins a b) (second : Persists pins b c) : Persists pins a c := by
  cases a with
  | none => trivial
  | some before =>
      cases b with
      | none => exact first.elim
      | some middle =>
          cases c with
          | none => exact second.elim
          | some after => exact trans before middle after first second

theorem persists_map {columns : α → α} (sets : ∀ row, pins row (columns row)) (row : Option α) :
    Persists pins row (row.map columns) := by
  cases row with
  | none => trivial
  | some row => exact sets row

theorem persists_found {row : α} {after : Option α} (persists : Persists pins (some row) after) :
    ∃ found, after = some found ∧ pins row found := by
  cases after with
  | none => exact persists.elim
  | some found => exact ⟨found, rfl, persists⟩

section
variable {Key : Type} {Row : Key → Type} {Index Note : Type}

-- The locks that stand behind a change of a row: FOR UPDATE and KEY SHARE.
structure Locks (Key : Type) where
  strong : Key → Prop
  shared : Key → Prop

def Locks.Within (held more : Locks Key) : Prop :=
  (∀ key, held.strong key → more.strong key) ∧ ∀ key, held.shared key → more.shared key

def Locks.sharing (held : Locks Key) (keys : List Key) : Locks Key :=
  ⟨held.strong, fun key => key ∈ keys ∨ held.shared key⟩

theorem locks_sharing_nil (held : Locks Key) : held.sharing [] = held := by simp [Locks.sharing]

def Server.locks (pid : Nat) (s : Server Row Index Note) : Locks Key :=
  ⟨fun key => s.keyLock key = some pid, fun key => pid ∈ s.shares key⟩

-- The most that all the others can hold.
def Server.apart (pid : Nat) (s : Server Row Index Note) : Locks Key :=
  ⟨fun key => s.keyLock key ≠ some pid ∧ pid ∉ s.shares key, fun key => s.keyLock key ≠ some pid⟩

@[simp] theorem Server.stages_locks (pid other : Nat) (s : Server Row Index Note) (write : Write Row) :
    (s.stages pid write).locks other = s.locks other := rfl

-- How one row may change, from what is committed to what a transaction sees of it,
-- under the locks the transaction holds.
structure CellRule (Row : Key → Type) where
  allows : Locks Key → (key : Key) → Option (Row key) → Option (Row key) → Prop
  refl : ∀ held key row, allows held key row row
  mono : ∀ held more key before after, held.Within more → allows held key before after → allows more key before after

theorem others_apart {s : Server Row Index Note} (tidy : Tidy s) (different : other ≠ pid) :
    (s.locks pid).Within (s.apart other) := by
  refine ⟨fun key held => ⟨fun mine => ?_, fun sharing => ?_⟩, fun key sharing mine => ?_⟩
  · exact different (Option.some.inj (mine.symm.trans held))
  · exact different (tidy.exclusive key pid held other sharing)
  · exact different (tidy.exclusive key other mine pid sharing).symm

end

section
variable {Key : Type} [DecidableEq Key] {Row : Key → Type} {Index Note : Type}
variable {s t : Server Row Index Note} {stmt : Stmt Row Note}

theorem locks_undisturbed (moved : Undisturbed pid s t) : t.locks pid = s.locks pid := by
  simp only [Server.locks, moved.keyLock, moved.shares]

theorem apart_undisturbed (moved : Undisturbed pid s t) : t.apart pid = s.apart pid := by
  simp only [Server.apart, ne_eq, moved.keyLock, moved.shares]

def Related (rule : CellRule Row) (s : Server Row Index Note) : Prop :=
  ∀ pid key, rule.allows (s.locks pid) key (s.db.lookup key) ((s.view pid).lookup key)

theorem related_start (rule : CellRule Row) (quiet : ∀ pid, s.staged pid = []) : Related rule s := by
  intro pid key
  simpa [Server.view, quiet pid] using rule.refl _ key _

-- What a transaction may see the others do to the rows: they change them by the rule,
-- with no lock that the transaction's own locks exclude.
structure Steady (rule : CellRule Row) (pid : Nat) (s t : Server Row Index Note) : Prop where
  undisturbed : Undisturbed pid s t
  committed : ∀ key, rule.allows (s.apart pid) key (s.db.lookup key) (t.db.lookup key)
  seen : ∀ key, rule.allows (s.apart pid) key ((s.view pid).lookup key) ((t.view pid).lookup key)

theorem steady_refl (rule : CellRule Row) (pid : Nat) (s : Server Row Index Note) : Steady rule pid s s :=
  ⟨undisturbed_refl pid s, fun key => rule.refl _ key _, fun key => rule.refl _ key _⟩

theorem steady_trans (rule : CellRule Row)
    (trans : ∀ held key a b c, rule.allows held key a b → rule.allows held key b c → rule.allows held key a c) (pid : Nat)
    (s t u : Server Row Index Note) (first : Steady rule pid s t) (second : Steady rule pid t u) : Steady rule pid s u where
  undisturbed := undisturbed_trans pid s t u first.undisturbed second.undisturbed
  committed := fun key => trans _ key _ _ _ (first.committed key)
    (apart_undisturbed first.undisturbed ▸ second.committed key)
  seen := fun key => trans _ key _ _ _ (first.seen key) (apart_undisturbed first.undisturbed ▸ second.seen key)

variable [DecidableEq Index]

def Respects (rule : CellRule Row) (schema : Schema Row Index) (pid : Nat) (stmt : Stmt Row Note)
    (s : Server Row Index Note) : Prop :=
  ∀ write, stmt.write = some write → stmt.applies schema (s.view pid) →
    rule.allows ((s.locks pid).sharing (stmt.sharing schema)) write.key (s.db.lookup write.key)
      (write.cell ((s.view pid).lookup write.key))

variable {rule : CellRule Row} {schema : Schema Row Index}

theorem respects_insert {pid : Nat} {key : Key} {row : Row key}
    (kept : schema.accepts key row (s.view pid) = true →
      rule.allows ((s.locks pid).sharing (schema.references key row)) key (s.db.lookup key) (some row)) :
    Respects rule schema pid (.insert key row) s := by
  rintro _ ⟨⟩ accepted
  exact kept accepted

theorem respects_update {pid : Nat} {key : Key} {loaded : Row key} {columns : Row key → Row key}
    (kept : rule.allows (s.locks pid) key (s.db.lookup key) (((s.view pid).lookup key).map columns)) :
    Respects rule schema pid (.update key loaded columns) s := by
  rintro _ ⟨⟩ _
  simp only [Stmt.sharing, locks_sharing_nil]
  exact kept

theorem respects_update_where {pid : Nat} {key : Key} {holds : Row key → Bool}
    {columns : Row key → Row key} (kept : ∀ row, (s.view pid).lookup key = some row → holds row = true →
      rule.allows (s.locks pid) key (s.db.lookup key) (some (columns row))) :
    Respects rule schema pid (.updateWhere key holds columns) s := by
  rintro _ ⟨⟩ ⟨row, found, wanted⟩
  have changed : (Write.change key columns).cell ((s.view pid).lookup key) = some (columns row) := by
    rw [found]
    rfl
  simp only [Stmt.sharing, locks_sharing_nil]
  exact changed ▸ kept row found wanted

theorem respects_delete {pid : Nat} {key : Key} (kept : rule.allows (s.locks pid) key (s.db.lookup key) none) :
    Respects rule schema pid (.delete key) s := by
  rintro _ ⟨⟩ _
  simp only [Stmt.sharing, locks_sharing_nil]
  exact kept

theorem respects_reading {pid : Nat} (reading : stmt.write = none) : Respects rule schema pid stmt s := by
  intro write issued
  rw [reading] at issued
  cases issued

-- A write that changes what its transaction sees by a transitive rule keeps the rule
-- against the committed row.
theorem respects_own {pid : Nat}
    (trans : ∀ held key a b c, rule.allows held key a b → rule.allows held key b c → rule.allows held key a c)
    (related : Related rule s) (own : ∀ write, stmt.write = some write → stmt.applies schema (s.view pid) →
      rule.allows (s.locks pid) write.key ((s.view pid).lookup write.key) (write.cell ((s.view pid).lookup write.key))) :
    Respects rule schema pid stmt s := by
  intro write issued applies
  refine rule.mono (s.locks pid) _ _ _ _ ⟨fun _ held => held, fun _ held => .inr held⟩ ?_
  exact trans _ _ _ _ _ (related pid write.key) (own write issued applies)

theorem grabs_locks (pid : Nat) (s : Server Row Index Note) (grab : Grab Key Index) (keys : List Key)
    (sharing : ∀ key ∈ keys, key ∈ grab.shared) : ((s.locks pid).sharing keys).Within ((s.grabs pid grab).locks pid) := by
  refine ⟨fun key held => ?_, fun key held => ?_⟩
  · by_cases asked : key ∈ grab.strong
    · simp [Server.locks, Server.grabs, asked]
    · simpa [Server.locks, Server.grabs, Locks.sharing, asked] using held
  · by_cases asked : key ∈ grab.shared
    · simp [Server.locks, Server.grabs, asked]
    · have old : pid ∈ s.shares key := held.elim (fun named => absurd (sharing key named) asked) id
      simpa [Server.locks, Server.grabs, asked] using old

theorem grabs_related (tidy : Tidy s) (related : Related rule s) {grab : Grab Key Index}
    (granted : s.grantable pid grab = true) : Related rule (s.grabs pid grab) := by
  intro other key
  by_cases same : other = pid
  · subst same
    have more := grabs_locks other s grab [] (by simp)
    rw [locks_sharing_nil] at more
    exact rule.mono _ _ key _ _ more (related other key)
  · rw [locks_undisturbed (grabs_undisturbed tidy granted same)]
    exact related other key

-- If every write keeps the rule against the committed row, so does every view, and a
-- commit changes the committed rows by the rule.
theorem move_related (tidy : Tidy s) (related : Related rule s) (respects : Respects rule schema pid stmt s)
    (move : Move schema pid stmt s t) :
    Related rule t ∧ ∀ key, rule.allows (s.locks pid) key (s.db.lookup key) (t.db.lookup key) := by
  cases move with
  | none => exact ⟨related, fun key => rule.refl _ key _⟩
  | grab grab granted => exact ⟨grabs_related tidy related granted, fun key => rule.refl _ key _⟩
  | write grab write granted covered issued applies sharing =>
      refine ⟨fun other key => ?_, fun key => rule.refl _ key _⟩
      have grabbed := grabs_related tidy related granted other key
      by_cases same : other = pid
      · subst same
        by_cases here : key = write.key
        · subst here
          have kept := rule.mono _ _ _ _ _ (grabs_locks other s grab _ sharing) (respects write issued applies)
          simpa [write.lookup_apply_self] using kept
        · simpa [write.lookup_apply_ne _ _ here] using grabbed
      · simpa [same] using grabbed
  | note note issued => exact ⟨related, fun key => rule.refl _ key _⟩
  | commit issued =>
      have tidyAfter := move_tidy schema pid stmt tidy (.commit issued)
      refine ⟨fun other key => ?_, fun key => related pid key⟩
      by_cases same : other = pid
      · subst same
        simpa using rule.refl _ key _
      · have undisturbed := move_undisturbed schema stmt tidy same (.commit issued)
        rw [locks_undisturbed undisturbed]
        by_cases held : s.rowLock key = some other
        · rw [view_undisturbed undisturbed held, undisturbed.rows key held]
          exact related other key
        · rw [view_unlocked tidyAfter (fun after => held ((undisturbed.rowLock key).mp after))]
          exact rule.refl _ key _
  | rollback issued =>
      refine ⟨fun other key => ?_, fun key => rule.refl _ key _⟩
      by_cases same : other = pid
      · subst same
        simpa using rule.refl _ key _
      · rw [locks_undisturbed (rollback_undisturbed pid other s same)]
        simpa [same] using related other key

theorem move_steady (tidy : Tidy s) (related : Related rule s) (respects : Respects rule schema pid stmt s)
    (different : other ≠ pid) (move : Move schema pid stmt s t) : Steady rule other s t := by
  have undisturbed := move_undisturbed schema stmt tidy different move
  have committed : ∀ key, rule.allows (s.apart other) key (s.db.lookup key) (t.db.lookup key) := fun key =>
    rule.mono _ _ key _ _ (others_apart tidy different)
      ((move_related tidy related respects move).2 key)
  refine ⟨undisturbed, committed, fun key => ?_⟩
  by_cases held : s.rowLock key = some other
  · rw [view_undisturbed undisturbed held]
    exact rule.refl _ key _
  · rw [view_unlocked tidy held,
      view_unlocked (move_tidy schema pid stmt tidy move) (fun after => held ((undisturbed.rowLock key).mp after))]
    exact committed key

-- Within a transaction its own writes change the rows it sees by the rule.
theorem onward_view (rule : CellRule Row) (pid : Nat) (stmt : Stmt Row Note) (s t : Server Row Index Note) (held : Locks Key)
    (own : ∀ write, stmt.write = some write → stmt.applies schema (s.view pid) →
      rule.allows held write.key ((s.view pid).lookup write.key) (write.cell ((s.view pid).lookup write.key)))
    (onward : Onward schema pid stmt s t) (key : Key) :
    rule.allows held key ((s.view pid).lookup key) ((t.view pid).lookup key) := by
  rcases onward.view with same | ⟨write, issued, applies, after⟩
  · rw [same]
    exact rule.refl held key _
  · rw [after]
    by_cases here : key = write.key
    · subst here
      rw [write.lookup_apply_self]
      exact own write issued applies
    · rw [write.lookup_apply_ne _ key here]
      exact rule.refl held key _

end

end AiWorld.Database
