import AiWorld.Database.Isolation

set_option autoImplicit false

namespace AiWorld.Database

variable {pid other : Nat}

section
variable {Key : Type} [DecidableEq Key] {Row : Key → Type} {Index Note : Type}

-- No two rows occupy one entry of a unique index.
def Distinct (schema : Schema Row Index) (db : AList Row) : Prop :=
  ∀ key row other occupant entry, db.lookup key = some row → db.lookup other = some occupant →
    entry ∈ schema.indexed key row → entry ∈ schema.indexed other occupant → key = other

def distinctRows [DecidableEq Index] (schema : Schema Row Index) (db : AList Row) : Bool :=
  db.entries.all (fun first => db.entries.all (fun second =>
    first.1 = second.1 || (schema.indexed first.1 first.2).all (fun entry => entry ∉ schema.indexed second.1 second.2)))

theorem distinct_of_rows [DecidableEq Index] (schema : Schema Row Index) (db : AList Row) (checked : distinctRows schema db = true) :
    Distinct schema db := by
  intro key row other occupant entry stored present listed taken
  have apart := List.all_eq_true.mp (List.all_eq_true.mp checked ⟨key, row⟩ (AList.mem_lookup_iff.mp stored)) ⟨other, occupant⟩
    (AList.mem_lookup_iff.mp present)
  by_contra different
  simp only [different, decide_false, Bool.false_or, List.all_eq_true, decide_eq_true_eq] at apart
  exact apart entry listed taken

-- The unique indexes hold in the committed rows and in what every transaction sees,
-- and an entry a transaction sees is one it has locked or one the committed row has.
structure Unique (schema : Schema Row Index) (s : Server Row Index Note) : Prop where
  committed : Distinct schema s.db
  seen : ∀ pid, Distinct schema (s.view pid)
  claimed : ∀ pid key row entry, (s.view pid).lookup key = some row → entry ∈ schema.indexed key row →
    s.entryLock entry = some pid ∨ ∃ old, s.db.lookup key = some old ∧ entry ∈ schema.indexed key old

theorem unique_start {schema : Schema Row Index} {db : AList Row} (distinct : Distinct schema db) :
    Unique schema ({ db := db } : Server Row Index Note) where
  committed := distinct
  seen := fun _ => distinct
  claimed := fun _ _ row _ stored listed => .inr ⟨row, stored, listed⟩

-- A write that occupies no entry the row before it did not.
def Write.shrinks (schema : Schema Row Index) : Write Row → Prop
  | .change key columns => ∀ row entry, entry ∈ schema.indexed key (columns row) → entry ∈ schema.indexed key row
  | _ => True

end

section
variable {Key : Type} [DecidableEq Key] {Row : Key → Type} {Index Note : Type} {schema : Schema Row Index}
variable {s t : Server Row Index Note} {db : AList Row} {stmt : Stmt Row Note}

-- What a transaction sees at a key after another one has committed.
theorem view_after_commit (different : other ≠ pid) (tidy : Tidy s) (key : Key) :
    ((s.commits pid).view other).lookup key =
      if s.rowLock key = some other then (s.view other).lookup key else (s.view pid).lookup key := by
  have staged : (s.commits pid).staged other = s.staged other := by simp [Server.commits, Server.rollsBack, different]
  by_cases held : s.rowLock key = some other
  · rw [if_pos held, Server.view, staged]
    refine lookup_replay_congr (s.staged other) _ s.db (view_unlocked tidy ?_)
    rw [held]
    exact fun same => different (Option.some.inj same)
  · rw [if_neg held, Server.view, staged]
    refine lookup_replay_untouched _ (fun write member here => ?_)
    subst here
    exact held (tidy.owned other write member)

theorem rollback_unique (pid : Nat) (s : Server Row Index Note) (unique : Unique schema s) : Unique schema (s.rollsBack pid) where
  committed := unique.committed
  seen := fun other => by
    by_cases same : other = pid
    · subst same
      simpa using unique.committed
    · simpa [same] using unique.seen other
  claimed := fun other key row entry stored listed => by
    by_cases same : other = pid
    · subst same
      exact .inr ⟨row, by simpa using stored, listed⟩
    · rcases unique.claimed other key row entry (by simpa [same] using stored) listed with locked | old
      · exact .inl (by simp [Server.rollsBack, locked, same])
      · exact .inr old

-- Two rows that another transaction sees after a commit, one of them its own: the
-- entry is locked by both, or seen by one of them at both keys, or committed twice.
theorem commit_apart (different : other ≠ pid) (tidy : Tidy s) (unique : Unique schema s) {mine theirs : Key} {row : Row mine}
    {occupant : Row theirs} {entry : Index} (held : s.rowLock mine = some other) (free : s.rowLock theirs ≠ some other)
    (stored : (s.view other).lookup mine = some row) (present : (s.view pid).lookup theirs = some occupant)
    (listed : entry ∈ schema.indexed mine row) (taken : entry ∈ schema.indexed theirs occupant) : mine = theirs := by
  rcases unique.claimed other mine row entry stored listed with locked | ⟨old, before, was⟩
  · rcases unique.claimed pid theirs occupant entry present taken with lockedToo | ⟨old, before, was⟩
    · exact absurd (Option.some.inj (locked.symm.trans lockedToo)) different
    · exact unique.seen other mine row theirs old entry stored ((view_unlocked tidy free).trans before) listed was
  · have apart : s.rowLock mine ≠ some pid := by
      rw [held]
      exact fun same => different (Option.some.inj same)
    exact unique.seen pid mine old theirs occupant entry ((view_unlocked tidy apart).trans before) present was taken

theorem commit_unique (pid : Nat) (tidy : Tidy s) (unique : Unique schema s) : Unique schema (s.commits pid) where
  committed := unique.seen pid
  seen := fun other => by
    by_cases same : other = pid
    · subst same
      simpa using unique.seen other
    · intro key row place occupant entry stored present listed taken
      rw [view_after_commit same tidy] at stored present
      by_cases held : s.rowLock key = some other
      · rw [if_pos held] at stored
        by_cases heldToo : s.rowLock place = some other
        · rw [if_pos heldToo] at present
          exact unique.seen other key row place occupant entry stored present listed taken
        · rw [if_neg heldToo] at present
          exact commit_apart same tidy unique held heldToo stored present listed taken
      · rw [if_neg held] at stored
        by_cases heldToo : s.rowLock place = some other
        · rw [if_pos heldToo] at present
          exact (commit_apart same tidy unique heldToo held present stored taken
            listed).symm
        · rw [if_neg heldToo] at present
          exact unique.seen pid key row place occupant entry stored present listed taken
  claimed := fun other key row entry stored listed => by
    by_cases same : other = pid
    · subst same
      exact .inr ⟨row, by simpa using stored, listed⟩
    · rw [view_after_commit same tidy] at stored
      by_cases held : s.rowLock key = some other
      · rw [if_pos held] at stored
        rcases unique.claimed other key row entry stored listed with locked | ⟨old, before, was⟩
        · exact .inl (by simp [Server.commits, Server.rollsBack, locked, same])
        · refine .inr ⟨old, (view_unlocked tidy ?_).trans before, was⟩
          rw [held]
          exact fun mine => same (Option.some.inj mine)
      · rw [if_neg held] at stored
        exact .inr ⟨row, stored, listed⟩

variable [DecidableEq Index]

theorem grabs_unique (unique : Unique schema s) {grab : Grab Key Index} (granted : s.grantable pid grab = true) :
    Unique schema (s.grabs pid grab) where
  committed := unique.committed
  seen := unique.seen
  claimed := fun other key row entry stored listed => by
    refine (unique.claimed other key row entry stored listed).imp (fun locked => ?_) id
    by_cases asked : entry ∈ grab.entries
    · obtain ⟨-, -, -, entries⟩ := (grantable_iff pid s grab).mp granted
      have mine : other = pid := by simpa [locked] using entries entry asked
      simp [Server.grabs, asked, mine]
    · simpa [Server.grabs, asked] using locked

-- Every row of the one database has a row of the other at its key, with all its entries.
def Within (schema : Schema Row Index) (db whole : AList Row) : Prop :=
  ∀ key row, db.lookup key = some row →
    ∃ old, whole.lookup key = some old ∧ ∀ entry, entry ∈ schema.indexed key row → entry ∈ schema.indexed key old

omit [DecidableEq Index] in
theorem distinct_within {whole : AList Row} (within : Within schema db whole) (distinct : Distinct schema whole) :
    Distinct schema db := by
  intro key row other occupant entry stored present listed taken
  obtain ⟨old, was, keeps⟩ := within key row stored
  obtain ⟨before, wasToo, keepsToo⟩ := within other occupant present
  exact distinct key old other before entry was wasToo (keeps entry listed) (keepsToo entry taken)

omit [DecidableEq Index] in
theorem apply_within {write : Write Row} (db : AList Row) (shrinks : write.shrinks schema) (inserts : ∀ key row, write ≠ .put key row) :
    Within schema (write.apply db) db := by
  intro key row stored
  by_cases here : key = write.key
  · cases write with
    | put place fresh => exact absurd rfl (inserts place fresh)
    | erase place =>
        obtain rfl : key = place := here
        simp [Write.apply] at stored
    | change place columns =>
        obtain rfl : key = place := here
        have cell := (Write.change key columns).lookup_apply_self db
        obtain ⟨old, was, rfl⟩ := Option.map_eq_some_iff.mp (cell.symm.trans stored)
        exact ⟨old, was, shrinks old⟩
  · exact ⟨row, (write.lookup_apply_ne db key here).symm.trans stored, fun _ listed => listed⟩

theorem distinct_insert {key : Key} {row : Row key} (accepted : schema.accepts key row db = true)
    (distinct : Distinct schema db) : Distinct schema (db.insert key row) := by
  intro first firstRow second secondRow entry stored present listed taken
  by_cases here : first = key
  · subst first
    by_cases there : second = key
    · exact there.symm
    · obtain rfl : row = firstRow := Option.some.inj ((AList.lookup_insert db).symm.trans stored)
      rw [AList.lookup_insert_ne there] at present
      exact absurd listed ((accepts_cases accepted).1 second secondRow present |>.2 entry taken)
  · rw [AList.lookup_insert_ne here] at stored
    by_cases there : second = key
    · subst second
      obtain rfl : row = secondRow := Option.some.inj ((AList.lookup_insert db).symm.trans present)
      exact absurd taken ((accepts_cases accepted).1 first firstRow stored |>.2 entry listed)
    · rw [AList.lookup_insert_ne there] at present
      exact distinct first firstRow second secondRow entry stored present listed taken

omit [DecidableEq Index] in
-- A write of a transaction that has locked the entries the write occupies.
theorem stages_unique (unique : Unique schema s) {write : Write Row}
    (distinct : Distinct schema (write.apply (s.view pid)))
    (claimed : ∀ key row entry, (write.apply (s.view pid)).lookup key = some row → entry ∈ schema.indexed key row →
      s.entryLock entry = some pid ∨ ∃ old, s.db.lookup key = some old ∧ entry ∈ schema.indexed key old) :
    Unique schema (s.stages pid write) where
  committed := unique.committed
  seen := fun other => by
    by_cases same : other = pid
    · subst same
      simpa using distinct
    · simpa [same] using unique.seen other
  claimed := fun other key row entry stored listed => by
    by_cases same : other = pid
    · subst same
      exact claimed key row entry (by simpa using stored) listed
    · exact unique.claimed other key row entry (by simpa [same] using stored) listed

theorem move_unique (tidy : Tidy s) (unique : Unique schema s)
    (shrinks : ∀ write, stmt.write = some write → write.shrinks schema) (move : Move schema pid stmt s t) : Unique schema t := by
  cases move with
  | none => exact unique
  | grab grab granted => exact grabs_unique unique granted
  | note note issued => exact ⟨unique.committed, unique.seen, unique.claimed⟩
  | commit issued => exact commit_unique pid tidy unique
  | rollback issued => exact rollback_unique pid s unique
  | write grab write granted covered issued applies sharing entries =>
      have grabbed := grabs_unique unique granted
      by_cases inserts : ∃ key row, write = .put key row
      · obtain ⟨key, row, rfl⟩ := inserts
        cases stmt with
        | insert place fresh =>
            cases issued
            refine stages_unique grabbed (distinct_insert applies (unique.seen pid)) ?_
            intro other occupant entry stored listed
            by_cases here : other = key
            · subst here
              obtain rfl : row = occupant := Option.some.inj ((AList.lookup_insert _).symm.trans stored)
              exact .inl (by simp [Server.grabs, entries entry listed])
            · exact grabbed.claimed pid other occupant entry ((AList.lookup_insert_ne here).symm.trans stored) listed
        | _ => cases issued
      · have within := apply_within (s.view pid) (shrinks write issued) (fun key row same => inserts ⟨key, row, same⟩)
        refine stages_unique grabbed (distinct_within within (unique.seen pid)) ?_
        intro key row entry stored listed
        obtain ⟨old, was, keeps⟩ := within key row stored
        exact grabbed.claimed pid key old entry was (keeps entry listed)

-- The unique indexes of some of the tables.
def Schema.only (schema : Schema Row Index) (wanted : Key → Bool) : Schema Row Index :=
  { schema with indexed := fun key row => if wanted key then schema.indexed key row else [] }

omit [DecidableEq Key] [DecidableEq Index] in
theorem only_indexed {wanted : Key → Bool} {key : Key} {row : Row key} {entry : Index}
    (listed : entry ∈ (schema.only wanted).indexed key row) : wanted key = true ∧ entry ∈ schema.indexed key row := by
  by_cases table : wanted key = true
  · exact ⟨table, by simpa [Schema.only, table] using listed⟩
  · simp [Schema.only, table] at listed

theorem only_accepts (wanted : Key → Bool) {key : Key} {row : Row key} (accepted : schema.accepts key row db = true) :
    (schema.only wanted).accepts key row db = true := by
  obtain ⟨unrivalled, fits, referenced⟩ := accepts_cases accepted
  refine accepts_intro (schema.only wanted) key row db (fun rival found stored => ?_) fits referenced
  obtain ⟨different, clear⟩ := unrivalled rival found stored
  refine ⟨different, fun entry occupied listed => ?_⟩
  exact clear entry (only_indexed occupied).2 (only_indexed listed).2

omit [DecidableEq Index] in
theorem only_distinct (wanted : Key → Bool) (distinct : Distinct schema db) : Distinct (schema.only wanted) db :=
  fun key row other occupant entry stored present listed taken => distinct key row other occupant entry stored present
    (only_indexed listed).2 (only_indexed taken).2

-- A statement that keeps all indexes keeps some of them.
theorem move_only (wanted : Key → Bool) (move : Move schema pid stmt s t) : Move (schema.only wanted) pid stmt s t := by
  cases move with
  | none => exact .none
  | grab grab granted => exact .grab grab granted
  | write grab write granted covered issued applies sharing entries =>
      refine .write grab write granted covered issued ?_ ?_ ?_
      · cases stmt with
        | insert key row => exact only_accepts wanted applies
        | _ => exact applies
      · cases stmt with
        | insert key row => exact sharing
        | _ => exact sharing
      · cases stmt with
        | insert key row => exact fun entry listed => entries entry (only_indexed listed).2
        | _ => exact entries
  | note note issued => exact .note note issued
  | commit issued => exact .commit issued
  | rollback issued => exact .rollback issued

end

end AiWorld.Database
