import Mathlib.Data.List.AList

set_option autoImplicit false

namespace AiWorld.Database

section
variable {Key : Type} [DecidableEq Key] {Row : Key → Type}

-- A database is one finite map whose keys name a table and a row of it. An update
-- sets columns of the row it finds, so it is a function on rows.
inductive Write (Row : Key → Type) where
  | put (key : Key) (row : Row key)
  | change (key : Key) (columns : Row key → Row key)
  | erase (key : Key)

namespace Write

def key : Write Row → Key
  | .put key _ => key
  | .change key _ => key
  | .erase key => key

def apply : Write Row → AList Row → AList Row
  | .put key row, db => db.insert key row
  | .change key columns, db =>
      match db.lookup key with
      | none => db
      | some row => db.insert key (columns row)
  | .erase key, db => db.erase key

-- What a write makes of the row at its own key.
def cell : (write : Write Row) → Option (Row write.key) → Option (Row write.key)
  | .put _ row, _ => some row
  | .change _ columns, row => row.map columns
  | .erase _, _ => none

theorem lookup_apply_ne (write : Write Row) (db : AList Row) (key : Key) (other : key ≠ write.key) :
    (write.apply db).lookup key = db.lookup key := by
  cases write with
  | put place row => exact AList.lookup_insert_ne other
  | change place columns =>
      cases found : db.lookup place with
      | none => simp only [apply, found]
      | some row =>
          simp only [apply, found]
          exact AList.lookup_insert_ne other
  | erase place => exact AList.lookup_erase_ne other

theorem lookup_apply_self (write : Write Row) (db : AList Row) :
    (write.apply db).lookup write.key = write.cell (db.lookup write.key) := by
  cases write with
  | put place row => exact AList.lookup_insert db
  | change place columns =>
      cases found : db.lookup place with
      | none => simp [apply, key, cell, found]
      | some row => simp [apply, key, cell, found]
  | erase place => exact AList.lookup_erase place db

end Write

def replay (writes : List (Write Row)) (db : AList Row) : AList Row := writes.foldl (fun db write => write.apply db) db

@[simp] theorem replay_nil (db : AList Row) : replay [] db = db := rfl

@[simp] theorem replay_append_one (writes : List (Write Row)) (write : Write Row) (db : AList Row) :
    replay (writes ++ [write]) db = write.apply (replay writes db) := by
  simp [replay]

variable {writes : List (Write Row)} {key : Key}

theorem lookup_replay_untouched (db : AList Row) (untouched : ∀ write ∈ writes, write.key ≠ key) :
    (replay writes db).lookup key = db.lookup key := by
  induction writes generalizing db with
  | nil => rfl
  | cons write rest ih =>
      have first : write.key ≠ key := untouched write (by simp)
      have later := ih (write.apply db) (fun other member => untouched other (by simp [member]))
      exact later.trans (write.lookup_apply_ne db key (Ne.symm first))

-- The row at a key after a replay depends on the row before it alone.
theorem lookup_replay_congr (writes : List (Write Row)) (db other : AList Row) (same : db.lookup key = other.lookup key) :
    (replay writes db).lookup key = (replay writes other).lookup key := by
  induction writes generalizing db other with
  | nil => exact same
  | cons write rest ih =>
      refine ih (write.apply db) (write.apply other) ?_
      by_cases here : key = write.key
      · subst here
        rw [write.lookup_apply_self, write.lookup_apply_self, same]
      · rw [write.lookup_apply_ne db key here, write.lookup_apply_ne other key here, same]

-- A row that is there after a replay was there before it or was put.
theorem replay_lookup_cases (db : AList Row) (stored : ((replay writes db).lookup key).isSome = true) :
    (db.lookup key).isSome = true ∨ ∃ row, Write.put key row ∈ writes := by
  induction writes generalizing db with
  | nil => exact .inl stored
  | cons write rest ih =>
      rcases ih (write.apply db) stored with before | ⟨row, member⟩
      · by_cases here : key = write.key
        · cases write with
          | put place row =>
              obtain rfl : key = place := here
              exact .inr ⟨row, List.mem_cons_self⟩
          | change place columns =>
              obtain rfl : key = place := here
              have cell : ((Write.change key columns).apply db).lookup key = (db.lookup key).map columns :=
                (Write.change key columns).lookup_apply_self db
              rw [cell] at before
              exact .inl (by simpa using before)
          | erase place =>
              obtain rfl : key = place := here
              simp [Write.apply] at before
        · rw [write.lookup_apply_ne db key here] at before
          exact .inl before
      · exact .inr ⟨row, List.mem_cons_of_mem _ member⟩

end

end AiWorld.Database
