import IdConnector.OldData
import IdConnector.Distribution

/-! # Interrupted preprocessing

`preprocess_file` reads the previous entry of an object and overwrites it at once; the
password hashes, the saving of the file and its renaming come later. A file whose
preprocessing is interrupted is preprocessed again from the start. What a file holds
is the object it loads as, or nothing once it cannot be loaded, in which case it is
discarded.
-/

namespace IdConnector

open Library

/-- What is on the disk between two attempts. -/
structure Attempted (Obj Entry : Type) where
  db : OldDataDB Entry
  file : Option Obj

/-- How far the hook that writes the file had come. -/
inductive SaveProgress where
  | untouched
  | truncated
  | written

/-- Where an attempt ends, and what it had learnt by then. -/
inductive Interruption where
  | loading
  /-- After the database was written, at the latest while the passwords are awaited. -/
  | hooks (now : Nat)
  | saving (now : Nat) (passwords : Option UserPasswords) (progress : SaveProgress)
  | beforeRename (now : Nat) (passwords : Option UserPasswords)

def Interruption.wroteDb : Interruption → Bool
  | loading => false
  | hooks _ | saving .. | beforeRename .. => true

section Attempts

variable {Obj Removed Entry : Type} (handler : ListenerObjectHandler Obj Removed Entry)

/-- An attempt that does not get to the renaming. -/
def interrupted (disk : Attempted Obj Entry) (interruption : Interruption) :
    Attempted Obj Entry :=
  match disk.file, interruption with
  | none, _ | some _, .loading => disk
  | some obj, .hooks now => { disk with db := (exchangeOldData handler disk.db now obj).2 }
  | some obj, .saving now passwords progress =>
      let (changed, db, saves) := preprocessAddModObject handler disk.db now passwords obj
      match saves, progress with
      | true, .written => ⟨db, some changed⟩
      | true, .truncated => ⟨db, none⟩
      | true, .untouched | false, _ => ⟨db, some obj⟩
  | some obj, .beforeRename now passwords =>
      let (changed, db, saves) := preprocessAddModObject handler disk.db now passwords obj
      ⟨db, some (if saves then changed else obj)⟩

/-- The attempt that gets to the end: the object in the renamed file. -/
def renamedFile (disk : Attempted Obj Entry) (now : Nat) (passwords : Option UserPasswords) :
    Option Obj :=
  disk.file.map fun obj =>
    let (changed, _, saves) := preprocessAddModObject handler disk.db now passwords obj
    if saves then changed else obj

/-- When the renamed file gets the entry of the time `start`: once an attempt has written the
    database, that entry must be the one the object stores itself; otherwise it must not
    have expired, or be in the file already if nothing makes the hooks save the file. -/
def KeepsOldData (db : OldDataDB Entry) (obj : Obj) (start : Nat)
    (attempts : List Interruption) (now : Nat) (passwords : Option UserPasswords) : Prop :=
  if attempts.any Interruption.wroteDb then
    db.get start (handler.id obj) = some (handler.entry obj)
  else if (db.get now (handler.id obj)).isSome || handler.savesPasswords passwords then
    (db.get start (handler.id obj)).isSome → (db.get now (handler.id obj)).isSome
  else handler.oldData obj = db.get start (handler.id obj)

/-- The file still holds the object, as far as the database is concerned. -/
def SameObject (obj : Obj) (disk : Attempted Obj Entry) : Prop :=
  ∀ other, disk.file = some other →
    handler.id other = handler.id obj ∧ handler.entry other = handler.entry obj

/-- The database has the entry of the object itself. -/
def HasOwnEntry (obj : Obj) (disk : Attempted Obj Entry) : Prop :=
  ∀ now, disk.db.get now (handler.id obj) = some (handler.entry obj)

theorem same_preprocessAddModObject (db : OldDataDB Entry) (now : Nat)
    (passwords : Option UserPasswords) (obj : Obj) :
    handler.id (preprocessAddModObject handler db now passwords obj).1 = handler.id obj ∧
      handler.entry (preprocessAddModObject handler db now passwords obj).1 =
        handler.entry obj := by
  simp [preprocessAddModObject, exchangeOldData, handler.id_setPasswords, handler.id_setOldData,
    handler.entry_setPasswords, handler.entry_setOldData]

variable {handler}

/-- Whatever an attempt leaves in the file is the same object. -/
theorem interrupted_same {obj : Obj} {disk : Attempted Obj Entry}
    (same : SameObject handler obj disk) (interruption : Interruption) :
    SameObject handler obj (interrupted handler disk interruption) := by
  intro other found
  cases file : disk.file with
  | none => simp [interrupted, file] at found
  | some old =>
      have before := same old file
      cases interruption with
      | loading => exact same other (by simpa [interrupted, file] using found)
      | hooks now => exact same other (by simpa [interrupted, file] using found)
      | saving now passwords progress =>
          have changed := same_preprocessAddModObject handler disk.db now passwords old
          simp only [interrupted, file] at found
          split at found
          · grind
          · cases found
          · grind
          · grind
      | beforeRename now passwords =>
          have changed := same_preprocessAddModObject handler disk.db now passwords old
          simp only [interrupted, file] at found
          grind

/-- An attempt that gets past the loading leaves the entry of the object in the database. -/
theorem interrupted_writes {obj : Obj} {disk : Attempted Obj Entry}
    (same : SameObject handler obj disk) {interruption : Interruption}
    (writes : interruption.wroteDb = true ∨ HasOwnEntry handler obj disk) :
    (interrupted handler disk interruption).file = none ∨
      HasOwnEntry handler obj (interrupted handler disk interruption) := by
  cases file : disk.file with
  | none => exact Or.inl (by simp [interrupted, file])
  | some old =>
      obtain ⟨same_id, same_entry⟩ := same old file
      have written : ∀ {now}, (disk.db.set (handler.id old) (handler.entry old)).get now
          (handler.id obj) = some (handler.entry obj) := by
        intro now
        rw [← same_id, ← same_entry]
        exact OldDataDB.get_set_self ..
      apply Or.inr
      intro now
      cases interruption with
      | loading =>
          have own := writes.resolve_left (by simp [Interruption.wroteDb])
          simpa [interrupted, file] using own now
      | hooks time => simpa [interrupted, file, exchangeOldData_db] using written
      | saving time passwords progress =>
          have db := preprocessAddModObject_db handler disk.db time passwords old
          simp only [interrupted, file]
          split <;> simp [db, written]
      | beforeRename time passwords =>
          have db := preprocessAddModObject_db handler disk.db time passwords old
          simp [interrupted, file, db, written]

theorem interrupted_loading (disk : Attempted Obj Entry) :
    interrupted handler disk .loading = disk := by
  cases file : disk.file <;> simp [interrupted, file]

/-- The state from which every later attempt reads the entry of the object itself. -/
structure Settled (handler : ListenerObjectHandler Obj Removed Entry) (obj : Obj)
    (disk : Attempted Obj Entry) : Prop where
  same : SameObject handler obj disk
  own : disk.file = none ∨ HasOwnEntry handler obj disk

theorem Settled.interrupted {obj : Obj} {disk : Attempted Obj Entry}
    (settled : Settled handler obj disk) (interruption : Interruption) :
    Settled handler obj (interrupted handler disk interruption) := by
  refine ⟨interrupted_same settled.same interruption, ?_⟩
  rcases settled.own with gone | own
  · apply Or.inl
    simp [IdConnector.interrupted, gone]
  · exact interrupted_writes settled.same (Or.inr own)

theorem Settled.attempts {obj : Obj} {disk : Attempted Obj Entry}
    (settled : Settled handler obj disk) (attempts : List Interruption) :
    Settled handler obj (attempts.foldl (IdConnector.interrupted handler) disk) := by
  induction attempts generalizing disk with
  | nil => exact settled
  | cons first rest ih => exact ih (settled.interrupted first)

theorem attempts_settled {obj : Obj} {disk : Attempted Obj Entry}
    (same : SameObject handler obj disk) {attempts : List Interruption}
    (wrote : attempts.any Interruption.wroteDb = true) :
    Settled handler obj (attempts.foldl (interrupted handler) disk) := by
  induction attempts generalizing disk with
  | nil => simp at wrote
  | cons first rest ih =>
      cases writes : first.wroteDb with
      | true =>
          have settled : Settled handler obj (interrupted handler disk first) :=
            ⟨interrupted_same same first, interrupted_writes same (Or.inl writes)⟩
          exact settled.attempts rest
      | false =>
          simp only [List.any_cons, writes, Bool.false_or] at wrote
          exact ih (interrupted_same same first) wrote

theorem attempts_untouched {disk : Attempted Obj Entry} {attempts : List Interruption}
    (wrote : attempts.any Interruption.wroteDb = false) :
    attempts.foldl (interrupted handler) disk = disk := by
  induction attempts with
  | nil => rfl
  | cons first rest ih =>
      simp only [List.any_cons, Bool.or_eq_false_iff] at wrote
      cases first with
      | loading => rw [List.foldl_cons, interrupted_loading, ih wrote.2]
      | hooks | saving | beforeRename => exact absurd wrote.1 (by simp [Interruption.wroteDb])

theorem oldData_renamedFile {disk : Attempted Obj Entry} {now : Nat}
    {passwords : Option UserPasswords} {obj renamed : Obj} (file : disk.file = some obj)
    (done : renamedFile handler disk now passwords = some renamed) :
    handler.oldData renamed =
      if (disk.db.get now (handler.id obj)).isSome || handler.savesPasswords passwords then
        disk.db.get now (handler.id obj)
      else handler.oldData obj := by
  have saves := preprocessAddModObject_saves handler disk.db now passwords obj
  have old := oldData_preprocessAddModObject handler disk.db now passwords obj
  simp only [renamedFile, file, Option.map_some, Option.some.injEq] at done
  rw [saves] at done
  subst done
  split
  next => exact old
  next => rfl

/-- After any number of interrupted attempts the renamed file has the entry that the database
    held before the first one exactly if `KeepsOldData` holds. -/
theorem oldData_repeat_iff (handler : ListenerObjectHandler Obj Removed Entry)
    (db : OldDataDB Entry) (obj : Obj) (start now : Nat) (later : start ≤ now)
    (attempts : List Interruption) (passwords : Option UserPasswords) (renamed : Obj)
    (done : renamedFile handler (attempts.foldl (interrupted handler) ⟨db, some obj⟩) now
      passwords = some renamed) :
    handler.oldData renamed = db.get start (handler.id obj) ↔
      KeepsOldData handler db obj start attempts now passwords := by
  unfold KeepsOldData
  cases wrote : attempts.any Interruption.wroteDb with
  | true =>
      have same : SameObject handler obj (⟨db, some obj⟩ : Attempted Obj Entry) := by
        rintro _ ⟨⟩
        exact ⟨rfl, rfl⟩
      have settled := attempts_settled same wrote
      obtain ⟨last, file, _⟩ := Option.map_eq_some_iff.mp done
      have own := settled.own.resolve_left (by simp [file]) now
      have same_id := (settled.same last file).1
      have old := oldData_renamedFile file done
      simp only [same_id, own, Option.isSome_some, Bool.true_or, ↓reduceIte] at old ⊢
      rw [old]
      exact eq_comm
  | false =>
      rw [attempts_untouched wrote] at done
      have old := oldData_renamedFile rfl done
      rw [old]
      simp only [Bool.false_eq_true, ↓reduceIte]
      split
      next saves =>
        cases current : db.get now (handler.id obj) with
        | some entry => simp [OldDataDB.get_later later current]
        | none => cases db.get start (handler.id obj) <;> simp
      next => exact Iff.rfl

end Attempts

section Examples

/-- A user who moves from one school to another; the database knows the old one. -/
def movedUser : ListenerUserAddModifyObject :=
  { dn := "uid=anna,cn=schueler,cn=users,ou=NEW,dc=uni,dc=dtr"
    id := "9ad3"
    object := [("username", Json.str "anna"), ("school", Json.strs ["NEW"])]
    options := ["default", "ucsschoolStudent"]
    userPasswords := none
    oldData := none
    schools := ["NEW"]
    schools_eq := rfl }

def oldSchoolDb : OldDataDB ListenerUserOldDataEntry := ⟨[("9ad3", ⟨["OLD"], none, none⟩, none)]⟩

theorem oldData_repeat_demo :
    ∃ renamed, userObjectHandler.oldData renamed = some ⟨["OLD"], none, none⟩ ∧
      (userObjectHandler.oldData renamed = oldSchoolDb.get 0 "9ad3" ↔
        KeepsOldData userObjectHandler oldSchoolDb movedUser 0 [.loading] 1 none) := by
  refine ⟨_, ?_, oldData_repeat_iff userObjectHandler oldSchoolDb movedUser 0 1 (by decide)
    [.loading] none _ rfl⟩
  rfl

/-- The LDAP server does not answer in the first attempt: the file is renamed with the school
    the user moves to, and the one the user leaves is lost. -/
theorem interruption_loses_old_data :
    oldSchoolDb.get 0 movedUser.id = some ⟨["OLD"], none, none⟩ ∧
      (renamedFile userObjectHandler
          ([.hooks 0].foldl (interrupted userObjectHandler) ⟨oldSchoolDb, some movedUser⟩) 1
          none).map userObjectHandler.oldData = some (some ⟨["NEW"], none, none⟩) ∧
      (renamedFile userObjectHandler ⟨oldSchoolDb, some movedUser⟩ 1 none).map
          userObjectHandler.oldData = some (some ⟨["OLD"], none, none⟩) :=
  ⟨by decide, rfl, rfl⟩

end Examples

end IdConnector
