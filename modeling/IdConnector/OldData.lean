import IdConnector.Models

/-! # Previous data of an object

The in-queue remembers for each object what it needs to know about it after it has
changed or is gone: `OldDataDB` and the hooks of `ListenerObjectHandlerImpl`. The
classes for users and groups differ in the entry they store and in what they add to
an object; both keep the fields that identify it.
-/

namespace IdConnector

open Library

/-- Entries by `id`, each with the time at which it expires, if any. -/
structure OldDataDB (Entry : Type) where
  entries : Dict String (Entry × Option Nat)

namespace OldDataDB

variable {Entry : Type}

/-- The entry counts until it expires. -/
def live (now : Nat) (entry : Entry × Option Nat) : Bool := entry.2.all (now < ·)

def get (db : OldDataDB Entry) (now : Nat) (id : String) : Option Entry :=
  ((db.entries.get id).filter (live now)).map Prod.fst

/-- `db[id] = entry`, which never expires. -/
def set (db : OldDataDB Entry) (id : String) (entry : Entry) : OldDataDB Entry :=
  ⟨db.entries.set id (entry, none)⟩

def touch (db : OldDataDB Entry) (now : Nat) (id : String) (expire : Nat) : OldDataDB Entry :=
  match db.get now id with
  | none => db
  | some entry => ⟨db.entries.set id (entry, some (now + expire))⟩

@[simp] theorem get_set_self (db : OldDataDB Entry) (now : Nat) (id : String) (entry : Entry) :
    (db.set id entry).get now id = some entry := by
  simp [get, set, live]

theorem get_set_ne (db : OldDataDB Entry) (now : Nat) {id other : String} (entry : Entry)
    (different : id ≠ other) : (db.set id entry).get now other = db.get now other := by
  simp [get, set, different]

/-- While nothing is written an entry can only expire. -/
theorem get_later {db : OldDataDB Entry} {start now : Nat} {id : String} {entry : Entry}
    (later : start ≤ now) (found : db.get now id = some entry) : db.get start id = some entry := by
  simp only [get, Option.map_eq_some_iff, Option.filter_eq_some_iff] at found ⊢
  obtain ⟨stored, ⟨present, is_live⟩, same⟩ := found
  refine ⟨stored, ⟨present, ?_⟩, same⟩
  unfold live at is_live ⊢
  cases expires : stored.2 with
  | none => rfl
  | some time =>
      simp only [expires, Option.all_some, decide_eq_true_eq] at is_live ⊢
      omega

end OldDataDB

/-- What a subclass of `ListenerObjectHandlerImpl` adds to it. -/
structure ListenerObjectHandler (Obj Removed Entry : Type) where
  id : Obj → String
  oldData : Obj → Option Entry
  setOldData : Obj → Option Entry → Obj
  /-- The entry that `save_old_data` stores. -/
  entry : Obj → Entry
  /-- What the subclass does with the password hashes of the LDAP server. -/
  setPasswords : Obj → Option UserPasswords → Obj
  /-- Whether these hashes make it save the file. -/
  savesPasswords : Option UserPasswords → Bool
  removedId : Removed → String
  setRemovedOldData : Removed → Option Entry → Removed
  id_setOldData : ∀ obj old, id (setOldData obj old) = id obj
  oldData_setOldData : ∀ obj old, oldData (setOldData obj old) = old
  entry_setOldData : ∀ obj old, entry (setOldData obj old) = entry obj
  id_setPasswords : ∀ obj passwords, id (setPasswords obj passwords) = id obj
  oldData_setPasswords : ∀ obj passwords, oldData (setPasswords obj passwords) = oldData obj
  entry_setPasswords : ∀ obj passwords, entry (setPasswords obj passwords) = entry obj

/-- `ListenerUserObjectHandlerImpl` -/
def userObjectHandler : ListenerObjectHandler ListenerUserAddModifyObject
    ListenerUserRemoveObject ListenerUserOldDataEntry where
  id obj := obj.id
  oldData obj := obj.oldData
  setOldData obj old := { obj with oldData := old }
  entry obj := ⟨obj.schools, obj.recordUid, obj.sourceUid⟩
  setPasswords obj passwords := { obj with userPasswords := passwords }
  savesPasswords passwords := passwords.isSome
  removedId obj := obj.id
  setRemovedOldData obj old := { obj with oldData := old }
  id_setOldData _ _ := rfl
  oldData_setOldData _ _ := rfl
  entry_setOldData _ _ := rfl
  id_setPasswords _ _ := rfl
  oldData_setPasswords _ _ := rfl
  entry_setPasswords _ _ := rfl

/-- `ListenerGroupObjectHandlerImpl`, which does not ask for passwords. -/
def groupObjectHandler : ListenerObjectHandler ListenerGroupAddModifyObject
    ListenerGroupRemoveObject ListenerGroupOldDataEntry where
  id obj := obj.id
  oldData obj := obj.oldData
  setOldData obj old := { obj with oldData := old }
  entry obj := ⟨obj.users⟩
  setPasswords obj _ := obj
  savesPasswords _ := false
  removedId obj := obj.id
  setRemovedOldData obj old := { obj with oldData := old }
  id_setOldData _ _ := rfl
  oldData_setOldData _ _ := rfl
  entry_setOldData _ _ := rfl
  id_setPasswords _ _ := rfl
  oldData_setPasswords _ _ := rfl
  entry_setPasswords _ _ := rfl

section Preprocessing

variable {Obj Removed Entry : Type} (handler : ListenerObjectHandler Obj Removed Entry)

/-- `preprocess_add_mod_object` of the base class: read the previous entry, store the new
    one. It does not await anything. -/
def exchangeOldData (db : OldDataDB Entry) (now : Nat) (obj : Obj) : Obj × OldDataDB Entry :=
  let obj := handler.setOldData obj (db.get now (handler.id obj))
  (obj, db.set (handler.id obj) (handler.entry obj))

/-- `preprocess_add_mod_object`: the object, the database and whether to save the file. The
    password hashes are awaited after the database has been written. -/
def preprocessAddModObject (db : OldDataDB Entry) (now : Nat) (passwords : Option UserPasswords)
    (obj : Obj) : Obj × OldDataDB Entry × Bool :=
  let exchanged := exchangeOldData handler db now obj
  (handler.setPasswords exchanged.1 passwords, exchanged.2,
    (handler.oldData exchanged.1).isSome || handler.savesPasswords passwords)

/-- `preprocess_remove_object`: the entry is kept for another week. -/
def preprocessRemoveObject (db : OldDataDB Entry) (now : Nat) (obj : Removed) :
    Removed × OldDataDB Entry × Bool :=
  let old := db.get now (handler.removedId obj)
  (handler.setRemovedOldData obj old,
    if old.isSome then db.touch now (handler.removedId obj) (7 * 24 * 3600) else db, old.isSome)

theorem exchangeOldData_db (db : OldDataDB Entry) (now : Nat) (obj : Obj) :
    (exchangeOldData handler db now obj).2 = db.set (handler.id obj) (handler.entry obj) := by
  simp [exchangeOldData, handler.id_setOldData, handler.entry_setOldData]

theorem oldData_preprocessAddModObject (db : OldDataDB Entry) (now : Nat)
    (passwords : Option UserPasswords) (obj : Obj) :
    handler.oldData (preprocessAddModObject handler db now passwords obj).1 =
      db.get now (handler.id obj) := by
  simp [preprocessAddModObject, exchangeOldData, handler.oldData_setPasswords,
    handler.oldData_setOldData]

theorem preprocessAddModObject_db (db : OldDataDB Entry) (now : Nat)
    (passwords : Option UserPasswords) (obj : Obj) :
    (preprocessAddModObject handler db now passwords obj).2.1 =
      db.set (handler.id obj) (handler.entry obj) :=
  exchangeOldData_db handler db now obj

theorem preprocessAddModObject_saves (db : OldDataDB Entry) (now : Nat)
    (passwords : Option UserPasswords) (obj : Obj) :
    (preprocessAddModObject handler db now passwords obj).2.2 =
      ((db.get now (handler.id obj)).isSome || handler.savesPasswords passwords) := by
  simp [preprocessAddModObject, exchangeOldData, handler.oldData_setOldData]

end Preprocessing

end IdConnector
