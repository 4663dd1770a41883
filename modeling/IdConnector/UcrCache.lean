import IdConnector.Configuration
import IdConnector.Library.Lru
import IdConnector.Library.Text
import Mathlib.Order.Defs.LinearOrder

/-! # The cache for UCR values

Values that were read from the UCR database are cached, and the cache is emptied when the file
is newer than any that was seen before. A file that is replaced by an older one is not noticed:
`ucr_cache_transparent` says for which runs the cache cannot be told from the file.
-/

namespace IdConnector

open Library Library.Text

/-- `UCRValue` -/
inductive UcrValue where
  | bool (value : Bool)
  | int (value : Int)
  | str (value : String)
  | none
  deriving DecidableEq

/-- What a value is compared and hashed by: a truth value is a number. -/
def UcrValue.asKey : UcrValue → UcrValue
  | .bool value => .int value.toNat
  | value => value

/-- The lines have their line ends. In a damaged file something after them cannot be decoded. -/
structure UcrFile (M : Type) where
  lines : List String
  damaged : Bool
  mtime : M
  deriving DecidableEq

/-- `^(?P<ucr>.+?): (?P<value>.*)$` -/
def ucrRegex (line : String) : Option (String × String) :=
  lazyGroup '\n' (fun ucr afterUcr => do
    let rest ← ": ".toList.isPrefixOf? afterUcr
    let value := rest.takeWhile (· ≠ '\n')
    if rest.drop value.length ∈ [[], ['\n']] then
      return (String.ofList ucr, String.ofList value)
    else none) [] line.toList

def searchLines (ucr : String) (damaged : Bool) : List String → Except PyError (Option String)
  | [] => if damaged then .error (.valueError "can't decode") else .ok none
  | line :: rest =>
      match ucrRegex line with
      | some (key, value) => if ucr = key then .ok (some value) else searchLines ucr damaged rest
      | none => searchLines ucr damaged rest

section Cache

variable {M : Type} [LinearOrder M]

/-- The body of `_get_ucrv_cached`. -/
def readUcrv (file : UcrFile M) (ucr : String) (default : UcrValue) : UcrValue :=
  match searchLines ucr file.damaged file.lines with
  | .ok (some value) => .str value
  | .ok none => default
  | .error _ => default

/-- The global variable `_ucr_db_mtime` and the cache of `_get_ucrv_cached`. -/
structure UcrGlobals (M : Type) where
  ucrDbMtime : M
  cached : Lru (String × UcrValue) UcrValue 16

def getUcrv (globals : UcrGlobals M) (file : Option (UcrFile M)) (ucr : String)
    (default : UcrValue) : UcrValue × UcrGlobals M :=
  match file with
  | none => (default, globals)
  | some file =>
      let globals := if globals.ucrDbMtime < file.mtime then ⟨file.mtime, .empty⟩ else globals
      let (value, cached) :=
        globals.cached.answer (ucr, default.asKey) (readUcrv file ucr default)
      (value, { globals with cached })

/-! ## Runs -/

/-- The file is written, or a value is read. -/
inductive UcrEvent (M : Type) where
  | rewrite (file : Option (UcrFile M))
  | call (ucr : String) (default : UcrValue)

/-- What the calls of a run return. -/
def answers (globals : UcrGlobals M) (file : Option (UcrFile M)) :
    List (UcrEvent M) → List UcrValue
  | [] => []
  | .rewrite newFile :: rest => answers globals newFile rest
  | .call ucr default :: rest =>
      let (value, globals) := getUcrv globals file ucr default
      value :: answers globals file rest

/-- The value of the first line for the variable, or the default. -/
def currentValue (lines : List String) (ucr : String) (default : UcrValue) : UcrValue :=
  match (lines.filterMap ucrRegex).find? (·.1 = ucr) with
  | some (_, value) => .str value
  | none => default

/-- What the calls of a run would return without a cache. -/
def readings (file : Option (UcrFile M)) : List (UcrEvent M) → List UcrValue
  | [] => []
  | .rewrite newFile :: rest => readings newFile rest
  | .call ucr default :: rest =>
      currentValue ((file.map UcrFile.lines).getD []) ucr default :: readings file rest

/-- The file is the first one that is seen, has the lines of the one that was seen last, or is
    newer than all that were seen. -/
def Noticed (epoch : M) (seen : List (UcrFile M)) (file : UcrFile M) : Prop :=
  seen = [] ∨ seen.head?.map UcrFile.lines = some file.lines ∨
    epoch < file.mtime ∧ ∀ old ∈ seen, old.mtime < file.mtime

/-- Every call finds a file that is noticed, or none. -/
def InTime (epoch : M) (file : Option (UcrFile M)) (seen : List (UcrFile M)) :
    List (UcrEvent M) → Prop
  | [] => True
  | .rewrite newFile :: rest => InTime epoch newFile seen rest
  | .call _ _ :: rest =>
      (∀ found ∈ file, Noticed epoch seen found) ∧ InTime epoch file (file.toList ++ seen) rest

/-! ## What the cache holds -/

theorem searchLines_eq (ucr : String) (damaged : Bool) (lines : List String) :
    searchLines ucr damaged lines =
      match (lines.filterMap ucrRegex).find? (·.1 = ucr) with
      | some (_, value) => .ok (some value)
      | none => if damaged then .error (.valueError "can't decode") else .ok none := by
  induction lines with
  | nil => rfl
  | cons line rest ih =>
      rw [searchLines]
      cases matched : ucrRegex line with
      | none => rw [List.filterMap_cons_none matched, ← ih]
      | some entry =>
          rcases entry with ⟨key, value⟩
          rw [List.filterMap_cons_some matched]
          by_cases same : ucr = key
          · rw [List.find?_cons_of_pos (by simp [same])]
            simp only [same, if_true]
          · rw [List.find?_cons_of_neg (by simpa using Ne.symm same), ← ih]
            simp only [same, if_false]

omit [LinearOrder M] in
/-- A file that is damaged behind the first line for the variable is as good as a whole one. -/
theorem readUcrv_eq (file : UcrFile M) (ucr : String) (default : UcrValue) :
    readUcrv file ucr default = currentValue file.lines ucr default := by
  unfold readUcrv currentValue
  rw [searchLines_eq]
  cases (file.lines.filterMap ucrRegex).find? (·.1 = ucr) with
  | some entry => rfl
  | none => cases file.damaged <;> rfl

theorem asKey_currentValue (lines : List String) (ucr : String) (default : UcrValue) :
    (currentValue lines ucr default.asKey).asKey = (currentValue lines ucr default).asKey := by
  unfold currentValue
  split
  next => rfl
  next => cases default <;> rfl

/-- The value is the one of these lines under this key. -/
def CurrentIn (lines : List String) (key : String × UcrValue) (value : UcrValue) : Prop :=
  value.asKey = (currentValue lines key.1 key.2).asKey

/-- The time is that of the newest file that was seen, and the cache is about the last one. -/
structure UpToDate (epoch : M) (seen : List (UcrFile M)) (globals : UcrGlobals M) : Prop where
  newest : globals.ucrDbMtime = epoch ∨ ∃ old ∈ seen, globals.ucrDbMtime = old.mtime
  cached : ∀ lines, seen = [] ∨ seen.head?.map UcrFile.lines = some lines →
    globals.cached.Holds (CurrentIn lines)

omit [LinearOrder M] in
theorem upToDate_start (epoch : M) : UpToDate epoch [] ⟨epoch, .empty⟩ where
  newest := Or.inl rfl
  cached _ _ := Lru.holds_empty

theorem getUcrv_noticed {epoch : M} {seen : List (UcrFile M)} {globals : UcrGlobals M}
    (upToDate : UpToDate epoch seen globals) {file : UcrFile M}
    (noticed : Noticed epoch seen file) (ucr : String) (default : UcrValue) :
    CurrentIn file.lines (ucr, default.asKey) (getUcrv globals (some file) ucr default).1 ∧
      UpToDate epoch (file :: seen) (getUcrv globals (some file) ucr default).2 := by
  have new : CurrentIn file.lines (ucr, default.asKey) (readUcrv file ucr default) := by
    rw [CurrentIn, asKey_currentValue, readUcrv_eq]
  unfold getUcrv
  dsimp only
  by_cases newer : globals.ucrDbMtime < file.mtime
  · have nothing : Lru.Holds (CurrentIn file.lines) (.empty : Lru _ _ 16) := Lru.holds_empty
    obtain ⟨value, held⟩ := nothing.answer new
    simp only [if_pos newer]
    refine ⟨value, Or.inr ⟨file, List.mem_cons_self, rfl⟩, fun lines last => ?_⟩
    obtain rfl : file.lines = lines := by simpa using last
    exact held
  · have known : seen = [] ∨ seen.head?.map UcrFile.lines = some file.lines := by
      rcases noticed with first | last | ⟨afterEpoch, later⟩
      · exact Or.inl first
      · exact Or.inr last
      · rcases upToDate.newest with start | ⟨old, member, newest⟩
        · exact absurd (start ▸ afterEpoch) newer
        · exact absurd (newest ▸ later old member) newer
    obtain ⟨value, held⟩ := (upToDate.cached file.lines known).answer new
    simp only [if_neg newer]
    refine ⟨value, upToDate.newest.imp_right ?_, fun lines last => ?_⟩
    · rintro ⟨old, member, newest⟩
      exact ⟨old, List.mem_cons_of_mem file member, newest⟩
    · obtain rfl : file.lines = lines := by simpa using last
      exact held

theorem answers_upToDate {epoch : M} {seen : List (UcrFile M)} {globals : UcrGlobals M}
    (upToDate : UpToDate epoch seen globals) {file : Option (UcrFile M)}
    {events : List (UcrEvent M)} (inTime : InTime epoch file seen events) :
    (answers globals file events).map UcrValue.asKey =
      (readings file events).map UcrValue.asKey := by
  induction events generalizing globals file seen with
  | nil => rfl
  | cons event rest ih =>
      cases event with
      | rewrite newFile => exact ih upToDate inTime
      | call ucr default =>
          obtain ⟨noticed, later⟩ := inTime
          rw [answers, readings, List.map_cons, List.map_cons]
          cases file with
          | none => exact congrArg₂ List.cons rfl (ih upToDate later)
          | some file =>
              obtain ⟨value, next⟩ := getUcrv_noticed upToDate (noticed file rfl) ucr default
              rw [CurrentIn, asKey_currentValue] at value
              exact congrArg₂ List.cons value (ih next later)

/-- As long as every file is noticed, the calls return what they would return without a cache. -/
theorem ucr_cache_transparent {epoch : M} {file : Option (UcrFile M)}
    {events : List (UcrEvent M)} (inTime : InTime epoch file [] events) :
    (answers ⟨epoch, .empty⟩ file events).map UcrValue.asKey =
      (readings file events).map UcrValue.asKey :=
  answers_upToDate (upToDate_start epoch) inTime

theorem getUcrv_stale (globals : UcrGlobals M) {file older : UcrFile M}
    (notNewer : older.mtime ≤ file.mtime) (ucr : String) (default : UcrValue) :
    (getUcrv (getUcrv globals (some file) ucr default).2 (some older) ucr default).1 =
      (getUcrv globals (some file) ucr default).1 := by
  have recorded : file.mtime ≤ (getUcrv globals (some file) ucr default).2.ucrDbMtime := by
    unfold getUcrv
    dsimp only
    split
    next => exact le_refl file.mtime
    next newest => exact not_lt.mp newest
  rw [getUcrv.eq_def _ (some older)]
  simp only [if_neg (not_lt.mpr (notNewer.trans recorded))]
  exact Lru.answer_answer (by decide) _ _ _ _

end Cache

section Examples

def sourceUidFile (uid : String) (mtime : Nat) : UcrFile Nat where
  lines := ["ucsschool-id-connector/source_uid: " ++ uid ++ "\n"]
  damaged := false
  mtime := mtime

def askSourceUid : UcrEvent Nat := .call "ucsschool-id-connector/source_uid" (.str "TESTID")

theorem newer_file_is_read :
    (answers ⟨0, .empty⟩ (some (sourceUidFile "OLD" 10))
        [askSourceUid, .rewrite (some (sourceUidFile "NEW" 20)), askSourceUid]).map UcrValue.asKey =
      (readings (some (sourceUidFile "OLD" 10))
        [askSourceUid, .rewrite (some (sourceUidFile "NEW" 20)), askSourceUid]).map
          UcrValue.asKey := by
  refine ucr_cache_transparent ⟨?_, ?_, trivial⟩
  · rintro found ⟨⟩
    exact Or.inl rfl
  · rintro found ⟨⟩
    exact Or.inr (Or.inr (by decide))

theorem restored_backup_is_not_read :
    (sourceUidFile "NEW" 20).lines ≠ (sourceUidFile "OLD" 10).lines ∧
      (sourceUidFile "NEW" 20).mtime ≠ (sourceUidFile "OLD" 10).mtime ∧
      (answers ⟨0, .empty⟩ (some (sourceUidFile "NEW" 20))
          [askSourceUid, .rewrite (some (sourceUidFile "OLD" 10)), askSourceUid]).map
            UcrValue.asKey ≠
        (readings (some (sourceUidFile "NEW" 20))
          [askSourceUid, .rewrite (some (sourceUidFile "OLD" 10)), askSourceUid]).map
            UcrValue.asKey := by
  decide

end Examples

end IdConnector
