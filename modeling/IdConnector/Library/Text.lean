import Mathlib.Data.String.Basic
import Mathlib.Data.List.Forall2
import Mathlib.Data.List.Infix

/-! # Text operations

Lower-casing is left to an instance, because it follows the Unicode tables of
the running interpreter; only its idempotence and its behaviour on an ASCII
ending are ever needed. Prefix, suffix and split are spelled out on character
lists, and texts compare by code point.
-/

namespace Library

/-- An ASCII character that is not an upper-case letter. -/
def IsLowerAscii (c : Char) : Prop := c.toNat < 128 ∧ c.toLower = c

instance : DecidablePred IsLowerAscii := fun c =>
  inferInstanceAs (Decidable (c.toNat < 128 ∧ c.toLower = c))

/-- A lower-casing of strings that leaves lower-cased strings and ASCII endings in lower
    case alone, and the equality of single characters up to case. -/
class CaseMapping where
  lower : String → String
  sameLetter : Char → Char → Bool
  lower_lower : ∀ s, lower (lower s) = lower s
  lower_suffix : ∀ s suffix, (∀ c ∈ suffix, IsLowerAscii c) → suffix <:+ s.toList →
    suffix <:+ (lower s).toList
  sameLetter_refl : ∀ c, sameLetter c c = true

export CaseMapping (lower)

@[simp] theorem lower_lower [CaseMapping] (s : String) : lower (lower s) = lower s :=
  CaseMapping.lower_lower s

/-- The mapping on texts without letters outside ASCII. -/
def asciiLower (s : String) : String := String.ofList (s.toList.map Char.toLower)

private theorem toLower_toLower (c : Char) : c.toLower.toLower = c.toLower := by
  unfold Char.toLower
  split
  next upper =>
    rw [dif_neg]
    rintro ⟨-, high⟩
    simp only [UInt32.le_iff_toNat_le, ge_iff_le, UInt32.toNat_add] at upper high
    simp at upper high
    omega
  next => rfl

abbrev asciiCaseMapping : CaseMapping where
  lower := asciiLower
  sameLetter a b := a.toLower = b.toLower
  sameLetter_refl _ := decide_eq_true rfl
  lower_lower s := by
    simp only [asciiLower, String.toList_ofList, List.map_map]
    congr 2
    funext c
    exact toLower_toLower c
  lower_suffix s suffix ascii ending := by
    have unchanged : suffix.map Char.toLower = suffix :=
      (List.map_congr_left fun c member => (ascii c member).2).trans (List.map_id suffix)
    rw [asciiLower, String.toList_ofList]
    exact unchanged ▸ ending.map Char.toLower

namespace Text

def endsWith (s suffix : String) : Bool := suffix.toList.isSuffixOf s.toList

theorem endsWith_append (s suffix : String) : endsWith (s ++ suffix) suffix = true := by
  simp [endsWith, List.isSuffixOf_iff_suffix]

theorem endsWith_lower [CaseMapping] {s suffix : String}
    (ascii : ∀ c ∈ suffix.toList, IsLowerAscii c) (ending : endsWith s suffix = true) :
    endsWith (lower s) suffix = true := by
  rw [endsWith, List.isSuffixOf_iff_suffix] at ending ⊢
  exact CaseMapping.lower_suffix s suffix.toList ascii ending

/-- The text contains the part as a substring. -/
def OccursIn (part text : String) : Prop := part.toList <:+: text.toList

instance (part text : String) : Decidable (OccursIn part text) :=
  inferInstanceAs (Decidable (part.toList <:+: text.toList))

theorem OccursIn.refl (text : String) : OccursIn text text := List.infix_refl _

theorem OccursIn.trans {a b c : String} (ab : OccursIn a b) (bc : OccursIn b c) : OccursIn a c :=
  List.IsInfix.trans ab bc

theorem OccursIn.append_left {part text : String} (front : String) (occurs : OccursIn part text) :
    OccursIn part (front ++ text) := by
  refine occurs.trans ?_
  rw [OccursIn, String.toList_append]
  exact (List.suffix_append _ _).isInfix

theorem OccursIn.append_right {part text : String} (back : String) (occurs : OccursIn part text) :
    OccursIn part (text ++ back) := by
  refine occurs.trans ?_
  rw [OccursIn, String.toList_append]
  exact (List.prefix_append _ _).isInfix

/-- Drop everything from the last occurrence of a character on; without one, keep it all. -/
def beforeLast (c : Char) (s : String) : String :=
  match s.toList.reverse.dropWhile (· ≠ c) with
  | [] => s
  | _ :: front => String.ofList front.reverse

theorem beforeLast_append {c : Char} {tail : List Char} (absent : c ∉ tail) (front : String) :
    beforeLast c (front ++ String.ofList (c :: tail)) = front := by
  have dropped : ((front ++ String.ofList (c :: tail)).toList.reverse).dropWhile (· ≠ c) =
      c :: front.toList.reverse := by
    have all : ∀ d ∈ tail.reverse, decide (d ≠ c) = true := by
      intro d member
      rw [List.mem_reverse] at member
      apply decide_eq_true
      intro same
      exact absent (same ▸ member)
    rw [String.toList_append, String.toList_ofList, List.reverse_append, List.reverse_cons,
      List.append_assoc, List.dropWhile_append_of_pos all]
    simp
  unfold beforeLast
  rw [dropped]
  simp

theorem append_lt_append {a b : String} (x y : String) (same : a.length = b.length)
    (less : a < b) : a ++ x < b ++ y := by
  rw [String.lt_iff_toList_lt] at less ⊢
  rw [← String.length_toList, ← String.length_toList] at same
  rw [String.toList_append, String.toList_append]
  generalize a.toList = front, b.toList = back at same less
  induction front generalizing back with
  | nil =>
      obtain rfl : back = [] := List.eq_nil_of_length_eq_zero same.symm
      exact absurd less (List.not_lt_nil _)
  | cons c front ih =>
      cases back with
      | nil => simp at same
      | cons d back =>
          rw [List.cons_lt_cons_iff] at less
          rw [List.cons_append, List.cons_append, List.cons_lt_cons_iff]
          exact less.imp_right fun tail => ⟨tail.1, ih back (by simpa using same) tail.2⟩

/-- `text.split(sep, 1)` where the separator occurs: what is before its first occurrence and
    what is after it. -/
def splitOnce (sep : Char) (text : List Char) : Option (List Char × List Char) :=
  match text.dropWhile (· ≠ sep) with
  | [] => none
  | _ :: rest => some (text.takeWhile (· ≠ sep), rest)

theorem splitOnce_append {sep : Char} {front : List Char} (absent : sep ∉ front)
    (rest : List Char) : splitOnce sep (front ++ sep :: rest) = some (front, rest) := by
  have all : ∀ c ∈ front, decide (c ≠ sep) = true := by
    intro c member
    apply decide_eq_true
    intro same
    exact absent (same ▸ member)
  unfold splitOnce
  rw [List.dropWhile_append_of_pos all, List.takeWhile_append_of_pos all]
  simp

theorem not_mem_of_mem_splitOn {c : Char} {text part : List Char} (member : part ∈ text.splitOn c) :
    c ∉ part := by
  induction text generalizing part with
  | nil =>
      obtain rfl : part = [] := by simpa using member
      simp
  | cons d text ih =>
      rw [List.splitOn_cons_eq_if_modifyHead] at member
      split at member
      next =>
        rcases List.mem_cons.mp member with rfl | later
        · simp
        · exact ih later
      next other =>
        cases parts : text.splitOn c with
        | nil => simp [parts] at member
        | cons first rest =>
            rw [parts, List.modifyHead_cons] at member
            rcases List.mem_cons.mp member with rfl | later
            · have clean : c ∉ first := ih (parts ▸ List.mem_cons_self)
              rw [List.mem_cons, not_or]
              exact ⟨fun same => other (beq_iff_eq.mpr same.symm), clean⟩
            · exact ih (parts ▸ List.mem_cons_of_mem _ later)

/-- Match a literal at the front, up to case; the result is what follows it. -/
def skipLiteral [CaseMapping] : List Char → List Char → Option (List Char)
  | [], rest => some rest
  | _ :: _, [] => none
  | c :: literal, d :: rest =>
      if CaseMapping.sameLetter c d then skipLiteral literal rest else none

/-- The lazy group `[^x]+?`: the shortest non-empty prefix without the excluded
    character after which `next` matches. -/
def lazyGroup {β : Type} (excluded : Char) (next : List Char → List Char → Option β) :
    List Char → List Char → Option β
  | _, [] => none
  | taken, c :: rest =>
      if c = excluded then none
      else
        match next (taken ++ [c]) rest with
        | some result => some result
        | none => lazyGroup excluded next (taken ++ [c]) rest

/-- The greedy group `[^x]+`: the longest non-empty prefix without the excluded character
    after which `next` matches. -/
def greedyGroup {β : Type} (excluded : Char) (next : List Char → Option β) :
    List Char → Option β
  | [] => none
  | c :: rest =>
      if c = excluded then none
      else
        match greedyGroup excluded next rest with
        | some result => some result
        | none => next rest

/-! ## Groups that end before the excluded character -/

section Groups

variable {β : Type} {excluded : Char} {next : List Char → List Char → Option β}

/-- A lazy group that fails on every prefix goes on behind the text. -/
theorem lazyGroup_skip {front rest taken : List Char} (clean : excluded ∉ front)
    (fails : ∀ p q, front = p ++ q → p ≠ [] → next (taken ++ p) (q ++ rest) = none) :
    lazyGroup excluded next taken (front ++ rest) =
      lazyGroup excluded next (taken ++ front) rest := by
  induction front generalizing taken with
  | nil => simp
  | cons c front ih =>
      have other : c ≠ excluded := fun same => clean (same ▸ List.mem_cons_self)
      have first := fails [c] front rfl (by simp)
      rw [List.cons_append, lazyGroup, if_neg other, first]
      dsimp only
      rw [ih (fun member => clean (List.mem_cons_of_mem _ member)), List.append_assoc,
        List.singleton_append]
      intro p q parts _
      have whole := fails (c :: p) q (by rw [parts, List.cons_append]) (by simp)
      rwa [List.append_assoc, List.singleton_append]

theorem lazyGroup_none {front rest taken : List Char} (clean : excluded ∉ front)
    (fails : ∀ p q, front = p ++ q → p ≠ [] →
      next (taken ++ p) (q ++ excluded :: rest) = none) :
    lazyGroup excluded next taken (front ++ excluded :: rest) = none := by
  rw [lazyGroup_skip clean fails, lazyGroup, if_pos rfl]

/-- Whatever the group is, it is not empty. -/
theorem lazyGroup_filled {p : β → Prop} {taken text : List Char} {b : β}
    (each : ∀ group rest b, group ≠ [] → next group rest = some b → p b)
    (matched : lazyGroup excluded next taken text = some b) : p b := by
  induction text generalizing taken with
  | nil => cases matched
  | cons c rest ih =>
      rw [lazyGroup] at matched
      split at matched
      · cases matched
      · split at matched
        next result here =>
          cases matched
          exact each _ _ _ (by simp) here
        next => exact ih matched

/-- The group is the shortest prefix after which the rest matches. -/
theorem lazyGroup_some {front rest taken : List Char} {b : β} (clean : excluded ∉ front)
    (nonempty : front ≠ [])
    (fails : ∀ p q, front = p ++ q → p ≠ [] → q ≠ [] → next (taken ++ p) (q ++ rest) = none)
    (hit : next (taken ++ front) rest = some b) :
    lazyGroup excluded next taken (front ++ rest) = some b := by
  obtain ⟨init, c, rfl⟩ := (List.eq_nil_or_concat' front).resolve_left nonempty
  rw [List.mem_append, not_or, List.mem_singleton] at clean
  rw [List.append_assoc, lazyGroup_skip clean.1, List.singleton_append, lazyGroup,
    if_neg (Ne.symm clean.2), List.append_assoc, hit]
  intro p q parts taken_some
  have shorter := fails p (q ++ [c]) (by rw [parts, List.append_assoc]) taken_some (by simp)
  rwa [List.append_assoc] at shorter

theorem greedyGroup_none {next : List Char → Option β} {text : List Char}
    (fails : ∀ p q, text = p ++ q → p ≠ [] → excluded ∉ p → next q = none) :
    greedyGroup excluded next text = none := by
  induction text with
  | nil => rfl
  | cons c rest ih =>
      rw [greedyGroup]
      split
      next => rfl
      next other =>
        have clean {p : List Char} (absent : excluded ∉ p) : excluded ∉ c :: p := by
          simp [absent, Ne.symm other]
        have later := ih fun p q parts _ absent =>
          fails (c :: p) q (by rw [parts, List.cons_append]) (by simp) (clean absent)
        rw [later]
        exact fails [c] rest rfl (by simp) (clean (by simp))

/-- The group is the longest prefix after which the rest matches. -/
theorem greedyGroup_some {next : List Char → Option β} {front rest : List Char} {b : β}
    (nonempty : front ≠ []) (clean : excluded ∉ front) (hit : next rest = some b)
    (later : ∀ p q, rest = p ++ q → p ≠ [] → next q = none) :
    greedyGroup excluded next (front ++ rest) = some b := by
  induction front with
  | nil => exact absurd rfl nonempty
  | cons c front ih =>
      have other : c ≠ excluded := fun same => clean (same ▸ List.mem_cons_self)
      rw [List.cons_append, greedyGroup, if_neg other]
      cases front with
      | nil =>
          have nothing : greedyGroup excluded next rest = none :=
            greedyGroup_none fun p q parts nonempty _ => later p q parts nonempty
          rw [List.nil_append, nothing]
          exact hit
      | cons d front =>
          rw [ih (by simp) fun member => clean (List.mem_cons_of_mem c member)]

end Groups

/-- A literal in which the first character occurs once ends before the next such character. -/
theorem prefix_of_prefix_append {c : Char} {tail q rest : List Char} (once : c ∉ tail)
    (nonempty : q ≠ []) (starts : c :: tail <+: q ++ c :: rest) : c :: tail <+: q := by
  obtain ⟨after, parts⟩ := starts
  rcases List.append_eq_append_iff.mp parts with ⟨m, rfl, -⟩ | ⟨m, same, after_eq⟩
  · exact List.prefix_append _ _
  · cases m with
    | nil => rw [same, List.append_nil]
    | cons d m =>
        obtain ⟨rfl, -⟩ : d = c ∧ _ := by simpa [eq_comm] using after_eq
        cases q with
        | nil => exact absurd rfl nonempty
        | cons e q =>
            rw [List.cons_append, List.cons.injEq] at same
            exact absurd (same.2 ▸ by simp) once

section Literals

variable [CaseMapping]

/-- The same characters up to case. -/
def SameLetters (a b : List Char) : Prop :=
  List.Forall₂ (fun c d => CaseMapping.sameLetter c d = true) a b

theorem sameLetters_refl (a : List Char) : SameLetters a a :=
  List.forall₂_same.mpr fun c _ => CaseMapping.sameLetter_refl c

theorem skipLiteral_append {literal text : List Char} (same : SameLetters literal text)
    (rest : List Char) : skipLiteral literal (text ++ rest) = some rest := by
  induction same with
  | nil => rfl
  | cons letter _ ih => rw [List.cons_append, skipLiteral, if_pos letter, ih]

theorem skipLiteral_self (literal rest : List Char) :
    skipLiteral literal (literal ++ rest) = some rest :=
  skipLiteral_append (sameLetters_refl literal) rest

/-- A shorter literal leaves something of the text, if it matches at all. -/
theorem skipLiteral_short {literal text rest left : List Char} (shorter : literal.length < text.length)
    (skipped : skipLiteral literal (text ++ rest) = some left) :
    ∃ c tail, c ∈ text ∧ left = c :: tail := by
  induction literal generalizing text with
  | nil =>
      cases text with
      | nil => simp at shorter
      | cons c text =>
          cases skipped
          exact ⟨c, text ++ rest, List.mem_cons_self, rfl⟩
  | cons l literal ih =>
      cases text with
      | nil => simp at shorter
      | cons c text =>
          rw [List.cons_append, skipLiteral] at skipped
          split at skipped
          · obtain ⟨d, tail, member, same⟩ := ih (by simpa using shorter) skipped
            exact ⟨d, tail, List.mem_cons_of_mem _ member, same⟩
          · cases skipped

end Literals

end Text

end Library
