import IdConnector.Library.Document

/-! # Changing the leaves of a document

`mapLeaves` keeps the shape of a document and changes its leaves. What becomes of a
leaf may depend on the key that it stands directly under; the items of a list have none.
-/

namespace Library.Document

variable {α β γ δ : Type}

mutual
def mapLeaves (f : Option String → α → β) (key : Option String) : Document α → Document β
  | .null => .null
  | .atom value => .atom (f key value)
  | .list items => .list (mapItems f items)
  | .dict entries => .dict (mapEntries f entries)

def mapItems (f : Option String → α → β) : List (Document α) → List (Document β)
  | [] => []
  | item :: rest => item.mapLeaves f none :: mapItems f rest

def mapEntries (f : Option String → α → β) : List (String × Document α) → Entries β
  | [] => []
  | (k, v) :: rest => (k, v.mapLeaves f (some k)) :: mapEntries f rest
end

mutual
/-- Every leaf satisfies the predicate. -/
def AllLeaves (p : α → Prop) : Document α → Prop
  | .null => True
  | .atom value => p value
  | .list items => AllItems p items
  | .dict entries => AllEntries p entries

def AllItems (p : α → Prop) : List (Document α) → Prop
  | [] => True
  | item :: rest => item.AllLeaves p ∧ AllItems p rest

def AllEntries (p : α → Prop) : List (String × Document α) → Prop
  | [] => True
  | (_, v) :: rest => v.AllLeaves p ∧ AllEntries p rest
end

variable (f : Option String → α → β)

theorem mapItems_eq_map (items : List (Document α)) :
    mapItems f items = items.map fun item => item.mapLeaves f none := by
  induction items with
  | nil => rfl
  | cons item rest ih => exact congrArg _ ih

theorem mapEntries_eq_map (entries : List (String × Document α)) :
    mapEntries f entries = entries.map fun entry => (entry.1, entry.2.mapLeaves f (some entry.1)) := by
  induction entries with
  | nil => rfl
  | cons entry rest ih => exact congrArg _ ih

theorem mapEntries_get (d : Entries α) (k : String) :
    Dict.get (mapEntries f d) k = (d.get k).map (mapLeaves f (some k)) := by
  induction d with
  | nil => rfl
  | cons entry rest ih =>
      rcases entry with ⟨key, v⟩
      rw [mapEntries, Dict.get_cons, Dict.get_cons, ih]
      split
      next same => subst same; rfl
      next => rfl

theorem mapEntries_set (d : Entries α) (k : String) (v : Document α) :
    mapEntries f (d.set k v) = Dict.set (mapEntries f d) k (v.mapLeaves f (some k)) := by
  induction d with
  | nil => rfl
  | cons entry rest ih =>
      rcases entry with ⟨key, w⟩
      by_cases same : key = k
      · subst same
        simp [Dict.set, mapEntries]
      · simp [Dict.set, mapEntries, same, ih]

theorem keys_mapEntries (d : Entries α) : Dict.keys (mapEntries f d) = d.keys := by
  simp only [mapEntries_eq_map, Dict.keys, List.map_map]
  rfl

mutual
theorem mapLeaves_comp (g : Option String → β → γ) (key : Option String) (v : Document α) :
    (v.mapLeaves f key).mapLeaves g key = v.mapLeaves (fun k leaf => g k (f k leaf)) key := by
  cases v with
  | null | atom => rfl
  | list items => exact congrArg list (mapItems_comp g items)
  | dict entries => exact congrArg dict (mapEntries_comp g entries)

theorem mapItems_comp (g : Option String → β → γ) (items : List (Document α)) :
    mapItems g (mapItems f items) = mapItems (fun k leaf => g k (f k leaf)) items := by
  cases items with
  | nil => rfl
  | cons item rest => simp only [mapItems, mapLeaves_comp g none item, mapItems_comp g rest]

theorem mapEntries_comp (g : Option String → β → γ) (entries : List (String × Document α)) :
    mapEntries g (mapEntries f entries) = mapEntries (fun k leaf => g k (f k leaf)) entries := by
  cases entries with
  | nil => rfl
  | cons entry rest =>
      simp only [mapEntries, mapLeaves_comp g (some entry.1) entry.2, mapEntries_comp g rest]
end

variable {f}

mutual
theorem mapLeaves_id (key : Option String) (v : Document α) :
    v.mapLeaves (fun _ leaf => leaf) key = v := by
  cases v with
  | null | atom => rfl
  | list items => exact congrArg list (mapItems_id items)
  | dict entries => exact congrArg dict (mapEntries_id entries)

theorem mapItems_id (items : List (Document α)) : mapItems (fun _ leaf => leaf) items = items := by
  cases items with
  | nil => rfl
  | cons item rest => simp only [mapItems, mapLeaves_id none item, mapItems_id rest]

theorem mapEntries_id (entries : List (String × Document α)) :
    mapEntries (fun _ leaf => leaf) entries = entries := by
  cases entries with
  | nil => rfl
  | cons entry rest => simp only [mapEntries, mapLeaves_id (some entry.1) entry.2, mapEntries_id rest]
end

mutual
/-- On documents whose leaves two functions change alike, they agree. -/
theorem mapLeaves_congr {g : Option String → α → β} {p : α → Prop}
    (same : ∀ key leaf, p leaf → f key leaf = g key leaf) (key : Option String) {v : Document α}
    (all : v.AllLeaves p) : v.mapLeaves f key = v.mapLeaves g key := by
  cases v with
  | null => rfl
  | atom leaf => exact congrArg atom (same key leaf all)
  | list items => exact congrArg list (mapItems_congr same all)
  | dict entries => exact congrArg dict (mapEntries_congr same all)

theorem mapItems_congr {g : Option String → α → β} {p : α → Prop}
    (same : ∀ key leaf, p leaf → f key leaf = g key leaf) {items : List (Document α)}
    (all : AllItems p items) : mapItems f items = mapItems g items := by
  cases items with
  | nil => rfl
  | cons item rest =>
      simp only [mapItems, mapLeaves_congr same none all.1, mapItems_congr same all.2]

theorem mapEntries_congr {g : Option String → α → β} {p : α → Prop}
    (same : ∀ key leaf, p leaf → f key leaf = g key leaf) {entries : List (String × Document α)}
    (all : AllEntries p entries) : mapEntries f entries = mapEntries g entries := by
  cases entries with
  | nil => rfl
  | cons entry rest =>
      simp only [mapEntries, mapLeaves_congr same (some entry.1) all.1, mapEntries_congr same all.2]
end

mutual
/-- Two documents that look the same through `f` and through `g` look the same through every
    function that cannot tell more. -/
theorem mapLeaves_eq_of_eq {g : Option String → α → γ} {h : Option String → α → δ}
    (coarser : ∀ key a b, f key a = f key b → g key a = g key b → h key a = h key b)
    {key : Option String} {v w : Document α} (first : v.mapLeaves f key = w.mapLeaves f key)
    (second : v.mapLeaves g key = w.mapLeaves g key) :
    v.mapLeaves h key = w.mapLeaves h key := by
  cases v with
  | null => cases w <;> simp_all [mapLeaves]
  | atom leaf =>
      cases w with
      | atom other =>
          exact congrArg atom (coarser key leaf other (Document.atom.inj first)
            (Document.atom.inj second))
      | null | list | dict => cases first
  | list items =>
      cases w with
      | list others =>
          exact congrArg list (mapItems_eq_of_eq coarser (Document.list.inj first)
            (Document.list.inj second))
      | null | atom | dict => cases first
  | dict entries =>
      cases w with
      | dict others =>
          exact congrArg dict (mapEntries_eq_of_eq coarser (Document.dict.inj first)
            (Document.dict.inj second))
      | null | atom | list => cases first

theorem mapItems_eq_of_eq {g : Option String → α → γ} {h : Option String → α → δ}
    (coarser : ∀ key a b, f key a = f key b → g key a = g key b → h key a = h key b)
    {items others : List (Document α)} (first : mapItems f items = mapItems f others)
    (second : mapItems g items = mapItems g others) : mapItems h items = mapItems h others := by
  cases items with
  | nil => cases others with
    | nil => rfl
    | cons => cases first
  | cons item rest => cases others with
    | nil => cases first
    | cons other more =>
        simp only [mapItems, List.cons.injEq] at first second ⊢
        exact ⟨mapLeaves_eq_of_eq coarser first.1 second.1,
          mapItems_eq_of_eq coarser first.2 second.2⟩

theorem mapEntries_eq_of_eq {g : Option String → α → γ} {h : Option String → α → δ}
    (coarser : ∀ key a b, f key a = f key b → g key a = g key b → h key a = h key b)
    {entries others : List (String × Document α)}
    (first : mapEntries f entries = mapEntries f others)
    (second : mapEntries g entries = mapEntries g others) :
    mapEntries h entries = mapEntries h others := by
  cases entries with
  | nil => cases others with
    | nil => rfl
    | cons => cases first
  | cons entry rest => cases others with
    | nil => cases first
    | cons other more =>
        rcases entry with ⟨k, v⟩
        rcases other with ⟨l, w⟩
        simp only [mapEntries, List.cons.injEq, Prod.mk.injEq] at first second ⊢
        obtain ⟨⟨rfl, same⟩, tail⟩ := first
        exact ⟨⟨rfl, mapLeaves_eq_of_eq coarser same second.1.2⟩,
          mapEntries_eq_of_eq coarser tail second.2⟩
end

end Library.Document
