/-!
# Dictionaries

A finite map from names, kept as its entries in the order in which their names first came. Every name
has one entry.
-/

namespace Formula

/-- The value of the first entry with this name. -/
def findEntry {α : Type} (name : String) : List (String × α) → Option α
  | [] => none
  | (key, value) :: rest => if key = name then some value else findEntry name rest

/-- Gives a name a new value where it stands, or an entry at the end. -/
def setEntry {α : Type} (name : String) (value : α) : List (String × α) → List (String × α)
  | [] => [(name, value)]
  | (key, old) :: rest =>
    if key = name then (name, value) :: rest else (key, old) :: setEntry name value rest

/-- Setting an entry adds its name to the keys and no other. -/
theorem mem_keys_setEntry {α : Type} {name key : String} {value : α} {entries : List (String × α)} :
    key ∈ (setEntry name value entries).map Prod.fst ↔
      key = name ∨ key ∈ entries.map Prod.fst := by
  induction entries with
  | nil => simp [setEntry]
  | cons entry rest ih =>
    rw [setEntry]
    split
    · next same => simp [← same]
    · simp only [List.map_cons, List.mem_cons, ih]
      exact or_left_comm

/-- Setting an entry repeats no key. -/
theorem nodup_keys_setEntry {α : Type} {name : String} {value : α} {entries : List (String × α)}
    (h : (entries.map Prod.fst).Nodup) : ((setEntry name value entries).map Prod.fst).Nodup := by
  induction entries with
  | nil => simp [setEntry]
  | cons entry rest ih =>
    rw [List.map_cons, List.nodup_cons] at h
    rw [setEntry]
    split
    · next same =>
      rw [List.map_cons, List.nodup_cons]
      exact ⟨same ▸ h.1, h.2⟩
    · next other =>
      rw [List.map_cons, List.nodup_cons]
      refine ⟨fun member => ?_, ih h.2⟩
      rcases mem_keys_setEntry.mp member with same | before
      · exact other same
      · exact h.1 before

/-- An entry that is set is found under its name, and the others as before. -/
theorem findEntry_setEntry {α : Type} (name key : String) (value : α)
    (entries : List (String × α)) :
    findEntry key (setEntry name value entries) =
      if key = name then some value else findEntry key entries := by
  induction entries with
  | nil => simp [setEntry, findEntry, eq_comm]
  | cons entry rest ih =>
    rw [setEntry]
    split
    · next same =>
      simp only [findEntry, same]
      by_cases new : key = name
      · simp [new]
      · simp [new, Ne.symm new]
    · next other =>
      simp only [findEntry, ih]
      by_cases new : key = name
      · simp [new, other]
      · simp [new]

/-- A finite map from names. -/
structure Dictionary (α : Type) where
  entries : List (String × α)
  nodup : (entries.map Prod.fst).Nodup

namespace Dictionary

variable {α : Type}

def empty : Dictionary α := ⟨[], List.nodup_nil⟩

instance : Inhabited (Dictionary α) := ⟨empty⟩

/-- The value of a name. -/
def get? (d : Dictionary α) (name : String) : Option α := findEntry name d.entries

/-- Tells whether a name has a value. -/
def contains (d : Dictionary α) (name : String) : Bool := (d.get? name).isSome

/-- Gives a name a value, in place of the one it had. -/
def insert (d : Dictionary α) (name : String) (value : α) : Dictionary α :=
  ⟨setEntry name value d.entries, nodup_keys_setEntry d.nodup⟩

def size (d : Dictionary α) : Nat := d.entries.length

def isEmpty (d : Dictionary α) : Bool := d.entries.isEmpty

/-- The map with these values, where a later one takes the place of an earlier one. -/
def ofList (entries : List (String × α)) : Dictionary α :=
  entries.foldl (fun d entry => d.insert entry.1 entry.2) empty

/-- Tells whether two maps have the same names and values that `same` accepts for each. -/
def equal (same : α → α → Bool) (d e : Dictionary α) : Bool :=
  d.size == e.size && d.entries.all fun (name, value) => (e.get? name).any (same value)

/-- A value that is inserted is found under its name, and the others as before. -/
@[simp] theorem get?_insert (d : Dictionary α) (name key : String) (value : α) :
    (d.insert name value).get? key = if key = name then some value else d.get? key :=
  findEntry_setEntry name key value d.entries

end Dictionary

end Formula
