namespace MessageBus

/-!
# Ordered lists and indices

Whatever the manager lists, it lists in ascending order: the modules that want a
type, the types that a module wants, the loggers.  An ordered list is a list
into which `Ascending.insert` is the only way; inserting what is there changes
nothing, so it is also a set.

An `Index` assigns such a list to each key.  A key without values has no entry,
so an index over nothing is empty whatever happened to it before.
-/

namespace Ascending

variable [LT α] [DecidableLT α] [DecidableEq α]

/-- A value in its place, once. -/
def insert (value : α) : List α -> List α
  | [] => [value]
  | head :: tail =>
      if value = head then head :: tail
      else if value < head then value :: head :: tail
      else head :: insert value tail

theorem mem_insert {value other : α} {values : List α} :
    other ∈ insert value values ↔ other = value ∨ other ∈ values := by
  induction values with
  | nil => simp [insert]
  | cons head tail ih =>
      unfold insert
      split
      · next same => subst same; simp
      · split
        · simp
        · simp only [List.mem_cons, ih]
          constructor
          · rintro (here | here | here) <;> simp [here]
          · rintro (here | here | here) <;> simp [here]

/-- The values of both lists. -/
def union (first second : List α) : List α :=
  first.foldl (fun values value => insert value values) second

theorem mem_union {other : α} {first second : List α} :
    other ∈ union first second ↔ other ∈ first ∨ other ∈ second := by
  induction first generalizing second with
  | nil => simp [union]
  | cons head tail ih =>
      have step : union (head :: tail) second = union tail (insert head second) := rfl
      rw [step, ih, mem_insert, List.mem_cons]
      constructor
      · rintro (here | here | here) <;> simp [here]
      · rintro ((here | here) | here) <;> simp [here]

end Ascending

/-- A list of values for each of finitely many keys. -/
structure Index (κ ν : Type) where
  entries : List (κ × List ν) := []
deriving DecidableEq, Repr

namespace Index

variable [LT κ] [DecidableLT κ] [DecidableEq κ] [LT ν] [DecidableLT ν] [DecidableEq ν]

/-- The values of a key. -/
def get (index : Index κ ν) (key : κ) : List ν :=
  ((index.entries.find? (·.1 = key)).map (·.2)).getD []

/-- Whether a key has a value. -/
def has (index : Index κ ν) (key : κ) (value : ν) : Bool :=
  (index.get key).contains value

/-- Entries with one value more. -/
def insertEntry (key : κ) (value : ν) : List (κ × List ν) -> List (κ × List ν)
  | [] => [(key, [value])]
  | (other, values) :: rest =>
      if key = other then (other, Ascending.insert value values) :: rest
      else if key < other then (key, [value]) :: (other, values) :: rest
      else (other, values) :: insertEntry key value rest

def insert (index : Index κ ν) (key : κ) (value : ν) : Index κ ν :=
  ⟨insertEntry key value index.entries⟩

/-- Everything about a key forgotten. -/
def eraseKey (index : Index κ ν) (key : κ) : Index κ ν :=
  ⟨index.entries.filter (·.1 ≠ key)⟩

/-- One value less, and no entry for a key that has none left. -/
def erase (index : Index κ ν) (key : κ) (value : ν) : Index κ ν :=
  ⟨index.entries.filterMap fun (other, values) =>
    if key = other then
      let left := values.filter (· ≠ value)
      if left.isEmpty then none else some (other, left)
    else some (other, values)⟩

end Index

end MessageBus
