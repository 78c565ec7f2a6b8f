/-!
# Members: values under text keys, in order of first insertion

`get?` is the view of a table; `set` and `erase` are described through it.
-/

namespace RouletteStrategy

abbrev Members (α : Type) := List (String × α)

namespace Members

variable {α : Type}

def keys (m : Members α) : List String := m.map (·.1)

def get? (m : Members α) (key : String) : Option α :=
  match m with
  | [] => none
  | (k, v) :: rest => if k = key then some v else get? rest key

/-- Replaces the value of a key in place, or adds the key at the end. -/
def set (m : Members α) (key : String) (value : α) : Members α :=
  match m with
  | [] => [(key, value)]
  | (k, v) :: rest => if k = key then (k, value) :: rest else (k, v) :: set rest key value

def erase (m : Members α) (key : String) : Members α := m.filter (·.1 ≠ key)

def has (m : Members α) (key : String) : Bool := (m.get? key).isSome

/-- The members of both tables, those of the second winning. -/
def overlay (m n : Members α) : Members α := n.foldl (fun m kv => m.set kv.1 kv.2) m

/-- Adds a key that is not there yet. -/
def setDefault (m : Members α) (key : String) (value : α) : Members α :=
  if m.has key then m else m.set key value

/-- The members in order of their keys. -/
def sorted (m : Members α) : Members α := m.mergeSort fun a b => decide (a.1 ≤ b.1)

@[simp] theorem get?_nil (key : String) : get? ([] : Members α) key = none := rfl

@[simp] theorem get?_cons (k key : String) (v : α) (m : Members α) :
    get? ((k, v) :: m) key = if k = key then some v else get? m key := rfl

theorem get?_set (m : Members α) (key other : String) (value : α) :
    (m.set key value).get? other = if key = other then some value else m.get? other := by
  induction m with
  | nil => simp [set]
  | cons kv m ih =>
    obtain ⟨k, v⟩ := kv
    by_cases h : k = key
    · subst h; by_cases h' : k = other <;> simp [set, h']
    · by_cases h' : k = other
      · subst h'; simp [set, h, Ne.symm h]
      · simp [set, h, h', ih]

theorem get?_erase (m : Members α) (key other : String) :
    (m.erase key).get? other = if key = other then none else m.get? other := by
  induction m with
  | nil => simp [erase]
  | cons kv m ih =>
    obtain ⟨k, v⟩ := kv
    have cons :
        erase ((k, v) :: m) key = if k = key then erase m key else (k, v) :: erase m key := by
      by_cases h : k = key <;> simp [erase, h]
    rw [cons]
    grind [get?_cons]

end Members
end RouletteStrategy
