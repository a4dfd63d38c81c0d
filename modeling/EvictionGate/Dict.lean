/-!
# Maps from names

Labels, annotations, variables and the members of a JSON object are maps from
strings. A map is a list of pairs; `insert` keeps the keys in ascending order, so
that a map built by insertions is listed the way it is printed.

The laws are stated through the view `get?` and hold of every list of pairs,
sorted or not: a key that is written reads back, a key that is erased is gone,
and every other key is untouched.
-/

namespace EvictionGate

/-- A map from strings, as a list of pairs. The first pair of a key counts. -/
abbrev Dict (α : Type) := List (String × α)

namespace Dict

variable {α : Type}

/-- The value under a key. -/
def get? : Dict α → String → Option α
  | [], _ => none
  | (k, v) :: d, key => if k = key then some v else get? d key

/-- The map with `key` set to `value`, its old value replaced. -/
def insert : Dict α → String → α → Dict α
  | [], key, value => [(key, value)]
  | (k, v) :: d, key, value =>
    if k = key then (key, value) :: d
    else if key < k then (key, value) :: (k, v) :: d
    else (k, v) :: insert d key value

/-- The map without `key`. -/
def erase : Dict α → String → Dict α
  | [], _ => []
  | (k, v) :: d, key => if k = key then erase d key else (k, v) :: erase d key

/-- The map of a list of pairs in which a later pair replaces an earlier one. -/
def ofPairs (pairs : List (String × α)) : Dict α :=
  pairs.foldl (fun d p => insert d p.1 p.2) []

/-- Whether the map holds a key. -/
def contains (d : Dict α) (key : String) : Bool :=
  (get? d key).isSome

@[simp] theorem get?_nil (key : String) : get? ([] : Dict α) key = none := rfl

@[simp] theorem get?_insert_self (d : Dict α) (key : String) (value : α) :
    get? (insert d key value) key = some value := by
  induction d with
  | nil => simp [insert, get?]
  | cons p d ih =>
    obtain ⟨k, v⟩ := p
    simp only [insert]
    split
    · simp [get?]
    · next h =>
      split
      · simp [get?]
      · simp [get?, h, ih]

theorem get?_insert_of_ne (d : Dict α) {key other : String} (value : α) (h : other ≠ key) :
    get? (insert d key value) other = get? d other := by
  induction d with
  | nil => simp [insert, get?, h.symm]
  | cons p d ih =>
    obtain ⟨k, v⟩ := p
    simp only [insert]
    split
    · next hk => subst hk; simp [get?, h.symm]
    · split
      · simp [get?, h.symm]
      · simp [get?, ih]

/-- Of two values written under one key the later one stands. -/
theorem insert_insert (d : Dict α) (key : String) (earlier later : α) :
    insert (insert d key earlier) key later = insert d key later := by
  induction d with
  | nil => simp [insert]
  | cons p d ih =>
    obtain ⟨k, v⟩ := p
    by_cases hk : k = key
    · simp [insert, hk]
    · by_cases hlt : key < k
      · simp [insert, hk, hlt]
      · simp [insert, hk, hlt, ih]

@[simp] theorem get?_erase_self (d : Dict α) (key : String) : get? (erase d key) key = none := by
  induction d with
  | nil => rfl
  | cons p d ih =>
    obtain ⟨k, v⟩ := p
    simp only [erase]
    split
    · exact ih
    · next h => simp [get?, h, ih]

theorem get?_erase_of_ne (d : Dict α) {key other : String} (h : other ≠ key) :
    get? (erase d key) other = get? d other := by
  induction d with
  | nil => rfl
  | cons p d ih =>
    obtain ⟨k, v⟩ := p
    simp only [erase]
    split
    · next hk => subst hk; simp [get?, h.symm, ih]
    · simp [get?, ih]

/-- What is written and then erased leaves no trace. -/
theorem erase_insert (d : Dict α) (key : String) (value : α) :
    erase (insert d key value) key = erase d key := by
  induction d with
  | nil => simp [insert, erase]
  | cons p d ih =>
    obtain ⟨k, v⟩ := p
    by_cases hk : k = key
    · simp [insert, erase, hk]
    · by_cases hlt : key < k
      · simp [insert, erase, hk, hlt]
      · simp [insert, erase, hk, hlt, ih]

theorem erase_erase (d : Dict α) (key : String) : erase (erase d key) key = erase d key := by
  induction d with
  | nil => rfl
  | cons p d ih =>
    obtain ⟨k, v⟩ := p
    by_cases hk : k = key
    · simp [erase, hk, ih]
    · simp [erase, hk, ih]

end Dict

end EvictionGate
