set_option autoImplicit false

namespace ApiScribe

/-- The entries of a dictionary, in increasing order of keys. -/
abbrev Dict (α : Type) := List (String × α)

namespace Dict

variable {α β : Type}

def get? (d : List (String × α)) (key : String) : Option α :=
  match d with
  | [] => none
  | (k, x) :: rest => if k = key then some x else get? rest key

def contains (d : List (String × α)) (key : String) : Bool :=
  (get? d key).isSome

def insert (key : String) (x : α) : List (String × α) → List (String × α)
  | [] => [(key, x)]
  | (k, y) :: rest =>
    if key = k then (key, x) :: rest
    else if key < k then (key, x) :: (k, y) :: rest
    else (k, y) :: insert key x rest

def ofList (entries : List (String × α)) : Dict α :=
  entries.foldl (fun d e => insert e.1 e.2 d) []

def keys (d : List (String × α)) : List String :=
  d.map Prod.fst

def mapValues (f : α → β) (d : List (String × α)) : Dict β :=
  d.map fun e => (e.1, f e.2)

def Sorted (d : List (String × α)) : Prop :=
  (keys d).Pairwise (· < ·)

theorem get?_insert_self (d : List (String × α)) (key : String) (x : α) :
    get? (insert key x d) key = some x := by
  induction d with
  | nil => simp [insert, get?]
  | cons e rest ih =>
    obtain ⟨k, y⟩ := e
    rw [insert]
    split
    · simp [get?]
    · split
      · simp [get?]
      · rename_i different _
        simp [get?, Ne.symm different, ih]

theorem get?_insert_of_ne (d : List (String × α)) {key other : String} (x : α)
    (different : other ≠ key) : get? (insert key x d) other = get? d other := by
  induction d with
  | nil => simp [insert, get?, different.symm]
  | cons e rest ih =>
    obtain ⟨k, y⟩ := e
    rw [insert]
    split
    · rename_i same
      subst same
      simp [get?, different.symm]
    · split
      · simp [get?, different.symm]
      · by_cases here : k = other <;> simp [get?, here, ih]

end Dict

end ApiScribe
