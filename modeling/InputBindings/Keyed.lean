/-!
# Keyed lists

A list of entries under keys in which each key occurs once. Setting a key that is there changes its
entry in place; a new key goes to the end.
-/

namespace InputBindings.Keyed

variable {κ α : Type} [DecidableEq κ]

/-- Sets the entry under a key. -/
def put (entries : List (κ × α)) (key : κ) (value : α) : List (κ × α) :=
  match entries with
  | [] => [(key, value)]
  | (k, v) :: rest => if k = key then (k, value) :: rest else (k, v) :: put rest key value

/-- The keyed list of some entries: of a repeated key the first place and the last value. -/
def ofList (entries : List (κ × α)) : List (κ × α) :=
  entries.foldl (fun done entry => put done entry.1 entry.2) []

/-- The entry under a key. -/
def get? (entries : List (κ × α)) (key : κ) : Option α :=
  (entries.find? (·.1 = key)).map (·.2)

theorem put_keys (entries : List (κ × α)) (key : κ) (value : α) :
    (put entries key value).map (·.1) =
      if key ∈ entries.map (·.1) then entries.map (·.1) else entries.map (·.1) ++ [key] := by
  induction entries with
  | nil => rfl
  | cons entry rest ih =>
    obtain ⟨k, v⟩ := entry
    by_cases h : k = key
    · simp [put, h]
    · have h' : key ≠ k := fun e => h e.symm
      simp only [put, h, if_false, List.map_cons, ih, List.mem_cons, h', false_or]
      split <;> simp

end InputBindings.Keyed
