/-!
Named values in the order in which their names first came. Putting a value under a name that is
already there replaces the value in its place.
-/

namespace CustomerNotice

abbrev Entries (Value : Type) := List (String × Value)

namespace Entries

variable {Value : Type}

def get? (key : String) : Entries Value → Option Value
  | [] => none
  | (name, value) :: rest => if name = key then some value else get? key rest

def put (key : String) (value : Value) : Entries Value → Entries Value
  | [] => [(key, value)]
  | (name, old) :: rest =>
      if name = key then (name, value) :: rest else (name, old) :: put key value rest

/-- Puts all values in order, so that of two under one name the later stays. -/
def ofList (pairs : List (String × Value)) : Entries Value :=
  pairs.foldl (fun entries pair => put pair.1 pair.2 entries) []

@[simp] theorem get?_nil (key : String) : get? key ([] : Entries Value) = none := rfl

@[simp] theorem get?_put_same (key : String) (value : Value) (entries : Entries Value) :
    get? key (put key value entries) = some value := by
  induction entries with
  | nil => simp [put, get?]
  | cons entry rest induction =>
      obtain ⟨name, old⟩ := entry
      by_cases same : name = key
      · simp [put, get?, same]
      · simp [put, get?, same, induction]

theorem get?_put_other
    {key other : String}
    (different : other ≠ key)
    (value : Value)
    (entries : Entries Value) :
    get? other (put key value entries) = get? other entries := by
  induction entries with
  | nil => simp [put, get?, different.symm]
  | cons entry rest induction =>
      obtain ⟨name, old⟩ := entry
      by_cases same : name = key
      · subst same
        simp [put, get?, different.symm]
      · by_cases found : name = other
        · simp [put, get?, found, different]
        · simp [put, get?, same, found, induction]

end Entries
end CustomerNotice
