import CustomerNotice.Proofs.Tree.Merging

/-!
# Collecting by name

Of several values collected under one name the last stays. Which names are kept
can be chosen before or after, and what is collected is determined, up to its
order, by what is found under each name.
-/

namespace CustomerNotice
namespace Entries

variable {Value : Type}

theorem filter_put (test : String → Bool) (key : String) (value : Value)
    (entries : Entries Value) :
    (put key value entries).filter (fun entry => test entry.1) =
      if test key then put key value (entries.filter fun entry => test entry.1)
      else entries.filter fun entry => test entry.1 := by
  induction entries with
  | nil => by_cases kept : test key <;> simp [put, kept]
  | cons entry rest induction =>
      by_cases same : entry.1 = key
      · subst same
        by_cases kept : test entry.1 <;> simp [put, kept]
      · rw [put, if_neg same, List.filter_cons, List.filter_cons, induction]
        by_cases kept : test key <;> by_cases first : test entry.1 <;>
          simp [kept, first, put, same]

/-- Choosing by name before or after collecting gives the same. -/
theorem filter_ofList (test : String → Bool) (pairs : List (String × Value)) :
    (ofList pairs).filter (fun entry => test entry.1) =
      ofList (pairs.filter fun entry => test entry.1) := by
  have kept : ∀ entries : Entries Value,
      (pairs.foldl (fun entries pair => put pair.1 pair.2 entries) entries).filter
          (fun entry => test entry.1) =
        (pairs.filter fun entry => test entry.1).foldl
          (fun entries pair => put pair.1 pair.2 entries)
          (entries.filter fun entry => test entry.1) := by
    induction pairs with
    | nil => intro entries; rfl
    | cons pair rest induction =>
        intro entries
        rw [List.foldl_cons, induction, filter_put, List.filter_cons]
        by_cases chosen : test pair.1 <;> simp [chosen]
  exact kept []

theorem get?_ofList (key : String) (pairs : List (String × Value)) :
    get? key (ofList pairs) = latest? key pairs := by
  have kept : ∀ entries : Entries Value,
      get? key (pairs.foldl (fun entries pair => put pair.1 pair.2 entries) entries) =
        (latest? key pairs).or (get? key entries) := by
    induction pairs with
    | nil => intro entries; rfl
    | cons pair rest induction =>
        intro entries
        rw [List.foldl_cons, induction, get?_put, latest?_cons, Option.or_assoc]
        by_cases same : pair.1 = key <;> simp [same]
  have collected := kept []
  rw [get?_nil, Option.or_none] at collected
  exact collected

theorem latest?_append (key : String) (first second : Entries Value) :
    latest? key (first ++ second) = (latest? key second).or (latest? key first) := by
  rw [latest?, List.reverse_append, get?_append]
  rfl

theorem get?_of_mem {entries : Entries Value} (distinct : entries.Distinct) {key : String}
    {value : Value} (member : (key, value) ∈ entries) : get? key entries = some value := by
  induction entries with
  | nil => contradiction
  | cons entry rest induction =>
      have parts : entry.1 ∉ names rest ∧ (names rest).Nodup := List.nodup_cons.mp distinct
      rcases List.mem_cons.mp member with here | later
      · rw [← here, get?, if_pos rfl]
      · have different : entry.1 ≠ key := by
          intro same
          apply parts.1
          rw [same]
          exact List.mem_map_of_mem later
        rw [get?, if_neg different]
        exact induction parts.2 later

theorem nodup_of_distinct {entries : Entries Value} (distinct : entries.Distinct) :
    List.Nodup entries :=
  List.Pairwise.of_map Prod.fst (fun _ _ different same => different (congrArg Prod.fst same))
    distinct

/-- What is found under every name decides everything but the order. -/
theorem perm_of_get? {left right : Entries Value} (left_distinct : left.Distinct)
    (right_distinct : right.Distinct) (same : ∀ key, get? key left = get? key right) :
    List.Perm left right := by
  rw [List.perm_ext_iff_of_nodup (nodup_of_distinct left_distinct)
    (nodup_of_distinct right_distinct)]
  intro entry
  obtain ⟨key, value⟩ := entry
  constructor
  · intro member
    have found := get?_of_mem left_distinct member
    rw [same] at found
    exact mem_of_get? found
  · intro member
    have found := get?_of_mem right_distinct member
    rw [← same] at found
    exact mem_of_get? found

theorem entry_of_name {entries : Entries Value} (distinct : entries.Distinct)
    {one other : String × Value} (member : one ∈ entries) (also : other ∈ entries)
    (same : one.1 = other.1) : one = other := by
  have found := get?_of_mem distinct member
  have also_found := get?_of_mem distinct also
  rw [same, also_found, Option.some.injEq] at found
  exact Prod.ext same found.symm

end Entries
end CustomerNotice
