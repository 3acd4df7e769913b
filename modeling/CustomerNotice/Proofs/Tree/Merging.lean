import CustomerNotice.Tree

/-!
# Laying trees over each other

What is found under a key after entries are laid over a tree one by one, and
what a table keeps while that happens: its names stay distinct, and it holds no
table as long as none is laid into it. A value that is no table is replaced by
the first entry that is laid over it, and by nothing before.
-/

namespace CustomerNotice

namespace Entries

variable {Value : Type}

def names (entries : Entries Value) : List String := entries.map Prod.fst

def Distinct (entries : Entries Value) : Prop := entries.names.Nodup

instance (entries : Entries Value) : Decidable entries.Distinct :=
  inferInstanceAs (Decidable entries.names.Nodup)

/-- The value under a name; of several the last. -/
def latest? (key : String) (entries : Entries Value) : Option Value :=
  get? key entries.reverse

theorem get?_put (key other : String) (value : Value) (entries : Entries Value) :
    get? other (put key value entries) =
      if key = other then some value else get? other entries := by
  by_cases same : key = other
  · subst same
    rw [if_pos rfl, get?_put_same]
  · rw [if_neg same, get?_put_other (Ne.symm same)]

theorem get?_append (key : String) (first second : Entries Value) :
    get? key (first ++ second) = (get? key first).or (get? key second) := by
  induction first with
  | nil => simp
  | cons entry rest induction =>
      by_cases same : entry.1 = key
      · simp [get?, same]
      · simp [get?, same, induction]

theorem get?_eq_none_iff {key : String} {entries : Entries Value} :
    get? key entries = none ↔ key ∉ entries.names := by
  induction entries with
  | nil => simp [names]
  | cons entry rest induction =>
      by_cases same : entry.1 = key
      · simp [get?, names, same]
      · have different : key ≠ entry.1 := Ne.symm same
        simp only [names] at induction
        simp [get?, names, same, different, induction]

theorem mem_of_get? {key : String} {value : Value} {entries : Entries Value}
    (found : get? key entries = some value) : (key, value) ∈ entries := by
  induction entries with
  | nil => contradiction
  | cons entry rest induction =>
      by_cases same : entry.1 = key
      · rw [get?, if_pos same, Option.some.injEq] at found
        rw [← same, ← found]
        exact List.mem_cons_self
      · rw [get?, if_neg same] at found
        exact List.mem_cons_of_mem entry (induction found)

theorem latest?_cons (key : String) (entry : String × Value) (rest : Entries Value) :
    latest? key (entry :: rest) =
      (latest? key rest).or (if entry.1 = key then some entry.2 else none) := by
  rw [latest?, List.reverse_cons, get?_append]
  rfl

/-- Where no name comes twice, the first value is the last. -/
theorem latest?_of_distinct {entries : Entries Value} (distinct : entries.Distinct)
    (key : String) : latest? key entries = get? key entries := by
  induction entries with
  | nil => rfl
  | cons entry rest induction =>
      have parts : entry.1 ∉ names rest ∧ (names rest).Nodup := List.nodup_cons.mp distinct
      rw [latest?_cons, induction parts.2, get?]
      by_cases same : entry.1 = key
      · subst same
        rw [get?_eq_none_iff.mpr parts.1]
        simp
      · simp [same]

theorem names_put_of_member {key : String} {entries : Entries Value}
    (member : key ∈ entries.names) (value : Value) :
    (put key value entries).names = entries.names := by
  induction entries with
  | nil => contradiction
  | cons entry rest induction =>
      by_cases same : entry.1 = key
      · rw [put, if_pos same]
        rfl
      · rw [names, List.map_cons, List.mem_cons] at member
        have later : key ∈ names rest := member.resolve_left (Ne.symm same)
        rw [put, if_neg same]
        exact congrArg (entry.1 :: ·) (induction later)

theorem put_of_absent {key : String} {entries : Entries Value} (absent : key ∉ entries.names)
    (value : Value) : put key value entries = entries ++ [(key, value)] := by
  induction entries with
  | nil => rfl
  | cons entry rest induction =>
      rw [names, List.map_cons, List.mem_cons, not_or] at absent
      rw [put, if_neg (Ne.symm absent.1), induction absent.2, List.cons_append]

theorem distinct_put {entries : Entries Value} (distinct : entries.Distinct) (key : String)
    (value : Value) : (put key value entries).Distinct := by
  by_cases member : key ∈ entries.names
  · rw [Distinct, names_put_of_member member]
    exact distinct
  · rw [Distinct, put_of_absent member, names, List.map_append, List.nodup_append]
    refine ⟨distinct, by simp, ?_⟩
    intro name earlier other single same
    have found : other = key := by simpa using single
    rw [same, found] at earlier
    exact member earlier

theorem distinct_ofList (pairs : List (String × Value)) : (ofList pairs).Distinct := by
  have kept : ∀ entries : Entries Value, entries.Distinct →
      Distinct (pairs.foldl (fun entries pair => put pair.1 pair.2 entries) entries) := by
    induction pairs with
    | nil => intro entries distinct; exact distinct
    | cons pair rest induction =>
        intro entries distinct
        exact induction _ (distinct_put distinct pair.1 pair.2)
  exact kept [] List.nodup_nil

/-- Distinct names are all kept, in their order. -/
theorem ofList_of_distinct {pairs : Entries Value} (distinct : pairs.Distinct) :
    ofList pairs = pairs := by
  -- Every pair is put behind the ones before it, as its name is new.
  have kept : ∀ entries : Entries Value, Distinct (entries ++ pairs) →
      pairs.foldl (fun entries pair => put pair.1 pair.2 entries) entries = entries ++ pairs := by
    clear distinct
    induction pairs with
    | nil => intro entries distinct; simp
    | cons pair rest induction =>
        intro entries distinct
        have absent : pair.1 ∉ entries.names := by
          intro member
          rw [Distinct, names, List.map_append, List.nodup_append] at distinct
          exact distinct.2.2 _ member pair.1 (by simp) rfl
        rw [List.append_cons] at distinct ⊢
        rw [List.foldl_cons, put_of_absent absent]
        exact induction (entries ++ [pair]) distinct
  exact kept [] distinct

theorem mem_put {key : String} {value : Value} {entries : Entries Value}
    {entry : String × Value} (member : entry ∈ put key value entries) :
    entry = (key, value) ∨ entry ∈ entries := by
  induction entries with
  | nil =>
      rw [put, List.mem_singleton] at member
      exact .inl member
  | cons first rest induction =>
      by_cases same : first.1 = key
      · rw [put, if_pos same, List.mem_cons, same] at member
        rcases member with here | later
        · exact .inl here
        · exact .inr (List.mem_cons_of_mem _ later)
      · rw [put, if_neg same, List.mem_cons] at member
        rcases member with here | later
        · exact .inr (here ▸ List.mem_cons_self)
        · exact (induction later).imp_right (List.mem_cons_of_mem _)

/-- What is collected by name was among the pairs. -/
theorem mem_ofList {pairs : List (String × Value)} {entry : String × Value}
    (member : entry ∈ ofList pairs) : entry ∈ pairs := by
  have kept : ∀ entries : Entries Value,
      entry ∈ pairs.foldl (fun entries pair => put pair.1 pair.2 entries) entries →
      entry ∈ entries ∨ entry ∈ pairs := by
    clear member
    induction pairs with
    | nil => intro entries member; exact .inl member
    | cons pair rest induction =>
        intro entries member
        rcases induction _ member with earlier | later
        · rcases mem_put earlier with here | before
          · exact .inr (here ▸ List.mem_cons_self)
          · exact .inl before
        · exact .inr (List.mem_cons_of_mem _ later)
  exact (kept [] member).resolve_left List.not_mem_nil

end Entries

namespace Tree

def isTable : Tree → Bool
  | table _ _ => true
  | _ => false

def Distinct (tree : Tree) : Prop := tree.entries.Distinct

/-- No table stands directly in the tree. -/
def Flat (tree : Tree) : Prop := ∀ entry ∈ tree.entries, entry.2.isTable = false

instance (tree : Tree) : Decidable tree.Flat :=
  inferInstanceAs (Decidable (∀ entry ∈ tree.entries, entry.2.isTable = false))

theorem entries_of_not_table {tree : Tree} (plain : tree.isTable = false) : tree.entries = [] := by
  cases tree with
  | scalar origin value => rfl
  | list origin items => rfl
  | table origin entries => contradiction

theorem get?_of_not_table {tree : Tree} (plain : tree.isTable = false) (key : String) :
    tree.get? key = none := by
  rw [get?, entries_of_not_table plain]
  rfl

theorem exists_table_of_isTable {tree : Tree} (holds : tree.isTable = true) :
    ∃ origin entries, tree = .table origin entries := by
  cases tree with
  | scalar origin value => contradiction
  | list origin items => contradiction
  | table origin entries => exact ⟨origin, entries, rfl⟩

theorem get?_put (tree : Tree) (key other : String) (value : Tree) :
    (tree.put key value).get? other = if key = other then some value else tree.get? other := by
  cases tree with
  | table origin entries => exact Entries.get?_put key other value entries
  | scalar origin value => rfl
  | list origin items => rfl

theorem isTable_put (tree : Tree) (key : String) (value : Tree) :
    (tree.put key value).isTable = true := by
  cases tree <;> rfl

theorem distinct_put {tree : Tree} (distinct : tree.Distinct) (key : String) (value : Tree) :
    (tree.put key value).Distinct := by
  cases tree with
  | table origin entries => exact Entries.distinct_put distinct key value
  | scalar origin old => exact List.pairwise_singleton _ key
  | list origin items => exact List.pairwise_singleton _ key

theorem mem_entries_put {tree : Tree} {key : String} {value : Tree} {entry : String × Tree}
    (member : entry ∈ (tree.put key value).entries) :
    entry.2 = value ∨ entry ∈ tree.entries := by
  cases tree with
  | table origin entries => exact (Entries.mem_put member).imp_left (congrArg Prod.snd)
  | scalar origin old =>
      exact .inl (congrArg Prod.snd (List.mem_singleton.mp member))
  | list origin items =>
      exact .inl (congrArg Prod.snd (List.mem_singleton.mp member))

/-- Anything but a table replaces what was there. -/
theorem laidOver_of_not_table {new : Tree} (plain : new.isTable = false) (old? : Option Tree) :
    laidOver old? new = new := by
  cases new with
  | scalar origin value => rw [laidOver]
  | list origin items => rw [laidOver]
  | table origin entries => contradiction

theorem laidOver_table (old? : Option Tree) (origin : Option Origin)
    (entries : List (String × Tree)) :
    laidOver old? (.table origin entries) = (old?.getD empty).merge entries := by
  rw [laidOver]

theorem merge_nil (target : Tree) : target.merge [] = target := by
  rw [merge]

theorem merge_cons (target : Tree) (entry : String × Tree) (rest : List (String × Tree)) :
    target.merge (entry :: rest) =
      (target.put entry.1 (laidOver (target.get? entry.1) entry.2)).merge rest := by
  rw [merge]

theorem merge_append (target : Tree) (first second : List (String × Tree)) :
    target.merge (first ++ second) = (target.merge first).merge second := by
  induction first generalizing target with
  | nil => rw [List.nil_append, merge_nil]
  | cons entry rest induction => rw [List.cons_append, merge_cons, merge_cons, induction]

theorem isTable_merge {target : Tree} {entries : List (String × Tree)}
    (reason : target.isTable = true ∨ entries ≠ []) : (target.merge entries).isTable = true := by
  induction entries generalizing target with
  | nil =>
      rw [merge_nil]
      exact reason.resolve_right (fun different => different rfl)
  | cons entry rest induction =>
      rw [merge_cons]
      exact induction (.inl (isTable_put _ _ _))

theorem distinct_merge {target : Tree} (distinct : target.Distinct)
    (entries : List (String × Tree)) : (target.merge entries).Distinct := by
  induction entries generalizing target with
  | nil => rwa [merge_nil]
  | cons entry rest induction =>
      rw [merge_cons]
      exact induction (distinct_put distinct _ _)

theorem flat_merge {target : Tree} (flat : target.Flat) {entries : List (String × Tree)}
    (plain : ∀ entry ∈ entries, entry.2.isTable = false) : (target.merge entries).Flat := by
  induction entries generalizing target with
  | nil => rwa [merge_nil]
  | cons entry rest induction =>
      have here := plain entry List.mem_cons_self
      rw [merge_cons, laidOver_of_not_table here]
      apply induction
      · intro other member
        rcases mem_entries_put member with same | earlier
        · rw [same]
          exact here
        · exact flat other earlier
      · intro other member
        exact plain other (List.mem_cons_of_mem _ member)

/-- What is found after something that may be given is laid over `old?`. -/
def overlaid (old? : Option Tree) : Option Tree → Option Tree
  | some value => some (laidOver old? value)
  | none => old?

/-- What is found under a key after entries are laid over a tree in their order. -/
def afterEntries (key : String) (old? : Option Tree) : List (String × Tree) → Option Tree
  | [] => old?
  | entry :: rest =>
      afterEntries key (if entry.1 = key then some (laidOver old? entry.2) else old?) rest

theorem get?_merge (target : Tree) (entries : List (String × Tree)) (key : String) :
    (target.merge entries).get? key = afterEntries key (target.get? key) entries := by
  induction entries generalizing target with
  | nil => rw [merge_nil, afterEntries]
  | cons entry rest induction =>
      rw [merge_cons, induction, get?_put, afterEntries]
      by_cases same : entry.1 = key
      · rw [if_pos same, if_pos same, same]
      · rw [if_neg same, if_neg same]

theorem afterEntries_append (key : String) (old? : Option Tree)
    (first second : List (String × Tree)) :
    afterEntries key old? (first ++ second) =
      afterEntries key (afterEntries key old? first) second := by
  induction first generalizing old? with
  | nil => rfl
  | cons entry rest induction => rw [List.cons_append, afterEntries, afterEntries, induction]

theorem afterEntries_of_absent {key : String} {entries : List (String × Tree)}
    (absent : Entries.get? key entries = none) (old? : Option Tree) :
    afterEntries key old? entries = old? := by
  induction entries with
  | nil => rfl
  | cons entry rest induction =>
      by_cases same : entry.1 = key
      · simp [Entries.get?, same] at absent
      · rw [Entries.get?, if_neg same] at absent
        rw [afterEntries, if_neg same, induction absent]

/-- Among distinct names only one is laid over the key. -/
theorem afterEntries_of_distinct {entries : Entries Tree} (distinct : entries.Distinct)
    (key : String) (old? : Option Tree) :
    afterEntries key old? entries = overlaid old? (Entries.get? key entries) := by
  induction entries with
  | nil => rfl
  | cons entry rest induction =>
      have parts : entry.1 ∉ Entries.names rest ∧ (Entries.names rest).Nodup :=
        List.nodup_cons.mp distinct
      by_cases same : entry.1 = key
      · have absent : Entries.get? key rest = none := by
          rw [← same]
          exact Entries.get?_eq_none_iff.mpr parts.1
        rw [afterEntries, Entries.get?, if_pos same, if_pos same, afterEntries_of_absent absent]
        rfl
      · rw [afterEntries, Entries.get?, if_neg same, if_neg same, induction parts.2]

/-- Where no entry is a table, the last one under the key is found, or else what was there. -/
theorem afterEntries_of_flat {entries : Entries Tree}
    (plain : ∀ entry ∈ entries, entry.2.isTable = false) (key : String) (old? : Option Tree) :
    afterEntries key old? entries = (Entries.latest? key entries).or old? := by
  induction entries generalizing old? with
  | nil => rfl
  | cons entry rest induction =>
      have here := plain entry List.mem_cons_self
      have later : ∀ other ∈ rest, other.2.isTable = false := by
        intro other member
        exact plain other (List.mem_cons_of_mem _ member)
      rw [afterEntries, induction later, Entries.latest?_cons, laidOver_of_not_table here]
      by_cases same : entry.1 = key
      · rw [if_pos same, if_pos same, Option.or_assoc]
        rfl
      · rw [if_neg same, if_neg same, Option.or_assoc]
        rfl

end Tree
end CustomerNotice
