import CustomerNotice.Proofs.Configuration.Layering
import CustomerNotice.Proofs.Tree.Views

/-!
# What reading looks at

Whatever is put into the tree of the sources, no name comes twice in it or in a
section. Of such a tree reading looks at nothing but what is seen in the three
sections: what else is in the tree, and in which order, has no influence.
-/

namespace CustomerNotice
namespace Tree

/-- No name comes twice in a tree, nor in a table directly in it. -/
structure Tidy (tree : Tree) : Prop where
  outer : tree.Distinct
  inner : ∀ entry ∈ tree.entries, entry.2.Distinct

theorem tidy_empty : Tidy empty := ⟨List.nodup_nil, nofun⟩

theorem Tidy.found {tree : Tree} (tidy : tree.Tidy) {name : String} {found : Tree}
    (under : tree.get? name = some found) : found.Distinct :=
  tidy.inner (name, found) (Entries.mem_of_get? under)

theorem distinct_asTable {old? : Option Tree} (distinct : ∀ old, old? = some old → old.Distinct) :
    ((old?.getD null).asTable).Distinct := by
  cases old? with
  | none => exact List.nodup_nil
  | some old =>
      cases old with
      | table origin entries => exact distinct _ rfl
      | scalar origin value => exact List.nodup_nil
      | list origin items => exact List.nodup_nil

theorem distinct_laidOver {old? : Option Tree} (distinct : ∀ old, old? = some old → old.Distinct)
    (new : Tree) : (laidOver old? new).Distinct := by
  by_cases plain : new.isTable = false
  · rw [laidOver_of_not_table plain]
    exact distinct_of_not_table plain
  · simp only [Bool.not_eq_false] at plain
    obtain ⟨origin, entries, rfl⟩ := exists_table_of_isTable plain
    rw [laidOver_table]
    apply distinct_merge
    cases old? with
    | none => exact List.nodup_nil
    | some old => exact distinct old rfl

theorem isTable_putAt (tree : Tree) (place : Nat) (value : Tree) :
    (tree.putAt place value).isTable = false := by
  cases tree <;> rfl

theorem assignAt_distinct {value : Tree} {old? : Option Tree} {steps : List Step} {after : Tree}
    (distinct : ∀ old, old? = some old → old.Distinct)
    (assigned : assignAt value old? steps = .ok after) : after.Distinct := by
  cases steps with
  | nil =>
      cases assigned
      exact distinct_laidOver distinct value
  | cons step steps =>
      cases step with
      | key name =>
          rw [assignAt] at assigned
          obtain ⟨child, _, put⟩ := steps_of_bind_ok assigned
          cases put
          exact distinct_put (distinct_asTable distinct) name child
      | index position =>
          rw [assignAt] at assigned
          obtain ⟨place, _, assigned⟩ := steps_of_bind_ok assigned
          cases steps with
          | nil =>
              cases assigned
              exact distinct_of_not_table (isTable_putAt _ place value)
          | cons next steps =>
              obtain ⟨child, _, put⟩ := steps_of_bind_ok assigned
              cases put
              exact distinct_of_not_table (isTable_putAt _ place child)

theorem Tidy.put {tree child : Tree} (tidy : tree.Tidy) (distinct : child.Distinct)
    (name : String) : (tree.put name child).Tidy := by
  constructor
  · exact distinct_put tidy.outer name child
  · intro entry member
    rcases mem_entries_put member with here | earlier
    · rw [here]
      exact distinct
    · exact tidy.inner entry earlier

theorem Tidy.asTable {tree : Tree} (tidy : tree.Tidy) : tree.asTable.Tidy := by
  cases tree with
  | table origin entries => exact tidy
  | scalar origin value => exact tidy_empty
  | list origin items => exact tidy_empty

theorem Tidy.assign {tree after value : Tree} {path : Path} (tidy : tree.Tidy)
    (assigned : tree.assign path value = .ok after) : after.Tidy := by
  rw [Tree.assign, assignAt] at assigned
  obtain ⟨child, inside, put⟩ := steps_of_bind_ok assigned
  cases put
  have distinct : child.Distinct := by
    apply assignAt_distinct _ inside
    intro old under
    exact tidy.asTable.found under
  exact tidy.asTable.put distinct path.first

theorem Tidy.assignAll {tree after : Tree} {layer : List (String × Tree)} (tidy : tree.Tidy)
    (assigned : tree.assignAll layer = .ok after) : after.Tidy := by
  induction layer generalizing tree with
  | nil =>
      cases assigned
      exact tidy
  | cons setting rest induction =>
      rw [Tree.assignAll] at assigned
      obtain ⟨next, here, later⟩ := steps_of_bind_ok assigned
      exact induction (tidy.assign here) later

theorem outside_merge (target : Tree) (entries : List (String × Tree)) :
    (target.merge entries).outside =
      if entries = [] then target.outside else target.asTable.outside := by
  induction entries generalizing target with
  | nil => rw [merge_nil, if_pos rfl]
  | cons entry rest induction =>
      have here : ∀ name value, (target.put name value).outside = target.asTable.outside := by
        cases target <;> exact fun _ _ => rfl
      have there : ∀ name value,
          (target.put name value).asTable.outside = target.asTable.outside := by
        cases target <;> exact fun _ _ => rfl
      rw [merge_cons, induction, here, there, ite_self, if_neg (List.cons_ne_nil entry rest)]

theorem entries_nil_iff (tree : Tree) : tree.entries = [] ↔ ∀ name, tree.get? name = none := by
  constructor
  · intro nothing name
    rw [get?, nothing, Entries.get?_nil]
  · intro unnamed
    cases found : tree.entries with
    | nil => rfl
    | cons entry rest =>
        have first := unnamed entry.1
        simp [get?, found, Entries.get?] at first

theorem entries_eq_nil_iff (tree : Tree) :
    tree.entries = [] ↔ ∀ name, seen (some tree) [name] = none := by
  simp [entries_nil_iff, seen]

theorem outside_of_seen {left right : Tree} (same : seen (some left) = seen (some right)) :
    left.outside = right.outside := by
  have here := congrFun same []
  simpa [seen] using here

theorem isTable_outside (tree : Tree) : tree.outside.isTable = tree.isTable := by
  cases tree <;> rfl

theorem isTable_of_seen {left right : Tree} (same : seen (some left) = seen (some right)) :
    left.isTable = right.isTable := by
  rw [← isTable_outside left, outside_of_seen same, isTable_outside]

/-- Of what is laid over something only what is seen of it counts. -/
theorem outside_laidOver {left right : Tree} (same : seen (some left) = seen (some right))
    (old? : Option Tree) : (laidOver old? left).outside = (laidOver old? right).outside := by
  have kinds := isTable_of_seen same
  by_cases plain : left.isTable = false
  · have plain_right : right.isTable = false := by
      rw [← kinds]
      exact plain
    rw [laidOver_of_not_table plain, laidOver_of_not_table plain_right]
    exact outside_of_seen same
  · simp only [Bool.not_eq_false] at plain
    have emptiness : left.entries = [] ↔ right.entries = [] := by
      rw [entries_eq_nil_iff, entries_eq_nil_iff, same]
    obtain ⟨origin, entries, rfl⟩ := exists_table_of_isTable plain
    rw [plain] at kinds
    obtain ⟨other_origin, other_entries, rfl⟩ := exists_table_of_isTable kinds.symm
    simp only [Tree.entries] at emptiness
    simp only [laidOver_table, outside_merge, emptiness]

/-- Two sections that are the same as far as reading can see. -/
def LooksLike (left right : Tree) : Prop :=
  left.outside = right.outside ∧
    ∀ name, (left.get? name).map outside = (right.get? name).map outside

theorem LooksLike.refl (tree : Tree) : LooksLike tree tree := ⟨rfl, fun _ => rfl⟩

theorem overlaid_outside {left? right? : Option Tree} (same : seen left? = seen right?)
    (old? : Option Tree) :
    (overlaid old? left?).map outside = (overlaid old? right?).map outside := by
  have here := congrFun same []
  cases left? with
  | none =>
      cases right? with
      | none => rfl
      | some right => contradiction
  | some left =>
      cases right? with
      | none => contradiction
      | some right => exact congrArg some (outside_laidOver same old?)

theorem get?_laidOver (table : Tree) {new : Tree} (distinct : new.Distinct)
    (is_table : new.isTable = true) (name : String) :
    (laidOver (some table) new).get? name = overlaid (table.get? name) (new.get? name) := by
  obtain ⟨origin, entries, rfl⟩ := exists_table_of_isTable is_table
  have unique : Entries.Distinct entries := distinct
  rw [laidOver_table, Option.getD_some, get?_merge, afterEntries_of_distinct unique]
  rfl

theorem looksLike_laidOver (table : Tree) {left right : Tree}
    (left_distinct : left.Distinct) (right_distinct : right.Distinct)
    (same : seen (some left) = seen (some right)) :
    LooksLike (laidOver (some table) left) (laidOver (some table) right) := by
  have kinds := isTable_of_seen same
  constructor
  · exact outside_laidOver same (some table)
  · intro name
    by_cases is_table : left.isTable = true
    · rw [get?_laidOver table left_distinct is_table,
        get?_laidOver table right_distinct (kinds.symm.trans is_table)]
      apply overlaid_outside
      funext names
      exact congrFun same (name :: names)
    · simp only [Bool.not_eq_true] at is_table
      have plain_right := kinds.symm.trans is_table
      rw [laidOver_of_not_table is_table, laidOver_of_not_table plain_right,
        get?_of_not_table is_table, get?_of_not_table plain_right]

end Tree

namespace Reading

open CustomerNotice.Tree (LooksLike outside)

theorem text_outside (field : Field) : text field = text ⟨field.key, field.value.outside⟩ := by
  obtain ⟨key, value⟩ := field
  cases value <;> rfl

theorem switch_outside (field : Field) :
    switch field = switch ⟨field.key, field.value.outside⟩ := by
  obtain ⟨key, value⟩ := field
  cases value <;> rfl

def seenField (shape : Section) (tree : Tree) (place : Nat) : Except LoadError Field :=
  (field shape tree place).map fun found => ⟨found.key, found.value.outside⟩

theorem seenField_congr {left right : Tree} (alike : LooksLike left right) (shape : Section)
    (place : Nat) : seenField shape left place = seenField shape right place := by
  obtain ⟨outsides, fields⟩ := alike
  cases left with
  | table origin entries =>
      cases right with
      | table other_origin other_entries =>
          have here := fields (shape.fields.getD place "")
          simp only [Tree.get?, Tree.entries] at here
          simp only [seenField, field]
          cases found : Entries.get? (shape.fields.getD place "") entries with
          | none =>
              rw [found] at here
              rw [Option.map_eq_none_iff.mp here.symm]
          | some value =>
              rw [found] at here
              obtain ⟨other, also, same⟩ := Option.map_eq_some_iff.mp here.symm
              rw [also]
              simp only [Except.map, same]
      | scalar other_origin value => cases outsides
      | list other_origin items => cases outsides
  | scalar origin value =>
      cases right with
      | table other_origin other_entries => cases outsides
      | scalar other_origin other => cases outsides; rfl
      | list other_origin items => cases outsides
  | list origin items =>
      cases right with
      | table other_origin other_entries => cases outsides
      | scalar other_origin other => cases outsides
      | list other_origin other_items => cases outsides; rfl

theorem textAt_seen (shape : Section) (tree : Tree) (place : Nat) :
    textAt shape tree place = seenField shape tree place >>= text := by
  unfold textAt seenField
  cases field shape tree place with
  | error error => rfl
  | ok found => exact text_outside found

theorem textAt_congr {left right : Tree} (alike : LooksLike left right) (shape : Section)
    (place : Nat) : textAt shape left place = textAt shape right place := by
  rw [textAt_seen, textAt_seen, seenField_congr alike]

theorem switchAt_seen (shape : Section) (tree : Tree) (place : Nat) :
    (field shape tree place >>= switch) = seenField shape tree place >>= switch := by
  unfold seenField
  cases field shape tree place with
  | error error => rfl
  | ok found => exact switch_outside found

theorem switchAt_congr {left right : Tree} (alike : LooksLike left right) (shape : Section)
    (place : Nat) :
    (field shape left place >>= switch) = (field shape right place >>= switch) := by
  rw [switchAt_seen, switchAt_seen, seenField_congr alike]

theorem application_congr {left right : Tree} (alike : LooksLike left right) :
    application left = application right := by
  simp only [application, textAt_congr alike]

theorem customer_congr {left right : Tree} (alike : LooksLike left right) :
    customer left = customer right := by
  simp only [customer, textAt_congr alike]

theorem output_eq (tree : Tree) :
    output tree = (field .output tree 0 >>= switch) >>= fun revealApiKey =>
      .ok { revealApiKey } := by
  rw [bind_assoc]
  rfl

theorem output_congr {left right : Tree} (alike : LooksLike left right) :
    output left = output right := by
  rw [output_eq, output_eq, switchAt_congr alike]

end Reading

namespace Loading

open CustomerNotice.Tree

/-- A section of the sources over the defaults. -/
theorem section_settled {sources : Tree} (tidy : sources.Tidy) {shape : Section}
    (known : shape ∈ Section.all) :
    ∃ table, table.isTable = true ∧ Configuration.default.toTree.get? shape.key = some table ∧
      Reading.sectionOf shape (settled sources) =
        .ok (match sources.get? shape.key with
          | some given => laidOver (some table) given
          | none => table) := by
  obtain ⟨table, default_table, holds⟩ := Section.builtIn_table known
  have settled := Layering.settled_get tidy.outer default_table
  have found : Reading.sectionOf shape (Loading.settled sources) =
      .ok (match sources.get? shape.key with
        | some given => laidOver (some table) given
        | none => table) := by
    rw [Reading.sectionOf, settled]
    cases sources.get? shape.key <;> rfl
  exact ⟨table, holds, default_table, found⟩

/-- How the sections of two trees of sources are related follows from what each
of the two gives the section, if one gives it something only if the other does. -/
theorem sections_related {left right : Tree} (left_tidy : left.Tidy) (right_tidy : right.Tidy)
    {shape : Section} (known : shape ∈ Section.all) {Related : Tree → Tree → Prop}
    (refl : ∀ tree, Related tree tree)
    (given : left.get? shape.key = none ↔ right.get? shape.key = none)
    (laid : ∀ table one other, table.isTable = true → left.get? shape.key = some one →
      right.get? shape.key = some other →
      Related (laidOver (some table) one) (laidOver (some table) other)) :
    ∃ one other, Reading.sectionOf shape (settled left) = .ok one ∧
      Reading.sectionOf shape (settled right) = .ok other ∧ Related one other := by
  obtain ⟨table, holds, default_table, left_found⟩ := section_settled left_tidy known
  obtain ⟨again, _, default_again, right_found⟩ := section_settled right_tidy known
  rw [default_table, Option.some.injEq] at default_again
  subst default_again
  cases given_left : left.get? shape.key with
  | none =>
      rw [given_left] at left_found
      rw [given.mp given_left] at right_found
      exact ⟨table, table, left_found, right_found, refl table⟩
  | some one =>
      cases given_right : right.get? shape.key with
      | none =>
          rw [given.mpr given_right] at given_left
          contradiction
      | some other =>
          rw [given_left] at left_found
          rw [given_right] at right_found
          exact ⟨_, _, left_found, right_found, laid table one other holds given_left given_right⟩

theorem sections_look_alike {left right : Tree} (left_tidy : left.Tidy) (right_tidy : right.Tidy)
    {shape : Section} (known : shape ∈ Section.all)
    (same : seen (left.get? shape.key) = seen (right.get? shape.key)) :
    ∃ one other, Reading.sectionOf shape (settled left) = .ok one ∧
      Reading.sectionOf shape (settled right) = .ok other ∧ LooksLike one other := by
  have here : (left.get? shape.key).map outside = (right.get? shape.key).map outside :=
    congrFun same []
  apply sections_related left_tidy right_tidy known LooksLike.refl
  · rw [← Option.map_eq_none_iff, here, Option.map_eq_none_iff]
  · intro table one other _ given_left given_right
    rw [given_left, given_right] at same
    exact looksLike_laidOver table (left_tidy.found given_left) (right_tidy.found given_right) same

/-- Two trees of sources whose sections look the same are read the same. -/
theorem reading_depends_on_seen {left right : Tree} (left_tidy : left.Tidy)
    (right_tidy : right.Tidy)
    (same : ∀ shape ∈ Section.all, seen (left.get? shape.key) = seen (right.get? shape.key)) :
    Reading.configuration (settled left) = Reading.configuration (settled right) := by
  have known : Section.application ∈ Section.all ∧ Section.customer ∈ Section.all ∧
      Section.output ∈ Section.all := by decide
  obtain ⟨application, other_application, application_found, other_application_found,
    applications⟩ := sections_look_alike left_tidy right_tidy known.1 (same _ known.1)
  obtain ⟨customer, other_customer, customer_found, other_customer_found, customers⟩ :=
    sections_look_alike left_tidy right_tidy known.2.1 (same _ known.2.1)
  obtain ⟨output, other_output, output_found, other_output_found, outputs⟩ :=
    sections_look_alike left_tidy right_tidy known.2.2 (same _ known.2.2)
  simp only [Reading.configuration, application_found, other_application_found, customer_found,
    other_customer_found, output_found, other_output_found, bind, Except.bind,
    Reading.application_congr applications, Reading.customer_congr customers,
    Reading.output_congr outputs]

end Loading
end CustomerNotice
