import CustomerNotice.Proofs.Configuration.Reading
import CustomerNotice.Proofs.Tree.Outline

/-!
# Reading in outline

Whether there is a configuration, and which, shows in the outline of the sources:
reading looks no further down in a section than at its fields, and an origin is
seen in nothing but an error.
-/

namespace CustomerNotice

namespace Tree

/-- Two trees that reading cannot tell apart, as it looks no further down than
one turn and at no origin. -/
structure Alike (left right : Tree) : Prop where
  here : left.kind = right.kind
  below : ∀ turn, (left.child? turn).map kind = (right.child? turn).map kind

theorem Alike.refl (tree : Tree) : Alike tree tree := ⟨rfl, fun _ => rfl⟩

theorem kinds_of_outline {left? right? : Option Tree} (same : outline left? = outline right?) :
    left?.map kind = right?.map kind := congrFun same []

theorem below_of_outline {left right : Tree} (same : outline (some left) = outline (some right))
    (turn : Turn) : outline (left.child? turn) = outline (right.child? turn) :=
  funext fun spot => congrFun same (turn :: spot)

theorem kind_of_outline {left right : Tree} (same : outline (some left) = outline (some right)) :
    left.kind = right.kind := Option.some.inj (kinds_of_outline same)

theorem isTable_eq (tree : Tree) : tree.isTable = decide (tree.kind = .table) := by
  cases tree <;> rfl

theorem isTable_of_outline {left right : Tree}
    (same : outline (some left) = outline (some right)) : left.isTable = right.isTable := by
  rw [isTable_eq, isTable_eq, kind_of_outline same]

/-- A table without entries, which leaves alone what it is laid over. -/
def IsVoid (tree : Tree) : Prop := tree.isTable = true ∧ tree.entries = []

theorem isVoid_of_outline {left right : Tree}
    (same : outline (some left) = outline (some right)) (void : left.IsVoid) : right.IsVoid := by
  obtain ⟨is_table, nothing⟩ := void
  constructor
  · rw [← isTable_of_outline same]
    exact is_table
  · rw [entries_nil_iff] at nothing ⊢
    intro name
    have below : (left.get? name).map kind = (right.get? name).map kind :=
      kinds_of_outline (below_of_outline same (.under name))
    rw [nothing name] at below
    exact Option.map_eq_none_iff.mp below.symm

theorem laying_void {tree : Tree} (void : tree.IsVoid) : laying tree [] = .supply .table rfl := by
  obtain ⟨is_table, nothing⟩ := void
  obtain ⟨origin, entries, rfl⟩ := exists_table_of_isTable is_table
  cases nothing
  rfl

theorem laying_other {tree : Tree} (other : ¬tree.IsVoid) :
    laying tree [] = .become (some tree.kind) := by
  cases tree with
  | scalar origin value => rfl
  | list origin items => rfl
  | table origin entries =>
      cases entries with
      | nil => exact absurd ⟨rfl, rfl⟩ other
      | cons entry rest => rfl

theorem laying_of_outline {left right : Tree} (same : outline (some left) = outline (some right)) :
    laying left [] = laying right [] := by
  by_cases void : left.IsVoid
  · rw [laying_void void, laying_void (isVoid_of_outline same void)]
  · have other : ¬right.IsVoid := fun found => void (isVoid_of_outline same.symm found)
    rw [laying_other void, laying_other other, kind_of_outline same]

theorem kinds_overlaid {left? right? : Option Tree} (same : outline left? = outline right?)
    (old? : Option Tree) :
    (overlaid old? left?).map kind = (overlaid old? right?).map kind := by
  have here := kinds_of_outline same
  cases left? with
  | none =>
      rw [Option.map_eq_none_iff.mp here.symm]
  | some left =>
      cases right? with
      | none => contradiction
      | some right =>
          have left_kind := outline_laidOver old? left []
          have right_kind := outline_laidOver old? right []
          rw [laying_of_outline same] at left_kind
          exact left_kind.trans right_kind.symm

theorem alike_laidOver {table left right : Tree} (holds : table.isTable = true)
    (left_distinct : left.Distinct) (right_distinct : right.Distinct)
    (same : outline (some left) = outline (some right)) :
    Alike (laidOver (some table) left) (laidOver (some table) right) := by
  have kinds : (some (laidOver (some table) left)).map kind =
      (some (laidOver (some table) right)).map kind := kinds_overlaid same (some table)
  refine ⟨Option.some.inj kinds, ?_⟩
  intro turn
  have also := isTable_of_outline same
  by_cases is_table : left.isTable = true
  · rw [is_table] at also
    cases turn with
    | under name =>
        rw [child?, child?, get?_laidOver table left_distinct is_table,
          get?_laidOver table right_distinct also.symm]
        exact kinds_overlaid (below_of_outline same (.under name)) (table.get? name)
    | inside place =>
        have still : ∀ {value : Tree}, value.isTable = true →
            (laidOver (some table) value).isTable = true := by
          intro value value_table
          obtain ⟨origin, entries, rfl⟩ := exists_table_of_isTable value_table
          rw [laidOver_table]
          exact isTable_merge (.inl holds)
        rw [item_of_isTable (still is_table), item_of_isTable (still also.symm)]
  · rw [Bool.not_eq_true] at is_table
    rw [is_table] at also
    rw [laidOver_of_not_table is_table, laidOver_of_not_table also.symm]
    exact kinds_of_outline (below_of_outline same turn)

end Tree

namespace Reading

open CustomerNotice.Tree (Alike kind)

def bare : Kind → Tree
  | .plain value => .scalar none value
  | .row _ => .list none []
  | .table => .table none []

/-- Whether there is a text, and which, shows in the kind of a field. -/
theorem text_of_kind (field : Field) :
    (text field).toOption = (text ⟨"", bare field.value.kind⟩).toOption := by
  obtain ⟨key, value⟩ := field
  cases value with
  | scalar origin value => cases value <;> rfl
  | list origin items => rfl
  | table origin entries => rfl

theorem switch_of_kind (field : Field) :
    (switch field).toOption = (switch ⟨"", bare field.value.kind⟩).toOption := by
  obtain ⟨key, value⟩ := field
  cases value with
  | scalar origin value => cases value <;> rfl
  | list origin items => rfl
  | table origin entries => rfl

def kindAt? (shape : Section) (tree : Tree) (place : Nat) : Option Kind :=
  (field shape tree place).toOption.map fun found => found.value.kind

theorem kindAt_eq (shape : Section) (tree : Tree) (place : Nat) :
    kindAt? shape tree place =
      match tree.kind with
      | .plain _ => none
      | .row _ => (tree.child? (.inside place)).map kind
      | .table => (tree.child? (.under (shape.fields.getD place ""))).map kind := by
  cases tree with
  | scalar origin value => rfl
  | list origin items =>
      have item : (Tree.list origin items).child? (.inside place) = items[place]? := rfl
      simp only [kindAt?, field, kind, item]
      cases items[place]? <;> rfl
  | table origin entries =>
      have entry : (Tree.table origin entries).child? (.under (shape.fields.getD place "")) =
          Entries.get? (shape.fields.getD place "") entries := rfl
      simp only [kindAt?, field, kind, entry]
      cases Entries.get? (shape.fields.getD place "") entries <;> rfl

theorem kindAt_alike {left right : Tree} (alike : Alike left right) (shape : Section)
    (place : Nat) : kindAt? shape left place = kindAt? shape right place := by
  rw [kindAt_eq, kindAt_eq, alike.here, alike.below, alike.below]

theorem textAt_of_kind (shape : Section) (tree : Tree) (place : Nat) :
    (textAt shape tree place).toOption =
      (kindAt? shape tree place).bind fun found => (text ⟨"", bare found⟩).toOption := by
  rw [textAt, toOption_bind, kindAt?, Option.bind_map]
  exact congrArg _ (funext text_of_kind)

theorem switchAt_of_kind (shape : Section) (tree : Tree) (place : Nat) :
    ((field shape tree place).toOption.bind fun found => (switch found).toOption) =
      (kindAt? shape tree place).bind fun found => (switch ⟨"", bare found⟩).toOption := by
  rw [kindAt?, Option.bind_map]
  exact congrArg _ (funext switch_of_kind)

theorem application_alike {left right : Tree} (alike : Alike left right) :
    (application left).toOption = (application right).toOption := by
  simp only [application, toOption_bind, textAt_of_kind, kindAt_alike alike]

theorem customer_alike {left right : Tree} (alike : Alike left right) :
    (customer left).toOption = (customer right).toOption := by
  simp only [customer, toOption_bind, textAt_of_kind, kindAt_alike alike]

theorem output_alike {left right : Tree} (alike : Alike left right) :
    (output left).toOption = (output right).toOption := by
  simp only [output_eq, toOption_bind, switchAt_of_kind, kindAt_alike alike]

end Reading

namespace Loading

open CustomerNotice.Tree (Alike outline)

/-- A section of two trees of sources that are the same in outline. -/
theorem sections_alike {left right : Tree} (left_tidy : left.Tidy) (right_tidy : right.Tidy)
    (same : outline (some left) = outline (some right)) {shape : Section}
    (known : shape ∈ Section.all) :
    ∃ one other, Reading.sectionOf shape (settled left) = .ok one ∧
      Reading.sectionOf shape (settled right) = .ok other ∧ Alike one other := by
  have below : outline (left.get? shape.key) = outline (right.get? shape.key) :=
    Tree.below_of_outline same (.under shape.key)
  apply sections_related left_tidy right_tidy known Alike.refl
  · rw [← Option.map_eq_none_iff, Tree.kinds_of_outline below, Option.map_eq_none_iff]
  · intro table one other holds given_left given_right
    rw [given_left, given_right] at below
    exact Tree.alike_laidOver holds (left_tidy.found given_left) (right_tidy.found given_right)
      below

/-- Whether there is a configuration, and which, shows in the outline of the sources. -/
theorem reading_depends_on_outline {left right : Tree} (left_tidy : left.Tidy)
    (right_tidy : right.Tidy) (same : outline (some left) = outline (some right)) :
    (Reading.configuration (settled left)).toOption =
      (Reading.configuration (settled right)).toOption := by
  have known : Section.application ∈ Section.all ∧ Section.customer ∈ Section.all ∧
      Section.output ∈ Section.all := by decide
  obtain ⟨application, other_application, application_found, other_application_found,
    applications⟩ := sections_alike left_tidy right_tidy same known.1
  obtain ⟨customer, other_customer, customer_found, other_customer_found, customers⟩ :=
    sections_alike left_tidy right_tidy same known.2.1
  obtain ⟨output, other_output, output_found, other_output_found, outputs⟩ :=
    sections_alike left_tidy right_tidy same known.2.2
  have found : ∀ tree : Tree, (Except.ok tree : Except LoadError Tree).toOption = some tree :=
    fun _ => rfl
  simp only [Reading.configuration, toOption_bind, application_found, other_application_found,
    customer_found, other_customer_found, output_found, other_output_found, found,
    Option.bind_some, Reading.application_alike applications, Reading.customer_alike customers,
    Reading.output_alike outputs]

end Loading
end CustomerNotice
