import CustomerNotice.Proofs.Results
import CustomerNotice.Proofs.Tree.Outline

/-!
# Settings that do not meet

Two settings whose ways into the tree part at a name can be put in in either order: the same tree
comes out, or both times none. So the settings under one name can be put in before all others, in
any order in which their ways part. A table that is laid over a tree does the same as its entries,
one after the other.
-/

namespace CustomerNotice
namespace Outline

open CustomerNotice.Tree (outline laying)

/-- Two ways that go on under different names somewhere. -/
inductive Parted : List Step → List Step → Prop
  | here {name other : String} {steps further : List Step} (different : name ≠ other) :
      Parted (.key name :: steps) (.key other :: further)
  | within {name : String} {steps further : List Step} (parted : Parted steps further) :
      Parted (.key name :: steps) (.key name :: further)

theorem below_withName (name : String) (child before : Outline) :
    (withName name child before).below (.under name) = child := by
  funext spot
  exact if_pos rfl

theorem below_withName_other {name other : String} (different : name ≠ other)
    (child before : Outline) :
    (withName name child before).below (.under other) = before.below (.under other) := by
  funext spot
  exact if_neg different

theorem withName_again (name : String) (first second before : Outline) :
    withName name second (withName name first before) = withName name second before := by
  funext spot
  rcases spot with _ | ⟨other | place, spot⟩
  · rfl
  · by_cases same : name = other
    · simp only [withName, if_pos same]
    · simp only [withName, if_neg same]
  · rfl

theorem withName_commute {name other : String} (different : name ≠ other)
    (one another before : Outline) :
    withName other another (withName name one before) =
      withName name one (withName other another before) := by
  funext spot
  rcases spot with _ | ⟨found | place, spot⟩
  · rfl
  · by_cases first : name = found
    · have second : other ≠ found := fun same => different (first.trans same.symm)
      simp only [withName, if_pos first, if_neg second]
    · simp only [withName, if_neg first]
  · rfl

theorem assigned_key (value : Tree) (before : Outline) (name : String) (steps : List Step) :
    (assigned value before (.key name :: steps)).toOption =
      (assigned value (before.below (.under name)) steps).toOption.map fun child =>
        withName name child before := by
  rw [assigned, toOption_bind]
  cases (assigned value (before.below (.under name)) steps).toOption <;> rfl

/-- Assignments on ways that part can change places. -/
theorem assigned_commute {steps further : List Step} (parted : Parted steps further)
    (one other : Tree) (before : Outline) :
    ((assigned one before steps).toOption.bind fun after =>
        (assigned other after further).toOption) =
      (assigned other before further).toOption.bind fun after =>
        (assigned one after steps).toOption := by
  induction parted generalizing before with
  | @here name also steps further different =>
      simp only [assigned_key, Option.bind_map, Function.comp_def,
        below_withName_other different, below_withName_other different.symm]
      cases (assigned one (before.below (.under name)) steps).toOption with
      | none => cases (assigned other (before.below (.under also)) further).toOption <;> rfl
      | some left =>
          cases (assigned other (before.below (.under also)) further).toOption with
          | none => rfl
          | some right => exact congrArg some (withName_commute different left right before)
  | @within name steps further parted induction =>
      simp only [assigned_key, Option.bind_map, Function.comp_def, below_withName, withName_again]
      have inner := congrArg (Option.map fun child => withName name child before)
        (induction (before.below (.under name)))
      simpa only [Option.map_bind, Function.comp_def] using inner

/-- What comes of putting a setting in, if anything does. -/
def putIn (before? : Option Outline) (setting : String × Tree) : Option Outline :=
  before?.bind fun before => (assigned setting.2 before (stepsOf setting.1)).toOption

theorem putIn_all_none (layer : List (String × Tree)) : layer.foldl putIn none = none := by
  induction layer with
  | nil => rfl
  | cons setting rest induction => exact induction

theorem assignedAll_eq_foldl (before : Outline) (layer : List (String × Tree)) :
    (assignedAll before layer).toOption = layer.foldl putIn (some before) := by
  induction layer generalizing before with
  | nil => rfl
  | cons setting rest induction =>
      rw [assignedAll, toOption_bind, List.foldl_cons, putIn, Option.bind_some]
      cases (assigned setting.2 before (stepsOf setting.1)).toOption with
      | none => exact (putIn_all_none rest).symm
      | some after => exact induction after

theorem putIn_commute {one other : String × Tree}
    (parted : Parted (stepsOf one.1) (stepsOf other.1)) (before? : Option Outline) :
    putIn (putIn before? one) other = putIn (putIn before? other) one := by
  cases before? with
  | none => rfl
  | some before => exact assigned_commute parted one.2 other.2 before

/-- Settings whose ways part can be put in in any order. -/
theorem putIn_perm {layer others : List (String × Tree)} (perm : layer.Perm others)
    (parted : ∀ one ∈ layer, ∀ other ∈ layer, one ≠ other →
      Parted (stepsOf one.1) (stepsOf other.1)) (before? : Option Outline) :
    layer.foldl putIn before? = others.foldl putIn before? := by
  apply perm.foldl_eq'
  intro one member other also before?
  by_cases same : one = other
  · rw [same]
  · exact putIn_commute (parted one member other also same) before?

/-- A setting can be put in after others from which its way parts. -/
theorem putIn_after {setting : String × Tree} {layer : List (String × Tree)}
    (parted : ∀ other ∈ layer, Parted (stepsOf setting.1) (stepsOf other.1))
    (before? : Option Outline) :
    layer.foldl putIn (putIn before? setting) = putIn (layer.foldl putIn before?) setting := by
  induction layer generalizing before? with
  | nil => rfl
  | cons other rest induction =>
      have here := parted other List.mem_cons_self
      have later := fun another member => parted another (List.mem_cons_of_mem other member)
      rw [List.foldl_cons, List.foldl_cons, putIn_commute here, induction later]

/-- Whether a setting leads to what stands under a name. -/
def leadsTo (name : String) (setting : String × Tree) : Bool :=
  decide ((Path.ofKey setting.1).first = name)

/-- The settings under one name can be put in before all others. -/
theorem putIn_gathered (name : String) (layer : List (String × Tree))
    (before? : Option Outline) :
    layer.foldl putIn before? =
      (layer.filter fun setting => !leadsTo name setting).foldl putIn
        ((layer.filter (leadsTo name)).foldl putIn before?) := by
  induction layer generalizing before? with
  | nil => rfl
  | cons setting rest induction =>
      rw [List.foldl_cons, induction, List.filter_cons, List.filter_cons]
      by_cases inside : leadsTo name setting = true
      · simp [inside]
      · have elsewhere : ∀ other ∈ rest.filter (leadsTo name),
            Parted (stepsOf setting.1) (stepsOf other.1) := by
          intro other member
          have under : (Path.ofKey other.1).first = name :=
            of_decide_eq_true (List.mem_filter.mp member).2
          apply Parted.here
          intro same
          exact inside (decide_eq_true (same.trans under))
        simp only [Bool.not_eq_true] at inside
        simp [inside, putIn_after elsewhere]

def laid (value : Tree) (before : Outline) : Outline :=
  fun spot => (laying value spot).apply (before spot)

/-- What an entry of a table makes of an outline when it is laid over it. -/
def withEntry (before : Outline) (entry : String × Tree) : Outline :=
  withName entry.1 (laid entry.2 (before.below (.under entry.1))) before

theorem withEntries_under (entries : List (String × Tree)) (before : Outline) (name : String)
    (spot : List Turn) :
    entries.foldl withEntry before (.under name :: spot) =
      (entries.foldr (fun entry later =>
        if entry.1 = name then (laying entry.2 spot).andThen later else later) .keep).apply
        (before (.under name :: spot)) := by
  induction entries generalizing before with
  | nil => rfl
  | cons entry rest induction =>
      rw [List.foldl_cons, induction, List.foldr_cons, withEntry, withName]
      by_cases same : entry.1 = name
      · subst same
        rw [if_pos rfl, if_pos rfl, Effect.apply_andThen]
        rfl
      · rw [if_neg same, if_neg same]

theorem withEntries_elsewhere (entry : String × Tree) (rest : List (String × Tree))
    (before : Outline) (place : Nat) (spot : List Turn) :
    (entry :: rest).foldl withEntry before [] = some .table ∧
      (entry :: rest).foldl withEntry before (.inside place :: spot) = none := by
  induction rest generalizing before entry with
  | nil => exact ⟨rfl, rfl⟩
  | cons next rest induction => exact induction next (withEntry before entry)

/-- A table that is not empty is laid over something entry by entry. -/
theorem laid_table (origin : Option Origin) {entries : List (String × Tree)}
    (some_entry : entries ≠ []) (before : Outline) :
    laid (.table origin entries) before = entries.foldl withEntry before := by
  obtain ⟨entry, rest, rfl⟩ := List.exists_cons_of_ne_nil some_entry
  funext spot
  rcases spot with _ | ⟨name | place, spot⟩
  · exact (withEntries_elsewhere entry rest before 0 []).1.symm
  · rw [withEntries_under, laid, Tree.laying_under]
  · exact (withEntries_elsewhere entry rest before place spot).2.symm

end Outline
end CustomerNotice
