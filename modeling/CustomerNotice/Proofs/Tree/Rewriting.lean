import CustomerNotice.Proofs.Results
import CustomerNotice.Proofs.Tree.Outline

/-!
# Writing the same twice

Where no position counts from the end of a list, a layer has one effect at each
place, whatever the tree was before. So putting in a layer a second time changes
nothing, and it breaks off at nothing that it did not break off at the first
time, as lists have only become longer.
-/

namespace CustomerNotice

/-- The step is no position that is counted from the end of a list. -/
def Step.Forward : Step → Prop
  | .key _ => True
  | .index position => 0 ≤ position

instance (step : Step) : Decidable step.Forward :=
  match step with
  | .key _ => isTrue True.intro
  | .index position => inferInstanceAs (Decidable (0 ≤ position))

/-- No key of the layer counts from the end of a list. -/
def Layer.Forward (layer : List (String × Tree)) : Prop :=
  ∀ setting ∈ layer, ∀ step ∈ (Path.ofKey setting.1).rest, step.Forward

instance (layer : List (String × Tree)) : Decidable (Layer.Forward layer) :=
  inferInstanceAs
    (Decidable (∀ setting ∈ layer, ∀ step ∈ (Path.ofKey setting.1).rest, step.Forward))

namespace Outline

open CustomerNotice.Tree (outline laying)

theorem place_of_forward {position : Int} (forward : 0 ≤ position) (length : Nat) :
    Tree.place? length position =
      if position.toNat < max length Tree.greatestLength then .ok position.toNat
      else .error .positionOutOfRange := by
  obtain ⟨place, rfl⟩ := Int.eq_ofNat_of_zero_le forward
  rfl

theorem place_of_longer {position : Int} (forward : 0 ≤ position) {length longer place : Nat}
    (long : length ≤ longer) (found : Tree.place? length position = .ok place) :
    place = position.toNat ∧ Tree.place? longer position = .ok position.toNat := by
  rw [place_of_forward forward] at found ⊢
  split at found
  · next inside =>
      cases found
      exact ⟨rfl, if_pos (by omega)⟩
  · contradiction

/-- What a table with something under a name does at each place. -/
def naming (name : String) (child : List Turn → Effect) : List Turn → Effect
  | [] => .become (some .table)
  | .under other :: spot => if name = other then child spot else .keep
  | .inside _ :: _ => .become none

/-- What a list with something at one of its places does at each place. -/
def placing (place : Nat) (child : List Turn → Effect) : List Turn → Effect
  | [] => .reach (place + 1)
  | .under _ :: _ => .become none
  | .inside other :: spot =>
      if other = place then child spot
      else if other < place then padding spot
      else .keep

theorem withName_effect {name : String} {child before : Outline} {effect : List Turn → Effect}
    (inside : ∀ spot, child spot = (effect spot).apply (before.below (.under name) spot))
    (spot : List Turn) :
    withName name child before spot = (naming name effect spot).apply (before spot) := by
  rcases spot with _ | ⟨other | place, spot⟩
  · rfl
  · rw [withName, naming]
    by_cases here : name = other
    · rw [if_pos here, if_pos here, inside, here]
      rfl
    · rw [if_neg here, if_neg here]
      rfl
  · rfl

theorem withItem_effect {place : Nat} {child before : Outline} {effect : List Turn → Effect}
    (inside : ∀ spot, child spot = (effect spot).apply (before.below (.inside place) spot))
    (spot : List Turn) :
    withItem place child before spot = (placing place effect spot).apply (before spot) := by
  rcases spot with _ | ⟨name | other, spot⟩
  · rfl
  · rfl
  · rw [withItem, placing]
    by_cases here : other = place
    · rw [if_pos here, if_pos here, inside, here]
      rfl
    · rw [if_neg here, if_neg here]
      split
      · rfl
      · rfl

/-- What assigning a value at steps does at each place. -/
def assigning (value : Tree) : List Step → List Turn → Effect
  | [] => laying value
  | .key name :: steps => naming name (assigning value steps)
  | [.index position] => placing position.toNat fun spot => .become (outline (some value) spot)
  | .index position :: step :: steps => placing position.toNat (assigning value (step :: steps))

theorem assigned_effect {value : Tree} {steps : List Step}
    (forward : ∀ step ∈ steps, step.Forward) {before after : Outline}
    (done : assigned value before steps = .ok after) (spot : List Turn) :
    after spot = (assigning value steps spot).apply (before spot) := by
  induction steps generalizing before after spot with
  | nil =>
      cases done
      rfl
  | cons step steps induction =>
      have later := fun other member => forward other (List.mem_cons_of_mem step member)
      cases step with
      | key name =>
          rw [assigned] at done
          obtain ⟨child, inside, same⟩ := steps_of_bind_ok done
          cases same
          exact withName_effect (induction later inside) spot
      | index position =>
          have ahead : 0 ≤ position := forward _ List.mem_cons_self
          cases steps with
          | nil =>
              rw [assigned] at done
              obtain ⟨place, found, same⟩ := steps_of_bind_ok done
              obtain ⟨rfl, _⟩ := place_of_longer ahead (Nat.le_refl _) found
              cases same
              have replaced : ∀ inner, outline (some value) inner =
                  (Effect.become (outline (some value) inner)).apply
                    (before.below (.inside position.toNat) inner) := fun _ => rfl
              exact withItem_effect replaced spot
          | cons next steps =>
              rw [assigned] at done
              obtain ⟨place, found, done⟩ := steps_of_bind_ok done
              obtain ⟨rfl, _⟩ := place_of_longer ahead (Nat.le_refl _) found
              obtain ⟨child, inside, same⟩ := steps_of_bind_ok done
              cases same
              exact withItem_effect (induction later inside) spot

/-- Every list of one outline is at least as long in the other one. -/
def Longer (before other : Outline) : Prop :=
  ∀ spot, Kind.items (before spot) ≤ Kind.items (other spot)

theorem Longer.below {before other : Outline} (longer : Longer before other) (turn : Turn) :
    Longer (before.below turn) (other.below turn) := fun spot => longer (turn :: spot)

/-- What can be assigned can be assigned where lists are longer. -/
theorem assigned_on_longer {value : Tree} {steps : List Step}
    (forward : ∀ step ∈ steps, step.Forward) {before after other : Outline}
    (longer : Longer before other) (done : assigned value before steps = .ok after) :
    ∃ further, assigned value other steps = .ok further := by
  induction steps generalizing before after other with
  | nil => exact ⟨_, rfl⟩
  | cons step steps induction =>
      have later := fun other member => forward other (List.mem_cons_of_mem step member)
      cases step with
      | key name =>
          rw [assigned] at done
          obtain ⟨child, inside, _⟩ := steps_of_bind_ok done
          obtain ⟨further, also⟩ := induction later (longer.below (.under name)) inside
          exact ⟨_, by rw [assigned, also]; rfl⟩
      | index position =>
          have ahead : 0 ≤ position := forward _ List.mem_cons_self
          cases steps with
          | nil =>
              rw [assigned] at done
              obtain ⟨place, found, _⟩ := steps_of_bind_ok done
              obtain ⟨rfl, again⟩ := place_of_longer ahead (longer []) found
              exact ⟨_, by rw [assigned, again]; rfl⟩
          | cons next steps =>
              rw [assigned] at done
              obtain ⟨place, found, done⟩ := steps_of_bind_ok done
              obtain ⟨rfl, again⟩ := place_of_longer ahead (longer []) found
              obtain ⟨child, inside, _⟩ := steps_of_bind_ok done
              obtain ⟨further, also⟩ :=
                induction later (longer.below (.inside position.toNat)) inside
              refine ⟨withItem position.toNat further other, ?_⟩
              rw [assigned, again]
              dsimp only [Bind.bind, Except.bind]
              rw [also]
              rfl

theorem longer_after {value : Tree} {steps : List Step} (forward : ∀ step ∈ steps, step.Forward)
    {before after other further : Outline} (longer : Longer before other)
    (done : assigned value before steps = .ok after)
    (also : assigned value other steps = .ok further) : Longer after further := by
  intro spot
  rw [assigned_effect forward done, assigned_effect forward also]
  exact Effect.items_apply_le _ (longer spot)

theorem forward_stepsOf {setting : String × Tree}
    (forward : ∀ step ∈ (Path.ofKey setting.1).rest, step.Forward) :
    ∀ step ∈ stepsOf setting.1, step.Forward := by
  intro step member
  rcases List.mem_cons.mp member with rfl | later
  · exact True.intro
  · exact forward step later

/-- What putting in a layer does at each place. -/
def writing : List (String × Tree) → List Turn → Effect
  | [], _ => .keep
  | setting :: rest, spot =>
      (assigning setting.2 (stepsOf setting.1) spot).andThen (writing rest spot)

theorem assignedAll_effect {layer : List (String × Tree)} (forward : Layer.Forward layer)
    {before after : Outline} (done : assignedAll before layer = .ok after) (spot : List Turn) :
    after spot = (writing layer spot).apply (before spot) := by
  induction layer generalizing before with
  | nil =>
      cases done
      rfl
  | cons setting rest induction =>
      have here := forward_stepsOf (forward setting List.mem_cons_self)
      have later : Layer.Forward rest := fun other member =>
        forward other (List.mem_cons_of_mem setting member)
      rw [assignedAll] at done
      obtain ⟨middle, first, done⟩ := steps_of_bind_ok done
      rw [induction later done, assigned_effect here first, writing, Effect.apply_andThen]

theorem assignedAll_on_longer {layer : List (String × Tree)} (forward : Layer.Forward layer)
    {before after other : Outline} (longer : Longer before other)
    (done : assignedAll before layer = .ok after) :
    ∃ further, assignedAll other layer = .ok further := by
  induction layer generalizing before other with
  | nil => exact ⟨other, rfl⟩
  | cons setting rest induction =>
      have here := forward_stepsOf (forward setting List.mem_cons_self)
      have later : Layer.Forward rest := fun other member =>
        forward other (List.mem_cons_of_mem setting member)
      rw [assignedAll] at done
      obtain ⟨middle, first, done⟩ := steps_of_bind_ok done
      obtain ⟨between, also⟩ := assigned_on_longer here longer first
      obtain ⟨further, last⟩ := induction later (longer_after here longer first also) done
      exact ⟨further, by rw [assignedAll, also]; exact last⟩

/-- A layer that was put in where there were no lists can be put in again, and
nothing changes. -/
theorem assignedAll_again {layer : List (String × Tree)} (forward : Layer.Forward layer)
    {before after : Outline} (itemless : ∀ spot, Kind.items (before spot) = 0)
    (done : assignedAll before layer = .ok after) : assignedAll after layer = .ok after := by
  have longer : Longer before after := by
    intro spot
    rw [itemless]
    exact Nat.zero_le _
  obtain ⟨further, again⟩ := assignedAll_on_longer forward longer done
  have same : further = after := by
    funext spot
    rw [assignedAll_effect forward again, assignedAll_effect forward done, Effect.apply_apply]
  rw [again, same]

end Outline

namespace Tree

theorem stampItems_eq (source : Origin) (items : List Tree) :
    stampItems source items = items.map (stamp source) := by
  induction items with
  | nil => rfl
  | cons item rest induction => rw [stampItems, induction, List.map_cons]

theorem stampEntries_eq (source : Origin) (entries : List (String × Tree)) :
    stampEntries source entries = entries.map fun entry => (entry.1, entry.2.stamp source) := by
  induction entries with
  | nil => rfl
  | cons entry rest induction => rw [stampEntries, induction, List.map_cons]

theorem get?_stampEntries (source : Origin) (name : String) (entries : List (String × Tree)) :
    Entries.get? name (stampEntries source entries) =
      (Entries.get? name entries).map (stamp source) := by
  induction entries with
  | nil => rfl
  | cons entry rest induction =>
      rw [stampEntries, Entries.get?, Entries.get?, induction]
      split
      · rfl
      · rfl

theorem kind_stamp (source : Origin) (tree : Tree) : (tree.stamp source).kind = tree.kind := by
  cases tree with
  | scalar origin value => rfl
  | list origin items => rw [stamp, kind, stampItems_eq, List.length_map, kind]
  | table origin entries => rfl

theorem child?_stamp (source : Origin) (tree : Tree) (turn : Turn) :
    (tree.stamp source).child? turn = (tree.child? turn).map (stamp source) := by
  cases tree with
  | scalar origin value => cases turn <;> rfl
  | list origin values =>
      cases turn with
      | under name => rfl
      | inside place =>
          rw [stamp, stampItems_eq]
          exact List.getElem?_map
  | table origin entries =>
      cases turn with
      | under name => exact get?_stampEntries source name entries
      | inside place => rfl

/-- The outline of a tree does not show where it came from. -/
theorem outline_stamp (source : Origin) (tree? : Option Tree) :
    outline (tree?.map (stamp source)) = outline tree? := by
  funext spot
  induction spot generalizing tree? with
  | nil =>
      cases tree? with
      | none => rfl
      | some tree => exact congrArg some (kind_stamp source tree)
  | cons turn spot induction =>
      cases tree? with
      | none => rfl
      | some tree =>
          rw [Option.map_some, outline_below, child?_stamp, induction, outline_below]

theorem laying_stamp (source : Origin) (tree : Tree) : laying (tree.stamp source) = laying tree := by
  funext spot
  induction spot generalizing tree with
  | nil =>
      cases tree with
      | scalar origin value => rfl
      | list origin items => exact congrArg (Effect.become ∘ some) (kind_stamp source _)
      | table origin entries => cases entries <;> rfl
  | cons turn spot induction =>
      cases tree with
      | scalar origin value => cases turn <;> rfl
      | list origin items =>
          have below := congrFun (outline_stamp source ((list origin items).child? turn)) spot
          rw [← child?_stamp] at below
          cases turn <;> exact congrArg Effect.become below
      | table origin entries =>
          cases turn with
          | under name =>
              rw [stamp, stampEntries_eq, laying_under, laying_under, List.foldr_map]
              simp only [induction]
          | inside place => cases entries <;> rfl

end Tree

namespace Outline

open CustomerNotice.Tree (outline laying)

/-- Of a value that is assigned only its outline and what laying it does count. -/
theorem assigned_congr {one other : Tree} (laid : laying one = laying other)
    (alone : outline (some one) = outline (some other)) (before : Outline) (steps : List Step) :
    assigned one before steps = assigned other before steps := by
  induction steps generalizing before with
  | nil => rw [assigned, assigned, laid]
  | cons step steps induction =>
      cases step with
      | key name => rw [assigned, assigned, induction]
      | index position =>
          cases steps with
          | nil => rw [assigned, assigned, alone]
          | cons next steps => simp only [assigned, induction]

theorem assignedAll_stamp (source : Origin) (entries : List (String × Tree)) (before : Outline) :
    assignedAll before (Tree.stampEntries source entries) = assignedAll before entries := by
  induction entries generalizing before with
  | nil => rfl
  | cons entry rest induction =>
      have alone : outline (some (entry.2.stamp source)) = outline (some entry.2) :=
        Tree.outline_stamp source (some entry.2)
      have here := assigned_congr (Tree.laying_stamp source entry.2) alone
      simp only [Tree.stampEntries, assignedAll, here, induction]

end Outline
end CustomerNotice
