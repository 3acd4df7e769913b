import CustomerNotice.Tree

/-!
# What a write does at one place

However a tree is written to, one of four things happens at each place in it:
what stands there stays, it gives way to something fixed, it is supplied where
nothing stood, or it becomes a list that reaches at least to some length. The
four can be put together into one of them, and each of them done twice is the
same as done once.
-/

namespace CustomerNotice

/-- What a tree is at one place, without what stands below that place. -/
inductive Kind
  | plain (value : Scalar)
  | row (length : Nat)
  | table
  deriving DecidableEq, Repr

namespace Kind

/-- The number of items at a place; where no list stands there are none. -/
def items : Option Kind → Nat
  | some (row length) => length
  | _ => 0

end Kind

/-- What is supplied never brings items with it, as a list that is made to reach
further would count them. -/
inductive Effect
  | keep
  | become (kind? : Option Kind)
  | supply (kind : Kind) (itemless : Kind.items (some kind) = 0)
  | reach (length : Nat)

namespace Effect

def apply : Effect → Option Kind → Option Kind
  | keep, here => here
  | become kind?, _ => kind?
  | supply kind _, here => here.or (some kind)
  | reach length, here => some (.row (max (Kind.items here) length))

def andThen : Effect → Effect → Effect
  | first, keep => first
  | _, become kind? => become kind?
  | keep, supply kind itemless => supply kind itemless
  | become kind?, supply kind _ => become (kind?.or (some kind))
  | supply kind itemless, supply _ _ => supply kind itemless
  | reach length, supply _ _ => reach length
  | become kind?, reach length => become (some (.row (max (Kind.items kind?) length)))
  | reach length, reach further => reach (max length further)
  | keep, reach length => reach length
  | supply _ _, reach length => reach length

theorem items_supplied {kind : Kind} (itemless : Kind.items (some kind) = 0)
    (here : Option Kind) : Kind.items (here.or (some kind)) = Kind.items here := by
  cases here with
  | none => exact itemless
  | some kind => rfl

theorem apply_andThen (first second : Effect) (here : Option Kind) :
    (first.andThen second).apply here = second.apply (first.apply here) := by
  cases second with
  | keep => cases first <;> rfl
  | become kind? => cases first <;> rfl
  | supply kind itemless =>
      cases first with
      | supply earlier _ => simp [andThen, apply]
      | keep => rfl
      | become kind? => rfl
      | reach length => rfl
  | reach length =>
      cases first with
      | supply kind itemless => simp only [andThen, apply, items_supplied itemless]
      | reach shorter => simp only [andThen, apply, Kind.items, Nat.max_assoc]
      | keep => rfl
      | become kind? => rfl

/-- A place that was written to stays as it is when the same is written again. -/
theorem apply_apply (effect : Effect) (here : Option Kind) :
    effect.apply (effect.apply here) = effect.apply here := by
  cases effect with
  | keep => rfl
  | become kind? => rfl
  | supply kind itemless => simp [apply]
  | reach length => simp only [apply, Kind.items, Nat.max_assoc, Nat.max_self]

/-- Where there were more items before, there are not fewer afterwards. -/
theorem items_apply_le (effect : Effect) {here there : Option Kind}
    (fewer : Kind.items here ≤ Kind.items there) :
    Kind.items (effect.apply here) ≤ Kind.items (effect.apply there) := by
  cases effect with
  | keep => exact fewer
  | become kind? => exact Nat.le_refl _
  | supply kind itemless =>
      simp only [apply, items_supplied itemless]
      exact fewer
  | reach length =>
      change max (Kind.items here) length ≤ max (Kind.items there) length
      omega

end Effect
end CustomerNotice
