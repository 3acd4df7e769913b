import CustomerNotice.Proofs.Results
import CustomerNotice.Tree.Path

/-!
# Positions outside a list

A list grows up to a greatest length when a value is assigned behind its end, and
a negative position counts from its end. So only two kinds of positions can miss
a list, and assigning breaks off at nothing else.
-/

namespace CustomerNotice

/-- A position that is outside some list: one that counts from the end, or one
that no list is made long enough for. -/
def Step.Strays : Step → Prop
  | .key _ => False
  | .index position => position < 0 ∨ (Tree.greatestLength : Int) ≤ position

namespace Tree

/-- The positions that a list of some length has no place for. -/
def Misses (length : Nat) (position : Int) : Prop :=
  position < -length ∨ ((max length greatestLength : Nat) : Int) ≤ position

theorem place_breaks (length : Nat) (position : Int) :
    Yields (fun _ => ¬Misses length position)
      (fun crash => crash = .positionOutOfRange ∧ Misses length position)
      (place? length position) := by
  unfold place?
  split
  · next place =>
      split
      · next inside =>
          intro misses
          have bound := Int.ofNat_lt.mpr inside
          rcases misses with before | after
          · simp only [Int.ofNat_eq_natCast] at before
            omega
          · exact absurd after (Int.not_le.mpr bound)
      · next outside => exact ⟨rfl, .inr (Int.ofNat_le.mpr (Nat.le_of_not_lt outside))⟩
  · next back =>
      split
      · next inside =>
          intro misses
          unfold Misses at misses
          omega
      · next outside =>
          refine ⟨rfl, .inl ?_⟩
          omega

theorem strays_of_misses {length : Nat} {position : Int} (misses : Misses length position) :
    (Step.index position).Strays := by
  rcases misses with before | after
  · exact .inl (by omega)
  · exact .inr (by omega)

/-- A step of a path that strays, and what comes of it. -/
def Astray (steps : List Step) (crash : Crash) : Prop :=
  crash = .positionOutOfRange ∧ ∃ step ∈ steps, step.Strays

theorem Astray.cons {steps : List Step} {crash : Crash} (astray : Astray steps crash)
    (step : Step) : Astray (step :: steps) crash := by
  obtain ⟨same, stray, member, strays⟩ := astray
  exact ⟨same, stray, List.mem_cons_of_mem _ member, strays⟩

theorem assignAt_breaks (value : Tree) (old? : Option Tree) (steps : List Step) :
    Yields (fun _ => True) (Astray steps) (assignAt value old? steps) := by
  induction steps generalizing old? with
  | nil => exact True.intro
  | cons step rest induction =>
      have further : ∀ inner?, Yields (fun _ => True) (Astray (step :: rest))
          (assignAt value inner? rest) := by
        intro inner?
        exact (induction inner?).weaken (fun _ => id) fun crash astray => astray.cons step
      cases step with
      | key name =>
          rw [assignAt]
          exact Yields.bind (further _) fun child _ => True.intro
      | index position =>
          rw [assignAt]
          refine Yields.bind ((place_breaks _ position).weaken (fun _ => id) ?_) ?_
          · intro crash missed
            exact ⟨missed.1, _, List.mem_cons_self, strays_of_misses missed.2⟩
          · intro place _
            cases rest with
            | nil => exact True.intro
            | cons next rest => exact Yields.bind (further _) fun child _ => True.intro

/-- Putting in the settings of a layer breaks off only at a key with a stray position. -/
theorem assignAll_breaks (tree : Tree) (layer : List (String × Tree)) :
    Yields (fun _ => True)
      (fun crash => ∃ setting ∈ layer, Astray (Path.ofKey setting.1).rest crash)
      (tree.assignAll layer) := by
  induction layer generalizing tree with
  | nil => exact True.intro
  | cons setting rest induction =>
      obtain ⟨key, value⟩ := setting
      rw [assignAll]
      refine Yields.bind ((assignAt_breaks value _ _).weaken (fun _ => id) ?_) ?_
      · intro crash astray
        obtain ⟨same, step, member, strays⟩ := astray
        have later : step ∈ (Path.ofKey key).rest := by
          rcases List.mem_cons.mp member with rfl | later
          · exact strays.elim
          · exact later
        exact ⟨(key, value), List.mem_cons_self, same, step, later, strays⟩
      · intro after _
        refine (induction after).weaken (fun _ => id) ?_
        intro crash broken
        obtain ⟨other, member, astray⟩ := broken
        exact ⟨other, List.mem_cons_of_mem _ member, astray⟩

end Tree
end CustomerNotice
