import CustomerNotice.Proofs.Tree.Views

/-!
# Keys without brackets

A key without brackets is read as names with points between them, or else as one
name. Either way the names spell the key, so different keys lead to different
places.
-/

namespace CustomerNotice
namespace Path

def dotted (names : List String) : List Char := names.flatMap fun name => '.' :: name.toList

theorem steps_of_dotted {text : List Char} {steps : List Step} (plain : '[' ∉ text)
    (read : readSteps? text = some steps) :
    ∃ names : List String, steps = names.map Step.key ∧ text = dotted names := by
  induction text using readSteps?.induct generalizing steps with
  | case1 =>
      rw [readSteps?] at read
      cases read
      exact ⟨[], rfl, rfl⟩
  | case2 rest name =>
      rename_i nameless
      simp only [readSteps?, if_true] at read
      rw [if_pos nameless] at read
      contradiction
  | case3 rest name named =>
      rename_i induction
      simp only [readSteps?, if_true] at read
      rw [if_neg named] at read
      obtain ⟨later, found, same⟩ := Option.bind_eq_some_iff.mp read
      cases same
      have rest_plain : '[' ∉ rest.dropWhile isNameCharacter := by
        intro member
        exact plain (List.mem_cons_of_mem _ ((List.dropWhile_sublist _).subset member))
      obtain ⟨names, steps_same, spelled⟩ := induction rest_plain found
      refine ⟨String.ofList name :: names, by rw [steps_same]; rfl, ?_⟩
      rw [dotted, List.flatMap_cons, ← dotted, ← spelled, String.toList_ofList, List.cons_append,
        List.takeWhile_append_dropWhile]
  | case4 => simp at plain
  | case5 => simp at plain
  | case6 character rest no_point no_bracket =>
      simp only [readSteps?, if_neg no_point, if_neg no_bracket] at read
      contradiction

/-- The names of a key without brackets spell it. -/
theorem ofKey_spelled {key : String} (plain : '[' ∉ key.toList) :
    ∃ (first : String) (names : List String),
      ofKey key = ⟨first, names.map Step.key⟩ ∧ key.toList = first.toList ++ dotted names := by
  unfold ofKey
  cases read : read? key with
  | none => exact ⟨key, [], rfl, by simp [dotted]⟩
  | some path =>
      unfold read? at read
      simp only at read
      split at read
      · contradiction
      · obtain ⟨steps, found, same⟩ := Option.bind_eq_some_iff.mp read
        cases same
        have rest_plain : '[' ∉ key.toList.dropWhile isNameCharacter := by
          intro member
          exact plain ((List.dropWhile_sublist _).subset member)
        obtain ⟨names, steps_same, spelled⟩ := steps_of_dotted rest_plain found
        refine ⟨_, names, by rw [steps_same]; rfl, ?_⟩
        rw [← spelled, String.toList_ofList, List.takeWhile_append_dropWhile]

theorem named_of_plain {key : String} (plain : '[' ∉ key.toList) : (ofKey key).IsNamed := by
  obtain ⟨first, names, same, _⟩ := ofKey_spelled plain
  rw [same]
  intro step member
  obtain ⟨name, _, spelled⟩ := List.mem_map.mp member
  exact ⟨name, spelled.symm⟩

theorem names_of_keys (first : String) (names : List String) :
    (Path.mk first (names.map Step.key)).names = first :: names := by
  rw [Path.names, List.filterMap_map]
  exact congrArg (first :: ·) List.filterMap_some

theorem key_of_names {left right : String} (plain : '[' ∉ left.toList)
    (also : '[' ∉ right.toList) (same : (ofKey left).names = (ofKey right).names) :
    left = right := by
  obtain ⟨first, names, left_read, left_spelled⟩ := ofKey_spelled plain
  obtain ⟨other, others, right_read, right_spelled⟩ := ofKey_spelled also
  rw [left_read, right_read, names_of_keys, names_of_keys, List.cons.injEq] at same
  apply String.toList_inj.mp
  rw [left_spelled, right_spelled, same.1, same.2]

/-- A key that is seen to spell two names. -/
theorem ofKey_of_parts {key name field : String}
    (parts : name ++ "." ++ field = key ∧ IsName name ∧ IsName field) :
    ofKey key = ⟨name, [.key field]⟩ := by
  rw [← parts.1]
  exact ofKey_field parts.2.1 parts.2.2

/-- A text that is no path stands for itself. -/
theorem first_of_unread {key : String} (unread : read? key = none) : (ofKey key).first = key := by
  rw [ofKey, unread]
  rfl

end Path
end CustomerNotice
