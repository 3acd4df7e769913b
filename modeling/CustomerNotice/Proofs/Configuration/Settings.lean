import CustomerNotice.Proofs.Configuration.Reading
import CustomerNotice.Proofs.Configuration.Variables
import CustomerNotice.Proofs.Text.Casing
import CustomerNotice.Proofs.Tree.Keys

/-!
# The settings among the variables

The key of a variable does not depend on the case of the letters in its name, and
has a bracket only if the name has one. Settings without brackets are merged into
what the files say, so loading depends on them only through what is then seen in
the sections.
-/

namespace CustomerNotice

namespace Layer

theorem pointed_smallLetters (characters : List Char) :
    pointed (Text.smallLetters characters) = Text.smallLetters (pointed characters) := by
  have underscore := Text.toLower_eq_iff '_' (Text.all_capitals (by decide)) (by decide)
  induction characters using pointed.induct with
  | case1 rest induction => exact congrArg ('.' :: ·) induction
  | case2 character rest single induction =>
      have still_single : ∀ after, character.toLower = '_' →
          Text.smallLetters rest = '_' :: after → False := by
        intro after first second
        cases rest with
        | nil => cases second
        | cons next rest =>
            have same := List.cons.inj second
            have here := (underscore character).mp first
            have there := (underscore next).mp same.1
            exact single rest here (by rw [there])
      have alone : pointed (character :: rest) = character :: pointed rest := by
        rw [pointed]
        exact single
      rw [alone, Text.smallLetters, List.map_cons, ← Text.smallLetters, pointed, induction]
      · rfl
      · exact still_single
  | case3 => rfl

/-- The key of a variable is the same in any case of the plain letters. -/
theorem variableKey_of_smallLetters {left right : String}
    (same : Text.smallLetters left.toList = Text.smallLetters right.toList) :
    variableKey? left = variableKey? right := by
  have marks : (left.toList.take 4).map Char.toLower = (right.toList.take 4).map Char.toLower := by
    rw [List.map_take, List.map_take]
    exact congrArg (List.take 4) same
  have rests : Text.smallLetters (left.toList.drop 4) = Text.smallLetters (right.toList.drop 4) := by
    rw [Text.smallLetters, Text.smallLetters, List.map_drop, List.map_drop]
    exact congrArg (List.drop 4) same
  have keys : Text.lowercase (String.ofList (pointed (left.toList.drop 4))) =
      Text.lowercase (String.ofList (pointed (right.toList.drop 4))) := by
    apply Text.lowercase_of_smallLetters
    rw [← pointed_smallLetters, rests, pointed_smallLetters]
  simp only [variableKey?, marks, keys]

theorem pointed_bracket {characters : List Char} (member : '[' ∈ pointed characters) :
    '[' ∈ characters := by
  induction characters using pointed.induct with
  | case1 rest induction =>
      rw [pointed, List.mem_cons] at member
      have later := induction (member.resolve_left (by decide))
      simp [later]
  | case2 character rest single induction =>
      have alone : pointed (character :: rest) = character :: pointed rest := by
        rw [pointed]
        exact single
      rw [alone, List.mem_cons] at member
      rcases member with here | later
      · rw [here]
        exact List.mem_cons_self
      · exact List.mem_cons_of_mem _ (induction later)
  | case3 => exact member

/-- A name without a bracket has a key without one. -/
theorem variableKey_plain {name key : String} (found : variableKey? name = some key)
    (plain : '[' ∉ name.toList) : '[' ∉ key.toList := by
  intro member
  unfold variableKey? at found
  simp only at found
  split at found
  · rw [← Option.some.inj found] at member
    have pointed_member := Text.lowercase_bracket member
    rw [String.toList_ofList] at pointed_member
    exact plain ((List.drop_sublist 4 name.toList).subset (pointed_bracket pointed_member))
  · contradiction

/-- The settings in variables that are texts, each key once. -/
def settingsOf (texts : List (String × String)) : Layer :=
  Entries.ofList (texts.filterMap ofVariable?)

theorem ofVariables_decoded {exported : Variables} {texts : List (String × String)}
    (decoded : decodeVariables exported = .ok texts) :
    ofVariables exported = .ok (settingsOf texts) := by
  rw [ofVariables, decoded]
  rfl

def ofTexts (texts : List (String × String)) : Variables :=
  texts.map fun entry => (Bytes.ofText entry.1, Bytes.ofText entry.2)

theorem decode_ofTexts (texts : List (String × String)) :
    decodeVariables (ofTexts texts) = .ok texts := by
  induction texts with
  | nil => rfl
  | cons entry rest induction =>
      rw [ofTexts, List.map_cons, ← ofTexts, decodeVariables]
      simp only [Bytes.toText?_ofText, induction]
      rfl

/-- No setting has a key with a bracket. -/
def Plain (settings : Layer) : Prop := ∀ setting ∈ settings, '[' ∉ setting.1.toList

end Layer

namespace Loading

open CustomerNotice.Tree

def filed (directory : Directory) (environment : Environment) : Except LoadFailure Tree := do
  let tree ← apply .empty (← Layer.ofDirectory directory baseStem)
  apply tree (← Layer.ofDirectory directory environment.name)

theorem sources_eq (directory : Directory) (environment : Environment) (exported : Variables) :
    sources directory environment exported =
      filed directory environment >>= fun tree =>
        (Layer.ofVariables exported).mapError .crashed >>= fun settings =>
          apply tree settings := by
  simp only [sources, filed, bind_assoc]

theorem apply_tidy {tree after : Tree} {layer : Layer} (tidy : tree.Tidy)
    (applied : apply tree layer = .ok after) : after.Tidy := by
  unfold apply at applied
  cases assigned : tree.assignAll layer with
  | error crash =>
      rw [assigned] at applied
      contradiction
  | ok assigned_tree =>
      rw [assigned] at applied
      cases applied
      exact tidy.assignAll assigned

theorem filed_tidy {directory : Directory} {environment : Environment} {tree : Tree}
    (found : filed directory environment = .ok tree) : tree.Tidy := by
  obtain ⟨base, _, found⟩ := steps_of_bind_ok found
  obtain ⟨first, base_applied, found⟩ := steps_of_bind_ok found
  obtain ⟨specific, _, specific_applied⟩ := steps_of_bind_ok found
  exact apply_tidy (apply_tidy tidy_empty base_applied) specific_applied

theorem apply_plain {settings : Layer} (plain : settings.Plain) (tree : Tree) :
    apply tree settings = .ok (tree.merge (settings.map spread)) := by
  have named : ∀ setting ∈ settings, (Path.ofKey setting.1).IsNamed := by
    intro setting member
    exact Path.named_of_plain (plain setting member)
  rw [apply, assignAll_named named]
  rfl

/-- Two processes load the same if their settings leave the same to be seen in the sections. -/
theorem fromDirectory_of_seen {exported others : Variables} {settings other_settings : Layer}
    (read : Layer.ofVariables exported = .ok settings)
    (also : Layer.ofVariables others = .ok other_settings)
    (plain : settings.Plain) (also_plain : other_settings.Plain)
    (same : ∀ tree : Tree, ∀ shape ∈ Section.all,
      seen ((tree.merge (settings.map spread)).get? shape.key) =
        seen ((tree.merge (other_settings.map spread)).get? shape.key))
    (directory : Directory) (environment : Environment) :
    fromDirectory directory environment exported = fromDirectory directory environment others := by
  have given : (Layer.ofVariables exported).mapError LoadFailure.crashed = .ok settings := by
    rw [read]
    rfl
  have also_given :
      (Layer.ofVariables others).mapError LoadFailure.crashed = .ok other_settings := by
    rw [also]
    rfl
  rw [fromDirectory, fromDirectory, sources_eq, sources_eq, given, also_given]
  cases found : filed directory environment with
  | error failure => rfl
  | ok tree =>
      have tidy := filed_tidy found
      have left := apply_plain plain tree
      have right := apply_plain also_plain tree
      have readings := reading_depends_on_seen (apply_tidy tidy left) (apply_tidy tidy right)
        (same tree)
      simp only [bind, Except.bind, left, right, readings]

end Loading
end CustomerNotice
