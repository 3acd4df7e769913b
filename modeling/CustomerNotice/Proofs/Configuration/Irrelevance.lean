import CustomerNotice.Program
import CustomerNotice.Proofs.Configuration.Lookup
import CustomerNotice.Proofs.Configuration.Settings
import CustomerNotice.Proofs.Tree.Collecting

/-!
# What has no influence on loading

A variable that is no setting, or one whose key leads outside the sections, can
come and go without any effect on what loading answers, and so can a file that is
not looked for or that stands behind another one of its stem. In particular the
files of one environment are nothing to the other.
-/

namespace CustomerNotice

namespace Layer

/-- The key of a variable with this name, if it has one, leads into no section. -/
def Idle (name : String) : Prop :=
  ∀ key, variableKey? name = some key →
    '[' ∉ key.toList ∧ ∀ path, Path.read? key = some path → path.first ∉ Section.names

def touches (key : String) : Bool := (Path.ofKey key).first ∈ Section.names

/-- No variable that is a setting has a bracket in its name. -/
def NoBrackets (texts : List (String × String)) : Prop :=
  ∀ entry ∈ texts, (variableKey? entry.1).isSome = true → '[' ∉ entry.1.toList

theorem section_is_read : ∀ name ∈ Section.names, Path.read? name ≠ none := by
  intro name member
  have named : ∀ name ∈ Section.names, Path.IsName name := by decide
  have something : name.toList.isEmpty = false := by
    simpa using (named name member).toList_ne_nil
  simp [Path.read?, Path.takeWhile_only_name (named name member),
    Path.dropWhile_only_name (named name member), something, Path.readSteps?]

theorem Idle.touches_not {name key : String} (idle : Idle name)
    (found : variableKey? name = some key) : touches key = false := by
  have elsewhere := (idle key found).2
  rw [touches, decide_eq_false_iff_not]
  intro inside
  cases read : Path.read? key with
  | none =>
      rw [Path.first_of_unread read] at inside
      exact section_is_read key inside read
  | some path =>
      rw [Path.ofKey, read] at inside
      exact elsewhere path read inside

theorem idle_of_first {name key : String} (found : variableKey? name = some key)
    (plain : '[' ∉ key.toList) (first : (Path.ofKey key).first ∉ Section.names) : Idle name := by
  intro other also
  rw [found, Option.some.injEq] at also
  subst also
  constructor
  · exact plain
  · intro path read
    rw [Path.ofKey, read] at first
    exact first

/-- What is taken from variables that agree up to one that nothing is taken from. -/
theorem taken_of_agree {Taken : Type} {name : String} (take : String × String → Option Taken)
    (silent : ∀ value, take (name, value) = none) {exported others : Variables}
    (agree : exported.AgreeExcept name others) {texts other_texts : List (String × String)}
    (decoded : decodeVariables exported = .ok texts)
    (also : decodeVariables others = .ok other_texts) :
    texts.filterMap take = other_texts.filterMap take := by
  obtain ⟨kept, unset, same⟩ := decoded_unset take silent decoded
  obtain ⟨also_kept, also_unset, also_same⟩ := decoded_unset take silent also
  rw [agree, also_unset] at unset
  rw [← same, ← also_same, Except.ok.inj unset]

theorem mem_of_agree {name : String} {exported others : Variables}
    (agree : exported.AgreeExcept name others) {texts other_texts : List (String × String)}
    (decoded : decodeVariables exported = .ok texts)
    (also : decodeVariables others = .ok other_texts) {entry : String × String}
    (member : entry ∈ other_texts) (different : entry.1 ≠ name) : entry ∈ texts := by
  have same := taken_of_agree (fun entry => if entry.1 = name then none else some entry)
    (by simp) agree decoded also
  have found : entry ∈ other_texts.filterMap
      fun entry => if entry.1 = name then none else some entry := by
    rw [List.mem_filterMap]
    exact ⟨entry, member, if_neg different⟩
  rw [← same, List.mem_filterMap] at found
  obtain ⟨other, earlier, kept⟩ := found
  split at kept
  · contradiction
  · cases kept
    exact earlier

theorem filter_settingsOf (texts : List (String × String)) :
    (settingsOf texts).filter (fun setting => touches setting.1) =
      Entries.ofList (texts.filterMap fun entry =>
        (ofVariable? entry).filter fun setting => touches setting.1) := by
  rw [settingsOf, Entries.filter_ofList, List.filter_filterMap]

/-- The settings of the sections are the same. -/
theorem touching_of_agree {name : String} (idle : Idle name) {exported others : Variables}
    (agree : exported.AgreeExcept name others) {texts other_texts : List (String × String)}
    (decoded : decodeVariables exported = .ok texts)
    (also : decodeVariables others = .ok other_texts) :
    (settingsOf texts).filter (fun setting => touches setting.1) =
      (settingsOf other_texts).filter fun setting => touches setting.1 := by
  have silent : ∀ value, (ofVariable? (name, value)).filter
      (fun setting => touches setting.1) = none := by
    intro value
    rw [ofVariable?]
    cases found : variableKey? name with
    | none => rfl
    | some key => simp [idle.touches_not found]
  rw [filter_settingsOf, filter_settingsOf, taken_of_agree _ silent agree decoded also]

theorem settings_plain {texts : List (String × String)} (plain : NoBrackets texts) :
    (settingsOf texts).Plain := by
  intro setting member
  obtain ⟨entry, listed, read⟩ := List.mem_filterMap.mp (Entries.mem_ofList member)
  obtain ⟨key, found, same⟩ := Option.map_eq_some_iff.mp read
  rw [← same]
  exact variableKey_plain found (plain entry listed (by rw [found]; rfl))

theorem settings_plain_of_agree {name : String} (idle : Idle name) {exported others : Variables}
    (agree : exported.AgreeExcept name others) {texts other_texts : List (String × String)}
    (decoded : decodeVariables exported = .ok texts)
    (also : decodeVariables others = .ok other_texts) (plain : NoBrackets texts) :
    (settingsOf other_texts).Plain := by
  intro setting member
  obtain ⟨entry, listed, read⟩ := List.mem_filterMap.mp (Entries.mem_ofList member)
  obtain ⟨key, found, same⟩ := Option.map_eq_some_iff.mp read
  rw [← same]
  by_cases changed : entry.1 = name
  · rw [changed] at found
    exact (idle key found).1
  · have earlier := mem_of_agree agree decoded also listed changed
    exact variableKey_plain found (plain entry earlier (by rw [found]; rfl))

/-- Under the name of a section only the settings of the sections are found. -/
theorem afterEntries_touching {shape : Section} (known : shape ∈ Section.all) (settings : Layer)
    (old? : Option Tree) :
    Tree.afterEntries shape.key old? (settings.map Tree.spread) =
      Tree.afterEntries shape.key old?
        ((settings.filter fun setting => touches setting.1).map Tree.spread) := by
  induction settings generalizing old? with
  | nil => rfl
  | cons setting rest induction =>
      rw [List.map_cons, Tree.afterEntries, List.filter_cons]
      by_cases inside : touches setting.1 = true
      · rw [if_pos inside, List.map_cons, Tree.afterEntries, induction]
      · have different : (Tree.spread setting).1 ≠ shape.key := by
          intro same
          have first : (Path.ofKey setting.1).first = shape.key := same
          apply inside
          rw [touches, decide_eq_true_eq, first]
          exact Section.mem_names known
        rw [if_neg inside, if_neg different, induction]

end Layer

namespace Directory

/-- The same entries up to one name. -/
def AgreeExcept (name : String) (left right : Directory) : Prop :=
  left.path = right.path ∧
    ∀ other, other ≠ name → left.entries.lookup other = right.entries.lookup other

def namesFor (stem : String) : List String :=
  stem :: knownExtensions.map fun entry => stem ++ "." ++ entry.1

/-- A name that is not looked for, or at which nothing is looked for any more. -/
inductive Idle (directory : Directory) (environment : Environment) : String → Prop
  | foreign {name : String} (base : name ∉ namesFor Loading.baseStem)
      (specific : name ∉ namesFor environment.name) : Idle directory environment name
  | hidden {stem extension : String} {format : Format} {earlier later : List (String × Format)}
      (asked : stem = Loading.baseStem ∨ stem = environment.name)
      (order : knownExtensions = earlier ++ (extension, format) :: later)
      (before : ∃ entry ∈ earlier, (directory.file? (stem ++ "." ++ entry.1)).isSome = true) :
      Idle directory environment (stem ++ "." ++ extension)

def candidate (directory : Directory) (stem : String) (entry : String × Format) :
    Option SettingsFile :=
  (directory.file? (stem ++ "." ++ entry.1)).map fun content =>
    ⟨stem ++ "." ++ entry.1, entry.2, content⟩

theorem find_eq (directory : Directory) (stem : String) :
    directory.find? stem =
      match directory.file? stem with
      | some _ => none
      | none => knownExtensions.findSome? (directory.candidate stem) := rfl

theorem findSome_agree {Item Found : Type} {left right : Item → Option Found} {items : List Item}
    (same : ∀ item ∈ items, left item = right item) :
    items.findSome? left = items.findSome? right := by
  induction items with
  | nil => rfl
  | cons item rest induction =>
      have later := induction fun other member => same other (List.mem_cons_of_mem item member)
      rw [List.findSome?_cons, List.findSome?_cons, same item List.mem_cons_self, later]

variable {name stem : String} {left right : Directory}

theorem AgreeExcept.file (agree : AgreeExcept name left right) {other : String}
    (different : other ≠ name) : left.file? other = right.file? other := by
  rw [file?, file?, agree.2 other different]

theorem AgreeExcept.candidate (agree : AgreeExcept name left right) {entry : String × Format}
    (different : stem ++ "." ++ entry.1 ≠ name) :
    left.candidate stem entry = right.candidate stem entry := by
  rw [Directory.candidate, Directory.candidate, agree.file different]

theorem find_of_unasked (agree : AgreeExcept name left right) (unasked : name ∉ namesFor stem) :
    left.find? stem = right.find? stem := by
  simp only [namesFor, List.mem_cons, List.mem_map, not_or, not_exists, not_and] at unasked
  have candidates : knownExtensions.findSome? (left.candidate stem) =
      knownExtensions.findSome? (right.candidate stem) := by
    apply findSome_agree
    intro entry member
    exact agree.candidate (unasked.2 entry member)
  rw [find_eq, find_eq, agree.file (Ne.symm unasked.1), candidates]

theorem stem_ne_file (stem extension : String) : stem ≠ stem ++ "." ++ extension := by
  intro same
  have lengths := congrArg String.length same
  simp only [String.length_append] at lengths
  have point : ".".length = 1 := rfl
  omega

theorem extensions_distinct : (knownExtensions.map Prod.fst).Nodup := by decide

/-- The search ends before it comes to the name. -/
theorem find_of_hidden {extension : String} {format : Format}
    {earlier later : List (String × Format)}
    (order : knownExtensions = earlier ++ (extension, format) :: later)
    (before : ∃ entry ∈ earlier, (left.file? (stem ++ "." ++ entry.1)).isSome = true)
    (agree : AgreeExcept (stem ++ "." ++ extension) left right) :
    left.find? stem = right.find? stem := by
  have distinct := extensions_distinct
  rw [order, List.map_append, List.nodup_append] at distinct
  have other_names : ∀ entry ∈ earlier, stem ++ "." ++ entry.1 ≠ stem ++ "." ++ extension := by
    intro entry member same
    apply distinct.2.2 entry.1 (List.mem_map_of_mem member) extension (by simp)
    rw [← String.toList_inj] at same
    simp only [String.toList_append, List.append_cancel_left_eq] at same
    exact String.toList_inj.mp same
  -- The search ends among the earlier extensions, so that the name itself is never asked for.
  have candidates : earlier.findSome? (left.candidate stem) =
      earlier.findSome? (right.candidate stem) := by
    apply findSome_agree
    intro entry member
    exact agree.candidate (other_names entry member)
  have found : (earlier.findSome? (left.candidate stem)).isSome = true := by
    obtain ⟨entry, member, present⟩ := before
    rw [List.findSome?_isSome_iff]
    refine ⟨entry, member, ?_⟩
    rw [Directory.candidate, Option.isSome_map]
    exact present
  obtain ⟨file, first⟩ := Option.isSome_iff_exists.mp found
  rw [find_eq, find_eq, agree.file (stem_ne_file stem extension), order,
    List.findSome?_append, List.findSome?_append, ← candidates, first]
  rfl

theorem names_of_stems_apart : ∀ environment : Environment,
    (∀ entry ∈ knownExtensions,
      Loading.baseStem ++ "." ++ entry.1 ∉ namesFor environment.name) ∧
    ∀ entry ∈ knownExtensions, environment.name ++ "." ++ entry.1 ∉ namesFor Loading.baseStem := by
  intro environment
  cases environment <;> decide

theorem Idle.find {environment : Environment} (idle : Idle left environment name)
    (agree : AgreeExcept name left right)
    (asked : stem = Loading.baseStem ∨ stem = environment.name) :
    left.find? stem = right.find? stem := by
  cases idle with
  | foreign base specific =>
      rcases asked with rfl | rfl
      · exact find_of_unasked agree base
      · exact find_of_unasked agree specific
  | @hidden own extension format earlier later own_asked order before =>
      have listed : (extension, format) ∈ knownExtensions := by
        rw [order]
        simp
      have apart := names_of_stems_apart environment
      rcases asked with rfl | rfl <;> rcases own_asked with rfl | rfl
      · exact find_of_hidden order before agree
      · exact find_of_unasked agree (apart.2 _ listed)
      · exact find_of_unasked agree (apart.1 _ listed)
      · exact find_of_hidden order before agree

theorem layer_of_found (paths : left.path = right.path)
    (found : left.find? stem = right.find? stem) :
    Layer.ofDirectory left stem = Layer.ofDirectory right stem := by
  have shown : left.shown = right.shown := by
    funext name
    rw [Directory.shown, Directory.shown, paths]
  rw [Layer.ofDirectory, Layer.ofDirectory, found, shown]

theorem foreign_environment {environment foreign : Environment} (different : foreign ≠ environment)
    (directory : Directory) {name : String} (member : name ∈ namesFor foreign.name) :
    directory.Idle environment name := by
  have apart : ∀ environment foreign : Environment, foreign ≠ environment →
      ∀ name ∈ namesFor foreign.name,
        name ∉ namesFor Loading.baseStem ∧ name ∉ namesFor environment.name := by
    intro environment foreign
    cases environment <;> cases foreign <;> decide
  have unasked := apart environment foreign different name member
  exact .foreign unasked.1 unasked.2

end Directory

namespace Loading

/-- Loading does not see a variable whose key leads into no section. -/
theorem fromDirectory_of_idle {name : String} (idle : Layer.Idle name)
    {exported others : Variables} (agree : exported.AgreeExcept name others)
    {texts other_texts : List (String × String)}
    (decoded : Layer.decodeVariables exported = .ok texts)
    (also : Layer.decodeVariables others = .ok other_texts) (plain : Layer.NoBrackets texts)
    (directory : Directory) (environment : Environment) :
    fromDirectory directory environment others =
      fromDirectory directory environment exported := by
  symm
  apply fromDirectory_of_seen (Layer.ofVariables_decoded decoded) (Layer.ofVariables_decoded also)
    (Layer.settings_plain plain) (Layer.settings_plain_of_agree idle agree decoded also plain)
  intro tree shape known
  have left := Layer.afterEntries_touching known (Layer.settingsOf texts)
  have right := Layer.afterEntries_touching known (Layer.settingsOf other_texts)
  rw [Tree.get?_merge, Tree.get?_merge, left, right,
    Layer.touching_of_agree idle agree decoded also]

theorem fromDirectory_of_idle_file {name : String} {left right : Directory}
    {environment : Environment} (idle : left.Idle environment name)
    (agree : Directory.AgreeExcept name left right) (exported : Variables) :
    fromDirectory right environment exported = fromDirectory left environment exported := by
  have base := Directory.layer_of_found agree.1 (idle.find agree (.inl rfl))
  have specific := Directory.layer_of_found agree.1 (idle.find agree (.inr rfl))
  rw [fromDirectory_eq, fromDirectory_eq, base, specific]

theorem environment_and_filter_idle :
    Layer.Idle Environment.variableName ∧ Layer.Idle Program.filterVariable := by
  have key : Layer.variableKey? Environment.variableName = some "environment" := by
    decide +kernel
  have silent : Layer.variableKey? Program.filterVariable = none := by decide +kernel
  have named : Path.IsName "environment" := by decide
  constructor
  · apply Layer.idle_of_first key (by decide)
    rw [Path.ofKey_name named]
    decide
  · intro other found
    rw [silent] at found
    contradiction

/-- What loading answers does not change with a variable that leads into no
section, as long as no setting has a bracket in its name, nor with a file that is
not looked for or comes behind another of its stem. The variables that name the
environment and the filter of the log are such variables, the files of the other
environment such files. -/
theorem idle_inputs_change_nothing (directory : Directory) (environment : Environment)
    (exported : Variables) :
    (∀ (name : String) (others : Variables) (texts other_texts : List (String × String)),
      Layer.decodeVariables exported = .ok texts → Layer.NoBrackets texts →
      Layer.decodeVariables others = .ok other_texts →
      Layer.Idle name → exported.AgreeExcept name others →
      fromDirectory directory environment others =
        fromDirectory directory environment exported) ∧
    (∀ (name : String) (other : Directory), directory.Idle environment name →
      Directory.AgreeExcept name directory other →
      fromDirectory other environment exported =
        fromDirectory directory environment exported) ∧
    (Layer.Idle Environment.variableName ∧ Layer.Idle Program.filterVariable) ∧
    ∀ foreign : Environment, foreign ≠ environment →
      ∀ name ∈ Directory.namesFor foreign.name, directory.Idle environment name := by
  refine ⟨?settings, ?files, environment_and_filter_idle, ?foreign⟩
  case settings =>
    intro name others texts other_texts decoded plain also idle agree
    exact fromDirectory_of_idle idle agree decoded also plain directory environment
  case files =>
    intro name other idle agree
    exact fromDirectory_of_idle_file idle agree exported
  case foreign =>
    intro foreign different name member
    exact Directory.foreign_environment different directory member

def concealedKey : List (String × String) := [("APP_OUTPUT__REVEAL_API_KEY", "false")]

def concealedKeyAndMore : List (String × String) :=
  concealedKey ++ [("App_Extra__Key", "anything")]

def crowdedDirectory : Directory where
  path := concealingDirectory.path
  entries := ("local.ini", .file (Bytes.ofText "customer = 5\n")) :: concealingDirectory.entries

theorem more_variables_and_files_change_nothing :
    fromDirectory concealingDirectory .production (Layer.ofTexts concealedKeyAndMore) =
        fromDirectory concealingDirectory .production (Layer.ofTexts concealedKey) ∧
      fromDirectory crowdedDirectory .production (Layer.ofTexts concealedKey) =
        fromDirectory concealingDirectory .production (Layer.ofTexts concealedKey) := by
  obtain ⟨settings, files, _, foreign⟩ :=
    idle_inputs_change_nothing concealingDirectory .production (Layer.ofTexts concealedKey)
  have key : Layer.variableKey? "App_Extra__Key" = some "extra.key" := by decide +kernel
  have decoded := Layer.decode_ofTexts concealedKey
  have also := Layer.decode_ofTexts concealedKeyAndMore
  have plain : Layer.NoBrackets concealedKey := by
    intro entry member setting
    rw [List.mem_singleton.mp member]
    decide
  constructor
  · apply settings "App_Extra__Key" _ _ _ decoded plain also
    · apply Layer.idle_of_first key (by decide)
      have read : Path.ofKey "extra.key" = ⟨"extra", [.key "key"]⟩ :=
        Path.ofKey_of_parts (by decide)
      rw [read]
      decide
    · unfold Variables.AgreeExcept
      decide
  · apply files "local.ini"
    · exact foreign .development (by decide) _ (by decide)
    · constructor
      · rfl
      · intro other different
        have unequal : (other == "local.ini") = false := by simpa using different
        simp only [crowdedDirectory, List.lookup_cons, unequal]

end Loading
end CustomerNotice
