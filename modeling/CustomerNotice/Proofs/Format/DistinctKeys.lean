import CustomerNotice.Configuration.Layer
import CustomerNotice.Proofs.Tree.Merging
import CustomerNotice.Proofs.Results

/-!
# The names in a settings file

Whatever the format, a text that is read gives a tree in which no name comes twice: braces and
sections collect their members by name, and the lines of TOML only ever put a value under a name.
Giving every value its origin keeps the names, so the settings of a file have distinct keys.
-/

namespace CustomerNotice

namespace Tree

theorem distinct_of_not_table {tree : Tree} (plain : tree.isTable = false) : tree.Distinct := by
  rw [Distinct, entries_of_not_table plain]
  exact List.nodup_nil

theorem distinct_table_ofList (origin : Option Origin) (members : List (String × Tree)) :
    (Tree.table origin (Entries.ofList members)).Distinct :=
  Entries.distinct_ofList members

theorem distinct_of_map {Value Rest : Type} {found? : Option Value} {build : Value → Tree × Rest}
    {tree : Tree} {rest : Rest} (read : found?.map build = some (tree, rest))
    (plain : ∀ value, (build value).1.isTable = false) : tree.Distinct := by
  obtain ⟨value, _, built⟩ := Option.map_eq_some_iff.mp read
  have not_table := plain value
  rw [built] at not_table
  exact distinct_of_not_table not_table

end Tree

namespace Json

theorem number_distinct {negative : Bool} {text rest : List Char} {tree : Tree}
    (read : readNumber? negative text = some (tree, rest)) : tree.Distinct := by
  simp only [readNumber?] at read
  split at read
  · contradiction
  · simp only [Option.bind_eq_bind, Option.bind_eq_some_iff, Option.pure_def,
      Option.some.injEq, Prod.mk.injEq] at read
    obtain ⟨fraction, _, exponent, _, value, _, same, _⟩ := read
    rw [← same]
    exact Tree.distinct_of_not_table rfl

theorem value_distinct {fuel depth : Nat} {text rest : List Char} {tree : Tree}
    (read : readValue? fuel depth text = some (tree, rest)) : tree.Distinct := by
  cases fuel with
  | zero => simp [readValue?] at read
  | succ fuel =>
      unfold readValue? at read
      split at read
      · exact Tree.distinct_of_map read (fun _ => rfl)
      · exact Tree.distinct_of_map read (fun _ => rfl)
      · exact Tree.distinct_of_map read (fun _ => rfl)
      · exact Tree.distinct_of_map read (fun _ => rfl)
      · exact number_distinct read
      · -- An array.
        split at read
        · contradiction
        · cases read
          exact Tree.distinct_of_not_table rfl
        · obtain ⟨items, _, same⟩ := Option.bind_eq_some_iff.mp read
          cases same
          exact Tree.distinct_of_not_table rfl
      · -- An object.
        split at read
        · contradiction
        · cases read
          exact List.nodup_nil
        · obtain ⟨members, _, same⟩ := Option.bind_eq_some_iff.mp read
          cases same
          exact Tree.distinct_table_ofList none members.1
      · exact number_distinct read

theorem read_distinct {text : List Char} {tree : Tree} (read : read? text = some tree) :
    tree.Distinct := by
  obtain ⟨⟨value, rest⟩, spelled, whole⟩ := Option.bind_eq_some_iff.mp read
  dsimp only at whole
  split at whole
  · cases whole
    exact value_distinct spelled
  · contradiction

end Json

namespace Ini

theorem read_distinct {text : List Char} {tree : Tree} (read : read? text = some tree) :
    tree.Distinct := by
  obtain ⟨document, _, built⟩ := Option.map_eq_some_iff.mp read
  rw [← built]
  exact Tree.distinct_table_ofList none _

end Ini

namespace Toml

namespace Body

/-- Whatever is put under a name, the names stay distinct. -/
theorem put_distinct {inner? : Option Body} {build : Body → Node} {key : String}
    {body after : Body} (distinct : Entries.Distinct body)
    (changed : (inner?.map fun inner => Entries.put key (build inner) body) = some after) :
    Entries.Distinct after := by
  obtain ⟨inner, _, same⟩ := Option.map_eq_some_iff.mp changed
  rw [← same]
  exact Entries.distinct_put distinct key (build inner)

theorem assign_distinct {value : Tree} {path : List String} {body after : Body}
    (distinct : Entries.Distinct body) (assigned : assign? value path body = some after) :
    Entries.Distinct after := by
  unfold assign? at assigned
  split at assigned
  · contradiction
  · split at assigned
    · cases assigned
      exact Entries.distinct_put distinct _ _
    · contradiction
  · split at assigned
    · exact put_distinct distinct assigned
    · exact put_distinct distinct assigned
    · contradiction

/-- A change further down puts a table under a name; only at the end of the path the change
itself counts. -/
theorem change_distinct {change : Body → Option Body}
    (keeps : ∀ body after, Entries.Distinct body → change body = some after →
      Entries.Distinct after)
    {path : List String} {body after : Body} (distinct : Entries.Distinct body)
    (changed : changeAt? change path body = some after) : Entries.Distinct after := by
  unfold changeAt? at changed
  split at changed
  · exact keeps _ _ distinct changed
  · split at changed
    · exact put_distinct distinct changed
    · exact put_distinct distinct changed
    · exact put_distinct distinct changed
    · contradiction

theorem open_table_distinct {key : String} {body after : Body}
    (distinct : Entries.Distinct body) (opened : openTable? key body = some after) :
    Entries.Distinct after := by
  unfold openTable? at opened
  split at opened
  · cases opened
    exact Entries.distinct_put distinct _ _
  · cases opened
    exact Entries.distinct_put distinct _ _
  · contradiction

theorem open_next_distinct {key : String} {body after : Body}
    (distinct : Entries.Distinct body) (opened : openNext? key body = some after) :
    Entries.Distinct after := by
  unfold openNext? at opened
  split at opened
  · cases opened
    exact Entries.distinct_put distinct _ _
  · cases opened
    exact Entries.distinct_put distinct _ _
  · contradiction

theorem open_distinct {path : List String} {repeated : Bool} {body after : Body}
    (distinct : Entries.Distinct body) (opened : openAt? path repeated body = some after) :
    Entries.Distinct after := by
  unfold openAt? at opened
  split at opened
  · contradiction
  · apply change_distinct _ distinct opened
    intro body after distinct changed
    cases repeated with
    | true => exact open_next_distinct distinct changed
    | false => exact open_table_distinct distinct changed

theorem extend_distinct {current : List String} {body after : Body} {lines : List Line}
    (distinct : Entries.Distinct body) (extended : extend? current body lines = some after) :
    Entries.Distinct after := by
  induction lines generalizing current body with
  | nil =>
      cases extended
      exact distinct
  | cons line rest induction =>
      cases line with
      | header path repeated =>
          obtain ⟨next, opened, extended⟩ := Option.bind_eq_some_iff.mp extended
          exact induction (open_distinct distinct opened) extended
      | assignment path value =>
          obtain ⟨next, changed, extended⟩ := Option.bind_eq_some_iff.mp extended
          have keeps := fun body after => @assign_distinct value path body after
          exact induction (change_distinct keeps distinct changed) extended

theorem names_bodyEntries (body : Body) :
    Entries.names (bodyEntries body) = Entries.names body := by
  induction body with
  | nil => rw [bodyEntries]; rfl
  | cons entry rest induction =>
      rw [bodyEntries]
      exact congrArg (entry.1 :: ·) induction

theorem toTree_distinct {body : Body} (distinct : Entries.Distinct body) :
    (toTree body).Distinct := by
  rw [Tree.Distinct, Entries.Distinct, toTree, Tree.entries, names_bodyEntries]
  exact distinct

end Body

theorem read_distinct {text : List Char} {tree : Tree} (read : read? text = some tree) :
    tree.Distinct := by
  obtain ⟨lines, _, built⟩ := Option.bind_eq_some_iff.mp read
  obtain ⟨body, extended, same⟩ := Option.map_eq_some_iff.mp built
  have empty : Entries.Distinct ([] : Body) := List.nodup_nil
  rw [← same]
  exact Body.toTree_distinct (Body.extend_distinct empty extended)

end Toml

namespace Hjson

theorem unquoted_distinct {fuel : Nat} {text : List Char} {place after : Place} {tree : Tree}
    (read : readUnquoted fuel text place = .ok (tree, after)) : tree.Distinct := by
  induction fuel generalizing text place with
  | zero => contradiction
  | succ fuel induction =>
      unfold readUnquoted at read
      extract_lets atEnd at read
      split at read
      · obtain ⟨literal, _, read⟩ := steps_of_bind_ok read
        cases literal with
        | some value =>
            cases read
            exact Tree.distinct_of_not_table rfl
        | none =>
            dsimp only at read
            split at read
            · cases read
              exact Tree.distinct_of_not_table rfl
            · exact induction read
      · exact induction read

theorem multiline_distinct {place after : Place} {tree : Tree}
    (read : readMultiline place = .ok (tree, after)) : tree.Distinct := by
  rw [readMultiline] at read
  obtain ⟨lines, _, read⟩ := steps_of_bind_ok read
  cases read
  exact Tree.distinct_of_not_table rfl

theorem value_distinct {fuel : Nat} {place after : Place} {tree : Tree}
    (read : readValue fuel place = .ok (tree, after)) : tree.Distinct := by
  cases fuel with
  | zero => simp [readValue, malformed] at read
  | succ fuel =>
      unfold readValue at read
      obtain ⟨start, _, read⟩ := steps_of_bind_ok read
      split at read
      · contradiction
      · obtain ⟨quoted, _, read⟩ := steps_of_bind_ok read
        cases read
        exact Tree.distinct_of_not_table rfl
      · exact multiline_distinct read
      · obtain ⟨items, _, read⟩ := steps_of_bind_ok read
        cases read
        exact Tree.distinct_of_not_table rfl
      · obtain ⟨members, _, read⟩ := steps_of_bind_ok read
        cases read
        exact Tree.distinct_table_ofList none members.1
      · split at read
        · contradiction
        · exact unquoted_distinct read

theorem read_distinct {text : List Char} {tree : Tree} (found : read text = .ok tree) :
    tree.Distinct := by
  unfold read at found
  split at found
  · -- A text with braces, or a single value.
    obtain ⟨value, spelled, found⟩ := steps_of_bind_ok found
    obtain ⟨place, _, found⟩ := steps_of_bind_ok found
    split at found
    · cases found
      exact value_distinct spelled
    · contradiction
  · rw [readRoot] at found
    split at found
    · contradiction
    · obtain ⟨members, _, found⟩ := steps_of_bind_ok found
      cases found
      exact Tree.distinct_table_ofList none members.1

end Hjson

namespace Yaml

/-- A node in which no name comes twice. -/
def Node.Distinct : Node → Prop
  | .table entries => Entries.Distinct entries
  | _ => True

theorem of_mapping_distinct (nodes : List Node) : (Node.ofMapping nodes).Distinct :=
  Entries.distinct_ofList _

theorem of_scalar_distinct (plain : Bool) (tag? : Option (String × String)) (text : String) :
    (Node.ofScalar plain tag? text).Distinct := by
  have plain_distinct : (Node.ofPlain text).Distinct := by
    unfold Node.ofPlain
    repeat' split
    all_goals trivial
  have standard_distinct : ∀ suffix, (Node.ofStandard suffix text).Distinct := by
    intro suffix
    unfold Node.ofStandard
    repeat' split
    all_goals trivial
  unfold Node.ofScalar
  split
  · split
    · exact plain_distinct
    · split
      · exact standard_distinct _
      · trivial
  · trivial

theorem content_distinct {fuel : Nat} {block indentless : Bool} {properties : Properties}
    {reading after : Reading} {node : Node}
    (read : readContent? fuel block indentless properties reading = some (node, after)) :
    node.Distinct := by
  unfold readContent? at read
  split at read
  · contradiction
  · contradiction
  · split at read
    · obtain ⟨items, _, same⟩ := Option.bind_eq_some_iff.mp read
      cases same
      trivial
    · split at read
      · cases read
        exact of_scalar_distinct _ _ _
      · obtain ⟨items, _, same⟩ := Option.bind_eq_some_iff.mp read
        cases same
        trivial
      · obtain ⟨nodes, _, same⟩ := Option.bind_eq_some_iff.mp read
        cases same
        exact of_mapping_distinct nodes.1
      · split at read
        · obtain ⟨items, _, same⟩ := Option.bind_eq_some_iff.mp read
          cases same
          trivial
        · split at read
          · obtain ⟨nodes, _, same⟩ := Option.bind_eq_some_iff.mp read
            cases same
            exact of_mapping_distinct nodes.1
          · split at read
            · contradiction
            · cases read
              exact of_scalar_distinct _ _ _

/-- Before anything has a name, no node repeats another. -/
theorem node_distinct {fuel : Nat} {block indentless : Bool} {reading after : Reading}
    {node : Node} (unnamed : reading.names = [])
    (read : readNode? fuel block indentless reading = some (node, after)) : node.Distinct := by
  unfold readNode? at read
  split at read
  · contradiction
  · rw [unnamed] at read
    contradiction
  · obtain ⟨found, content, same⟩ := Option.bind_eq_some_iff.mp read
    cases same
    exact content_distinct content

theorem optional_distinct {fuel : Nat} {enders : List Token} {block indentless : Bool}
    {reading after : Reading} {node : Node} (unnamed : reading.names = [])
    (read : readOptional? fuel enders block indentless reading = some (node, after)) :
    node.Distinct := by
  unfold readOptional? at read
  split at read
  · contradiction
  · split at read
    · cases read
      trivial
    · exact node_distinct unnamed read

theorem marked_distinct {fuel : Nat} {reading after : Reading} {node : Node}
    (unnamed : reading.names = []) (read : readMarked? fuel reading = some (node, after)) :
    node.Distinct := by
  unfold readMarked? at read
  split at read
  · next rest _ =>
      have still : { reading with tokens := rest }.names = [] := unnamed
      exact optional_distinct still read
  · contradiction

theorem documents_distinct {fuel : Nat} {first : Bool} {reading : Reading} {nodes : List Node}
    (read : readDocuments? fuel first reading = some nodes) : ∀ node ∈ nodes, node.Distinct := by
  induction fuel generalizing first reading nodes with
  | zero => contradiction
  | succ fuel induction =>
      unfold readDocuments? at read
      extract_lets tokens fresh at read
      split at read
      · cases read
        simp
      · rename_i onward _
        have collected : ∀ node next, node.Distinct → onward (node, next) = some nodes →
            ∀ other ∈ nodes, other.Distinct := by
          intro node next distinct read
          obtain ⟨rest, others, same⟩ := Option.bind_eq_some_iff.mp read
          cases same
          intro other member
          rcases List.mem_cons.mp member with here | later
          · rw [here]
            exact distinct
          · exact induction others other later
        split at read
        · obtain ⟨⟨node, next⟩, found, read⟩ := Option.bind_eq_some_iff.mp read
          exact collected node next (node_distinct rfl found) read
        · obtain ⟨⟨node, next⟩, found, read⟩ := Option.bind_eq_some_iff.mp read
          exact collected node next (marked_distinct rfl found) read

theorem names_toEntries {entries : List (String × Node)} {spelled : List (String × Tree)}
    (read : Node.toEntries entries = .ok spelled) :
    Entries.names spelled = Entries.names entries := by
  induction entries generalizing spelled with
  | nil =>
      cases read
      rfl
  | cons entry rest induction =>
      rw [Node.toEntries] at read
      obtain ⟨value, _, read⟩ := steps_of_bind_ok read
      obtain ⟨others, found, read⟩ := steps_of_bind_ok read
      cases read
      exact congrArg (entry.1 :: ·) (induction found)

theorem toTree_distinct {node : Node} {tree : Tree} (distinct : node.Distinct)
    (read : node.toTree = .ok tree) : tree.Distinct := by
  cases node with
  | void =>
      cases read
      exact Tree.distinct_of_not_table rfl
  | scalar value =>
      cases read
      exact Tree.distinct_of_not_table rfl
  | real text =>
      rw [Node.toTree] at read
      split at read
      · cases read
        exact Tree.distinct_of_not_table rfl
      · contradiction
  | list items =>
      rw [Node.toTree] at read
      obtain ⟨trees, _, read⟩ := steps_of_bind_ok read
      cases read
      exact Tree.distinct_of_not_table rfl
  | table entries =>
      rw [Node.toTree] at read
      obtain ⟨spelled, found, read⟩ := steps_of_bind_ok read
      cases read
      rw [Tree.Distinct, Entries.Distinct, Tree.entries, names_toEntries found]
      exact distinct

theorem read_distinct {text : List Char} {tree : Tree} (found : read text = .ok tree) :
    tree.Distinct := by
  unfold read at found
  split at found
  · contradiction
  · cases found
    exact List.nodup_nil
  · next node documents =>
      have distinct : node.Distinct := by
        obtain ⟨tokens, _, documents⟩ := Option.bind_eq_some_iff.mp documents
        exact documents_distinct documents node List.mem_cons_self
      cases spelled : node.toTree with
      | error crash =>
          rw [spelled] at found
          contradiction
      | ok value =>
          rw [spelled] at found
          cases found
          exact toTree_distinct distinct spelled
  · contradiction

end Yaml

namespace FormatFailure

theorem of_require_ok {Value : Type} {found? : Option Value} {value : Value}
    (required : require found? = .ok value) : found? = some value := by
  cases found? with
  | none => contradiction
  | some other =>
      cases required
      rfl

end FormatFailure

theorem Format.read_distinct {format : Format} {text : List Char} {tree : Tree}
    (found : format.read text = .ok tree) : tree.Distinct := by
  cases format with
  | yaml => exact Yaml.read_distinct found
  | json => exact Json.read_distinct (FormatFailure.of_require_ok found)
  | toml => exact Toml.read_distinct (FormatFailure.of_require_ok found)
  | hjson => exact Hjson.read_distinct found
  | ini => exact Ini.read_distinct (FormatFailure.of_require_ok found)

namespace Tree

theorem names_stampEntries (source : Origin) (entries : List (String × Tree)) :
    Entries.names (stampEntries source entries) = Entries.names entries := by
  induction entries with
  | nil =>
      rw [stampEntries]
  | cons entry rest induction =>
      rw [stampEntries]
      exact congrArg (entry.1 :: ·) induction

theorem distinct_stamp {tree : Tree} (distinct : tree.Distinct) (source : Origin) :
    (tree.stamp source).Distinct := by
  cases tree with
  | scalar origin value => exact distinct_of_not_table rfl
  | list origin items => exact distinct_of_not_table rfl
  | table origin entries =>
      rw [Distinct, Entries.Distinct, stamp, Tree.entries, names_stampEntries]
      exact distinct

end Tree

namespace Layer

theorem ofText_distinct {format : Format} {path text : String} {layer : Layer}
    (read : ofText format path text = .ok layer) : Entries.Distinct layer := by
  unfold ofText at read
  split at read
  · next tree found =>
      cases read
      exact Tree.distinct_stamp (Format.read_distinct found) _
  · contradiction
  · contradiction

/-- The keys of a settings file are distinct. -/
theorem ofDirectory_distinct {directory : Directory} {stem : String} {layer : Layer}
    (read : ofDirectory directory stem = .ok layer) : Entries.Distinct layer := by
  unfold ofDirectory at read
  split at read
  · cases read
    exact List.nodup_nil
  · split at read
    · cases read
      exact List.nodup_nil
    · exact ofText_distinct read

end Layer
end CustomerNotice
