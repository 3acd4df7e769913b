import CustomerNotice.Format.Yaml.Document
import CustomerNotice.Proofs.Results
import CustomerNotice.Proofs.Tree.Merging

/-!
# The real numbers of a YAML text

A real number is kept as it is spelled until its node is used. All of them come
from plain scalars among the tokens, whatever collections, anchors and aliases
stand around them. The infinities and the undefined number have spellings that
look like real numbers and are read as none; only these make reading break off.
-/

namespace CustomerNotice

namespace Yaml
namespace Node

/-- A real number somewhere in a node, as it is spelled. -/
inductive Occurs (text : String) : Node → Prop
  | here : Occurs text (.real text)
  | item {items : List Node} {item : Node} (member : item ∈ items)
      (inside : Occurs text item) : Occurs text (.list items)
  | entry {entries : List (String × Node)} {entry : String × Node} (member : entry ∈ entries)
      (inside : Occurs text entry.2) : Occurs text (.table entries)

/-- All real numbers of the node are spelled by texts of a kind. -/
def Spelled (spelling : String → Prop) (node : Node) : Prop :=
  ∀ text, Occurs text node → spelling text

variable {spelling : String → Prop}

theorem void_spelled : void.Spelled spelling := nofun

theorem scalar_spelled (value : Scalar) : (scalar value).Spelled spelling := nofun

theorem list_spelled {items : List Node} :
    (list items).Spelled spelling ↔ ∀ item ∈ items, item.Spelled spelling := by
  constructor
  · intro spelled item member text inside
    exact spelled text (.item member inside)
  · intro all text occurs
    cases occurs with
    | item member inside => exact all _ member text inside

theorem table_spelled {entries : List (String × Node)} :
    (table entries).Spelled spelling ↔ ∀ entry ∈ entries, entry.2.Spelled spelling := by
  constructor
  · intro spelled entry member text inside
    exact spelled text (.entry member inside)
  · intro all text occurs
    cases occurs with
    | entry member inside => exact all _ member text inside

theorem real_spelled {text : String} : (real text).Spelled spelling ↔ spelling text := by
  constructor
  · intro spelled
    exact spelled text .here
  · intro holds other occurs
    cases occurs
    exact holds

theorem mem_pairs {nodes : List Node} {pair : Node × Node} (member : pair ∈ pairs nodes) :
    pair.2 ∈ nodes := by
  induction nodes using pairs.induct with
  | case1 => contradiction
  | case2 rest induction => exact List.mem_cons_of_mem _ (induction member)
  | case3 node plain =>
      rw [pairs] at member
      · contradiction
      · exact plain
  | case4 key value rest plain induction =>
      rw [pairs, List.mem_cons] at member
      · rcases member with rfl | later
        · exact List.mem_cons_of_mem _ List.mem_cons_self
        · exact List.mem_cons_of_mem _ (List.mem_cons_of_mem _ (induction later))
      · exact plain

theorem mapping_spelled {nodes : List Node} (all : ∀ node ∈ nodes, node.Spelled spelling) :
    (ofMapping nodes).Spelled spelling := by
  refine table_spelled.mpr ?_
  intro entry member
  have member := Entries.mem_ofList member
  obtain ⟨⟨key, value⟩, member, named⟩ := List.mem_filterMap.mp member
  have value_same : entry.2 = value := by
    unfold named? at named
    split at named
    · next same =>
        cases same
        cases named
        rfl
    · contradiction
  rw [value_same]
  exact all value (mem_pairs member)

theorem plain_spelled {text : String} (spells : looksReal text = true → spelling text) :
    (ofPlain text).Spelled spelling := by
  unfold ofPlain
  repeat' split
  all_goals try exact scalar_spelled _
  next real => exact real_spelled.mpr (spells real)

theorem standard_spelled {text : String} (spells : looksReal text = true → spelling text)
    (suffix : String) : (ofStandard suffix text).Spelled spelling := by
  unfold ofStandard
  repeat' split
  all_goals first
    | exact scalar_spelled _
    | exact void_spelled
    | next real => exact real_spelled.mpr (spells real)

theorem ofScalar_spelled {plain : Bool} {text : String}
    (spells : plain = true → looksReal text = true → spelling text)
    (tag? : Option (String × String)) : (ofScalar plain tag? text).Spelled spelling := by
  unfold ofScalar
  split
  · next plain =>
      split
      · exact plain_spelled (spells plain)
      · split
        · exact standard_spelled (spells plain) _
        · exact scalar_spelled _
  · exact scalar_spelled _

/-- An empty scalar is no real number. -/
theorem empty_spelled (tag? : Option (String × String)) :
    (ofScalar true tag? "").Spelled spelling := by
  have unreal : looksReal "" = false := by decide +kernel
  refine ofScalar_spelled ?_ tag?
  intro _ real
  rw [unreal] at real
  contradiction

end Node

/-- The plain scalars that look like real numbers, and those in the nodes that
have a name, are spelled by texts of a kind. -/
structure Reading.Spelled (spelling : String → Prop) (reading : Reading) : Prop where
  tokens : ∀ text, Token.scalar true text ∈ reading.tokens → Node.looksReal text = true →
    spelling text
  nodes : ∀ entry ∈ reading.nodes, entry.2.Spelled spelling

variable {spelling : String → Prop}

namespace Reading

variable {reading : Reading}

theorem Spelled.tokens_sublist (spelled : reading.Spelled spelling) {tokens : List Token}
    (fewer : tokens.Sublist reading.tokens) : { reading with tokens }.Spelled spelling := by
  refine ⟨?_, spelled.nodes⟩
  intro text member
  exact spelled.tokens text (fewer.subset member)

theorem Spelled.pass (spelled : reading.Spelled spelling) : reading.pass.Spelled spelling :=
  spelled.tokens_sublist (List.drop_sublist 1 _)

theorem Spelled.finish (spelled : reading.Spelled spelling) {node : Node}
    (node_spelled : node.Spelled spelling) (anchor? : Option Nat) :
    (reading.finish anchor? node).Spelled spelling := by
  cases anchor? with
  | none => exact spelled
  | some anchor =>
      refine ⟨spelled.tokens, ?_⟩
      intro entry member
      rcases List.mem_cons.mp member with rfl | earlier
      · exact node_spelled
      · exact spelled.nodes entry earlier

/-- A name leads to a node that was read before, or to an unfinished one. -/
theorem Spelled.named (spelled : reading.Spelled spelling) (number : Nat) :
    ((reading.nodes.lookup number).getD .void).Spelled spelling := by
  cases found : reading.nodes.lookup number with
  | none => exact Node.void_spelled
  | some node =>
      obtain ⟨earlier, later, same, _⟩ := List.lookup_eq_some_iff.mp found
      exact spelled.nodes (number, node) (same ▸ List.mem_append_cons_self)

theorem Spelled.register (spelled : reading.Spelled spelling) (name : String) :
    (reading.register name).2.Spelled spelling :=
  ⟨spelled.tokens, spelled.nodes⟩

end Reading

theorem Properties.read_spelled {reading : Reading} (spelled : reading.Spelled spelling) :
    (Properties.read reading).2.Spelled spelling := by
  unfold Properties.read
  split
  · next name rest same =>
      have after := spelled.tokens_sublist (same ▸ List.sublist_cons_self _ rest)
      dsimp only [Reading.register]
      split
      · exact (after.register name).pass
      · exact after.register name
  · next handle suffix rest same =>
      have after := spelled.tokens_sublist (same ▸ List.sublist_cons_self _ rest)
      split
      · exact after.pass.register _
      · exact after
  · exact spelled

/-- A node and what is left, with their real numbers spelled as wished. -/
def NodeSpelled (spelling : String → Prop) (result : Node × Reading) : Prop :=
  result.1.Spelled spelling ∧ result.2.Spelled spelling

def NodesSpelled (spelling : String → Prop) (result : List Node × Reading) : Prop :=
  (∀ node ∈ result.1, node.Spelled spelling) ∧ result.2.Spelled spelling

def EntrySpelled (spelling : String → Prop) (result : Node × Node × Reading) : Prop :=
  result.1.Spelled spelling ∧ NodeSpelled spelling result.2

/-- What all readers of nodes do with some fuel. -/
structure Spelling (spelling : String → Prop) (fuel : Nat) : Prop where
  node : ∀ {reading : Reading} (block indentless : Bool), reading.Spelled spelling →
    Gives (NodeSpelled spelling) (readNode? fuel block indentless reading)
  content : ∀ {reading : Reading} (block indentless : Bool) (properties : Properties),
    reading.Spelled spelling →
    Gives (NodeSpelled spelling) (readContent? fuel block indentless properties reading)
  optional : ∀ {reading : Reading} (enders : List Token) (block indentless : Bool),
    reading.Spelled spelling →
    Gives (NodeSpelled spelling) (readOptional? fuel enders block indentless reading)
  blockSequence : ∀ {reading : Reading}, reading.Spelled spelling →
    Gives (NodesSpelled spelling) (readBlockSequence? fuel reading)
  indentless : ∀ {reading : Reading}, reading.Spelled spelling →
    Gives (NodesSpelled spelling) (readIndentless? fuel reading)
  blockMapping : ∀ {reading : Reading}, reading.Spelled spelling →
    Gives (NodesSpelled spelling) (readBlockMapping? fuel reading)
  blockValue : ∀ {reading : Reading}, reading.Spelled spelling →
    Gives (NodeSpelled spelling) (readBlockValue? fuel reading)
  flowSequence : ∀ {reading : Reading} (first : Bool), reading.Spelled spelling →
    Gives (NodesSpelled spelling) (readFlowSequence? fuel first reading)
  flowPair : ∀ {reading : Reading}, reading.Spelled spelling →
    Gives (NodeSpelled spelling) (readFlowPair? fuel reading)
  flowMapping : ∀ {reading : Reading} (first : Bool), reading.Spelled spelling →
    Gives (NodesSpelled spelling) (readFlowMapping? fuel first reading)
  flowEntry : ∀ {reading : Reading}, reading.Spelled spelling →
    Gives (EntrySpelled spelling) ( readFlowEntry? fuel reading)
  flowValue : ∀ {reading : Reading}, reading.Spelled spelling →
    Gives (NodeSpelled spelling) (readFlowValue? fuel reading)

theorem null_spelled : Node.null.Spelled spelling := Node.scalar_spelled _

namespace Spelling

variable {fuel : Nat} {reading : Reading}

theorem zero : Spelling spelling 0 := by
  constructor
  all_goals
    intros
    exact Gives.none

theorem node_succ (inner : Spelling spelling fuel) (spelled : reading.Spelled spelling)
    (block indentless : Bool) :
    Gives (NodeSpelled spelling) (readNode? (fuel + 1) block indentless reading) := by
  unfold readNode?
  split
  · contradiction
  · refine Gives.bind (fun number _ => True.intro) ?_
    intro number _
    exact .some ⟨spelled.named number, spelled.pass⟩
  · next same _ =>
      cases same
      refine Gives.bind (inner.content block indentless _ (Properties.read_spelled spelled)) ?_
      rintro ⟨node, after⟩ ⟨node_spelled, after_spelled⟩
      exact .some ⟨node_spelled, after_spelled.finish node_spelled _⟩

theorem content_succ (inner : Spelling spelling fuel) (spelled : reading.Spelled spelling)
    (block indentless : Bool) (properties : Properties) :
    Gives (NodeSpelled spelling)
      (readContent? (fuel + 1) block indentless properties reading) := by
  unfold readContent?
  split
  · contradiction
  · exact .none
  · next same _ =>
      cases same
      split
      · refine Gives.bind (inner.indentless spelled) ?_
        rintro ⟨items, after⟩ ⟨all, after_spelled⟩
        exact .some ⟨Node.list_spelled.mpr all, after_spelled⟩
      · split
        · next text token _ =>
            refine .some ⟨Node.ofScalar_spelled ?_ _, spelled.pass⟩
            rintro rfl real
            exact spelled.tokens text (List.mem_of_mem_head? token) real
        · refine Gives.bind (inner.flowSequence true spelled.pass) ?_
          rintro ⟨items, after⟩ ⟨all, after_spelled⟩
          exact .some ⟨Node.list_spelled.mpr all, after_spelled⟩
        · refine Gives.bind (inner.flowMapping true spelled.pass) ?_
          rintro ⟨nodes, after⟩ ⟨all, after_spelled⟩
          exact .some ⟨Node.mapping_spelled all, after_spelled⟩
        · refine Gives.ite ?_ (Gives.ite ?_ (Gives.ite .none ?_))
          · refine Gives.bind (inner.blockSequence spelled.pass) ?_
            rintro ⟨items, after⟩ ⟨all, after_spelled⟩
            exact .some ⟨Node.list_spelled.mpr all, after_spelled⟩
          · refine Gives.bind (inner.blockMapping spelled.pass) ?_
            rintro ⟨nodes, after⟩ ⟨all, after_spelled⟩
            exact .some ⟨Node.mapping_spelled all, after_spelled⟩
          · exact .some ⟨Node.empty_spelled _, spelled⟩

theorem optional_succ (inner : Spelling spelling fuel) (spelled : reading.Spelled spelling)
    (enders : List Token) (block indentless : Bool) :
    Gives (NodeSpelled spelling)
      (readOptional? (fuel + 1) enders block indentless reading) := by
  unfold readOptional?
  exact Gives.ite (.some ⟨null_spelled, spelled⟩) (inner.node block indentless spelled)

theorem blockSequence_succ (inner : Spelling spelling fuel)
    (spelled : reading.Spelled spelling) :
    Gives (NodesSpelled spelling) (readBlockSequence? (fuel + 1) reading) := by
  unfold readBlockSequence?
  split
  · next same _ =>
      cases same
      refine Gives.bind (inner.optional _ true false spelled.pass) ?_
      rintro ⟨item, after⟩ ⟨item_spelled, after_spelled⟩
      refine Gives.bind (inner.blockSequence after_spelled) ?_
      rintro ⟨items, last⟩ ⟨all, last_spelled⟩
      exact .some ⟨List.forall_mem_cons.mpr ⟨item_spelled, all⟩, last_spelled⟩
  · exact .some ⟨nofun, spelled.pass⟩
  · exact .none

theorem indentless_succ (inner : Spelling spelling fuel) (spelled : reading.Spelled spelling) :
    Gives (NodesSpelled spelling) (readIndentless? (fuel + 1) reading) := by
  unfold readIndentless?
  split
  · contradiction
  · next same _ =>
      cases same
      refine Gives.bind (inner.optional _ true false spelled.pass) ?_
      rintro ⟨item, after⟩ ⟨item_spelled, after_spelled⟩
      refine Gives.bind (inner.indentless after_spelled) ?_
      rintro ⟨items, last⟩ ⟨all, last_spelled⟩
      exact .some ⟨List.forall_mem_cons.mpr ⟨item_spelled, all⟩, last_spelled⟩
  · exact .some ⟨nofun, spelled⟩
  · exact .none

theorem blockMapping_succ (inner : Spelling spelling fuel)
    (spelled : reading.Spelled spelling) :
    Gives (NodesSpelled spelling) (readBlockMapping? (fuel + 1) reading) := by
  unfold readBlockMapping?
  split
  · next same _ =>
      cases same
      refine Gives.bind (inner.optional _ true true spelled.pass) ?_
      rintro ⟨key, after⟩ ⟨key_spelled, after_spelled⟩
      refine Gives.bind (inner.blockValue after_spelled) ?_
      rintro ⟨value, later⟩ ⟨value_spelled, later_spelled⟩
      refine Gives.bind (inner.blockMapping later_spelled) ?_
      rintro ⟨nodes, last⟩ ⟨all, last_spelled⟩
      exact .some ⟨List.forall_mem_cons.mpr
        ⟨key_spelled, List.forall_mem_cons.mpr ⟨value_spelled, all⟩⟩, last_spelled⟩
  · next same _ =>
      cases same
      refine Gives.bind (inner.blockValue spelled) ?_
      rintro ⟨value, after⟩ ⟨value_spelled, after_spelled⟩
      refine Gives.bind (inner.blockMapping after_spelled) ?_
      rintro ⟨nodes, last⟩ ⟨all, last_spelled⟩
      exact .some ⟨List.forall_mem_cons.mpr
        ⟨null_spelled, List.forall_mem_cons.mpr ⟨value_spelled, all⟩⟩, last_spelled⟩
  · exact .some ⟨nofun, spelled.pass⟩
  · exact .none

theorem blockValue_succ (inner : Spelling spelling fuel) (spelled : reading.Spelled spelling) :
    Gives (NodeSpelled spelling) (readBlockValue? (fuel + 1) reading) := by
  unfold readBlockValue?
  split
  · contradiction
  · next same _ =>
      cases same
      exact inner.optional _ true true spelled.pass
  · exact .some ⟨null_spelled, spelled⟩
  · exact .none

/-- Where the entries of a flow collection go on, past the comma. -/
theorem passed_unless_first (spelled : reading.Spelled spelling) (first : Bool) :
    (if first then reading else reading.pass).Spelled spelling := by
  split
  · exact spelled
  · exact spelled.pass

theorem flowSequence_succ (inner : Spelling spelling fuel)
    (spelled : reading.Spelled spelling) (first : Bool) :
    Gives (NodesSpelled spelling) (readFlowSequence? (fuel + 1) first reading) := by
  unfold readFlowSequence?
  have inside := passed_unless_first spelled first
  refine Gives.ite (.some ⟨nofun, spelled.pass⟩) (Gives.ite .none ?_)
  refine Gives.ite (.some ⟨nofun, inside.pass⟩) ?_
  refine Gives.ite (Gives.bind (inner.flowPair inside.pass) ?after)
    (Gives.bind (inner.node false false inside) ?after)
  rintro ⟨item, after⟩ ⟨item_spelled, after_spelled⟩
  refine Gives.bind (inner.flowSequence false after_spelled) ?_
  rintro ⟨items, last⟩ ⟨all, last_spelled⟩
  exact .some ⟨List.forall_mem_cons.mpr ⟨item_spelled, all⟩, last_spelled⟩

theorem flowPair_succ (inner : Spelling spelling fuel) (spelled : reading.Spelled spelling) :
    Gives (NodeSpelled spelling) (readFlowPair? (fuel + 1) reading) := by
  unfold readFlowPair?
  refine Gives.ite (Gives.bind (.some ⟨null_spelled, spelled.pass⟩) ?key)
    (Gives.bind (inner.node false false spelled) ?key)
  rintro ⟨key, after⟩ ⟨key_spelled, after_spelled⟩
  refine Gives.ite (Gives.bind (inner.optional _ false false after_spelled.pass) ?value)
    (Gives.ite (Gives.bind .none ?value)
      (Gives.bind (.some ⟨null_spelled, after_spelled⟩) ?value))
  rintro ⟨value, last⟩ ⟨value_spelled, last_spelled⟩
  refine .some ⟨Node.mapping_spelled ?_, last_spelled⟩
  exact List.forall_mem_cons.mpr
    ⟨key_spelled, List.forall_mem_cons.mpr ⟨value_spelled, nofun⟩⟩

theorem flowMapping_succ (inner : Spelling spelling fuel)
    (spelled : reading.Spelled spelling) (first : Bool) :
    Gives (NodesSpelled spelling) (readFlowMapping? (fuel + 1) first reading) := by
  unfold readFlowMapping?
  have inside := passed_unless_first spelled first
  refine Gives.ite (.some ⟨nofun, spelled.pass⟩) (Gives.ite .none ?_)
  refine Gives.ite (.some ⟨nofun, inside.pass⟩) ?_
  refine Gives.bind (inner.flowEntry inside) ?_
  rintro ⟨key, value, after⟩ ⟨key_spelled, value_spelled, after_spelled⟩
  refine Gives.bind (inner.flowMapping false after_spelled) ?_
  rintro ⟨nodes, last⟩ ⟨all, last_spelled⟩
  exact .some ⟨List.forall_mem_cons.mpr
    ⟨key_spelled, List.forall_mem_cons.mpr ⟨value_spelled, all⟩⟩, last_spelled⟩

theorem flowEntry_succ (inner : Spelling spelling fuel) (spelled : reading.Spelled spelling) :
    Gives (EntrySpelled spelling) ( readFlowEntry? (fuel + 1) reading) := by
  unfold readFlowEntry?
  refine Gives.ite ?_ (Gives.ite ?_ ?_)
  · refine Gives.bind (inner.optional _ false false spelled.pass) ?_
    rintro ⟨key, after⟩ ⟨key_spelled, after_spelled⟩
    refine Gives.bind (inner.flowValue after_spelled) ?_
    rintro ⟨value, last⟩ ⟨value_spelled, last_spelled⟩
    exact .some ⟨key_spelled, value_spelled, last_spelled⟩
  · refine Gives.bind (inner.flowValue spelled) ?_
    rintro ⟨value, last⟩ ⟨value_spelled, last_spelled⟩
    exact .some ⟨null_spelled, value_spelled, last_spelled⟩
  · refine Gives.bind (inner.node false false spelled) ?_
    rintro ⟨key, last⟩ ⟨key_spelled, last_spelled⟩
    exact .some ⟨key_spelled, null_spelled, last_spelled⟩

theorem flowValue_succ (inner : Spelling spelling fuel) (spelled : reading.Spelled spelling) :
    Gives (NodeSpelled spelling) (readFlowValue? (fuel + 1) reading) := by
  unfold readFlowValue?
  split
  · contradiction
  · next same _ =>
      cases same
      exact inner.optional _ false false spelled.pass
  · exact .some ⟨null_spelled, spelled⟩
  · exact .none

theorem succ (inner : Spelling spelling fuel) : Spelling spelling (fuel + 1) where
  node block indentless spelled := inner.node_succ spelled block indentless
  content block indentless properties spelled :=
    inner.content_succ spelled block indentless properties
  optional enders block indentless spelled :=
    inner.optional_succ spelled enders block indentless
  blockSequence spelled := inner.blockSequence_succ spelled
  indentless spelled := inner.indentless_succ spelled
  blockMapping spelled := inner.blockMapping_succ spelled
  blockValue spelled := inner.blockValue_succ spelled
  flowSequence first spelled := inner.flowSequence_succ spelled first
  flowPair spelled := inner.flowPair_succ spelled
  flowMapping first spelled := inner.flowMapping_succ spelled first
  flowEntry spelled := inner.flowEntry_succ spelled
  flowValue spelled := inner.flowValue_succ spelled

/-- All readers keep to the spelling, by induction on the fuel that they share. -/
theorem always (fuel : Nat) : Spelling spelling fuel := by
  induction fuel with
  | zero => exact zero
  | succ _ inner => exact inner.succ

end Spelling

theorem isOneOf_spelled {reading : Reading} (spelled : reading.Spelled spelling)
    (tokens : List Token) :
    (if reading.isOneOf tokens then reading.pass else reading).Spelled spelling := by
  split
  · exact spelled.pass
  · exact spelled

theorem readMarked_spelled {reading : Reading} (spelled : reading.Spelled spelling)
    (fuel : Nat) : Gives (NodeSpelled spelling) (readMarked? fuel reading) := by
  unfold readMarked?
  split
  · next rest same =>
      refine (Spelling.always fuel).optional _ true false (spelled.tokens_sublist ?_)
      have fewer := List.dropWhile_sublist isDirective (l := reading.tokens)
      rw [same] at fewer
      exact (List.sublist_cons_self _ rest).trans fewer
  · exact .none

theorem readDocuments_spelled (fuel : Nat) (first : Bool) {reading : Reading}
    (spelled : reading.Spelled spelling) :
    Gives (fun nodes => ∀ node ∈ nodes, node.Spelled spelling)
      (readDocuments? fuel first reading) := by
  induction fuel generalizing first reading with
  | zero => exact .none
  | succ fuel induction =>
      unfold readDocuments?
      have unnamed : ({ reading with
          tokens := if first then reading.tokens else reading.tokens.dropWhile (· = .documentEnd)
          names := [] } : Reading).Spelled spelling := by
        refine ⟨?_, spelled.nodes⟩
        intro text member
        refine spelled.tokens text ?_
        cases first with
        | true => exact member
        | false => exact (List.dropWhile_sublist _).subset member
      refine Gives.ite (.some nofun) ?_
      refine Gives.ite (Gives.bind ((Spelling.always _).node true false unnamed) ?after)
        (Gives.bind (readMarked_spelled unnamed _) ?after)
      rintro ⟨node, after⟩ ⟨node_spelled, after_spelled⟩
      refine Gives.bind (induction false (isOneOf_spelled after_spelled _)) ?_
      intro nodes all
      exact .some (List.forall_mem_cons.mpr ⟨node_spelled, all⟩)

/-- The plain scalar that the real number of a document comes from. -/
def PlainReal (text : List Char) (spelled : String) : Prop :=
  ∃ tokens, Token.ofText? text = some tokens ∧ Token.scalar true spelled ∈ tokens
    ∧ Node.looksReal spelled = true

theorem documents_spelled (text : List Char) :
    Gives (fun nodes => ∀ node ∈ nodes, node.Spelled (PlainReal text)) (documents? text) := by
  unfold documents?
  intro nodes found
  obtain ⟨tokens, lexed, parsed⟩ := Option.bind_eq_some_iff.mp found
  refine readDocuments_spelled _ true ⟨?_, nofun⟩ nodes parsed
  intro spelled member real
  exact ⟨tokens, lexed, member, real⟩

namespace Node

/-- The spelling of a real number that has a value. -/
def HasValue (text : String) : Prop := (Binary64.read? text.toList).isSome = true

mutual

/-- A node can be used exactly when all real numbers in it have values. -/
theorem toTree_breaks (node : Node) :
    Yields (fun _ => node.Spelled HasValue)
      (fun crash => crash = .unreadableNumber ∧ ¬node.Spelled HasValue) node.toTree := by
  cases node with
  | void => exact void_spelled
  | scalar value => exact scalar_spelled value
  | real text =>
      simp only [toTree, real_spelled, HasValue]
      cases Binary64.read? text.toList with
      | some value => exact rfl
      | none => exact ⟨rfl, Bool.false_ne_true⟩
  | list items =>
      simp only [toTree, list_spelled]
      exact Yields.bind (toTrees_breaks items) fun _ all => all
  | table entries =>
      simp only [toTree, table_spelled]
      exact Yields.bind (toEntries_breaks entries) fun _ all => all

theorem toTrees_breaks (items : List Node) :
    Yields (fun _ => ∀ item ∈ items, item.Spelled HasValue)
      (fun crash => crash = .unreadableNumber ∧ ¬∀ item ∈ items, item.Spelled HasValue)
      (toTrees items) := by
  cases items with
  | nil => exact nofun
  | cons item rest =>
      simp only [toTrees, List.forall_mem_cons]
      refine Yields.bind ((toTree_breaks item).weaken (fun _ => id) ?_) ?_
      · intro crash broken
        exact ⟨broken.1, fun both => broken.2 both.1⟩
      · intro tree first
        refine Yields.bind ((toTrees_breaks rest).weaken (fun _ => id) ?_) ?_
        · intro crash broken
          exact ⟨broken.1, fun both => broken.2 both.2⟩
        · intro trees others
          exact ⟨first, others⟩

theorem toEntries_breaks (entries : List (String × Node)) :
    Yields (fun _ => ∀ entry ∈ entries, entry.2.Spelled HasValue)
      (fun crash => crash = .unreadableNumber ∧ ¬∀ entry ∈ entries, entry.2.Spelled HasValue)
      (toEntries entries) := by
  cases entries with
  | nil => exact nofun
  | cons entry rest =>
      obtain ⟨name, node⟩ := entry
      simp only [toEntries, List.forall_mem_cons]
      refine Yields.bind ((toTree_breaks node).weaken (fun _ => id) ?_) ?_
      · intro crash broken
        exact ⟨broken.1, fun both => broken.2 both.1⟩
      · intro tree first
        refine Yields.bind ((toEntries_breaks rest).weaken (fun _ => id) ?_) ?_
        · intro crash broken
          exact ⟨broken.1, fun both => broken.2 both.2⟩
        · intro trees others
          exact ⟨first, others⟩

end

/-- The spellings of the infinities and of the undefined number that are read as no number. -/
def pointedNames : List String :=
  positiveInfinities ++ negativeInfinities ++ [".nan", ".NAN"]

theorem pointed_valueless {text : String} (pointed : text ∈ pointedNames) : ¬HasValue text := by
  have all : ∀ name ∈ pointedNames, (Binary64.read? name.toList).isSome = false := by
    decide +kernel
  rw [HasValue, all text pointed]
  exact Bool.false_ne_true

theorem pointed_of_valueless {text : String} (real : looksReal text = true)
    (valueless : ¬HasValue text) : text ∈ pointedNames := by
  rw [HasValue, Bool.not_eq_true] at valueless
  simp only [looksReal, valueless, Bool.or_false, Bool.or_eq_true, List.contains_iff_mem] at real
  rcases real with (positive | negative) | undefined
  · exact List.mem_append_left _ (List.mem_append_left _ positive)
  · exact List.mem_append_left _ (List.mem_append_right _ negative)
  · refine List.mem_append_right _ ?_
    simp only [undefinedNumbers, List.mem_cons, List.not_mem_nil, or_false] at undefined
    rcases undefined with rfl | rfl | rfl
    · exact List.mem_cons_self
    · -- Without its point the name stands for the undefined number.
      have read : (Binary64.read? "NaN".toList).isSome = true := by decide +kernel
      rw [read] at valueless
      contradiction
    · exact List.mem_cons_of_mem _ List.mem_cons_self

end Node

/-- The only document of a text uses a plain scalar that looks like a real number
and stands for none. -/
def NamesUnread (text : List Char) : Prop :=
  ∃ tokens node, Token.ofText? text = some tokens ∧ documents? text = some [node] ∧
    ∃ spelled ∈ Node.pointedNames, node.Occurs spelled ∧ Token.scalar true spelled ∈ tokens

theorem read_breaks (text : List Char) :
    Yields (fun _ => True)
      (FormatFailure.Caused fun crash => crash = .unreadableNumber ∧ NamesUnread text)
      (read text) := by
  unfold read
  split
  · exact True.intro
  · exact True.intro
  · next node found =>
      refine Yields.mapError (node.toTree_breaks.weaken (fun _ _ => True.intro) ?_)
      intro crash broken
      obtain ⟨same, valueless⟩ := broken
      obtain ⟨spelled, valueless⟩ := Classical.not_forall.mp valueless
      obtain ⟨occurs, valueless⟩ := Classical.not_imp.mp valueless
      obtain ⟨tokens, lexed, member, real⟩ :=
        documents_spelled text _ found node List.mem_cons_self spelled occurs
      exact ⟨same, tokens, node, lexed, found, spelled,
        Node.pointed_of_valueless real valueless, occurs, member⟩
  · exact True.intro

theorem read_of_unread {text : List Char} (names : NamesUnread text) :
    read text = .error (.crashed .unreadableNumber) := by
  obtain ⟨tokens, node, _, only, spelled, pointed, occurs, _⟩ := names
  have yields := node.toTree_breaks
  rw [read, only]
  dsimp only
  cases used : node.toTree with
  | ok tree =>
      rw [used] at yields
      exact absurd (yields spelled occurs) (Node.pointed_valueless pointed)
  | error crash =>
      rw [used] at yields
      rw [yields.1]
      rfl

end Yaml
end CustomerNotice
