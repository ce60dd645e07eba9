import BlockSketch.Draft.Wiring
import BlockSketch.Proofs.Ancestry
import BlockSketch.Proofs.Diagnostics

/-!
Notices may be attached to any node of a program and to any component. What is reported of
them is found by walking the tree: `Node.TreeOrder` goes from a node to its children and on
to the next node, and knows the nodes of the tree by `Node.children` alone. The nodes that are
visited for the report are in this order (`Program.treeOrder`), so that the report is
made of the notices at each node, one node after the other
(`attachments_reported_in_tree_order`).
-/
namespace BlockSketch

/-! ## Tree order -/

/-- The trees, one after the other: each root is followed by the nodes inside it, child by child. -/
inductive Node.TreeOrder : List Node → List Node → Prop
  | nil : TreeOrder [] []
  | cons {root : Node} {rest inside after : List Node} (children : TreeOrder root.children inside)
    (later : TreeOrder rest after) : TreeOrder (root :: rest) (root :: (inside ++ after))

namespace Node.TreeOrder
variable {roots others nodes more : List Node}

theorem append (first : TreeOrder roots nodes) (second : TreeOrder others more) :
    TreeOrder (roots ++ others) (nodes ++ more) := by
  induction first with
  | nil => exact second
  | cons children later _ ih =>
    rw [List.cons_append, List.cons_append, List.append_assoc]
    exact .cons children ih

theorem flatMap {order : Node → List Node} (ordered : ∀ root ∈ roots, TreeOrder [root] (order root)) :
    TreeOrder roots (roots.flatMap order) := by
  induction roots with
  | nil => exact .nil
  | cons root rest ih =>
    obtain ⟨first, later⟩ := List.forall_mem_cons.mp ordered
    exact first.append (ih later)

theorem singleton {root : Node} {inside : List Node} (children : TreeOrder root.children inside) :
    TreeOrder [root] (root :: inside) := by
  rw [← List.append_nil inside]
  exact .cons children .nil

theorem mem_of_reaches {root node : Node} {ancestors : List Node} (reached : Reaches root ancestors node)
    (ordered : TreeOrder roots nodes) (isRoot : root ∈ roots) : node ∈ nodes := by
  induction ordered generalizing root ancestors with
  | nil => cases isRoot
  | @cons first rest inside after children later inFirst inRest =>
    rcases List.mem_cons.mp isRoot with rfl | isRoot
    · cases reached with
      | here => exact List.mem_cons_self
      | inside member below =>
        exact List.mem_cons_of_mem _ (List.mem_append_left _ (inFirst below member))
    · exact List.mem_cons_of_mem _ (List.mem_append_right _ (inRest reached isRoot))

/-- The nodes in tree order are those of the trees. -/
theorem mem_iff (ordered : TreeOrder roots nodes) {node : Node} :
    node ∈ nodes ↔ ∃ root ∈ roots, root.Contains node := by
  constructor
  · intro member
    induction ordered with
    | nil => cases member
    | @cons root rest inside after children later inRoot inRest =>
      rcases List.mem_cons.mp member with rfl | member
      · exact ⟨node, List.mem_cons_self, [], .here node⟩
      · rcases List.mem_append.mp member with member | member
        · obtain ⟨child, isChild, ancestors, reached⟩ := inRoot member
          exact ⟨root, List.mem_cons_self, root :: ancestors, .inside isChild reached⟩
        · obtain ⟨other, isOther, contains⟩ := inRest member
          exact ⟨other, List.mem_cons_of_mem _ isOther, contains⟩
  · rintro ⟨root, isRoot, ancestors, reached⟩
    exact mem_of_reaches reached ordered isRoot

end Node.TreeOrder

section
variable {scope : List Identifier} {inLoop : Bool}

/-- The occurrences in a node are in tree order. -/
theorem Node.treeOrder_occurrences {node : Node} (part : node.isPart = true) :
    TreeOrder [node] ((node.occurrences scope inLoop).map Occurrence.node) := by
  induction size : (node.occurrences scope inLoop).length using Nat.strongRecOn
    generalizing node inLoop with
  | ind length ih =>
    subst size
    rw [occurrences_eq part, List.map_cons, List.map_flatMap]
    refine .singleton (.flatMap fun child isChild => ?_)
    exact ih _ (length_occurrences_child_lt part isChild) (isPart_of_mem_children part child isChild) rfl

theorem Declaration.treeOrder_occurrences (declarations : List Declaration) :
    Node.TreeOrder (declarations.map .declaration)
      ((Declaration.occurrences scope declarations).map Occurrence.node) := by
  induction declarations generalizing scope with
  | nil => exact .nil
  | cons declaration rest ih =>
    rw [List.map_cons, Declaration.occurrences, List.map_cons, List.map_append]
    have value : (Node.expr declaration.value).isPart = true := rfl
    exact .cons (Node.treeOrder_occurrences value) ih

end

/-- The task and the body of a program as trees. -/
def Program.trees (program : Program) : List Node :=
  [.task program.task, program.root]

/-- The nodes of a program are visited in tree order. -/
theorem Program.treeOrder (program : Program) :
    Node.TreeOrder program.trees (program.occurrences.map Occurrence.node) := by
  rw [Program.occurrences, List.map_cons, List.map_append]
  have body : program.root.isPart = true := rfl
  exact .cons (Declaration.treeOrder_occurrences program.task.declarations) (Node.treeOrder_occurrences body)

/-! ## Carriers of notices -/

/-- What a notice can be attached to. -/
inductive Carrier
  | component (part : Component)
  | node (part : Node)

namespace Carrier

def place : Carrier → Place
  | component part => .component part.name
  | node part => .block part.label.position

/-- A node is named by its own kind and block, a component by its name. -/
def origin : Carrier → Origin
  | component part => .component part.name.text
  | node part => .block part.kind part.label.blockId?

/-- The carrier is a component of the configuration or a node of the program. -/
def IsOf (program : Program) (configuration : Configuration) : Carrier → Prop
  | component part => part ∈ configuration.components
  | node part => ∃ root ∈ program.trees, root.Contains part

end Carrier

/-- A notice with what it is attached to. -/
structure Attachment where
  carrier : Carrier
  notice : Notice

namespace Attachment

def finding (attachment : Attachment) : Finding :=
  ⟨attachment.carrier.place, attachment.notice⟩

def diagnostic (attachment : Attachment) : Diagnostic :=
  ⟨attachment.carrier.origin, attachment.notice⟩

open Classical in
/-- The diagnostics of what is attached to one carrier, the oldest first. -/
noncomputable def diagnosticsOf (attachments : List Attachment) (carrier : Carrier) : List Diagnostic :=
  (attachments.filter fun attachment => attachment.carrier = carrier).map diagnostic

end Attachment

/-- Everything in a project that can carry notices, in the order of the report. -/
def Program.carriers (program : Program) (configuration : Configuration) : List Carrier :=
  configuration.components.map .component ++ (program.occurrences.map Occurrence.node).map .node

section
variable {program : Program} {configuration : Configuration} {attachments : List Attachment} {carrier : Carrier}

theorem Program.mem_carriers_iff :
    carrier ∈ program.carriers configuration ↔ carrier.IsOf program configuration := by
  cases carrier with
  | component part => simp [carriers, Carrier.IsOf]
  | node part =>
    rw [Carrier.IsOf, ← program.treeOrder.mem_iff]
    simp [carriers]

theorem Program.map_place_carriers :
    (program.carriers configuration).map Carrier.place = program.places configuration := by
  simp [carriers, places, Occurrence.positions, Carrier.place, Function.comp_def]

/-- Where no node is shared, places tell carriers apart. -/
theorem Carrier.place_inj (unshared : (Occurrence.positions program.occurrences).Nodup) {other : Carrier}
    (isOf : carrier.IsOf program configuration) (isOfToo : other.IsOf program configuration)
    (same : carrier.place = other.place) : carrier = other := by
  have distinct : ((program.carriers configuration).map Carrier.place).Nodup := by
    rw [Program.map_place_carriers]
    exact Program.places_nodup unshared
  exact List.inj_on_of_nodup_map distinct (Program.mem_carriers_iff.mpr isOf)
    (Program.mem_carriers_iff.mpr isOfToo) same

/-- What is found at the place of a carrier is what is attached to it. -/
theorem Attachment.noticesAt_place (unshared : (Occurrence.positions program.occurrences).Nodup)
    (attached : ∀ attachment ∈ attachments, attachment.carrier.IsOf program configuration)
    (isOf : carrier.IsOf program configuration) :
    (Finding.noticesAt (attachments.map finding) carrier.place).map (fun notice => ⟨carrier.origin, notice⟩) =
      diagnosticsOf attachments carrier := by
  classical
  rw [Finding.noticesAt, List.filter_map, List.map_map, List.map_map, diagnosticsOf]
  -- Other carriers have other places, so nothing that is attached elsewhere is read off here.
  have here : ∀ attachment ∈ attachments,
      attachment.finding.place = carrier.place ↔ attachment.carrier = carrier := fun attachment member =>
    ⟨Carrier.place_inj unshared (attached attachment member) isOf, congrArg Carrier.place⟩
  have own : attachments.filter ((fun finding : Finding => decide (finding.place = carrier.place)) ∘ finding) =
      attachments.filter fun attachment => attachment.carrier = carrier :=
    List.filter_congr fun attachment member => decide_eq_decide.mpr (here attachment member)
  rw [own]
  refine List.map_congr_left fun attachment member => ?_
  have isCarrier : attachment.carrier = carrier := by simpa using (List.mem_filter.mp member).2
  rw [← isCarrier]
  rfl

theorem Program.diagnostics_attachments (unshared : (Occurrence.positions program.occurrences).Nodup)
    (attached : ∀ attachment ∈ attachments, attachment.carrier.IsOf program configuration) :
    program.diagnostics (attachments.map Attachment.finding) =
      (program.occurrences.map Occurrence.node).flatMap fun node =>
        Attachment.diagnosticsOf attachments (.node node) := by
  rw [Program.diagnostics, List.flatMap_map]
  refine List.flatMap_congr fun occurrence member => ?_
  have isOf : (Carrier.node occurrence.node).IsOf program configuration :=
    program.treeOrder.mem_iff.mp (List.mem_map_of_mem member)
  exact Attachment.noticesAt_place unshared attached isOf

theorem Configuration.diagnostics_attachments (unshared : (Occurrence.positions program.occurrences).Nodup)
    (attached : ∀ attachment ∈ attachments, attachment.carrier.IsOf program configuration) :
    configuration.diagnostics (attachments.map Attachment.finding) =
      configuration.components.flatMap fun component =>
        Attachment.diagnosticsOf attachments (.component component) := by
  rw [Configuration.diagnostics]
  refine List.flatMap_congr fun component member => ?_
  have isOf : (Carrier.component component).IsOf program configuration := member
  exact Attachment.noticesAt_place unshared attached isOf

/-- Carrier by carrier, everything that is attached is listed once. -/
theorem Attachment.diagnosticsOf_perm (unshared : (Occurrence.positions program.occurrences).Nodup)
    (attached : ∀ attachment ∈ attachments, attachment.carrier.IsOf program configuration) :
    ((program.carriers configuration).flatMap (diagnosticsOf attachments)).Perm (attachments.map diagnostic) := by
  classical
  have distinct : (program.carriers configuration).Nodup := by
    refine List.Nodup.of_map Carrier.place ?_
    rw [Program.map_place_carriers]
    exact Program.places_nodup unshared
  have visited : ∀ attachment ∈ attachments, attachment.carrier ∈ program.carriers configuration :=
    fun attachment member => Program.mem_carriers_iff.mpr (attached attachment member)
  have taken := (flatMap_filter_perm Attachment.carrier distinct visited).map diagnostic
  rwa [List.map_flatMap] at taken

end

/-- Whatever is attached to the nodes of a program without shared nodes and to the components
    of a configuration is reported. The diagnostics of the program are those of its nodes in
    tree order, at each node the oldest first and under the node's own kind and block. The report
    has those of the components before them, component by component, and nothing twice. -/
theorem attachments_reported_in_tree_order {project : Project} {attachments : List Attachment}
    (unshared : (Occurrence.positions project.program.occurrences).Nodup)
    (attached : ∀ attachment ∈ attachments, attachment.carrier.IsOf project.program project.configuration)
    (found : project.findings = attachments.map Attachment.finding) (failure : Option WorkerFailure) :
    ∃ nodes, Node.TreeOrder project.program.trees nodes ∧
      project.program.diagnostics project.findings =
        (nodes.flatMap fun node => Attachment.diagnosticsOf attachments (.node node)) ∧
      (project.report failure).diagnostics =
        (project.configuration.components.flatMap fun component =>
          Attachment.diagnosticsOf attachments (.component component)) ++
            project.program.diagnostics project.findings ∧
      (project.report failure).diagnostics.Perm (attachments.map Attachment.diagnostic) := by
  have ofProgram := Program.diagnostics_attachments unshared attached
  have ofComponents := Configuration.diagnostics_attachments unshared attached
  have report : (project.report failure).diagnostics =
      project.configuration.diagnostics project.findings ++ project.program.diagnostics project.findings := rfl
  rw [report, found, ofComponents]
  refine ⟨_, project.program.treeOrder, ofProgram, rfl, ?_⟩
  have listed := Attachment.diagnosticsOf_perm unshared attached
  rw [Program.carriers, List.flatMap_append, List.flatMap_map, List.flatMap_map] at listed
  rwa [ofProgram]

/-- Declares a number, and has a branch with both lists inside a repetition. -/
def Draft.Program.layered : Draft.Program where
  declarations := [⟨{}, "n", some "NUMBER", .number {} "1"⟩]
  body :=
    [.loop { properties := some { blockId := "L" } } (some "TIMES") (some (.number {} "3"))
      [.branch {} [.boolean {} true] [[.flow {} (some "BREAK")]] (some [])]]

/-- One button. -/
def Draft.Configuration.lone : Draft.Configuration where
  robot := "arduino"
  components := [⟨"a", "KEY", [("PIN1", "2")], none⟩]

/-- A warning at everything in a project, from the last to the first, and then an error at the body. -/
def Program.remarks (program : Program) (configuration : Configuration) : List Attachment :=
  (program.carriers configuration).reverse.map (fun carrier => ⟨carrier, .warning .typeMismatch []⟩) ++
    [⟨.node program.root, .error .declaredTwice []⟩]

/-- A project with these remarks. -/
def Program.remarked (program : Program) (configuration : Configuration) : Project where
  program := program
  configuration := configuration
  findings := (program.remarks configuration).map Attachment.finding

/-- Where the remarks of the layered program are, and their messages. -/
def Draft.Program.layeredRemarks : List (Origin × MessageKey) :=
  [(.component "a", .typeMismatch), (.block .mainTask none, .typeMismatch),
    (.block .varDeclaration none, .typeMismatch), (.block .numConst none, .typeMismatch),
    (.block .stmtList none, .typeMismatch), (.block .stmtList none, .declaredTwice),
    (.block .repeatStmt (some "L"), .typeMismatch), (.block .numConst none, .typeMismatch),
    (.block .stmtList none, .typeMismatch), (.block .ifStmt none, .typeMismatch),
    (.block .boolConst none, .typeMismatch), (.block .stmtList none, .typeMismatch),
    (.block .flowControl none, .typeMismatch), (.block .stmtList none, .typeMismatch)]

theorem layered_reported_in_tree_order :
    ∃ program configuration, Draft.Program.layered.build = .ok program ∧
      Draft.Configuration.lone.build = .ok configuration ∧
      ((program.remarked configuration).report none).diagnostics.map
          (fun diagnostic => (diagnostic.origin, diagnostic.notice.message)) =
        Draft.Program.layeredRemarks ∧
      ∃ nodes, Node.TreeOrder program.trees nodes ∧
        program.diagnostics (program.remarked configuration).findings =
          nodes.flatMap fun node => Attachment.diagnosticsOf (program.remarks configuration) (.node node) := by
  have listed : (Draft.Program.layered.build.toOption.bind fun program =>
      Draft.Configuration.lone.build.toOption.map fun configuration =>
        ((program.remarked configuration).report none).diagnostics.map
          fun diagnostic => (diagnostic.origin, diagnostic.notice.message)) = some Draft.Program.layeredRemarks := by
    decide +kernel
  obtain ⟨program, built, listed⟩ := Option.bind_eq_some_iff.mp listed
  obtain ⟨configuration, wired, listed⟩ := Option.map_eq_some_iff.mp listed
  replace built := Outcome.eq_ok_of_toOption built
  have attached : ∀ attachment ∈ program.remarks configuration, attachment.carrier.IsOf program configuration := by
    intro attachment member
    rcases List.mem_append.mp member with member | member
    · obtain ⟨carrier, isCarrier, rfl⟩ := List.mem_map.mp member
      exact Program.mem_carriers_iff.mp (List.mem_reverse.mp isCarrier)
    · cases List.mem_singleton.mp member
      exact ⟨program.root, by simp [Program.trees], [], .here _⟩
  have found : (program.remarked configuration).findings = (program.remarks configuration).map Attachment.finding := rfl
  obtain ⟨nodes, ordered, ofProgram, _⟩ := attachments_reported_in_tree_order
    (Draft.Program.positions_nodup built) attached found none
  exact ⟨program, configuration, built, Outcome.eq_ok_of_toOption wired, listed, nodes, ordered, ofProgram⟩

end BlockSketch
