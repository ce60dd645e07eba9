import BlockSketch.Proofs.Checked

/-!
The nodes inside a node and the nodes around it, by the tree alone: `Node.children` are the
nodes directly inside a node, and `Node.Reaches root ancestors node` goes down from the root
to a node, one child after the other. The nodes that occur in tree order are reached
(`Node.reaches_of_mem`), and those that are reached occur (`Node.Reaches.occurs`), a statement
as inside a repetition if there is one among its ancestors.
-/
namespace BlockSketch

namespace Node

/-- The nodes directly inside a node, in the order they are written. -/
def children : Node → List Node
  | .expr (.binary _ _ left right) => [.expr left, .expr right]
  | .expr (.unary _ _ operand) => [.expr operand]
  | .expr _ => []
  | .stmt (.tone _ _ frequency duration) => [.expr frequency, .expr duration]
  | .stmt (.motorOn _ _ power) => [.expr power]
  | .stmt (.showText _ _ text) => [.expr text]
  | .stmt (.serialWrite _ value) => [.expr value]
  | .stmt (.block body) => body.statements.map .stmt
  | .stmt (.assign _ _ value) => [.expr value]
  | .stmt (.branch _ branches) =>
    branches.arms.flatMap (fun arm => [.expr arm.1, .stmt (.block arm.2)]) ++
      branches.otherwise?.toList.map fun body => .stmt (.block body)
  | .stmt (.loop _ head body) => head.expression?.toList.map .expr ++ [.stmt (.block body)]
  | .stmt (.wait _ time) => [.expr time]
  | .stmt _ => []
  | .declaration part => [.expr part.value]
  | .task part => part.declarations.map .declaration

/-- The node is inside the root, with these nodes around it, the root first. -/
inductive Reaches : Node → List Node → Node → Prop
  | here (node : Node) : Reaches node [] node
  | inside {root child node : Node} {ancestors : List Node} (member : child ∈ root.children)
    (below : Reaches child ancestors node) : Reaches root (root :: ancestors) node

/-- The node is the root or inside it. -/
def Contains (root node : Node) : Prop :=
  ∃ ancestors, Reaches root ancestors node

/-- Whether the node is a repetition. -/
def isLoop (node : Node) : Bool :=
  node.kind = .repeatStmt

/-- The occurrences of an expression or a statement and of all nodes inside it. -/
def occurrences (scope : List Identifier) (inLoop : Bool) : Node → List Occurrence
  | .expr part => part.occurrences scope inLoop
  | .stmt part => part.occurrences scope inLoop
  | _ => []

end Node

/-! ## One level of the tree -/

section
variable {scope : List Identifier} {inLoop : Bool}

theorem Stmt.listOccurrences_eq (statements : List Stmt) :
    Stmt.listOccurrences scope inLoop statements =
      statements.flatMap fun stmt => stmt.occurrences scope inLoop := by
  induction statements with
  | nil => rfl
  | cons stmt rest ih => rw [Stmt.listOccurrences, ih, List.flatMap_cons]

theorem Branches.occurrences_eq (branches : Branches) :
    branches.occurrences scope inLoop =
      branches.arms.flatMap (fun arm => arm.1.occurrences scope inLoop ++ arm.2.occurrences scope inLoop) ++
        branches.otherwise?.toList.flatMap fun body => body.occurrences scope inLoop := by
  cases branches with
  | only condition body => simp [Branches.occurrences, Branches.arms, Branches.otherwise?]
  | orElse condition body otherwise => simp [Branches.occurrences, Branches.arms, Branches.otherwise?]
  | orIf condition body rest =>
    simp [Branches.occurrences, Branches.arms, Branches.otherwise?, Branches.occurrences_eq rest]

end

namespace Node

/-- Whether a child is something that the node repeats. The head of a repetition is not. -/
def repeats (node : Node) : Node → Bool
  | .stmt _ => node.isLoop
  | _ => false

/-- A node occurs before the nodes inside it, child by child. -/
theorem occurrences_eq {scope : List Identifier} {inLoop : Bool} {node : Node}
    (part : node.isPart = true) :
    node.occurrences scope inLoop =
      ⟨node, scope, inLoop⟩ :: node.children.flatMap fun child =>
        child.occurrences scope (inLoop || node.repeats child) := by
  cases node with
  | expr expr => cases expr <;> simp [occurrences, children, Expr.occurrences, Expr.parts, repeats]
  | stmt stmt =>
    cases stmt with
    | block body =>
      cases body with
      | mk label statements =>
        simp [occurrences, children, Stmt.occurrences, Sequence.occurrences, Sequence.statements,
          repeats, isLoop, kind, Stmt.kind, Stmt.listOccurrences_eq, List.flatMap_map]
    | branch label branches =>
      simp [occurrences, children, Stmt.occurrences, repeats, isLoop, kind, Stmt.kind,
        Branches.occurrences_eq, List.flatMap_assoc, List.flatMap_map]
    | loop label head body =>
      cases head <;> simp [occurrences, children, Stmt.occurrences, repeats, isLoop, kind, Stmt.kind,
        LoopHead.occurrences, LoopHead.expression?]
    | _ => simp [occurrences, children, Stmt.occurrences, repeats]
  | declaration declaration => cases part
  | task task => cases part

/-! ## The whole tree -/

theorem isPart_of_mem_children {node : Node} (part : node.isPart = true) :
    ∀ child ∈ node.children, child.isPart = true := by
  cases node with
  | expr inner => cases inner <;> simp [children, isPart]
  | stmt inner =>
    cases inner with
    | branch label branches =>
      intro child member
      rcases List.mem_append.mp member with member | member
      · obtain ⟨arm, _, member⟩ := List.mem_flatMap.mp member
        simp only [List.mem_cons, List.not_mem_nil, or_false] at member
        rcases member with rfl | rfl <;> rfl
      · obtain ⟨body, _, rfl⟩ := List.mem_map.mp member
        rfl
    | loop label head body => cases head <;> simp [children, isPart, LoopHead.expression?]
    | _ => simp [children, isPart]
  | declaration inner => cases part
  | task inner => cases part

/-- There are no statements inside expressions. -/
theorem Reaches.expression {root node : Node} {ancestors : List Node} (reached : Reaches root ancestors node)
    {expr : Expr} (isExpression : root = .expr expr) : ∃ part, node = .expr part := by
  induction reached generalizing expr with
  | here node => exact ⟨expr, isExpression⟩
  | inside member below ih =>
    subst isExpression
    cases expr with
    | binary label op left right =>
      simp only [children, List.mem_cons, List.not_mem_nil, or_false] at member
      rcases member with rfl | rfl
      · exact ih rfl
      · exact ih rfl
    | unary label op operand => exact ih (List.mem_singleton.mp member)
    | _ => cases member

theorem Reaches.isPart {root node : Node} {ancestors : List Node} (reached : Reaches root ancestors node)
    (part : root.isPart = true) : node.isPart = true := by
  induction reached with
  | here node => exact part
  | inside member below ih => exact ih (isPart_of_mem_children part _ member)

/-- Whether the node is a statement. -/
def isStatement : Node → Bool
  | .stmt _ => true
  | _ => false

/-- On the way to a statement, a repetition repeats the next node. -/
theorem repeats_of_statement {root child node : Node} {ancestors : List Node} (part : child.isPart = true)
    (reached : Reaches child ancestors node) (statement : node.isStatement = true) :
    root.repeats child = root.isLoop := by
  cases child with
  | stmt inner => rfl
  | expr inner =>
    obtain ⟨expr, rfl⟩ := reached.expression rfl
    cases statement
  | declaration inner => cases part
  | task inner => cases part

variable {scope : List Identifier} {inLoop : Bool} {root node : Node} {ancestors : List Node}

/-- The occurrences of a child are some of those of the node, so there are fewer of them. -/
theorem length_occurrences_child_lt {child : Node} (part : node.isPart = true) (isChild : child ∈ node.children) :
    (child.occurrences scope (inLoop || node.repeats child)).length < (node.occurrences scope inLoop).length := by
  obtain ⟨before, after, split⟩ := List.append_of_mem isChild
  simp only [occurrences_eq part, split, List.flatMap_append, List.flatMap_cons, List.length_cons,
    List.length_append]
  omega

/-- What occurs in a node is reached from it, a statement through as many repetitions as it
    is said to be in. -/
theorem reaches_of_mem (part : root.isPart = true) {occurrence : Occurrence}
    (member : occurrence ∈ root.occurrences scope inLoop) :
    ∃ ancestors, Reaches root ancestors occurrence.node ∧
      (occurrence.node.isStatement = true → occurrence.inLoop = (inLoop || ancestors.any isLoop)) := by
  induction size : (root.occurrences scope inLoop).length using Nat.strongRecOn
    generalizing root inLoop with
  | ind length ih =>
    subst size
    rw [occurrences_eq part] at member
    rcases List.mem_cons.mp member with rfl | member
    · exact ⟨[], .here root, by simp⟩
    · obtain ⟨child, isChild, member⟩ := List.mem_flatMap.mp member
      have childPart := isPart_of_mem_children part child isChild
      obtain ⟨ancestors, below, flagged⟩ := ih _ (length_occurrences_child_lt part isChild) childPart member rfl
      refine ⟨root :: ancestors, .inside isChild below, fun statement => ?_⟩
      rw [flagged statement, repeats_of_statement childPart below statement, List.any_cons, Bool.or_assoc]

/-- What is reached from a node occurs in it. -/
theorem Reaches.occurs (reached : Reaches root ancestors node) (part : root.isPart = true)
    (scope : List Identifier) (inLoop : Bool) :
    ∃ flag, ⟨node, scope, flag⟩ ∈ root.occurrences scope inLoop ∧
      (node.isStatement = true → flag = (inLoop || ancestors.any isLoop)) := by
  induction reached generalizing inLoop with
  | here node => exact ⟨inLoop, by simp [occurrences_eq part], by simp⟩
  | @inside root child node ancestors isChild below ih =>
    have childPart := isPart_of_mem_children part child isChild
    obtain ⟨flag, member, flagged⟩ := ih childPart (inLoop || root.repeats child)
    refine ⟨flag, ?_, fun statement => ?_⟩
    · rw [occurrences_eq part]
      exact List.mem_cons_of_mem _ (List.mem_flatMap.mpr ⟨child, isChild, member⟩)
    · rw [flagged statement, repeats_of_statement childPart below statement, List.any_cons, Bool.or_assoc]

theorem Reaches.trans {middle : Node} {others : List Node} (first : Reaches root ancestors middle)
    (second : Reaches middle others node) : Reaches root (ancestors ++ others) node := by
  induction first with
  | here _ => exact second
  | inside member below ih => exact .inside member (ih second)

theorem Contains.trans {middle : Node} (first : root.Contains middle) (second : middle.Contains node) :
    root.Contains node := by
  obtain ⟨ancestors, first⟩ := first
  obtain ⟨others, second⟩ := second
  exact ⟨_, first.trans second⟩

theorem Contains.child {child : Node} (inside : root.Contains node) (member : child ∈ node.children) :
    root.Contains child :=
  inside.trans ⟨_, .inside member (.here child)⟩

end Node

theorem Expr.contains_of_mem_parts {expr part : Expr} (member : part ∈ expr.parts) :
    (Node.expr expr).Contains (.expr part) := by
  have occurs : ⟨.expr part, [], false⟩ ∈ (Node.expr expr).occurrences [] false :=
    List.mem_map.mpr ⟨part, member, rfl⟩
  obtain ⟨ancestors, reached, _⟩ := Node.reaches_of_mem rfl occurs
  exact ⟨ancestors, reached⟩

/-! ## Declarations -/

/-- A declaration and its value occur with the names of the declarations before it. -/
theorem Declaration.mem_occurrences_iff {scope : List Identifier} {declarations : List Declaration}
    {occurrence : Occurrence} :
    occurrence ∈ Declaration.occurrences scope declarations ↔
      ∃ before declaration after, declarations = before ++ declaration :: after ∧
        (occurrence = ⟨.declaration declaration, scope ++ before.map Declaration.name, false⟩ ∨
          occurrence ∈ declaration.value.occurrences (scope ++ before.map Declaration.name) false) := by
  induction declarations generalizing scope with
  | nil => simp [Declaration.occurrences]
  | cons first rest ih =>
    simp only [Declaration.occurrences, List.mem_cons, List.mem_append, ih]
    constructor
    · rintro (isFirst | inFirst | ⟨before, declaration, after, rfl, occurs⟩)
      · exact ⟨[], first, rest, rfl, .inl (by simpa using isFirst)⟩
      · exact ⟨[], first, rest, rfl, .inr (by simpa using inFirst)⟩
      · exact ⟨first :: before, declaration, after, rfl, by simpa using occurs⟩
    · rintro ⟨before, declaration, after, split, occurs⟩
      cases before with
      | nil =>
        cases split
        rcases occurs with isFirst | inFirst
        · exact .inl (by simpa using isFirst)
        · exact .inr (.inl (by simpa using inFirst))
      | cons head before =>
        cases split
        exact .inr (.inr ⟨before, declaration, after, rfl, by simpa using occurs⟩)

/-! ## Programs -/

/-- The body of a program as a node. -/
def Program.root (program : Program) : Node :=
  .stmt (.block program.body)

theorem Program.mem_occurrences_iff {program : Program} {occurrence : Occurrence} :
    occurrence ∈ program.occurrences ↔
      occurrence = ⟨.task program.task, [], false⟩ ∨
      (∃ before declaration after, program.task.declarations = before ++ declaration :: after ∧
        (occurrence = ⟨.declaration declaration, before.map Declaration.name, false⟩ ∨
          occurrence ∈ (Node.expr declaration.value).occurrences (before.map Declaration.name) false)) ∨
      occurrence ∈ program.root.occurrences program.names false := by
  rw [Program.occurrences, List.mem_cons, List.mem_append, Declaration.mem_occurrences_iff]
  rfl

end BlockSketch
