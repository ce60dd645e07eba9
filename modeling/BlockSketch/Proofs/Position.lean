import BlockSketch.Draft.Build
import BlockSketch.Program.Occurrence
import BlockSketch.Proofs.Outcome
import Mathlib.Data.List.Perm.Basic

/-!
Positions tell the nodes of a built program apart (`Draft.Program.positions_nodup`). A node
that is built at a position has all its nodes at that position or inside it; children take
different steps, so nodes inside one child are never at a position inside another.
-/
namespace BlockSketch

/-! ## Positions in a tree -/

namespace Position

/-- Different positions, all of them at the root or inside it. -/
structure Rooted (root : Position) (positions : List Position) : Prop where
  nodup : positions.Nodup
  inside : ∀ position ∈ positions, root <:+ position

/-- Different positions, all of them at children of the root or inside those, and only
    where the step to the child is one of these. -/
structure Below (root : Position) (steps : Nat → Prop) (positions : List Position) : Prop where
  nodup : positions.Nodup
  inside : ∀ position ∈ positions, ∃ step, steps step ∧ step :: root <:+ position

variable {root : Position} {positions others : List Position} {steps more : Nat → Prop} {step : Nat}

theorem step_unique {first second : Nat} {position : Position} (inFirst : first :: root <:+ position)
    (inSecond : second :: root <:+ position) : first = second := by
  have nested : first :: root <:+ second :: root :=
    List.suffix_of_suffix_length_le inFirst inSecond (by simp)
  have same : first :: root = second :: root := nested.eq_of_length (by simp)
  exact (List.cons.inj same).1

theorem Below.nil : Below root steps [] :=
  ⟨List.nodup_nil, by simp⟩

theorem Below.mono (below : Below root steps positions) (weaker : ∀ step, steps step → more step) :
    Below root more positions := by
  refine ⟨below.nodup, fun position member => ?_⟩
  obtain ⟨step, taken, inside⟩ := below.inside position member
  exact ⟨step, weaker step taken, inside⟩

theorem Below.perm (below : Below root steps positions) (same : positions.Perm others) :
    Below root steps others := by
  refine ⟨same.nodup_iff.mp below.nodup, fun position member => ?_⟩
  exact below.inside position (same.mem_iff.mpr member)

/-- Children that take different steps have nothing in common. -/
theorem Below.append (first : Below root steps positions) (second : Below root more others)
    (apart : ∀ step, steps step → ¬more step) :
    Below root (fun step => steps step ∨ more step) (positions ++ others) := by
  constructor
  · refine List.nodup_append.mpr ⟨first.nodup, second.nodup, ?_⟩
    rintro position inFirst other inSecond rfl
    obtain ⟨step, taken, inside⟩ := first.inside position inFirst
    obtain ⟨same, takenToo, insideToo⟩ := second.inside position inSecond
    obtain rfl := step_unique inside insideToo
    exact apart step taken takenToo
  · intro position member
    rcases List.mem_append.mp member with member | member
    · obtain ⟨step, taken, inside⟩ := first.inside position member
      exact ⟨step, .inl taken, inside⟩
    · obtain ⟨step, taken, inside⟩ := second.inside position member
      exact ⟨step, .inr taken, inside⟩

theorem Rooted.below (rooted : Rooted (step :: root) positions) :
    Below root (fun taken => taken = step) positions :=
  ⟨rooted.nodup, fun position member => ⟨step, rfl, rooted.inside position member⟩⟩

theorem Below.child (below : Below (step :: root) steps positions) :
    Below root (fun taken => taken = step) positions := by
  refine ⟨below.nodup, fun position member => ⟨step, rfl, ?_⟩⟩
  obtain ⟨deeper, _, inside⟩ := below.inside position member
  exact (List.suffix_cons deeper _).trans inside

/-- A node with all that is inside it. -/
theorem Below.rooted (below : Below root steps positions) : Rooted root (root :: positions) := by
  constructor
  · refine List.nodup_cons.mpr ⟨fun member => ?_, below.nodup⟩
    obtain ⟨step, _, inside⟩ := below.inside root member
    have shorter := inside.length_le
    rw [List.length_cons] at shorter
    omega
  · intro position member
    rcases List.mem_cons.mp member with rfl | member
    · exact List.suffix_refl _
    · obtain ⟨step, _, inside⟩ := below.inside position member
      exact (List.suffix_cons step root).trans inside

theorem Rooted.leaf : Rooted root [root] := by
  have nothing : Below root (fun _ => False) [] := .nil
  exact nothing.rooted

theorem Rooted.one (rooted : Rooted (step :: root) positions) : Rooted root (root :: positions) :=
  rooted.below.rooted

theorem Rooted.two (first : Rooted (0 :: root) positions) (second : Rooted (1 :: root) others) :
    Rooted root (root :: (positions ++ others)) :=
  (first.below.append second.below (by omega)).rooted

end Position

open Position

/-! ## Children in a row -/

/-- The items are placed at children of the parent, from a step on. -/
def PlacedFrom {α : Type} (placed : Position → α → Prop) (parent : Position) : Nat → List α → Prop
  | _, [] => True
  | step, item :: rest => placed (step :: parent) item ∧ PlacedFrom placed parent (step + 1) rest

section
variable {ε α β : Type} {placed : Position → α → Prop} {parent : Position}

theorem PlacedFrom.below {positionsOf : α → List Position}
    (each : ∀ position item, placed position item → Rooted position (positionsOf item))
    {items : List α} {step : Nat} (all : PlacedFrom placed parent step items) :
    Below parent (fun taken => step ≤ taken) (items.flatMap positionsOf) := by
  induction items generalizing step with
  | nil => exact .nil
  | cons item rest ih =>
    obtain ⟨first, later⟩ := all
    have joined := (each _ item first).below.append (ih later) (by omega)
    exact joined.mono (by omega)

theorem PlacedFrom.of_mapM {other : Position → β → Prop} {work : α → Except ε β}
    (keeps : ∀ position item value, work item = .ok value → placed position item → other position value)
    {items : List α} {values : List β} (done : items.mapM work = .ok values) {step : Nat}
    (all : PlacedFrom placed parent step items) : PlacedFrom other parent step values := by
  induction items generalizing values step with
  | nil =>
    cases done
    exact trivial
  | cons item rest ih =>
    obtain ⟨value, others, rfl, first, later⟩ := Outcome.mapM_cons_eq_ok done
    exact ⟨keeps _ item value first all.1, ih later all.2⟩

end

/-! ## Nodes -/

/-- The positions of nodes. -/
def Occurrence.positions (occurrences : List Occurrence) : List Position :=
  occurrences.map fun occurrence => occurrence.node.label.position

@[simp] theorem Occurrence.positions_nil : positions [] = [] := rfl

@[simp] theorem Occurrence.positions_cons (occurrence : Occurrence) (rest : List Occurrence) :
    positions (occurrence :: rest) = occurrence.node.label.position :: positions rest := rfl

@[simp] theorem Occurrence.positions_append (first rest : List Occurrence) :
    positions (first ++ rest) = positions first ++ positions rest :=
  List.map_append

/-- The positions of an expression and of all expressions inside it. -/
def Expr.positions (expr : Expr) : List Position :=
  expr.parts.map fun part => part.label.position

@[simp] theorem Expr.positions_binary (label : Label) (op : BinaryOp) (left right : Expr) :
    (binary label op left right).positions = label.position :: (left.positions ++ right.positions) := by
  simp [positions, parts, Expr.label]

@[simp] theorem Expr.positions_unary (label : Label) (op : UnaryOp) (operand : Expr) :
    (unary label op operand).positions = label.position :: operand.positions := by
  simp [positions, parts, Expr.label]

@[simp] theorem Expr.positions_occurrences (expr : Expr) (scope : List Identifier) (inLoop : Bool) :
    Occurrence.positions (expr.occurrences scope inLoop) = expr.positions := by
  simp [Occurrence.positions, Expr.occurrences, Expr.positions, Node.label]

theorem Stmt.positions_listOccurrences (scope : List Identifier) (inLoop : Bool) (statements : List Stmt) :
    Occurrence.positions (Stmt.listOccurrences scope inLoop statements) =
      statements.flatMap fun stmt => Occurrence.positions (stmt.occurrences scope inLoop) := by
  induction statements with
  | nil => rfl
  | cons stmt rest ih => simp [Stmt.listOccurrences, ih]

/-- The node and all nodes inside it are at the position or inside it, and all are at
    different positions. -/
def Expr.Placed (position : Position) (expr : Expr) : Prop :=
  Rooted position expr.positions

@[inherit_doc Expr.Placed]
def Stmt.Placed (position : Position) (stmt : Stmt) : Prop :=
  ∀ scope inLoop, Rooted position (Occurrence.positions (stmt.occurrences scope inLoop))

@[inherit_doc Expr.Placed]
def Sequence.Placed (position : Position) (body : Sequence) : Prop :=
  ∀ scope inLoop, Rooted position (Occurrence.positions (body.occurrences scope inLoop))

@[inherit_doc Expr.Placed]
def Declaration.Placed (position : Position) (declaration : Declaration) : Prop :=
  Rooted position (declaration.label.position :: declaration.value.positions)

@[inherit_doc Expr.Placed]
def Node.Placed (position : Position) : Node → Prop
  | .expr part => part.Placed position
  | .stmt part => part.Placed position
  | .declaration part => part.Placed position
  | .task _ => False

/-! ## Choices -/

/-- The nodes of a choice are those of its conditions, of their lists, and of the list for
    the case that no condition holds. -/
theorem Branches.positions_perm {otherwise : Option Sequence} {arms : List (Expr × Sequence)}
    {branches : Branches} (made : Branches.ofArms? otherwise arms = some branches)
    (scope : List Identifier) (inLoop : Bool) :
    (arms.flatMap (fun arm => arm.1.positions) ++
      (arms.flatMap (fun arm => Occurrence.positions (arm.2.occurrences scope inLoop)) ++
        otherwise.elim [] fun list => Occurrence.positions (list.occurrences scope inLoop))).Perm
      (Occurrence.positions (branches.occurrences scope inLoop)) := by
  induction arms generalizing branches with
  | nil => cases made
  | cons arm rest ih =>
    obtain ⟨condition, body⟩ := arm
    cases rest with
    | nil =>
      cases otherwise with
      | none =>
        cases made
        simp [Branches.occurrences]
      | some list =>
        cases made
        simp [Branches.occurrences]
    | cons next others =>
      obtain ⟨later, madeLater, rfl⟩ := Option.map_eq_some_iff.mp made
      have tail := ih madeLater
      rw [List.perm_iff_count] at tail ⊢
      intro position
      have counted := tail position
      simp only [Branches.occurrences, Occurrence.positions_append, Expr.positions_occurrences,
        List.flatMap_cons, List.count_append] at counted ⊢
      omega

/-! ## Making nodes -/

/-- A statement with an expression inside. -/
theorem Stmt.placed_of_child {stmt : Stmt} {position : Position} {child : Expr}
    (placed : child.Placed (0 :: position)) (labelled : stmt.label.position = position)
    (shape : ∀ scope inLoop, stmt.occurrences scope inLoop =
      ⟨.stmt stmt, scope, inLoop⟩ :: child.occurrences scope inLoop) :
    Node.Placed position (.stmt stmt) := by
  intro scope inLoop
  rw [shape, Occurrence.positions_cons, Expr.positions_occurrences, Node.label, labelled]
  exact Rooted.one placed

namespace Assemble
variable {label : Label} {parent : Kind} {slot : String} {node : Node}

theorem expression_eq_ok_iff {expr : Expr} : expression parent slot node = .ok expr ↔ node = .expr expr := by
  cases node <;> simp [expression]

theorem statement_eq_ok_iff {stmt : Stmt} : statement parent slot node = .ok stmt ↔ node = .stmt stmt := by
  cases node <;> simp [statement]

/-- A list of statements whose statements are placed in order. -/
theorem sequence_placed {nodes : List Node} {body : Sequence} (made : sequence label nodes = .ok body)
    (all : PlacedFrom Node.Placed label.position 0 nodes) : body.Placed label.position := by
  obtain ⟨statements, read, built⟩ := Outcome.bind_eq_ok_iff.mp made
  cases built
  intro scope inLoop
  have placed : PlacedFrom Stmt.Placed label.position 0 statements := by
    refine PlacedFrom.of_mapM (fun position node stmt isStatement placed => ?_) read all
    rw [statement_eq_ok_iff.mp isStatement] at placed
    exact placed
  have below := placed.below fun position stmt isPlaced => isPlaced scope inLoop
  rw [← Stmt.positions_listOccurrences] at below
  rw [Sequence.occurrences, Occurrence.positions_cons]
  exact below.rooted

theorem expression_placed {expr : Expr} {position : Position} (placed : node.Placed position)
    (isExpression : expression parent slot node = .ok expr) : expr.Placed position := by
  rw [expression_eq_ok_iff.mp isExpression] at placed
  exact placed

theorem number_placed {value : String} (made : number label value = .ok node) :
    node.Placed label.position := by
  unfold number at made
  split at made
  · cases made
    exact Rooted.leaf
  · cases made

theorem boolean_placed {value : Bool} (made : boolean label value = .ok node) : node.Placed label.position := by
  cases made
  exact Rooted.leaf

theorem text_placed {value : String} (made : text label value = .ok node) : node.Placed label.position := by
  cases made
  exact Rooted.leaf

theorem var_placed {name : String} {type : DataType} (made : var label name type = .ok node) :
    node.Placed label.position := by
  obtain ⟨name, _, made⟩ := Outcome.bind_eq_ok_iff.mp made
  obtain ⟨type, _, made⟩ := Outcome.bind_eq_ok_iff.mp made
  cases made
  exact Rooted.leaf

theorem binary_placed {op : BinaryOp} {left right : Node} (made : binary label op left right = .ok node)
    (leftPlaced : left.Placed (0 :: label.position)) (rightPlaced : right.Placed (1 :: label.position)) :
    node.Placed label.position := by
  obtain ⟨first, isFirst, made⟩ := Outcome.bind_eq_ok_iff.mp made
  obtain ⟨second, isSecond, made⟩ := Outcome.bind_eq_ok_iff.mp made
  cases made
  show Rooted label.position (Expr.binary label op first second).positions
  rw [Expr.positions_binary]
  exact Rooted.two (expression_placed leftPlaced isFirst) (expression_placed rightPlaced isSecond)

theorem unary_placed {op : UnaryOp} {operand : Node} (made : unary label op operand = .ok node)
    (placed : operand.Placed (0 :: label.position)) : node.Placed label.position := by
  obtain ⟨expr, isExpression, made⟩ := Outcome.bind_eq_ok_iff.mp made
  cases made
  show Rooted label.position (Expr.unary label op expr).positions
  rw [Expr.positions_unary]
  exact Rooted.one (expression_placed placed isExpression)

theorem sensor_placed {device : Sensor} {port : String} (made : sensor label device port = .ok node) :
    node.Placed label.position := by
  obtain ⟨port, _, made⟩ := Outcome.bind_eq_ok_iff.mp made
  cases made
  exact Rooted.leaf

theorem timer_placed {count : UInt8} (made : timer label count = .ok node) : node.Placed label.position := by
  unfold timer at made
  split at made
  · cases made
    exact Rooted.leaf
  · cases made

theorem light_placed {color : LedColor} {blink : Bool} (made : light label color blink = .ok node) :
    node.Placed label.position := by
  cases made
  exact fun _ _ => Rooted.leaf

theorem lightStatus_placed {status : LightStatus} (made : lightStatus label status = .ok node) :
    node.Placed label.position := by
  cases made
  exact fun _ _ => Rooted.leaf

theorem tone_placed {port : String} {frequency duration : Node}
    (made : tone label port frequency duration = .ok node)
    (frequencyPlaced : frequency.Placed (0 :: label.position))
    (durationPlaced : duration.Placed (1 :: label.position)) : node.Placed label.position := by
  obtain ⟨port, _, made⟩ := Outcome.bind_eq_ok_iff.mp made
  obtain ⟨first, isFirst, made⟩ := Outcome.bind_eq_ok_iff.mp made
  obtain ⟨second, isSecond, made⟩ := Outcome.bind_eq_ok_iff.mp made
  cases made
  intro scope inLoop
  rw [Stmt.occurrences, Occurrence.positions_cons, Occurrence.positions_append,
    Expr.positions_occurrences, Expr.positions_occurrences]
  exact Rooted.two (expression_placed frequencyPlaced isFirst) (expression_placed durationPlaced isSecond)

theorem motorOn_placed {port : String} {power : Node} (made : motorOn label port power = .ok node)
    (placed : power.Placed (0 :: label.position)) : node.Placed label.position := by
  obtain ⟨port, _, made⟩ := Outcome.bind_eq_ok_iff.mp made
  obtain ⟨expr, isExpression, made⟩ := Outcome.bind_eq_ok_iff.mp made
  cases made
  exact Stmt.placed_of_child (expression_placed placed isExpression) rfl fun _ _ => by rw [Stmt.occurrences]

theorem motorStop_placed {port : String} (made : motorStop label port = .ok node) :
    node.Placed label.position := by
  obtain ⟨port, _, made⟩ := Outcome.bind_eq_ok_iff.mp made
  cases made
  exact fun _ _ => Rooted.leaf

theorem showText_placed {port : String} {shown : Node} (made : showText label port shown = .ok node)
    (placed : shown.Placed (0 :: label.position)) : node.Placed label.position := by
  obtain ⟨port, _, made⟩ := Outcome.bind_eq_ok_iff.mp made
  obtain ⟨expr, isExpression, made⟩ := Outcome.bind_eq_ok_iff.mp made
  cases made
  exact Stmt.placed_of_child (expression_placed placed isExpression) rfl fun _ _ => by rw [Stmt.occurrences]

theorem serialWrite_placed {value : Node} (made : serialWrite label value = .ok node)
    (placed : value.Placed (0 :: label.position)) : node.Placed label.position := by
  obtain ⟨expr, isExpression, made⟩ := Outcome.bind_eq_ok_iff.mp made
  cases made
  exact Stmt.placed_of_child (expression_placed placed isExpression) rfl fun _ _ => by rw [Stmt.occurrences]

theorem assign_placed {name : String} {value : Node} (made : assign label name value = .ok node)
    (placed : value.Placed (0 :: label.position)) : node.Placed label.position := by
  obtain ⟨name, _, made⟩ := Outcome.bind_eq_ok_iff.mp made
  obtain ⟨expr, isExpression, made⟩ := Outcome.bind_eq_ok_iff.mp made
  cases made
  exact Stmt.placed_of_child (expression_placed placed isExpression) rfl fun _ _ => by rw [Stmt.occurrences]

theorem flow_placed {way : Flow} (made : flow label way = .ok node) : node.Placed label.position := by
  cases made
  exact fun _ _ => Rooted.leaf

theorem wait_placed {time : Node} (made : wait label time = .ok node)
    (placed : time.Placed (0 :: label.position)) : node.Placed label.position := by
  obtain ⟨expr, isExpression, made⟩ := Outcome.bind_eq_ok_iff.mp made
  cases made
  exact Stmt.placed_of_child (expression_placed placed isExpression) rfl fun _ _ => by rw [Stmt.occurrences]

theorem declaration_placed {name : String} {type : DataType} {value : Node} {declared : Declaration}
    (made : declaration label name type value = .ok declared) (placed : value.Placed (0 :: label.position)) :
    declared.Placed label.position := by
  obtain ⟨name, _, made⟩ := Outcome.bind_eq_ok_iff.mp made
  obtain ⟨type, _, made⟩ := Outcome.bind_eq_ok_iff.mp made
  obtain ⟨expr, isExpression, made⟩ := Outcome.bind_eq_ok_iff.mp made
  cases made
  exact Rooted.one (expression_placed placed isExpression)

/-- A choice has a list for each condition, and at least one condition. -/
theorem branch_eq_ok {conditions : List Node} {lists : List Sequence} {otherwise : Option Sequence}
    (made : branch label conditions lists otherwise = .ok node) :
    ∃ expressions branches, conditions.length = lists.length ∧
      conditions.mapM (expression .ifStmt "conditions") = .ok expressions ∧
      Branches.ofArms? otherwise (expressions.zip lists) = some branches ∧
      node = .stmt (.branch label branches) := by
  unfold branch at made
  dsimp only at made
  split at made
  · cases made
  · next even =>
    obtain ⟨expressions, read, made⟩ := Outcome.bind_eq_ok_iff.mp made
    split at made
    · next branches arms =>
      cases made
      exact ⟨expressions, branches, by simpa using even, read, arms, rfl⟩
    · cases made

/-- A choice whose conditions and lists are placed in order. -/
theorem branch_placed {conditions : List Node} {lists : List Sequence} {otherwise : Option Sequence}
    (made : branch label conditions lists otherwise = .ok node)
    (conditionsPlaced : PlacedFrom Node.Placed (0 :: label.position) 0 conditions)
    (listsPlaced : PlacedFrom Sequence.Placed (1 :: label.position) 0 lists)
    (otherwisePlaced : ∀ list, otherwise = some list → list.Placed (2 :: label.position)) :
    node.Placed label.position := by
  obtain ⟨expressions, branches, even, read, arms, rfl⟩ := branch_eq_ok made
  have placed : PlacedFrom Expr.Placed (0 :: label.position) 0 expressions := by
    refine PlacedFrom.of_mapM (fun position node expr isExpression placed => ?_) read conditionsPlaced
    exact expression_placed placed isExpression
  have length : expressions.length = lists.length := (Outcome.length_of_mapM read).trans even
  intro scope inLoop
  have firsts : (expressions.zip lists).flatMap (fun arm => arm.1.positions) =
      expressions.flatMap Expr.positions := by
    rw [← List.map_fst_zip (Nat.le_of_eq length), List.flatMap_map, List.map_fst_zip (Nat.le_of_eq length)]
  have seconds : (expressions.zip lists).flatMap
        (fun arm => Occurrence.positions (arm.2.occurrences scope inLoop)) =
      lists.flatMap fun list => Occurrence.positions (list.occurrences scope inLoop) := by
    rw [← List.map_snd_zip (Nat.le_of_eq length.symm), List.flatMap_map,
      List.map_snd_zip (Nat.le_of_eq length.symm)]
  have conditionsBelow := (placed.below fun _ _ isPlaced => isPlaced).child
  have listsBelow := (listsPlaced.below fun _ _ isPlaced => isPlaced scope inLoop).child
  have otherwiseBelow : Below label.position (fun step => step = 2)
      (otherwise.elim [] fun list => Occurrence.positions (list.occurrences scope inLoop)) := by
    cases otherwise with
    | none => exact .nil
    | some list => exact (otherwisePlaced list rfl scope inLoop).below
  have below := conditionsBelow.append (listsBelow.append otherwiseBelow (by omega)) (by omega)
  rw [← firsts, ← seconds] at below
  rw [Stmt.occurrences, Occurrence.positions_cons]
  exact (below.perm (Branches.positions_perm arms scope inLoop)).rooted

/-- A repetition goes on forever or has an expression in its head. -/
theorem loop_eq_ok {mode : LoopMode} {head : Option Node} {body : Sequence}
    (made : loop label mode head body = .ok node) :
    head = none ∧ node = .stmt (.loop label .forever body) ∨
      ∃ child expr loopHead, head = some child ∧ child = .expr expr ∧
        LoopHead.expression? loopHead = some expr ∧ node = .stmt (.loop label loopHead body) := by
  cases head with
  | none =>
    cases mode with
    | forever =>
      cases made
      exact .inl ⟨rfl, rfl⟩
    | _ => cases made
  | some child =>
    refine .inr ?_
    cases mode with
    | forever => cases made
    | _ =>
      obtain ⟨expr, isExpression, made⟩ := Outcome.bind_eq_ok_iff.mp made
      cases made
      exact ⟨child, expr, _, rfl, expression_eq_ok_iff.mp isExpression, rfl, rfl⟩

/-- A repetition whose head and list are placed in order. -/
theorem loop_placed {mode : LoopMode} {head : Option Node} {body : Sequence}
    (made : loop label mode head body = .ok node)
    (headPlaced : ∀ child, head = some child → child.Placed (0 :: label.position))
    (bodyPlaced : body.Placed (1 :: label.position)) : node.Placed label.position := by
  rcases loop_eq_ok made with ⟨_, rfl⟩ | ⟨child, expr, loopHead, isHead, rfl, inside, rfl⟩
  · intro scope inLoop
    rw [Stmt.occurrences, Occurrence.positions_cons]
    exact Rooted.one (bodyPlaced scope true)
  · intro scope inLoop
    rw [Stmt.occurrences, Occurrence.positions_cons, Occurrence.positions_append, LoopHead.occurrences,
      inside, Option.elim_some, Expr.positions_occurrences]
    exact Rooted.two (headPlaced _ isHead) (bodyPlaced scope true)

end Assemble

/-! ## Building -/

namespace Draft.Block

-- The numeral of a block would be read whenever two built nodes are compared.
attribute [local irreducible] Assemble.number

mutual

/-- The nodes of a block that is built at a position are at different positions, all of them
    there or inside. -/
theorem build_placed : ∀ (block : Block) (position : Position) {node : Node},
    block.build position = .ok node → node.Placed position
  | .number .., position, node, built => by
    rw [build] at built
    exact Assemble.number_placed built
  | .boolean .., position, node, built => by
    rw [build] at built
    exact Assemble.boolean_placed built
  | .text .., position, node, built => by
    rw [build] at built
    exact Assemble.text_placed built
  | .var .., position, node, built => by
    rw [build] at built
    obtain ⟨type, _, made⟩ := Outcome.bind_eq_ok_iff.mp built
    exact Assemble.var_placed made
  | .binary _ _ left right, position, node, built => by
    rw [build] at built
    obtain ⟨op, _, built⟩ := Outcome.bind_eq_ok_iff.mp built
    obtain ⟨leftNode, leftBuilt, built⟩ := Outcome.bind_eq_ok_iff.mp built
    obtain ⟨rightNode, rightBuilt, made⟩ := Outcome.bind_eq_ok_iff.mp built
    exact Assemble.binary_placed made (build_placed left _ leftBuilt) (build_placed right _ rightBuilt)
  | .unary _ _ operand, position, node, built => by
    rw [build] at built
    obtain ⟨op, _, built⟩ := Outcome.bind_eq_ok_iff.mp built
    obtain ⟨child, childBuilt, made⟩ := Outcome.bind_eq_ok_iff.mp built
    exact Assemble.unary_placed made (build_placed operand _ childBuilt)
  | .sensor .., position, node, built => by
    rw [build] at built
    exact Assemble.sensor_placed built
  | .timer .., position, node, built => by
    rw [build] at built
    exact Assemble.timer_placed built
  | .light .., position, node, built => by
    rw [build] at built
    obtain ⟨color, _, made⟩ := Outcome.bind_eq_ok_iff.mp built
    exact Assemble.light_placed made
  | .lightStatus .., position, node, built => by
    rw [build] at built
    obtain ⟨status, _, made⟩ := Outcome.bind_eq_ok_iff.mp built
    exact Assemble.lightStatus_placed made
  | .tone _ _ frequency duration, position, node, built => by
    rw [build] at built
    obtain ⟨first, firstBuilt, built⟩ := Outcome.bind_eq_ok_iff.mp built
    obtain ⟨second, secondBuilt, made⟩ := Outcome.bind_eq_ok_iff.mp built
    exact Assemble.tone_placed made (build_placed frequency _ firstBuilt) (build_placed duration _ secondBuilt)
  | .motorOn _ _ power, position, node, built => by
    rw [build] at built
    obtain ⟨child, childBuilt, made⟩ := Outcome.bind_eq_ok_iff.mp built
    exact Assemble.motorOn_placed made (build_placed power _ childBuilt)
  | .motorStop .., position, node, built => by
    rw [build] at built
    exact Assemble.motorStop_placed built
  | .showText _ _ shown, position, node, built => by
    rw [build] at built
    obtain ⟨child, childBuilt, made⟩ := Outcome.bind_eq_ok_iff.mp built
    exact Assemble.showText_placed made (build_placed shown _ childBuilt)
  | .serialWrite _ value, position, node, built => by
    rw [build] at built
    obtain ⟨child, childBuilt, made⟩ := Outcome.bind_eq_ok_iff.mp built
    exact Assemble.serialWrite_placed made (build_placed value _ childBuilt)
  | .list _ statements, position, node, built => by
    rw [build] at built
    obtain ⟨nodes, all, built⟩ := Outcome.bind_eq_ok_iff.mp built
    obtain ⟨body, made, built⟩ := Outcome.bind_eq_ok_iff.mp built
    cases built
    have placed := Assemble.sequence_placed made (buildAll_placed statements _ _ all)
    intro scope inLoop
    rw [Stmt.occurrences]
    exact placed scope inLoop
  | .assign _ _ value, position, node, built => by
    rw [build] at built
    obtain ⟨child, childBuilt, made⟩ := Outcome.bind_eq_ok_iff.mp built
    exact Assemble.assign_placed made (build_placed value _ childBuilt)
  | .branch _ conditions lists otherwise, position, node, built => by
    rw [build] at built
    obtain ⟨nodes, conditionsBuilt, built⟩ := Outcome.bind_eq_ok_iff.mp built
    obtain ⟨sequences, listsBuilt, built⟩ := Outcome.bind_eq_ok_iff.mp built
    obtain ⟨last, otherwiseBuilt, made⟩ := Outcome.bind_eq_ok_iff.mp built
    exact Assemble.branch_placed made (buildAll_placed conditions _ _ conditionsBuilt)
      (buildLists_placed lists _ _ listsBuilt) (buildOtherwise_placed otherwise _ otherwiseBuilt)
  | .loop _ _ expression body, position, node, built => by
    rw [build] at built
    obtain ⟨mode, _, built⟩ := Outcome.bind_eq_ok_iff.mp built
    obtain ⟨head, headBuilt, built⟩ := Outcome.bind_eq_ok_iff.mp built
    obtain ⟨nodes, bodyBuilt, built⟩ := Outcome.bind_eq_ok_iff.mp built
    obtain ⟨sequence, listed, made⟩ := Outcome.bind_eq_ok_iff.mp built
    exact Assemble.loop_placed made (buildExpression_placed expression _ headBuilt)
      (Assemble.sequence_placed listed (buildAll_placed body _ _ bodyBuilt))
  | .flow .., position, node, built => by
    rw [build] at built
    obtain ⟨way, _, made⟩ := Outcome.bind_eq_ok_iff.mp built
    exact Assemble.flow_placed made
  | .wait _ time, position, node, built => by
    rw [build] at built
    obtain ⟨child, childBuilt, made⟩ := Outcome.bind_eq_ok_iff.mp built
    exact Assemble.wait_placed made (build_placed time _ childBuilt)

theorem buildAll_placed : ∀ (blocks : List Block) (parent : Position) (step : Nat) {nodes : List Node},
    buildAll parent step blocks = .ok nodes → PlacedFrom Node.Placed parent step nodes
  | [], parent, step, nodes, built => by
    rw [buildAll] at built
    cases built
    exact trivial
  | block :: rest, parent, step, nodes, built => by
    rw [buildAll] at built
    obtain ⟨node, first, built⟩ := Outcome.bind_eq_ok_iff.mp built
    obtain ⟨others, later, built⟩ := Outcome.bind_eq_ok_iff.mp built
    cases built
    exact ⟨build_placed block _ first, buildAll_placed rest parent (step + 1) later⟩

theorem buildLists_placed : ∀ (lists : List (List Block)) (parent : Position) (step : Nat)
    {sequences : List Sequence}, buildLists parent step lists = .ok sequences →
      PlacedFrom Sequence.Placed parent step sequences
  | [], parent, step, sequences, built => by
    rw [buildLists] at built
    cases built
    exact trivial
  | blocks :: rest, parent, step, sequences, built => by
    rw [buildLists] at built
    obtain ⟨nodes, all, built⟩ := Outcome.bind_eq_ok_iff.mp built
    obtain ⟨sequence, made, built⟩ := Outcome.bind_eq_ok_iff.mp built
    obtain ⟨others, later, built⟩ := Outcome.bind_eq_ok_iff.mp built
    cases built
    exact ⟨Assemble.sequence_placed made (buildAll_placed blocks _ _ all),
      buildLists_placed rest parent (step + 1) later⟩

theorem buildOtherwise_placed : ∀ (otherwise : Option (List Block)) (position : Position)
    {built : Option Sequence}, buildOtherwise position otherwise = .ok built →
      ∀ body, built = some body → body.Placed position
  | none, position, _, done, body, isBody => by
    rw [buildOtherwise] at done
    cases done
    cases isBody
  | some blocks, position, _, done, body, isBody => by
    rw [buildOtherwise] at done
    obtain ⟨nodes, all, done⟩ := Outcome.bind_eq_ok_iff.mp done
    obtain ⟨sequence, made, done⟩ := Outcome.bind_eq_ok_iff.mp done
    cases done
    cases isBody
    exact Assemble.sequence_placed made (buildAll_placed blocks _ _ all)

theorem buildExpression_placed : ∀ (expression : Option Block) (position : Position)
    {built : Option Node}, buildExpression position expression = .ok built →
      ∀ child, built = some child → child.Placed position
  | none, position, _, done, child, isChild => by
    rw [buildExpression] at done
    cases done
    cases isChild
  | some block, position, _, done, child, isChild => by
    rw [buildExpression] at done
    obtain ⟨node, built, done⟩ := Outcome.bind_eq_ok_iff.mp done
    cases done
    cases isChild
    exact build_placed block position built

end

end Draft.Block

/-! ## Programs -/

theorem Declaration.positions_occurrences (scope : List Identifier) (declarations : List Declaration) :
    Occurrence.positions (Declaration.occurrences scope declarations) =
      declarations.flatMap fun declaration =>
        declaration.label.position :: declaration.value.positions := by
  induction declarations generalizing scope with
  | nil => rfl
  | cons declaration rest ih => simp [Declaration.occurrences, Node.label, ih]

namespace Draft

theorem Variable.build_placed {draft : Variable} {position : Position} {declaration : Declaration}
    (built : draft.build position = .ok declaration) : declaration.Placed position := by
  obtain ⟨type, _, built⟩ := Outcome.bind_eq_ok_iff.mp built
  obtain ⟨child, childBuilt, made⟩ := Outcome.bind_eq_ok_iff.mp built
  exact Assemble.declaration_placed made (draft.value.build_placed _ childBuilt)

theorem buildVariables_placed {drafts : List Variable} {parent : Position} {step : Nat}
    {declarations : List Declaration} (built : buildVariables parent step drafts = .ok declarations) :
    PlacedFrom Declaration.Placed parent step declarations := by
  induction drafts generalizing step declarations with
  | nil =>
    cases built
    exact trivial
  | cons draft rest ih =>
    obtain ⟨declaration, first, built⟩ := Outcome.bind_eq_ok_iff.mp built
    obtain ⟨others, later, built⟩ := Outcome.bind_eq_ok_iff.mp built
    cases built
    exact ⟨Variable.build_placed first, ih later⟩

/-- No two nodes of a built program are at the same position. -/
theorem Program.positions_nodup {draft : Program} {program : BlockSketch.Program}
    (built : draft.build = .ok program) : (Occurrence.positions program.occurrences).Nodup := by
  obtain ⟨declarations, variablesBuilt, built⟩ := Outcome.bind_eq_ok_iff.mp built
  obtain ⟨nodes, bodyBuilt, built⟩ := Outcome.bind_eq_ok_iff.mp built
  obtain ⟨body, made, built⟩ := Outcome.bind_eq_ok_iff.mp built
  cases built
  have declared : Below [0] (fun step => 0 ≤ step) (Occurrence.positions (Declaration.occurrences [] declarations)) := by
    rw [Declaration.positions_occurrences]
    exact (buildVariables_placed variablesBuilt).below fun _ _ placed => placed
  have bodyPlaced := Assemble.sequence_placed made (Block.buildAll_placed draft.body _ _ bodyBuilt)
  unfold BlockSketch.Program.occurrences
  rw [Occurrence.positions_cons, Occurrence.positions_append, ← List.cons_append]
  have whole := declared.rooted.below.append (bodyPlaced (declarations.map Declaration.name) false).below (by omega)
  exact whole.nodup

end Draft
end BlockSketch
