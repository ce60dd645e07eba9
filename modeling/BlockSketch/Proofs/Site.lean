import BlockSketch.Proofs.Ancestry
import BlockSketch.Proofs.TypeRule
import Mathlib.Data.List.Basic

/-!
Where the types of a program can be wrong. A site is an expression against its operands, or
a value against the slot that it fills. The sites of a program are listed in the order of
the visit (`Program.sites`); they are the sites that its nodes have of their own, each
listed once (`Program.sites_perm`).
-/
namespace BlockSketch

namespace Typing

/-- A place where types can be wrong: an expression, a value in a slot of a statement, or the
    initial value of a variable, each with the declarations that count there. -/
inductive Site
  | expression (declared : List Declaration) (expr : Expr)
  | slot (declared : List Declaration) (value : Expr) (required : ValueType) (slot : Slot)
  | initial (declared : List Declaration) (declaration : Declaration)

namespace Site

/-- The node to which a mistake is attached. -/
def node : Site → Node
  | expression _ expr => .expr expr
  | slot _ value _ _ => .expr value
  | initial _ declaration => .declaration declaration

end Site
end Typing

open Typing

/-! ## The order of the visit -/

/-- The expression and those inside it, operands before their operator. -/
def Expr.sites (declared : List Declaration) : Expr → List Site
  | expr@(.binary _ _ left right) =>
    left.sites declared ++ right.sites declared ++ [.expression declared expr]
  | expr@(.unary _ _ operand) => operand.sites declared ++ [.expression declared expr]
  | expr => [.expression declared expr]

/-- An expression in a slot: what is inside it, and then the slot. -/
def Expr.slotSites (declared : List Declaration) (required : ValueType) (slot : Slot) (expr : Expr) :
    List Site :=
  expr.sites declared ++ [.slot declared expr required slot]

def LoopHead.sites (declared : List Declaration) : LoopHead → List Site
  | .forever => []
  | .times count => count.slotSites declared .number .repeatCount
  | .during condition => condition.slotSites declared .boolean .condition
  | .till condition => condition.slotSites declared .boolean .condition

mutual

def Stmt.sites (declared : List Declaration) : Stmt → List Site
  | .light .. => []
  | .lightStatus .. => []
  | .tone _ _ frequency duration =>
    frequency.slotSites declared .number .toneFrequency ++
      duration.slotSites declared .number .toneDuration
  | .motorOn _ _ power => power.slotSites declared .number .motorPower
  | .motorStop .. => []
  | .showText _ _ text => text.sites declared
  | .serialWrite _ value => value.sites declared
  | .block body => body.sites declared
  | .assign _ name value =>
    match firstType? declared name with
    | some required => value.slotSites declared required (.assignment name)
    | none => value.sites declared
  | .branch _ branches => branches.sites declared
  | .loop _ head body => head.sites declared ++ body.sites declared
  | .flow .. => []
  | .wait _ time => time.slotSites declared .number .waitTime

def Sequence.sites (declared : List Declaration) : Sequence → List Site
  | .mk _ statements => Stmt.listSites declared statements

def Stmt.listSites (declared : List Declaration) : List Stmt → List Site
  | [] => []
  | stmt :: rest => stmt.sites declared ++ Stmt.listSites declared rest

def Branches.sites (declared : List Declaration) : Branches → List Site
  | .only condition body => condition.slotSites declared .boolean .condition ++ body.sites declared
  | .orElse condition body otherwise =>
    condition.slotSites declared .boolean .condition ++ body.sites declared ++ otherwise.sites declared
  | .orIf condition body rest =>
    condition.slotSites declared .boolean .condition ++ body.sites declared ++ rest.sites declared

end

/-- Declarations in their order, each read against those before it. -/
def Declaration.sites (declared : List Declaration) : List Declaration → List Site
  | [] => []
  | declaration :: rest =>
    declaration.value.sites declared ++ [.initial declared declaration] ++
      Declaration.sites (declared ++ [declaration]) rest

/-- All sites of the program in the order of the visit. -/
def Program.sites (program : Program) : List Site :=
  Declaration.sites [] program.task.declarations ++ program.body.sites program.task.declarations

/-! ## The sites of a node -/

def LoopHead.slots (declared : List Declaration) : LoopHead → List Site
  | .forever => []
  | .times count => [.slot declared count .number .repeatCount]
  | .during condition => [.slot declared condition .boolean .condition]
  | .till condition => [.slot declared condition .boolean .condition]

/-- The slots of a statement. There is one for an assigned value if the variable is declared;
    texts to show and values to write may be of any type. -/
def Stmt.slots (declared : List Declaration) : Stmt → List Site
  | .tone _ _ frequency duration =>
    [.slot declared frequency .number .toneFrequency, .slot declared duration .number .toneDuration]
  | .motorOn _ _ power => [.slot declared power .number .motorPower]
  | .assign _ name value =>
    (firstType? declared name).toList.map fun required => .slot declared value required (.assignment name)
  | .branch _ branches => branches.arms.map fun arm => .slot declared arm.1 .boolean .condition
  | .loop _ head _ => head.slots declared
  | .wait _ time => [.slot declared time .number .waitTime]
  | _ => []

/-- The sites that are the node's own: an expression is one, and statements and declarations
    have their slots. -/
def Node.sites (declared : List Declaration) : Node → List Site
  | .expr part => [.expression declared part]
  | .stmt part => part.slots declared
  | .declaration part => [.initial declared part]
  | .task _ => []

/-- The sites of a node where it occurs: the declarations that count are as many as there are
    names in scope. -/
def Occurrence.sites (declarations : List Declaration) (occurrence : Occurrence) : List Site :=
  occurrence.node.sites (declarations.take occurrence.scope.length)

/-! ## Every site is visited once -/

section
variable {declared : List Declaration} {scope : List Identifier} {inLoop : Bool} {chosen : Site → Bool}

/-- The chosen sites among those that nodes have of their own. -/
def Occurrence.siteCount (chosen : Site → Bool) (declared : List Declaration)
    (occurrences : List Occurrence) : Nat :=
  (occurrences.flatMap fun occurrence => occurrence.node.sites declared).countP chosen

@[simp] theorem Occurrence.siteCount_nil : siteCount chosen declared [] = 0 := rfl

@[simp] theorem Occurrence.siteCount_cons {occurrence : Occurrence} {rest : List Occurrence} :
    siteCount chosen declared (occurrence :: rest) =
      (occurrence.node.sites declared).countP chosen + siteCount chosen declared rest := by
  simp [siteCount]

@[simp] theorem Occurrence.siteCount_append {first rest : List Occurrence} :
    siteCount chosen declared (first ++ rest) =
      siteCount chosen declared first + siteCount chosen declared rest := by
  simp [siteCount]

@[simp] theorem Expr.siteCount_occurrences (expr : Expr) :
    Occurrence.siteCount chosen declared (expr.occurrences scope inLoop) =
      (expr.sites declared).countP chosen := by
  induction expr with
  | binary label op left right leftIh rightIh =>
    have whole : (Expr.binary label op left right).occurrences scope inLoop =
        ⟨.expr (.binary label op left right), scope, inLoop⟩ ::
          (left.occurrences scope inLoop ++ right.occurrences scope inLoop) := by
      simp [Expr.occurrences, Expr.parts]
    rw [whole, Occurrence.siteCount_cons, Occurrence.siteCount_append, leftIh, rightIh, Expr.sites]
    simp only [List.countP_append, Node.sites]
    omega
  | unary label op operand ih =>
    have whole : (Expr.unary label op operand).occurrences scope inLoop =
        ⟨.expr (.unary label op operand), scope, inLoop⟩ :: operand.occurrences scope inLoop := by
      simp [Expr.occurrences, Expr.parts]
    rw [whole, Occurrence.siteCount_cons, ih, Expr.sites]
    simp only [List.countP_append, Node.sites]
    omega
  | _ => simp [Expr.sites, Expr.occurrences, Expr.parts, Node.sites]

theorem LoopHead.siteCount_occurrences (scope : List Identifier) (inLoop : Bool) (head : LoopHead) :
    (head.slots declared).countP chosen +
        Occurrence.siteCount chosen declared (head.occurrences scope inLoop) =
      (head.sites declared).countP chosen := by
  cases head <;>
    simp [LoopHead.slots, LoopHead.sites, LoopHead.occurrences, LoopHead.expression?, Expr.slotSites]
  all_goals omega

mutual

theorem Stmt.siteCount_occurrences (inLoop : Bool) : ∀ stmt : Stmt,
    Occurrence.siteCount chosen declared (stmt.occurrences scope inLoop) =
      (stmt.sites declared).countP chosen
  | .light .. => by simp [Stmt.sites, Stmt.occurrences, Node.sites, Stmt.slots]
  | .lightStatus .. => by simp [Stmt.sites, Stmt.occurrences, Node.sites, Stmt.slots]
  | .tone .. => by
    simp [Stmt.sites, Stmt.occurrences, Node.sites, Stmt.slots, Expr.slotSites, List.countP_cons]
    omega
  | .motorOn .. => by
    simp [Stmt.sites, Stmt.occurrences, Node.sites, Stmt.slots, Expr.slotSites]
    omega
  | .motorStop .. => by simp [Stmt.sites, Stmt.occurrences, Node.sites, Stmt.slots]
  | .showText .. => by simp [Stmt.sites, Stmt.occurrences, Node.sites, Stmt.slots]
  | .serialWrite .. => by simp [Stmt.sites, Stmt.occurrences, Node.sites, Stmt.slots]
  | .block body => body.siteCount_occurrences inLoop
  | .assign _ name _ => by
    cases found : firstType? declared name with
    | none => simp [Stmt.sites, Stmt.occurrences, Node.sites, Stmt.slots, found]
    | some required =>
      simp [Stmt.sites, Stmt.occurrences, Node.sites, Stmt.slots, found, Expr.slotSites]
      omega
  | .branch _ branches => by
    simp [Stmt.sites, Stmt.occurrences, Node.sites, Stmt.slots, ← branches.siteCount_occurrences inLoop]
  | .loop _ head body => by
    simp [Stmt.sites, Stmt.occurrences, Node.sites, Stmt.slots, body.siteCount_occurrences true,
      ← head.siteCount_occurrences scope inLoop]
    omega
  | .flow .. => by simp [Stmt.sites, Stmt.occurrences, Node.sites, Stmt.slots]
  | .wait .. => by
    simp [Stmt.sites, Stmt.occurrences, Node.sites, Stmt.slots, Expr.slotSites]
    omega

theorem Sequence.siteCount_occurrences (inLoop : Bool) : ∀ body : Sequence,
    Occurrence.siteCount chosen declared (body.occurrences scope inLoop) =
      (body.sites declared).countP chosen
  | .mk _ statements => by
    simp [Sequence.sites, Sequence.occurrences, Node.sites, Stmt.slots,
      Stmt.siteCount_listOccurrences inLoop statements]

theorem Stmt.siteCount_listOccurrences (inLoop : Bool) : ∀ statements : List Stmt,
    Occurrence.siteCount chosen declared (Stmt.listOccurrences scope inLoop statements) =
      (Stmt.listSites declared statements).countP chosen
  | [] => by simp [Stmt.listSites, Stmt.listOccurrences]
  | stmt :: rest => by
    simp [Stmt.listSites, Stmt.listOccurrences, stmt.siteCount_occurrences inLoop,
      Stmt.siteCount_listOccurrences inLoop rest]

/-- The conditions of the arms are slots of the whole choice. -/
theorem Branches.siteCount_occurrences (inLoop : Bool) : ∀ branches : Branches,
    (branches.arms.map fun arm => Site.slot declared arm.1 .boolean .condition).countP chosen +
        Occurrence.siteCount chosen declared (branches.occurrences scope inLoop) =
      (branches.sites declared).countP chosen
  | .only condition body => by
    simp [Branches.sites, Branches.occurrences, Branches.arms, Expr.slotSites, List.countP_cons,
      body.siteCount_occurrences inLoop]
    omega
  | .orElse condition body otherwise => by
    simp [Branches.sites, Branches.occurrences, Branches.arms, Expr.slotSites, List.countP_cons,
      body.siteCount_occurrences inLoop, otherwise.siteCount_occurrences inLoop]
    omega
  | .orIf condition body rest => by
    simp [Branches.sites, Branches.occurrences, Branches.arms, Expr.slotSites, List.countP_cons,
      body.siteCount_occurrences inLoop, ← rest.siteCount_occurrences inLoop]
    omega

end

theorem Occurrence.sites_of_scope {declarations before : List Declaration} {occurrence : Occurrence}
    (listed : before <+: declarations) (sees : occurrence.scope = before.map Declaration.name) :
    occurrence.sites declarations = occurrence.node.sites before := by
  have seen : declarations.take occurrence.scope.length = before := by
    rw [sees, List.length_map]
    exact (List.prefix_iff_eq_take.mp listed).symm
  rw [Occurrence.sites, seen]

/-- Nodes that see the same declarations. -/
theorem Occurrence.countP_sites_of_scope {declarations before : List Declaration}
    {occurrences : List Occurrence} (listed : before <+: declarations)
    (sees : ∀ occurrence ∈ occurrences, occurrence.scope = before.map Declaration.name) :
    (occurrences.flatMap (Occurrence.sites declarations)).countP chosen =
      siteCount chosen before occurrences := by
  rw [siteCount, List.flatMap_congr fun occurrence member =>
    Occurrence.sites_of_scope listed (sees occurrence member)]

theorem Declaration.countP_sites {declarations : List Declaration} (before : List Declaration)
    {rest : List Declaration} (split : declarations = before ++ rest) :
    ((Declaration.occurrences (before.map Declaration.name) rest).flatMap
        (Occurrence.sites declarations)).countP chosen =
      (Declaration.sites before rest).countP chosen := by
  induction rest generalizing before with
  | nil => simp [Declaration.occurrences, Declaration.sites]
  | cons declaration rest ih =>
    have listed : before <+: declarations := ⟨_, split.symm⟩
    have later := ih (before ++ [declaration]) (by simp [split])
    have own : Occurrence.sites declarations ⟨.declaration declaration, before.map Declaration.name, false⟩ =
        [.initial before declaration] := Occurrence.sites_of_scope listed rfl
    have value : ((declaration.value.occurrences (before.map Declaration.name) false).flatMap
        (Occurrence.sites declarations)).countP chosen = (declaration.value.sites before).countP chosen := by
      rw [Occurrence.countP_sites_of_scope listed fun occurrence member =>
        (Expr.share_occurrences _ _ _ member).1, Expr.siteCount_occurrences]
    rw [List.map_append, List.map_singleton] at later
    simp only [Declaration.occurrences, Declaration.sites, List.flatMap_cons, List.flatMap_append,
      List.countP_append, own, value, later]
    omega

/-- The visit comes to every site of every node, and to each once. -/
theorem Program.sites_perm (program : Program) :
    program.sites.Perm (program.occurrences.flatMap (Occurrence.sites program.task.declarations)) := by
  classical
  refine List.perm_iff_count.mpr fun site => ?_
  have declarations : ((Declaration.occurrences [] program.task.declarations).flatMap
      (Occurrence.sites program.task.declarations)).countP (· == site) =
        (Declaration.sites [] program.task.declarations).countP (· == site) :=
    Declaration.countP_sites [] rfl
  have body : ((program.body.occurrences program.names false).flatMap
      (Occurrence.sites program.task.declarations)).countP (· == site) =
        (program.body.sites program.task.declarations).countP (· == site) := by
    rw [Program.names, Occurrence.countP_sites_of_scope List.prefix_rfl fun occurrence member =>
      (Sequence.share_occurrences _ _ _ member).1, Sequence.siteCount_occurrences]
  simp only [List.count, Program.sites, Program.occurrences, List.flatMap_cons, List.flatMap_append,
    List.countP_append, declarations, body]
  simp [Occurrence.sites, Node.sites]

end

/-! ## The nodes of the sites -/

/-- A slot of a statement is filled by an expression directly inside it. -/
theorem Stmt.child_of_slot {declared : List Declaration} {stmt : Stmt} {site : Site}
    (member : site ∈ stmt.slots declared) : site.node ∈ (Node.stmt stmt).children := by
  cases stmt with
  | branch label branches =>
    obtain ⟨arm, isArm, rfl⟩ := List.mem_map.mp member
    exact List.mem_append_left _ (List.mem_flatMap.mpr ⟨arm, isArm, List.mem_cons_self⟩)
  | loop label head body =>
    cases head with
    | forever => cases member
    | times count =>
      obtain rfl := List.mem_singleton.mp member
      exact List.mem_cons_self
    | during condition =>
      obtain rfl := List.mem_singleton.mp member
      exact List.mem_cons_self
    | till condition =>
      obtain rfl := List.mem_singleton.mp member
      exact List.mem_cons_self
  | assign label name value =>
    obtain ⟨required, _, rfl⟩ := List.mem_map.mp member
    exact List.mem_singleton_self _
  | tone label port frequency duration =>
    simp only [Stmt.slots, List.mem_cons, List.not_mem_nil, or_false] at member
    rcases member with rfl | rfl <;> simp [Node.children, Site.node]
  | motorOn label port power =>
    obtain rfl := List.mem_singleton.mp member
    exact List.mem_singleton_self _
  | wait label time =>
    obtain rfl := List.mem_singleton.mp member
    exact List.mem_singleton_self _
  | _ => cases member

/-- Statements occur in the body only. -/
theorem Program.contains_of_statement {program : Program} {occurrence : Occurrence}
    (member : occurrence ∈ program.occurrences) (statement : occurrence.node.isStatement = true) :
    program.root.Contains occurrence.node := by
  rcases Program.mem_occurrences_iff.mp member with
    rfl | ⟨before, declaration, after, _, rfl | inside⟩ | inside
  · cases statement
  · cases statement
  · obtain ⟨part, _, rfl⟩ := List.mem_map.mp inside
    cases statement
  · obtain ⟨ancestors, reached, _⟩ := Node.reaches_of_mem rfl inside
    exact ⟨ancestors, reached⟩

theorem Program.occurs_of_contains {program : Program} {node : Node} (inside : program.root.Contains node) :
    ∃ occurrence ∈ program.occurrences, occurrence.node = node := by
  obtain ⟨ancestors, reached⟩ := inside
  obtain ⟨flag, member, _⟩ := reached.occurs rfl program.names false
  exact ⟨_, Program.mem_occurrences_iff.mpr (.inr (.inr member)), rfl⟩

/-- Every site is about a node of the program. -/
theorem Program.site_occurs {program : Program} {site : Site} (member : site ∈ program.sites) :
    ∃ occurrence ∈ program.occurrences, occurrence.node = site.node := by
  obtain ⟨occurrence, occurs, own⟩ := List.mem_flatMap.mp (program.sites_perm.mem_iff.mp member)
  unfold Occurrence.sites at own
  cases isNode : occurrence.node with
  | expr part =>
    rw [isNode] at own
    rw [List.mem_singleton.mp own]
    exact ⟨occurrence, occurs, isNode⟩
  | stmt part =>
    rw [isNode] at own
    have inside := contains_of_statement occurs (by rw [isNode]; rfl)
    rw [isNode] at inside
    exact occurs_of_contains (inside.child (Stmt.child_of_slot own))
  | declaration part =>
    rw [isNode] at own
    rw [List.mem_singleton.mp own]
    exact ⟨occurrence, occurs, isNode⟩
  | task part =>
    rw [isNode] at own
    cases own

end BlockSketch
