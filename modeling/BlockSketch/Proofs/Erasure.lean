import BlockSketch.Draft.Build
import BlockSketch.Draft.Wiring
import Mathlib.Data.List.Basic

/-!
Drafts, programs and configurations without what the editor keeps with them. Building does
not look at these annotations: a draft without them is built to the program or configuration
without them, or rejected with the same error (`Draft.Program.build_bare`,
`Draft.Configuration.build_bare`).
-/
namespace BlockSketch

/-! ## Images of outcomes -/

namespace Outcome
variable {ε α β γ δ : Type}

/-- The second computation gives the image of what the first one gives, or the same error. -/
def Image (f : α → β) (first : Except ε α) (second : Except ε β) : Prop :=
  second = first.map f

theorem Image.pure {f : α → β} (value : α) :
    Image f (Pure.pure value : Except ε α) (Pure.pure (f value)) :=
  rfl

theorem Image.bind {f : α → β} {g : γ → δ} {first : Except ε α} {second : Except ε β}
    {next : α → Except ε γ} {other : β → Except ε δ} (image : Image f first second)
    (later : ∀ value, Image g (next value) (other (f value))) :
    Image g (first >>= next) (second >>= other) := by
  subst image
  cases first with
  | error error => rfl
  | ok value => exact later value

theorem Image.bind_same {g : γ → δ} (first : Except ε α) {next : α → Except ε γ}
    {other : α → Except ε δ} (later : ∀ value, Image g (next value) (other value)) :
    Image g (first >>= next) (first >>= other) := by
  cases first with
  | error error => rfl
  | ok value => exact later value

theorem Image.mapM {f : α → β} {g : γ → δ} {work : α → Except ε γ} {other : β → Except ε δ}
    (each : ∀ item, Image g (work item) (other (f item))) (items : List α) :
    Image (List.map g) (items.mapM work) ((items.map f).mapM other) := by
  induction items with
  | nil => exact .pure []
  | cons item rest ih =>
    rw [List.map_cons, List.mapM_cons, List.mapM_cons]
    exact (each item).bind fun value => ih.bind fun values => .pure (value :: values)

end Outcome

/-! ## Programs without annotations -/

/-- The label with the position alone. -/
def Label.bare (label : Label) : Label :=
  { label with notes := {} }

def Expr.bare : Expr → Expr
  | .number label literal => .number label.bare literal
  | .boolean label value => .boolean label.bare value
  | .text label value => .text label.bare value
  | .var label name type => .var label.bare name type
  | .binary label op left right => .binary label.bare op left.bare right.bare
  | .unary label op operand => .unary label.bare op operand.bare
  | .sensor label device port => .sensor label.bare device port
  | .timer label clock => .timer label.bare clock

def LoopHead.bare : LoopHead → LoopHead
  | .forever => .forever
  | .times count => .times count.bare
  | .during condition => .during condition.bare
  | .till condition => .till condition.bare

mutual

def Stmt.bare : Stmt → Stmt
  | .light label color blink => .light label.bare color blink
  | .lightStatus label status => .lightStatus label.bare status
  | .tone label port frequency duration => .tone label.bare port frequency.bare duration.bare
  | .motorOn label port power => .motorOn label.bare port power.bare
  | .motorStop label port => .motorStop label.bare port
  | .showText label port text => .showText label.bare port text.bare
  | .serialWrite label value => .serialWrite label.bare value.bare
  | .block body => .block body.bare
  | .assign label name value => .assign label.bare name value.bare
  | .branch label branches => .branch label.bare branches.bare
  | .loop label head body => .loop label.bare head.bare body.bare
  | .flow label way => .flow label.bare way
  | .wait label time => .wait label.bare time.bare

def Sequence.bare : Sequence → Sequence
  | .mk label statements => .mk label.bare (Stmt.bareList statements)

def Stmt.bareList : List Stmt → List Stmt
  | [] => []
  | stmt :: rest => stmt.bare :: Stmt.bareList rest

def Branches.bare : Branches → Branches
  | .only condition body => .only condition.bare body.bare
  | .orElse condition body otherwise => .orElse condition.bare body.bare otherwise.bare
  | .orIf condition body rest => .orIf condition.bare body.bare rest.bare

end

theorem Stmt.bareList_eq (statements : List Stmt) : Stmt.bareList statements = statements.map Stmt.bare := by
  induction statements with
  | nil => rfl
  | cons stmt rest ih => rw [bareList, ih, List.map_cons]

def Declaration.bare (declaration : Declaration) : Declaration :=
  { declaration with label := declaration.label.bare, value := declaration.value.bare }

/-- The program with nothing but positions in its labels. -/
def Program.bare (program : Program) : Program where
  task := ⟨program.task.label.bare, program.task.declarations.map Declaration.bare⟩
  body := program.body.bare

def Node.bare : Node → Node
  | .expr node => .expr node.bare
  | .stmt node => .stmt node.bare
  | .declaration node => .declaration node.bare
  | .task node => .task ⟨node.label.bare, node.declarations.map Declaration.bare⟩

@[simp] theorem Expr.kind_bare (expr : Expr) : expr.bare.kind = expr.kind := by
  cases expr <;> rfl

@[simp] theorem Stmt.kind_bare (stmt : Stmt) : stmt.bare.kind = stmt.kind := by
  cases stmt <;> simp [bare, kind]

@[simp] theorem Node.kind_bare (node : Node) : node.bare.kind = node.kind := by
  cases node <;> simp [bare, kind]

theorem Branches.ofArms?_bare (otherwise : Option Sequence) (arms : List (Expr × Sequence)) :
    ofArms? (otherwise.map Sequence.bare) (arms.map (Prod.map Expr.bare Sequence.bare)) =
      (ofArms? otherwise arms).map Branches.bare := by
  induction arms with
  | nil => rfl
  | cons arm rest ih =>
    cases rest with
    | nil => cases otherwise <;> simp [ofArms?, bare]
    | cons next rest =>
      rw [List.map_cons] at ih
      simp only [List.map_cons, ofArms?, ih, Option.map_map]
      congr 1

/-! ## Configurations without annotations -/

/-- The component without the properties that it has in the editor. -/
def Component.bare (component : Component) : Component :=
  { component with properties := none }

theorem Component.names_bare (components : List Component) :
    (components.map bare).map name = components.map name := by
  rw [List.map_map]
  rfl

def Roster.bare (roster : Roster) : Roster where
  components := roster.components.map Component.bare
  index := roster.index
  names_nodup := by
    rw [Component.names_bare]
    exact roster.names_nodup
  indexed := by
    rw [List.map_map]
    exact roster.indexed

def Configuration.bare (configuration : Configuration) : Configuration :=
  ⟨configuration.toRoster.bare, configuration.robot⟩

theorem Configuration.components_bare (configuration : Configuration) :
    configuration.bare.components = configuration.components.map Component.bare := rfl

theorem Configuration.index_bare (configuration : Configuration) :
    configuration.bare.index = configuration.index := rfl

/-! ## Making nodes -/

namespace Assemble
open Outcome (Image)

theorem expression_image (parent : Kind) (slot : String) (node : Node) :
    Image Expr.bare (expression parent slot node) (expression parent slot node.bare) := by
  cases node <;> simp [Image, expression, Node.bare, Node.kind, Except.map]

theorem statement_image (parent : Kind) (slot : String) (node : Node) :
    Image Stmt.bare (statement parent slot node) (statement parent slot node.bare) := by
  cases node <;> simp [Image, statement, Node.bare, Node.kind, Except.map]

theorem sequence_image (label : Label) (nodes : List Node) :
    Image Sequence.bare (sequence label nodes) (sequence label.bare (nodes.map Node.bare)) := by
  refine (Image.mapM (statement_image .stmtList "statements") nodes).bind fun statements => ?_
  rw [← Stmt.bareList_eq]
  exact .pure (Sequence.mk label statements)

theorem number_image (label : Label) (raw : String) :
    Image Node.bare (number label raw) (number label.bare raw) := by
  unfold number
  cases Numeral.ofString? raw <;> rfl

theorem var_image (label : Label) (name : String) (type : DataType) :
    Image Node.bare (var label name type) (var label.bare name type) :=
  .bind_same _ fun name => .bind_same _ fun type => .pure (Node.expr (.var label name type))

theorem binary_image (label : Label) (op : BinaryOp) (left right : Node) :
    Image Node.bare (binary label op left right) (binary label.bare op left.bare right.bare) :=
  (expression_image .binary "left" left).bind fun left =>
    (expression_image .binary "right" right).bind fun right =>
      .pure (Node.expr (.binary label op left right))

theorem unary_image (label : Label) (op : UnaryOp) (operand : Node) :
    Image Node.bare (unary label op operand) (unary label.bare op operand.bare) :=
  (expression_image .unary "expression" operand).bind fun operand =>
    .pure (Node.expr (.unary label op operand))

theorem sensor_image (label : Label) (device : Sensor) (port : String) :
    Image Node.bare (sensor label device port) (sensor label.bare device port) :=
  .bind_same _ fun port => .pure (Node.expr (.sensor label device port))

theorem timer_image (label : Label) (count : UInt8) :
    Image Node.bare (timer label count) (timer label.bare count) := by
  unfold timer
  split <;> rfl

theorem tone_image (label : Label) (port : String) (frequency duration : Node) :
    Image Node.bare (tone label port frequency duration)
      (tone label.bare port frequency.bare duration.bare) :=
  .bind_same _ fun port =>
    (expression_image .toneAction "frequency" frequency).bind fun frequency =>
      (expression_image .toneAction "duration" duration).bind fun duration =>
        .pure (Node.stmt (.tone label port frequency duration))

theorem motorOn_image (label : Label) (port : String) (power : Node) :
    Image Node.bare (motorOn label port power) (motorOn label.bare port power.bare) :=
  .bind_same _ fun port =>
    (expression_image .motorOnAction "power" power).bind fun power =>
      .pure (Node.stmt (.motorOn label port power))

theorem motorStop_image (label : Label) (port : String) :
    Image Node.bare (motorStop label port) (motorStop label.bare port) :=
  .bind_same _ fun port => .pure (Node.stmt (.motorStop label port))

theorem showText_image (label : Label) (port : String) (shown : Node) :
    Image Node.bare (showText label port shown) (showText label.bare port shown.bare) :=
  .bind_same _ fun port =>
    (expression_image .showTextAction "text" shown).bind fun shown =>
      .pure (Node.stmt (.showText label port shown))

theorem serialWrite_image (label : Label) (value : Node) :
    Image Node.bare (serialWrite label value) (serialWrite label.bare value.bare) :=
  (expression_image .serialWriteAction "value" value).bind fun value =>
    .pure (Node.stmt (.serialWrite label value))

theorem assign_image (label : Label) (name : String) (value : Node) :
    Image Node.bare (assign label name value) (assign label.bare name value.bare) :=
  .bind_same _ fun name =>
    (expression_image .assignStmt "value" value).bind fun value =>
      .pure (Node.stmt (.assign label name value))

theorem wait_image (label : Label) (time : Node) :
    Image Node.bare (wait label time) (wait label.bare time.bare) :=
  (expression_image .waitTime "time" time).bind fun time => .pure (Node.stmt (.wait label time))

theorem declaration_image (label : Label) (name : String) (type : DataType) (value : Node) :
    Image Declaration.bare (declaration label name type value)
      (declaration label.bare name type value.bare) :=
  .bind_same _ fun name => .bind_same _ fun type =>
    (expression_image .varDeclaration "value" value).bind fun value =>
      .pure (Declaration.mk label name type value)

theorem branch_image (label : Label) (conditions : List Node) (lists : List Sequence)
    (otherwise : Option Sequence) :
    Image Node.bare (branch label conditions lists otherwise)
      (branch label.bare (conditions.map Node.bare) (lists.map Sequence.bare)
        (otherwise.map Sequence.bare)) := by
  unfold branch
  simp only [List.length_map]
  split
  · rfl
  · refine (Image.mapM (expression_image .ifStmt "conditions") conditions).bind fun values => ?_
    rw [List.zip_map, Branches.ofArms?_bare]
    cases Branches.ofArms? otherwise (values.zip lists) with
    | none => rfl
    | some branches => exact .pure (Node.stmt (.branch label branches))

theorem loop_image (label : Label) (mode : LoopMode) (head : Option Node) (body : Sequence) :
    Image Node.bare (loop label mode head body) (loop label.bare mode (head.map Node.bare) body.bare) := by
  cases head with
  | none => cases mode <;> rfl
  | some node =>
    have head := expression_image .repeatStmt "expression" node
    cases mode with
    | forever => rfl
    | times => exact head.bind fun count => .pure (Node.stmt (.loop label (.times count) body))
    | during => exact head.bind fun condition => .pure (Node.stmt (.loop label (.during condition) body))
    | till => exact head.bind fun condition => .pure (Node.stmt (.loop label (.till condition) body))

end Assemble

/-! ## Drafts without annotations -/

namespace Draft

namespace Block

mutual

/-- The block with nothing that the editor keeps with it, inside as well. -/
def bare : Block → Block
  | number _ value => number {} value
  | boolean _ value => boolean {} value
  | text _ value => text {} value
  | var _ name type => var {} name type
  | binary _ op left right => binary {} op left.bare right.bare
  | unary _ op operand => unary {} op operand.bare
  | sensor _ device port => sensor {} device port
  | timer _ count => timer {} count
  | light _ color blink => light {} color blink
  | lightStatus _ status => lightStatus {} status
  | tone _ port frequency duration => tone {} port frequency.bare duration.bare
  | motorOn _ port power => motorOn {} port power.bare
  | motorStop _ port => motorStop {} port
  | showText _ port shown => showText {} port shown.bare
  | serialWrite _ value => serialWrite {} value.bare
  | list _ statements => list {} (bareAll statements)
  | assign _ name value => assign {} name value.bare
  | branch _ conditions lists otherwise =>
    branch {} (bareAll conditions) (bareLists lists) (bareOtherwise otherwise)
  | loop _ mode expression body => loop {} mode (bareExpression expression) (bareAll body)
  | flow _ way => flow {} way
  | wait _ time => wait {} time.bare

def bareAll : List Block → List Block
  | [] => []
  | block :: rest => block.bare :: bareAll rest

def bareLists : List (List Block) → List (List Block)
  | [] => []
  | blocks :: rest => bareAll blocks :: bareLists rest

def bareOtherwise : Option (List Block) → Option (List Block)
  | none => none
  | some blocks => some (bareAll blocks)

def bareExpression : Option Block → Option Block
  | none => none
  | some block => some block.bare

end

open Outcome (Image)

mutual

/-- A block without annotations is built to the node without them. -/
theorem build_image (position : Position) :
    ∀ block : Block, Image Node.bare (block.build position) (block.bare.build position)
  | number notes value => Assemble.number_image ⟨position, notes⟩ value
  | boolean _ _ => rfl
  | text _ _ => rfl
  | var notes name _ => .bind_same _ fun type => Assemble.var_image ⟨position, notes⟩ name type
  | binary notes _ left right =>
    .bind_same _ fun op => (build_image _ left).bind fun left => (build_image _ right).bind fun right =>
      Assemble.binary_image ⟨position, notes⟩ op left right
  | unary notes _ operand =>
    .bind_same _ fun op => (build_image _ operand).bind fun operand =>
      Assemble.unary_image ⟨position, notes⟩ op operand
  | sensor notes device port => Assemble.sensor_image ⟨position, notes⟩ device port
  | timer notes count => Assemble.timer_image ⟨position, notes⟩ count
  | light notes _ blink =>
    .bind_same _ fun color => .pure (Node.stmt (.light ⟨position, notes⟩ color blink))
  | lightStatus notes _ =>
    .bind_same _ fun status => .pure (Node.stmt (.lightStatus ⟨position, notes⟩ status))
  | tone notes port frequency duration =>
    (build_image _ frequency).bind fun frequency => (build_image _ duration).bind fun duration =>
      Assemble.tone_image ⟨position, notes⟩ port frequency duration
  | motorOn notes port power =>
    (build_image _ power).bind fun power => Assemble.motorOn_image ⟨position, notes⟩ port power
  | motorStop notes port => Assemble.motorStop_image ⟨position, notes⟩ port
  | showText notes port shown =>
    (build_image _ shown).bind fun shown => Assemble.showText_image ⟨position, notes⟩ port shown
  | serialWrite notes value =>
    (build_image _ value).bind fun value => Assemble.serialWrite_image ⟨position, notes⟩ value
  | list notes statements =>
    (buildAll_image _ _ statements).bind fun nodes =>
      (Assemble.sequence_image ⟨position, notes⟩ nodes).bind fun body => .pure (Node.stmt (.block body))
  | assign notes name value =>
    (build_image _ value).bind fun value => Assemble.assign_image ⟨position, notes⟩ name value
  | branch notes conditions lists otherwise =>
    (buildAll_image _ _ conditions).bind fun conditions => (buildLists_image _ _ lists).bind fun lists =>
      (buildOtherwise_image _ otherwise).bind fun otherwise =>
        Assemble.branch_image ⟨position, notes⟩ conditions lists otherwise
  | loop notes _ expression body =>
    .bind_same _ fun mode => (buildExpression_image _ expression).bind fun head =>
      (buildAll_image _ _ body).bind fun nodes =>
        (Assemble.sequence_image ⟨1 :: position, {}⟩ nodes).bind fun body =>
          Assemble.loop_image ⟨position, notes⟩ mode head body
  | flow notes _ => .bind_same _ fun way => .pure (Node.stmt (.flow ⟨position, notes⟩ way))
  | wait notes time => (build_image _ time).bind fun time => Assemble.wait_image ⟨position, notes⟩ time

theorem buildAll_image (parent : Position) (step : Nat) :
    ∀ blocks, Image (List.map Node.bare) (buildAll parent step blocks)
      (buildAll parent step (bareAll blocks))
  | [] => rfl
  | block :: rest =>
    (build_image _ block).bind fun node => (buildAll_image _ _ rest).bind fun nodes => .pure (node :: nodes)

theorem buildLists_image (parent : Position) (step : Nat) :
    ∀ lists, Image (List.map Sequence.bare) (buildLists parent step lists)
      (buildLists parent step (bareLists lists))
  | [] => rfl
  | blocks :: rest =>
    (buildAll_image _ _ blocks).bind fun nodes =>
      (Assemble.sequence_image ⟨step :: parent, {}⟩ nodes).bind fun list =>
        (buildLists_image _ _ rest).bind fun lists => .pure (list :: lists)

theorem buildOtherwise_image (position : Position) :
    ∀ otherwise, Image (Option.map Sequence.bare) (buildOtherwise position otherwise)
      (buildOtherwise position (bareOtherwise otherwise))
  | none => rfl
  | some blocks =>
    (buildAll_image _ _ blocks).bind fun nodes =>
      (Assemble.sequence_image ⟨position, {}⟩ nodes).bind fun list => .pure (some list)

theorem buildExpression_image (position : Position) :
    ∀ expression, Image (Option.map Node.bare) (buildExpression position expression)
      (buildExpression position (bareExpression expression))
  | none => rfl
  | some block => (build_image _ block).bind fun node => .pure (some node)

end

end Block

/-- The variable without annotations. -/
def Variable.bare (draft : Variable) : Variable :=
  { draft with notes := {}, value := draft.value.bare }

/-- The draft with no annotations on any block or variable. Drafts that differ in annotations
    only are the same without them. -/
def Program.bare (draft : Program) : Program where
  declarations := draft.declarations.map Variable.bare
  body := Block.bareAll draft.body

open Outcome (Image)

theorem Variable.build_image (position : Position) (draft : Variable) :
    Image Declaration.bare (draft.build position) (draft.bare.build position) :=
  .bind_same _ fun type => (Block.build_image _ draft.value).bind fun value =>
    Assemble.declaration_image ⟨position, draft.notes⟩ draft.name type value

theorem buildVariables_image (parent : Position) (step : Nat) (drafts : List Variable) :
    Image (List.map Declaration.bare) (buildVariables parent step drafts)
      (buildVariables parent step (drafts.map Variable.bare)) := by
  induction drafts generalizing step with
  | nil => rfl
  | cons draft rest ih =>
    exact (draft.build_image _).bind fun declaration => (ih _).bind fun declarations =>
      .pure (declaration :: declarations)

/-- A draft without annotations is built to the program without them, or rejected for the same
    reason. -/
theorem Program.build_bare (draft : Program) :
    draft.bare.build = draft.build.map BlockSketch.Program.bare :=
  (buildVariables_image _ _ draft.declarations).bind fun declarations =>
    (Block.buildAll_image _ _ draft.body).bind fun nodes =>
      (Assemble.sequence_image ⟨[1], {}⟩ nodes).bind fun body =>
        .pure (BlockSketch.Program.mk ⟨⟨[0], {}⟩, declarations⟩ body)

/-- The draft of a component without its properties. -/
def Component.bare (draft : Component) : Component :=
  { draft with properties := none }

/-- The draft with no properties at its components. -/
def Configuration.bare (draft : Configuration) : Configuration :=
  { draft with components := draft.components.map Component.bare }

theorem Component.build_image (draft : Component) :
    Image BlockSketch.Component.bare draft.build draft.bare.build := by
  unfold build
  cases named : Identifier.ofString? draft.name with
  | none => simp only [bare, named]; rfl
  | some name =>
    simp only [bare, named]
    exact .bind_same _ fun wiring => .pure _

end Draft

open Outcome (Image)

theorem Roster.extend_image (roster : Roster) (components : List Component) :
    Image Roster.bare (roster.extend components) (roster.bare.extend (components.map Component.bare)) := by
  induction components generalizing roster with
  | nil => rfl
  | cons component rest ih =>
    rw [List.map_cons, extend, extend]
    by_cases new : roster.index.lookup component.name.text = none
    · have newToo : roster.bare.index.lookup component.bare.name.text = none := new
      rw [dif_pos new, dif_pos newToo]
      have pushed : roster.bare.push component.bare newToo = (roster.push component new).bare := by
        simp [push, bare, Component.bare]
      rw [pushed]
      exact ih _
    · have knownToo : ¬roster.bare.index.lookup component.bare.name.text = none := new
      rw [dif_neg new, dif_neg knownToo]
      rfl

/-- The same for configurations. -/
theorem Draft.Configuration.build_bare (draft : Draft.Configuration) :
    draft.bare.build = draft.build.map BlockSketch.Configuration.bare :=
  (Image.mapM Component.build_image draft.components).bind fun components =>
    (Roster.empty.extend_image components).bind fun roster =>
      .pure (BlockSketch.Configuration.mk roster draft.robot)

end BlockSketch
