import BlockSketch.Proofs.FirstError
import BlockSketch.Proofs.Mirror

/-!
The rules that a draft breaks, listed in the order in which building meets them: the variables
before the body, and of a block its word first, then what the blocks inside it break, in the
order of its fields, and last what the block itself breaks. Building fails with the first of
them, and without any it gives the program that mirrors the draft (`Program.build_yields`).
-/
namespace BlockSketch

/-! ## Single rules -/

/-- Whether a node of the kind can have the role. -/
def ChildRole.admits : ChildRole → Kind → Bool
  | .expression, kind => kind.isExpression
  | .statement, kind => kind.isStatement

/-- No kind has both roles. -/
theorem Kind.isStatement_eq_false {kind : Kind} (isExpression : kind.isExpression = true) :
    kind.isStatement = false := by
  revert isExpression
  cases kind <;> decide

namespace Draft

/-- The value that a word names, if it is there and names one. -/
def named? {α : Type} [Vocabulary α] (text : Option String) : Option α :=
  text.bind Vocabulary.ofWord?

/-- A word has to be there and to name a value. -/
def wordErrors (α : Type) [Vocabulary α] (kind : Kind) (field : String) : Option String → List DraftError
  | none => [.missingField kind field]
  | some text =>
    match (Vocabulary.ofWord? text : Option α) with
    | some _ => []
    | none => [.unknownWord (Vocabulary.title α) text]

def nameErrors (kind : Kind) (name : String) : List DraftError :=
  if isIdentifier name then [] else [.invalidIdentifier kind name]

/-- A variable has a value. -/
def voidErrors (kind : Kind) (name : String) : Option DataType → List DraftError
  | some .void => [.malformed kind (.voidVariable name)]
  | _ => []

def numberErrors (raw : String) : List DraftError :=
  if (Double.read? (Text.trim raw)).isSome then [] else [.invalidNumber (Text.trim raw)]

def timerErrors (number : UInt8) : List DraftError :=
  if number = 0 then [.malformed .timerSensing .timerZero] else []

/-- A child has to fit its slot. -/
def slotErrors (role : ChildRole) (parent : Kind) (slot : String) (child : Block) : List DraftError :=
  if role.admits child.kind then [] else [.invalidChild parent slot role child.kind]

/-- A list holds statements. -/
def listErrors (statements : List Block) : List DraftError :=
  statements.flatMap (slotErrors .statement .stmtList "statements")

/-- A choice has a condition, a list for each condition, and values as conditions. -/
def armErrors (conditions : List Block) (lists : List (List Block)) : List DraftError :=
  (if 0 < conditions.length ∧ conditions.length = lists.length then []
    else [.malformed .ifStmt (.unevenArms conditions.length lists.length)]) ++
    conditions.flatMap (slotErrors .expression .ifStmt "conditions")

/-- A repetition has an expression unless it goes on forever. -/
def headErrors : Option LoopMode → Option Block → List DraftError
  | none, _ => []
  | some .forever, none => []
  | some .forever, some _ => [.malformed .repeatStmt .needlessExpression]
  | some mode, none => [.malformed .repeatStmt (.missingExpression mode)]
  | some _, some head => slotErrors .expression .repeatStmt "expression" head

/-! ## All rules -/

namespace Block

mutual

/-- What a block breaks, with what the blocks inside it break. -/
def violations : Block → List DraftError
  | number _ value => numberErrors value
  | boolean _ _ => []
  | text _ _ => []
  | var _ name type =>
    wordErrors DataType .var "type" type ++ nameErrors .var name ++ voidErrors .var name (named? type)
  | binary _ op left right =>
    wordErrors BinaryOp .binary "op" op ++ left.violations ++ right.violations ++
      slotErrors .expression .binary "left" left ++ slotErrors .expression .binary "right" right
  | unary _ op operand =>
    wordErrors UnaryOp .unary "op" op ++ operand.violations ++ slotErrors .expression .unary "expression" operand
  | sensor _ device port => nameErrors device.kind port
  | timer _ count => timerErrors count
  | light _ color _ => wordErrors LedColor .lightAction "color" color
  | lightStatus _ status => wordErrors LightStatus .lightStatusAction "status" status
  | tone _ port frequency duration =>
    frequency.violations ++ duration.violations ++ nameErrors .toneAction port ++
      slotErrors .expression .toneAction "frequency" frequency ++
      slotErrors .expression .toneAction "duration" duration
  | motorOn _ port power =>
    power.violations ++ nameErrors .motorOnAction port ++ slotErrors .expression .motorOnAction "power" power
  | motorStop _ port => nameErrors .motorStopAction port
  | showText _ port shown =>
    shown.violations ++ nameErrors .showTextAction port ++ slotErrors .expression .showTextAction "text" shown
  | serialWrite _ value => value.violations ++ slotErrors .expression .serialWriteAction "value" value
  | list _ statements => violationsAll statements ++ listErrors statements
  | assign _ name value =>
    value.violations ++ nameErrors .assignStmt name ++ slotErrors .expression .assignStmt "value" value
  | branch _ conditions lists otherwise =>
    violationsAll conditions ++ violationsLists lists ++ violationsOtherwise otherwise ++ armErrors conditions lists
  | loop _ mode expression body =>
    wordErrors LoopMode .repeatStmt "mode" mode ++ violationsExpression expression ++
      violationsAll body ++ listErrors body ++ headErrors (named? mode) expression
  | flow _ way => wordErrors Flow .flowControl "flow" way
  | wait _ time => time.violations ++ slotErrors .expression .waitTime "time" time

def violationsAll : List Block → List DraftError
  | [] => []
  | block :: rest => block.violations ++ violationsAll rest

def violationsLists : List (List Block) → List DraftError
  | [] => []
  | blocks :: rest => violationsAll blocks ++ listErrors blocks ++ violationsLists rest

def violationsOtherwise : Option (List Block) → List DraftError
  | none => []
  | some blocks => violationsAll blocks ++ listErrors blocks

def violationsExpression : Option Block → List DraftError
  | none => []
  | some block => block.violations

end

end Block

def Variable.violations (draft : Variable) : List DraftError :=
  wordErrors DataType .varDeclaration "type" draft.type ++ draft.value.violations ++
    nameErrors .varDeclaration draft.name ++ voidErrors .varDeclaration draft.name (named? draft.type) ++
    slotErrors .expression .varDeclaration "value" draft.value

/-- All that a draft breaks. -/
def Program.violations (draft : Program) : List DraftError :=
  draft.declarations.flatMap Variable.violations ++ Block.violationsAll draft.body ++ listErrors draft.body

/-! ## Checking single rules -/

open Outcome (Yields)

theorem text_eq_of_named? {α : Type} [Vocabulary α] {text : Option String} {value : α}
    (names : named? text = some value) : text = some (Vocabulary.word value) := by
  cases text with
  | none => cases names
  | some text => rw [Vocabulary.word_of_ofWord? names]

theorem word_yields {α : Type} [Vocabulary α] (kind : Kind) (field : String) (text : Option String) :
    Yields (word kind field text : Except DraftError α) (wordErrors α kind field text)
      (fun value => named? text = some value) := by
  cases text with
  | none => exact .error _ [] _
  | some text =>
    simp only [word, Vocabulary.read, wordErrors]
    cases names : (Vocabulary.ofWord? text : Option α) with
    | none => exact .error _ [] _
    | some value => exact .ok names

end Draft

open Draft
open Outcome (Yields)

theorem map_eq_map_of_forall₂ {α β γ : Type} {f : α → γ} {g : β → γ} {items : List α} {others : List β}
    (same : List.Forall₂ (fun item other => f item = g other) items others) : items.map f = others.map g := by
  rw [← List.forall₂_eq_eq_eq, List.forall₂_map_left_iff, List.forall₂_map_right_iff]
  exact same

namespace Assemble
variable {label : Label} {node : Node} {block : Block}

theorem identifier_yields (kind : Kind) (name : String) :
    Yields (identifier kind name) (nameErrors kind name) (·.text = name) := by
  unfold identifier nameErrors Identifier.ofString?
  by_cases valid : isIdentifier name = true
  · rw [dif_pos valid, if_pos valid]
    exact .ok rfl
  · rw [dif_neg valid, if_neg valid]
    exact .error _ [] _

theorem valueType_yields (kind : Kind) (name : String) (type : DataType) :
    Yields (valueType kind name type) (voidErrors kind name (some type)) (type = .value ·) := by
  cases type with
  | value type => exact .ok rfl
  | void => exact .error _ [] _

theorem expression_yields (parent : Kind) (slot : String) (mirrors : node.Mirrors block) :
    Yields (expression parent slot node) (slotErrors .expression parent slot block) (·.draft = block.trimmed) := by
  unfold slotErrors
  -- the rule looks at the kind of the block, and the check at that of the node
  rw [← mirrors.kind_eq]
  cases node with
  | expr part =>
    have fits : ChildRole.expression.admits part.kind = true := part.kind_isExpression
    rw [Node.kind, if_pos fits]
    exact .ok mirrors
  | stmt part =>
    have misfit : ¬ChildRole.expression.admits part.kind = true := fun fits =>
      Bool.false_ne_true ((Kind.isStatement_eq_false fits).symm.trans part.kind_isStatement)
    rw [Node.kind, if_neg misfit]
    exact .error _ [] _
  | declaration part => cases mirrors
  | task part => cases mirrors

theorem statement_yields (parent : Kind) (slot : String) (mirrors : node.Mirrors block) :
    Yields (statement parent slot node) (slotErrors .statement parent slot block) (·.draft = block.trimmed) := by
  unfold slotErrors
  rw [← mirrors.kind_eq]
  cases node with
  | expr part =>
    have misfit : ¬ChildRole.statement.admits part.kind = true := fun fits =>
      Bool.false_ne_true ((Kind.isStatement_eq_false part.kind_isExpression).symm.trans fits)
    rw [Node.kind, if_neg misfit]
    exact .error _ [] _
  | stmt part =>
    have fits : ChildRole.statement.admits part.kind = true := part.kind_isStatement
    rw [Node.kind, if_pos fits]
    exact .ok mirrors
  | declaration part => cases mirrors
  | task part => cases mirrors

/-! ## Making nodes -/

theorem number_yields (label : Label) (raw : String) :
    Yields (number label raw) (numberErrors raw) (·.Mirrors (.number label.notes raw)) := by
  unfold number numberErrors
  cases reads : Double.read? (Text.trim raw) with
  | none =>
    rw [Numeral.ofString?_eq_none reads]
    exact .error _ [] _
  | some value =>
    rw [Numeral.ofString?_of_reads reads]
    exact .ok rfl

theorem var_yields (label : Label) (name : String) {text : Option String} {type : DataType}
    (isType : named? text = some type) :
    Yields (var label name type) (nameErrors .var name ++ voidErrors .var name (named? text))
      (·.Mirrors (.var label.notes name text)) := by
  obtain rfl := text_eq_of_named? isType
  rw [isType]
  refine (identifier_yields .var name).bind fun identifier isName => ?_
  refine (valueType_yields .var name type).bind_ok fun value isValue => ⟨_, rfl, ?_⟩
  subst isName isValue
  rfl

theorem binary_yields (label : Label) {text : Option String} {op : BinaryOp} {left right : Node}
    {first second : Block} (isOp : named? text = some op) (showsLeft : left.Mirrors first)
    (showsRight : right.Mirrors second) :
    Yields (binary label op left right)
      (slotErrors .expression .binary "left" first ++ slotErrors .expression .binary "right" second)
      (·.Mirrors (.binary label.notes text first second)) := by
  obtain rfl := text_eq_of_named? isOp
  refine (expression_yields .binary "left" showsLeft).bind fun left isLeft => ?_
  refine (expression_yields .binary "right" showsRight).bind_ok fun right isRight => ⟨_, rfl, ?_⟩
  simp only [Node.Mirrors, Expr.draft, isLeft, isRight, Block.trimmed]

theorem unary_yields (label : Label) {text : Option String} {op : UnaryOp} (isOp : named? text = some op)
    (mirrors : node.Mirrors block) :
    Yields (unary label op node) (slotErrors .expression .unary "expression" block)
      (·.Mirrors (.unary label.notes text block)) := by
  obtain rfl := text_eq_of_named? isOp
  refine (expression_yields .unary "expression" mirrors).bind_ok fun operand isOperand => ⟨_, rfl, ?_⟩
  simp only [Node.Mirrors, Expr.draft, isOperand, Block.trimmed]

theorem sensor_yields (label : Label) (device : Sensor) (port : String) :
    Yields (sensor label device port) (nameErrors device.kind port)
      (·.Mirrors (.sensor label.notes device port)) := by
  refine (identifier_yields device.kind port).bind_ok fun identifier isName => ⟨_, rfl, ?_⟩
  subst isName
  rfl

theorem timer_yields (label : Label) (count : UInt8) :
    Yields (timer label count) (timerErrors count) (·.Mirrors (.timer label.notes count)) := by
  unfold timer timerErrors
  by_cases zero : count = 0
  · rw [dif_neg (not_not.mpr zero), if_pos zero]
    exact .error _ [] _
  · rw [dif_pos zero, if_neg zero]
    exact .ok rfl

theorem tone_yields (label : Label) (port : String) {frequency duration : Node} {first second : Block}
    (showsFrequency : frequency.Mirrors first) (showsDuration : duration.Mirrors second) :
    Yields (tone label port frequency duration)
      (nameErrors .toneAction port ++ (slotErrors .expression .toneAction "frequency" first ++
        slotErrors .expression .toneAction "duration" second))
      (·.Mirrors (.tone label.notes port first second)) := by
  refine (identifier_yields .toneAction port).bind fun identifier isName => ?_
  refine (expression_yields .toneAction "frequency" showsFrequency).bind fun frequency isFrequency => ?_
  refine (expression_yields .toneAction "duration" showsDuration).bind_ok fun duration isDuration => ⟨_, rfl, ?_⟩
  simp only [Node.Mirrors, Stmt.draft, isName, isFrequency, isDuration, Block.trimmed]

theorem motorOn_yields (label : Label) (port : String) (mirrors : node.Mirrors block) :
    Yields (motorOn label port node)
      (nameErrors .motorOnAction port ++ slotErrors .expression .motorOnAction "power" block)
      (·.Mirrors (.motorOn label.notes port block)) := by
  refine (identifier_yields .motorOnAction port).bind fun identifier isName => ?_
  refine (expression_yields .motorOnAction "power" mirrors).bind_ok fun power isPower => ⟨_, rfl, ?_⟩
  simp only [Node.Mirrors, Stmt.draft, isName, isPower, Block.trimmed]

theorem motorStop_yields (label : Label) (port : String) :
    Yields (motorStop label port) (nameErrors .motorStopAction port) (·.Mirrors (.motorStop label.notes port)) := by
  refine (identifier_yields .motorStopAction port).bind_ok fun identifier isName => ⟨_, rfl, ?_⟩
  simp only [Node.Mirrors, Stmt.draft, isName, Block.trimmed]

theorem showText_yields (label : Label) (port : String) (mirrors : node.Mirrors block) :
    Yields (showText label port node)
      (nameErrors .showTextAction port ++ slotErrors .expression .showTextAction "text" block)
      (·.Mirrors (.showText label.notes port block)) := by
  refine (identifier_yields .showTextAction port).bind fun identifier isName => ?_
  refine (expression_yields .showTextAction "text" mirrors).bind_ok fun shown isShown => ⟨_, rfl, ?_⟩
  simp only [Node.Mirrors, Stmt.draft, isName, isShown, Block.trimmed]

theorem serialWrite_yields (label : Label) (mirrors : node.Mirrors block) :
    Yields (serialWrite label node) (slotErrors .expression .serialWriteAction "value" block)
      (·.Mirrors (.serialWrite label.notes block)) := by
  refine (expression_yields .serialWriteAction "value" mirrors).bind_ok fun value isValue => ⟨_, rfl, ?_⟩
  simp only [Node.Mirrors, Stmt.draft, isValue, Block.trimmed]

theorem assign_yields (label : Label) (name : String) (mirrors : node.Mirrors block) :
    Yields (assign label name node)
      (nameErrors .assignStmt name ++ slotErrors .expression .assignStmt "value" block)
      (·.Mirrors (.assign label.notes name block)) := by
  refine (identifier_yields .assignStmt name).bind fun identifier isName => ?_
  refine (expression_yields .assignStmt "value" mirrors).bind_ok fun value isValue => ⟨_, rfl, ?_⟩
  simp only [Node.Mirrors, Stmt.draft, isName, isValue, Block.trimmed]

theorem wait_yields (label : Label) (mirrors : node.Mirrors block) :
    Yields (wait label node) (slotErrors .expression .waitTime "time" block)
      (·.Mirrors (.wait label.notes block)) := by
  refine (expression_yields .waitTime "time" mirrors).bind_ok fun time isTime => ⟨_, rfl, ?_⟩
  simp only [Node.Mirrors, Stmt.draft, isTime, Block.trimmed]

theorem sequence_yields (label : Label) {nodes : List Node} {blocks : List Block}
    (mirrors : List.Forall₂ Node.Mirrors nodes blocks) :
    Yields (sequence label nodes) (listErrors blocks)
      (fun body => body.label = label ∧ body.drafts = Block.trimmedAll blocks) := by
  have each := Yields.mapM mirrors fun _ _ shown => statement_yields .stmtList "statements" shown
  refine each.bind_ok fun statements made => ⟨_, rfl, rfl, ?_⟩
  rw [Sequence.drafts, Stmt.drafts_eq, Block.trimmedAll_eq]
  exact map_eq_map_of_forall₂ made

/-- The conditions of a choice and its lists make the arms. -/
theorem branch_yields (label : Label) {conditions : List Node} {lists : List Sequence} {otherwise : Option Sequence}
    {blocks : List Block} {drafts : List (List Block)} (mirrors : List.Forall₂ Node.Mirrors conditions blocks)
    (areLists : lists.map Sequence.drafts = Block.trimmedLists drafts)
    {last : Option (List Block)} (isLast : otherwise.map Sequence.drafts = Block.trimmedOtherwise last) :
    Yields (branch label conditions lists otherwise) (armErrors blocks drafts)
      (·.Mirrors (.branch label.notes blocks drafts last)) := by
  have sameLength : conditions.length = blocks.length := mirrors.length_eq
  have sameLists : lists.length = drafts.length := by
    rw [← List.length_map Sequence.drafts, areLists, Block.trimmedLists_eq, List.length_map]
  unfold branch armErrors
  dsimp only
  rw [sameLength, sameLists]
  by_cases even : blocks.length = drafts.length
  · rw [if_neg (by simp [even])]
    have values := Yields.mapM mirrors fun _ _ shown => expression_yields .ifStmt "conditions" shown
    by_cases filled : 0 < blocks.length
    · rw [if_pos ⟨filled, even⟩, List.nil_append]
      refine values.bind_ok fun expressions made => ?_
      have some : expressions ≠ [] := by rwa [← List.length_pos_iff, made.length_eq]
      have paired : expressions.length = lists.length := by rw [made.length_eq, even, sameLists]
      obtain ⟨branches, joined, firsts, seconds, third⟩ := Branches.exists_of_zip otherwise some paired
      refine ⟨.stmt (.branch label branches), by rw [joined]; rfl, ?_⟩
      simp only [Node.Mirrors, Stmt.draft, firsts, map_eq_map_of_forall₂ made, seconds, areLists, third, isLast,
        Block.trimmed, Block.trimmedAll_eq]
    · -- a choice without arms passes the test of the numbers, and fails for want of a first arm
      obtain rfl := List.length_eq_zero_iff.mp (Nat.eq_zero_of_not_pos filled)
      cases mirrors
      exact .error _ _ _
  · rw [if_pos (by simpa using even), if_neg (fun both => even both.2)]
    exact .error _ _ _

theorem loop_yields (label : Label) {text : Option String} {mode : LoopMode} {head : Option Node}
    {expression : Option Block} (isMode : named? text = some mode) (mirrors : Option.Rel Node.Mirrors head expression)
    {body : Sequence} {blocks : List Block} (isBody : body.drafts = Block.trimmedAll blocks) :
    Yields (loop label mode head body) (headErrors (named? text) expression)
      (·.Mirrors (.loop label.notes text expression blocks)) := by
  obtain rfl := text_eq_of_named? isMode
  rw [isMode]
  cases mirrors with
  | none =>
    cases mode with
    | forever => exact .ok (by simp only [Node.Mirrors, Stmt.draft, isBody, Block.trimmed]; rfl)
    | _ => exact .error _ [] _
  | some mirrors =>
    have head := expression_yields .repeatStmt "expression" mirrors
    cases mode with
    | forever => exact .error _ [] _
    | _ =>
      refine head.bind_ok fun expression isExpression => ⟨_, rfl, ?_⟩
      simp only [Node.Mirrors, Stmt.draft, LoopHead.mode, LoopHead.expression?, Option.map_some, isExpression,
        isBody, Block.trimmed, Block.trimmedExpression]

theorem declaration_yields (label : Label) (name : String) {text : Option String} {type : DataType}
    (isType : named? text = some type) (mirrors : node.Mirrors block) :
    Yields (declaration label name type node)
      (nameErrors .varDeclaration name ++ (voidErrors .varDeclaration name (named? text) ++
        slotErrors .expression .varDeclaration "value" block))
      (·.draft = Variable.trimmed ⟨label.notes, name, text, block⟩) := by
  obtain rfl := text_eq_of_named? isType
  rw [isType]
  refine (identifier_yields .varDeclaration name).bind fun identifier isName => ?_
  refine (valueType_yields .varDeclaration name type).bind fun found isValue => ?_
  refine (expression_yields .varDeclaration "value" mirrors).bind_ok fun value isDraft => ⟨_, rfl, ?_⟩
  subst isName isValue
  simp only [Declaration.draft, Variable.trimmed, isDraft]
  rfl

end Assemble

/-! ## Building -/

namespace Draft

namespace Block
open Assemble

mutual

/-- Building a block fails with the first rule that is broken in it, and if there is none it
    gives the node that mirrors the block. -/
theorem build_yields (position : Position) : ∀ block : Block,
    Yields (block.build position) block.violations (·.Mirrors block)
  | number notes value => number_yields ⟨position, notes⟩ value
  | boolean _ _ => .ok rfl
  | text _ _ => .ok rfl
  | var notes name type => by
    rw [build, violations, List.append_assoc]
    exact (word_yields .var "type" type).bind fun _ isType => var_yields ⟨position, notes⟩ name isType
  | binary notes op left right => by
    rw [build, violations]
    simp only [List.append_assoc]
    exact (word_yields .binary "op" op).bind fun _ isOp => (build_yields _ left).bind fun _ isLeft =>
      (build_yields _ right).bind fun _ isRight => binary_yields ⟨position, notes⟩ isOp isLeft isRight
  | unary notes op operand => by
    rw [build, violations, List.append_assoc]
    exact (word_yields .unary "op" op).bind fun _ isOp => (build_yields _ operand).bind fun _ isOperand =>
      unary_yields ⟨position, notes⟩ isOp isOperand
  | sensor notes device port => sensor_yields ⟨position, notes⟩ device port
  | timer notes count => timer_yields ⟨position, notes⟩ count
  | light notes color blink => by
    rw [build, violations]
    exact (word_yields .lightAction "color" color).bind_ok fun _ isColor =>
      ⟨_, rfl, by rw [text_eq_of_named? isColor]; rfl⟩
  | lightStatus notes status => by
    rw [build, violations]
    exact (word_yields .lightStatusAction "status" status).bind_ok fun _ isStatus =>
      ⟨_, rfl, by rw [text_eq_of_named? isStatus]; rfl⟩
  | tone notes port frequency duration => by
    rw [build, violations]
    simp only [List.append_assoc]
    exact (build_yields _ frequency).bind fun _ isFrequency => (build_yields _ duration).bind fun _ isDuration =>
      tone_yields ⟨position, notes⟩ port isFrequency isDuration
  | motorOn notes port power => by
    rw [build, violations, List.append_assoc]
    exact (build_yields _ power).bind fun _ isPower => motorOn_yields ⟨position, notes⟩ port isPower
  | motorStop notes port => motorStop_yields ⟨position, notes⟩ port
  | showText notes port shown => by
    rw [build, violations, List.append_assoc]
    exact (build_yields _ shown).bind fun _ isShown => showText_yields ⟨position, notes⟩ port isShown
  | serialWrite notes value => by
    rw [build, violations]
    exact (build_yields _ value).bind fun _ isValue => serialWrite_yields ⟨position, notes⟩ isValue
  | list notes statements => by
    rw [build, violations]
    refine (buildAll_yields _ _ statements).bind fun _ mirrors => ?_
    refine (sequence_yields ⟨position, notes⟩ mirrors).bind_ok fun body made => ⟨_, rfl, ?_⟩
    simp only [Node.Mirrors, Stmt.draft, made, trimmed]
  | assign notes name value => by
    rw [build, violations, List.append_assoc]
    exact (build_yields _ value).bind fun _ isValue => assign_yields ⟨position, notes⟩ name isValue
  | branch notes conditions lists otherwise => by
    rw [build, violations]
    simp only [List.append_assoc]
    exact (buildAll_yields _ _ conditions).bind fun _ areConditions => (buildLists_yields _ _ lists).bind
      fun _ areLists => (buildOtherwise_yields _ otherwise).bind fun _ isOtherwise =>
        branch_yields ⟨position, notes⟩ areConditions areLists isOtherwise
  | loop notes mode expression body => by
    rw [build, violations]
    simp only [List.append_assoc]
    exact (word_yields .repeatStmt "mode" mode).bind fun _ isMode =>
      (buildExpression_yields _ expression).bind fun _ isExpression =>
        (buildAll_yields _ _ body).bind fun _ mirrors => (sequence_yields _ mirrors).bind fun _ made =>
          loop_yields ⟨position, notes⟩ isMode isExpression made.2
  | flow notes way => by
    rw [build, violations]
    exact (word_yields .flowControl "flow" way).bind_ok fun _ isWay =>
      ⟨_, rfl, by rw [text_eq_of_named? isWay]; rfl⟩
  | wait notes time => by
    rw [build, violations]
    exact (build_yields _ time).bind fun _ isTime => wait_yields ⟨position, notes⟩ isTime

theorem buildAll_yields (parent : Position) (step : Nat) : ∀ blocks : List Block,
    Yields (buildAll parent step blocks) (violationsAll blocks) (List.Forall₂ Node.Mirrors · blocks)
  | [] => .ok .nil
  | block :: rest => by
    rw [buildAll, violationsAll]
    exact (build_yields _ block).bind fun _ first => (buildAll_yields parent (step + 1) rest).bind_ok
      fun _ others => ⟨_, rfl, .cons first others⟩

theorem buildLists_yields (parent : Position) (step : Nat) : ∀ lists : List (List Block),
    Yields (buildLists parent step lists) (violationsLists lists) (·.map Sequence.drafts = trimmedLists lists)
  | [] => .ok rfl
  | blocks :: rest => by
    rw [buildLists, violationsLists, List.append_assoc]
    refine (buildAll_yields _ _ blocks).bind fun _ mirrors => (sequence_yields _ mirrors).bind fun list made =>
      (buildLists_yields parent (step + 1) rest).bind_ok fun others areLists => ⟨_, rfl, ?_⟩
    rw [List.map_cons, made.2, areLists, trimmedLists]

theorem buildOtherwise_yields (position : Position) : ∀ otherwise : Option (List Block),
    Yields (buildOtherwise position otherwise) (violationsOtherwise otherwise)
      (·.map Sequence.drafts = trimmedOtherwise otherwise)
  | none => .ok rfl
  | some blocks => by
    rw [buildOtherwise, violationsOtherwise]
    refine (buildAll_yields _ _ blocks).bind fun _ mirrors =>
      (sequence_yields _ mirrors).bind_ok fun list made => ⟨_, rfl, ?_⟩
    rw [Option.map_some, made.2, trimmedOtherwise]

theorem buildExpression_yields (position : Position) : ∀ expression : Option Block,
    Yields (buildExpression position expression) (violationsExpression expression)
      (Option.Rel Node.Mirrors · expression)
  | none => .ok .none
  | some block => by
    rw [buildExpression, violationsExpression]
    exact (build_yields position block).bind_ok fun _ mirrors => ⟨_, rfl, .some mirrors⟩

end

end Block

theorem Variable.build_yields (position : Position) (draft : Variable) :
    Yields (draft.build position) draft.violations (·.draft = draft.trimmed) := by
  rw [build, violations]
  simp only [List.append_assoc]
  exact (word_yields .varDeclaration "type" draft.type).bind fun _ isType =>
    (draft.value.build_yields _).bind fun _ mirrors =>
      Assemble.declaration_yields ⟨position, draft.notes⟩ draft.name isType mirrors

theorem buildVariables_yields (parent : Position) (step : Nat) (drafts : List Variable) :
    Yields (buildVariables parent step drafts) (drafts.flatMap Variable.violations)
      (·.map Declaration.draft = drafts.map Variable.trimmed) := by
  induction drafts generalizing step with
  | nil => exact .ok rfl
  | cons draft rest ih =>
    rw [buildVariables, List.flatMap_cons]
    refine (draft.build_yields _).bind fun declaration first => (ih (step + 1)).bind_ok fun others rest =>
      ⟨_, rfl, ?_⟩
    rw [List.map_cons, List.map_cons, first, rest]

/-- Building fails with the first rule that the draft breaks, and if there is none it gives the
    program that mirrors the draft. -/
theorem Program.build_yields (draft : Program) :
    Yields draft.build draft.violations (·.draft = draft.trimmed) := by
  rw [build, violations, List.append_assoc]
  refine (buildVariables_yields _ _ draft.declarations).bind fun declarations areDeclarations => ?_
  refine (Block.buildAll_yields _ _ draft.body).bind fun _ mirrors => ?_
  refine (Assemble.sequence_yields _ mirrors).bind_ok fun body made => ⟨_, rfl, ?_⟩
  simp only [BlockSketch.Program.draft, trimmed, areDeclarations, made.2, Block.trimmedAll_eq]

/-- The word comes before what is inside, and that before the slot it stands in. -/
example :
    (Block.unary {} (some "MINUS") (.motorStop {} "1st")).violations =
      [.unknownWord "UnaryOp" "MINUS", .invalidIdentifier .motorStopAction "1st",
        .invalidChild .unary "expression" .expression .motorStopAction] := by
  decide

end Draft
end BlockSketch
