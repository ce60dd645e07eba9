import BlockSketch.Draft.Block
import BlockSketch.Program.Assemble

/-!
Programs from drafts. A block's word comes first, then the blocks inside it in
the order of its fields, then the checks of the block itself; the first error
is the answer. Nodes are labelled with their position on the way down: the task
is at `[0]`, the body at `[1]`, and a child puts its own step in front.
-/
namespace BlockSketch.Draft

/-- The value that a required word names. -/
def word {α : Type} [Vocabulary α] (kind : Kind) (field : String) (text : Option String) :
    Except DraftError α :=
  match text with
  | some text => Vocabulary.read text
  | none => .error (.missingField kind field)

namespace Block

mutual

/-- The node that a block drafts, at a position. -/
def build (position : Position) : Block → Except DraftError Node
  | number notes value => Assemble.number ⟨position, notes⟩ value
  | boolean notes value => Assemble.boolean ⟨position, notes⟩ value
  | text notes value => Assemble.text ⟨position, notes⟩ value
  | var notes name type => do
    let type ← word .var "type" type
    Assemble.var ⟨position, notes⟩ name type
  | binary notes op left right => do
    let op ← word .binary "op" op
    let left ← left.build (0 :: position)
    let right ← right.build (1 :: position)
    Assemble.binary ⟨position, notes⟩ op left right
  | unary notes op operand => do
    let op ← word .unary "op" op
    let operand ← operand.build (0 :: position)
    Assemble.unary ⟨position, notes⟩ op operand
  | sensor notes device port => Assemble.sensor ⟨position, notes⟩ device port
  | timer notes count => Assemble.timer ⟨position, notes⟩ count
  | light notes color blink => do
    let color ← word .lightAction "color" color
    Assemble.light ⟨position, notes⟩ color blink
  | lightStatus notes status => do
    let status ← word .lightStatusAction "status" status
    Assemble.lightStatus ⟨position, notes⟩ status
  | tone notes port frequency duration => do
    let frequency ← frequency.build (0 :: position)
    let duration ← duration.build (1 :: position)
    Assemble.tone ⟨position, notes⟩ port frequency duration
  | motorOn notes port power => do
    let power ← power.build (0 :: position)
    Assemble.motorOn ⟨position, notes⟩ port power
  | motorStop notes port => Assemble.motorStop ⟨position, notes⟩ port
  | showText notes port shown => do
    let shown ← shown.build (0 :: position)
    Assemble.showText ⟨position, notes⟩ port shown
  | serialWrite notes value => do
    let value ← value.build (0 :: position)
    Assemble.serialWrite ⟨position, notes⟩ value
  | list notes statements => do
    let statements ← buildAll position 0 statements
    let body ← Assemble.sequence ⟨position, notes⟩ statements
    return .stmt (.block body)
  | assign notes name value => do
    let value ← value.build (0 :: position)
    Assemble.assign ⟨position, notes⟩ name value
  | branch notes conditions lists otherwise => do
    let conditions ← buildAll (0 :: position) 0 conditions
    let lists ← buildLists (1 :: position) 0 lists
    let otherwise ← buildOtherwise (2 :: position) otherwise
    Assemble.branch ⟨position, notes⟩ conditions lists otherwise
  | loop notes mode expression body => do
    let mode ← word .repeatStmt "mode" mode
    let expression ← buildExpression (0 :: position) expression
    let statements ← buildAll (1 :: position) 0 body
    let body ← Assemble.sequence ⟨1 :: position, {}⟩ statements
    Assemble.loop ⟨position, notes⟩ mode expression body
  | flow notes way => do
    let way ← word .flowControl "flow" way
    Assemble.flow ⟨position, notes⟩ way
  | wait notes time => do
    let time ← time.build (0 :: position)
    Assemble.wait ⟨position, notes⟩ time

/-- The nodes of a list of blocks, as children of a position from a step on. -/
def buildAll (parent : Position) (step : Nat) : List Block → Except DraftError (List Node)
  | [] => .ok []
  | block :: rest => do
    let node ← block.build (step :: parent)
    let nodes ← buildAll parent (step + 1) rest
    return node :: nodes

/-- The lists of a choice, one for each condition. -/
def buildLists (parent : Position) (step : Nat) : List (List Block) → Except DraftError (List Sequence)
  | [] => .ok []
  | blocks :: rest => do
    let statements ← buildAll (step :: parent) 0 blocks
    let list ← Assemble.sequence ⟨step :: parent, {}⟩ statements
    let lists ← buildLists parent (step + 1) rest
    return list :: lists

/-- The list of a choice for the case that no condition holds. -/
def buildOtherwise (position : Position) : Option (List Block) → Except DraftError (Option Sequence)
  | none => .ok none
  | some blocks => do
    let statements ← buildAll position 0 blocks
    let list ← Assemble.sequence ⟨position, {}⟩ statements
    return some list

/-- The expression of a repetition. -/
def buildExpression (position : Position) : Option Block → Except DraftError (Option Node)
  | none => .ok none
  | some block => do
    let node ← block.build position
    return some node

end

end Block

/-- The declaration that a variable drafts, at a position. -/
def Variable.build (position : Position) (draft : Variable) : Except DraftError Declaration := do
  let type ← word .varDeclaration "type" draft.type
  let value ← draft.value.build (0 :: position)
  Assemble.declaration ⟨position, draft.notes⟩ draft.name type value

/-- The declarations of the variables, from a step on. -/
def buildVariables (parent : Position) (step : Nat) : List Variable → Except DraftError (List Declaration)
  | [] => .ok []
  | draft :: rest => do
    let declaration ← draft.build (step :: parent)
    let declarations ← buildVariables parent (step + 1) rest
    return declaration :: declarations

/-- The program that a draft is of. -/
def Program.build (draft : Program) : Except DraftError BlockSketch.Program := do
  let declarations ← buildVariables [0] 0 draft.declarations
  let statements ← Block.buildAll [1] 0 draft.body
  let body ← Assemble.sequence ⟨[1], {}⟩ statements
  return { task := ⟨⟨[0], {}⟩, declarations⟩, body }

end BlockSketch.Draft
