import BlockSketch.Draft.Block
import BlockSketch.Json.Reader

/-!
Drafts from JSON. An object may hold fields that are not known, which are
passed over; a known field that is given twice is an error. All but blocks may
also be written as an array of their fields in order.

A value that is passed over has to be well formed, and no more. The other parts
of a block keep the limits of `Json.fits`.
-/
namespace BlockSketch

namespace Json

/-- The members of an object in the order they are written. -/
abbrev Members := List (Option String × Json)

/-- The members of an object whose keys are all strings. -/
def members? : Json → Option Members
  | object members => if members.all fun member => member.1.isSome then some members else none
  | _ => none

/-- The fields of an object, or those of an array that gives a first part of
    the named fields in order. -/
def fields? (names : List String) : Json → Option Members
  | array items =>
    if items.length ≤ names.length then some ((names.map some).zip items) else none
  | json => json.members?

namespace Members

/-- The value of a field. It is an error to give a field twice. -/
def field? (members : Members) (name : String) : Option (Option Json) :=
  match members.filter fun member => member.1 == some name with
  | [] => some none
  | [(_, value)] => some (some value)
  | _ => none

/-- The value of a field that has to be there. -/
def required? {α : Type} (members : Members) (name : String) (decode? : Json → Option α) : Option α :=
  (members.field? name).bind fun value => value.bind decode?

/-- The value of a field that may be missing, which then has a default. -/
def defaulted? {α : Type} (members : Members) (name : String) (default : α)
    (decode? : Json → Option α) : Option α :=
  (members.field? name).bind fun
    | none => some default
    | some value => decode? value

/-- The value of a field that may be missing or `null`. -/
def optional? {α : Type} (members : Members) (name : String) (decode? : Json → Option α) :
    Option (Option α) :=
  (members.field? name).bind fun
    | none => some none
    | some .null => some none
    | some value => (decode? value).map some

end Members
end Json

def Properties.fieldNames : List String :=
  ["blockType", "blockId", "disabled", "collapsed", "inline", "deletable", "movable", "inTask", "shadow"]

/-- Properties in JSON. Every field has a default. -/
def Properties.ofJson? (json : Json) : Option Properties := do
  let fields ← json.fields? Properties.fieldNames
  return {
    blockType := ← fields.defaulted? "blockType" "" Json.string?
    blockId := ← fields.defaulted? "blockId" "" Json.string?
    disabled := ← fields.defaulted? "disabled" false Json.bool?
    collapsed := ← fields.defaulted? "collapsed" false Json.bool?
    inline := ← fields.optional? "inline" Json.bool?
    deletable := ← fields.defaulted? "deletable" false Json.bool?
    movable := ← fields.defaulted? "movable" false Json.bool?
    inTask := ← fields.optional? "inTask" Json.bool?
    shadow := ← fields.defaulted? "shadow" false Json.bool? }

def Comment.fieldNames : List String :=
  ["text", "pinned", "height", "width"]

/-- A comment in JSON. Every field has a default; sizes are words of 32 bits. -/
def Comment.ofJson? (json : Json) : Option Comment := do
  let fields ← json.fields? Comment.fieldNames
  return {
    text := ← fields.defaulted? "text" "" Json.string?
    pinned := ← fields.defaulted? "pinned" false Json.bool?
    height := ← fields.defaulted? "height" 0 (Json.natural? (Nat.pow 2 32))
    width := ← fields.defaulted? "width" 0 (Json.natural? (Nat.pow 2 32)) }

/-- The annotations among the fields of a block or a variable. -/
def Annotations.ofFields? (fields : Json.Members) : Option Annotations := do
  return {
    properties := ← fields.optional? "properties" Properties.ofJson?
    comment := ← fields.optional? "comment" Comment.ofJson? }

namespace Draft

/-- The kinds that a block of the editor can have, in their usual order. -/
def blockKinds : List Kind :=
  (Vocabulary.values : List Kind).filter fun kind => kind.category != .task

/-- The kind of a block, by its word or by its index in `blockKinds`. -/
def kindOfJson? : Json → Option Kind
  | .text (some word) => (Vocabulary.ofWord? word).filter fun kind => kind.category != .task
  | .number index => index.natural?.bind fun i => blockKinds[i]?
  | _ => none

namespace Block

/-- The block of a kind with these fields, where `block?` reads the blocks
    inside it. Only the fields that the kind knows are looked at. -/
def ofFields? (block? : Json → Option Block) (notes : Annotations) (fields : Json.Members) :
    Kind → Option Block
  | .numConst => do
    let value ← fields.required? "value" Json.string?
    return number notes value
  | .boolConst => do
    let value ← fields.required? "value" Json.bool?
    return boolean notes value
  | .stringConst => do
    let value ← fields.required? "value" Json.string?
    return text notes value
  | .var => do
    let name ← fields.required? "name" Json.string?
    let type ← fields.optional? "type" Json.string?
    return var notes name type
  | .binary => do
    let op ← fields.optional? "op" Json.string?
    let left ← fields.required? "left" block?
    let right ← fields.required? "right" block?
    return binary notes op left right
  | .unary => do
    let op ← fields.optional? "op" Json.string?
    let operand ← fields.required? "expression" block?
    return unary notes op operand
  | .keySensing => sensing? .key
  | .ultrasonicSensing => sensing? .ultrasonic
  | .lightSensing => sensing? .light
  | .temperatureSensing => sensing? .temperature
  | .timerSensing => do
    let number ← fields.defaulted? "timer" 1 (Json.natural? 256)
    return timer notes (UInt8.ofNat number)
  | .lightAction => do
    let color ← fields.optional? "color" Json.string?
    let blink ← fields.defaulted? "blink" false Json.bool?
    return light notes color blink
  | .lightStatusAction => do
    let status ← fields.optional? "status" Json.string?
    return lightStatus notes status
  | .toneAction => do
    let port ← fields.required? "port" Json.string?
    let frequency ← fields.required? "frequency" block?
    let duration ← fields.required? "duration" block?
    return tone notes port frequency duration
  | .motorOnAction => do
    let port ← fields.required? "port" Json.string?
    let power ← fields.required? "power" block?
    return motorOn notes port power
  | .motorStopAction => do
    let port ← fields.required? "port" Json.string?
    return motorStop notes port
  | .showTextAction => do
    let port ← fields.required? "port" Json.string?
    let shown ← fields.required? "text" block?
    return showText notes port shown
  | .serialWriteAction => do
    let value ← fields.required? "value" block?
    return serialWrite notes value
  | .stmtList => do
    let statements ← fields.defaulted? "statements" [] blocks?
    return list notes statements
  | .assignStmt => do
    let name ← fields.required? "name" Json.string?
    let value ← fields.required? "value" block?
    return assign notes name value
  | .ifStmt => do
    let conditions ← fields.required? "conditions" blocks?
    let lists ← fields.required? "then_lists" fun json => json.items?.bind (List.mapM blocks?)
    let otherwise ← fields.optional? "else_list" blocks?
    return branch notes conditions lists otherwise
  | .repeatStmt => do
    let mode ← fields.optional? "mode" Json.string?
    let expression ← fields.optional? "expression" block?
    let body ← fields.defaulted? "body" [] blocks?
    return loop notes mode expression body
  | .flowControl => do
    let way ← fields.optional? "flow" Json.string?
    return flow notes way
  | .waitTime => do
    let time ← fields.required? "time" block?
    return wait notes time
  | .varDeclaration | .mainTask => none
where
  blocks? (json : Json) : Option (List Block) :=
    json.items?.bind (List.mapM block?)
  sensing? (device : Sensor) : Option Block := do
    let port ← fields.required? "port" Json.string?
    return sensor notes device port

/-- A block in JSON, which has to be an object with a kind. Blocks may stand
    inside one another `levels` deep. -/
def ofJson? : (levels : Nat) → Json → Option Block
  | 0, _ => none
  | levels + 1, json => do
    let fields ← json.members?
    let notes ← Annotations.ofFields? fields
    let kind ← fields.required? "kind" kindOfJson?
    ofFields? (ofJson? levels) notes fields kind

end Block

/-- The number of arrays and objects that may be open at once. -/
def nestingLimit : Nat := 127

/-- A block that no other block holds, with `levels` more arrays and objects
    allowed inside it. What stands in its annotations beside the known fields
    is passed over; all else in it keeps the limits. -/
def outermostBlock? (levels : Nat) (json : Json) : Option Block := do
  let fields ← json.members?
  let limited := fields.all fun (key, value) =>
    key == some "properties" || key == some "comment" || value.fits levels
  if limited then Block.ofJson? nestingLimit json else none

/-- A variable in JSON. It is the fourth array or object, counted from the top
    with the block that is its value. -/
def Variable.ofJson? (json : Json) : Option Variable := do
  let fields ← json.fields? ["name", "type", "value", "properties", "comment"]
  return {
    notes := ← Annotations.ofFields? fields
    name := ← fields.required? "name" Json.string?
    type := ← fields.optional? "type" Json.string?
    value := ← fields.required? "value" (outermostBlock? (nestingLimit - 4)) }

/-- A program in JSON. -/
def Program.ofJson? (json : Json) : Option Program := do
  let fields ← json.fields? ["variables", "body"]
  return {
    declarations := ← fields.defaulted? "variables" [] fun value =>
      value.items?.bind (List.mapM Variable.ofJson?)
    body := ← fields.defaulted? "body" [] fun value =>
      value.items?.bind (List.mapM (outermostBlock? (nestingLimit - 3))) }

/-- The ports of a component: the members of an object as they stand, also when
    a role is given twice. -/
def portsOfJson? (json : Json) : Option (List (String × String)) :=
  json.members?.bind <| List.mapM fun (role, pin) => do return (← role, ← pin.string?)

/-- A component in JSON. -/
def Component.ofJson? (json : Json) : Option Component := do
  let fields ← json.fields? ["name", "type", "ports", "properties"]
  return {
    name := ← fields.required? "name" Json.string?
    type := ← fields.required? "type" Json.string?
    ports := ← fields.defaulted? "ports" [] portsOfJson?
    properties := ← fields.optional? "properties" Properties.ofJson? }

/-- A configuration in JSON. -/
def Configuration.ofJson? (json : Json) : Option Configuration := do
  let fields ← json.fields? ["robot", "components"]
  return {
    robot := ← fields.defaulted? "robot" "" Json.string?
    components := ← fields.defaulted? "components" [] fun value =>
      value.items?.bind (List.mapM Component.ofJson?) }

end Draft
end BlockSketch
