import BlockSketch.Annotations
import BlockSketch.Program.Tree

/-!
Drafts: programs and configurations as the editor hands them over. The shape of
a draft is right, but its names, words and numbers are texts that nobody has
looked at yet, and any block may stand anywhere.
-/
namespace BlockSketch.Draft

/-- A block of the editor with the blocks inside it. -/
inductive Block
  | number (notes : Annotations) (value : String)
  | boolean (notes : Annotations) (value : Bool)
  | text (notes : Annotations) (value : String)
  | var (notes : Annotations) (name : String) (type : Option String)
  | binary (notes : Annotations) (op : Option String) (left right : Block)
  | unary (notes : Annotations) (op : Option String) (operand : Block)
  | sensor (notes : Annotations) (device : Sensor) (port : String)
  | timer (notes : Annotations) (number : UInt8)
  | light (notes : Annotations) (color : Option String) (blink : Bool)
  | lightStatus (notes : Annotations) (status : Option String)
  | tone (notes : Annotations) (port : String) (frequency duration : Block)
  | motorOn (notes : Annotations) (port : String) (power : Block)
  | motorStop (notes : Annotations) (port : String)
  | showText (notes : Annotations) (port : String) (text : Block)
  | serialWrite (notes : Annotations) (value : Block)
  | list (notes : Annotations) (statements : List Block)
  | assign (notes : Annotations) (name : String) (value : Block)
  | branch (notes : Annotations) (conditions : List Block) (lists : List (List Block))
      (otherwise : Option (List Block))
  | loop (notes : Annotations) (mode : Option String) (expression : Option Block) (body : List Block)
  | flow (notes : Annotations) (flow : Option String)
  | wait (notes : Annotations) (time : Block)

/-- A variable with the block that computes its initial value. -/
structure Variable where
  notes : Annotations
  name : String
  type : Option String
  value : Block

/-- A draft of a program. -/
structure Program where
  declarations : List Variable
  body : List Block

/-- A draft of a component: its name, the tag of its type, and the pins of its
    port roles in the order they are given. -/
structure Component where
  name : String
  type : String
  ports : List (String × String)
  properties : Option Properties
deriving DecidableEq, Repr

/-- A draft of a configuration. -/
structure Configuration where
  robot : String
  components : List Component
deriving DecidableEq, Repr

end BlockSketch.Draft
