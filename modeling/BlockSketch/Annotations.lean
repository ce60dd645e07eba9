/-!
What the editor keeps with a block: properties that say how the block is shown,
and a comment. Neither has any influence on what the program means.
-/
namespace BlockSketch

/-- How the editor shows a block, and the identity it has there. -/
structure Properties where
  blockType : String := ""
  blockId : String := ""
  disabled : Bool := false
  collapsed : Bool := false
  inline : Option Bool := none
  deletable : Bool := false
  movable : Bool := false
  inTask : Option Bool := none
  shadow : Bool := false
deriving DecidableEq, Repr

/-- The properties of a block that is new in the editor. -/
def Properties.fresh (blockType blockId : String) : Properties :=
  { blockType, blockId, deletable := true, movable := true }

/-- A comment on a block, with the size of its box. -/
structure Comment where
  text : String := ""
  pinned : Bool := false
  height : Nat := 0
  width : Nat := 0
deriving DecidableEq, Repr

/-- All that the editor keeps with one block. -/
structure Annotations where
  properties : Option Properties := none
  comment : Option Comment := none
deriving DecidableEq, Repr

/-- The identity of the block in the editor. -/
def Annotations.blockId? (notes : Annotations) : Option String :=
  notes.properties.map Properties.blockId

end BlockSketch
