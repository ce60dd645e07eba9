import BlockSketch.Hardware
import BlockSketch.Text.Quoted
import BlockSketch.Typing.Check

/-!
What workers leave for the workers after them. There is at most one product of
each kind; a newer one takes the place of the older.
-/
namespace BlockSketch

/-- The kinds of products. -/
inductive ProductKind
  | usedHardware | typeCheck
deriving DecidableEq, Repr

/-- The name of a kind of product in messages. -/
def ProductKind.name : ProductKind → String
  | .usedHardware => "nepo::bean::UsedHardwareBean"
  | .typeCheck => "nepo::bean::TypeCheckBean"

/-- A product: the hardware that a program uses, or its types. -/
inductive Product
  | usedHardware (used : UsedHardware)
  | typeCheck (summary : Typing.Summary)
deriving DecidableEq

def Product.kind : Product → ProductKind
  | .usedHardware _ => .usedHardware
  | .typeCheck _ => .typeCheck

/-- The message for a product that nobody has made. -/
def ProductKind.missingMessage (kind : ProductKind) : String :=
  "no bean of type `" ++ kind.name ++ "` has been registered"

/-- The products that there are, in the order their kinds came up. -/
abbrev Products := List Product

namespace Products

/-- Whether there is a product of this kind. -/
def has (products : Products) (kind : ProductKind) : Bool :=
  products.any fun product => product.kind = kind

/-- The products with one more, or with one in the place of another. -/
def insert (products : Products) (product : Product) : Products :=
  if products.has product.kind then
    products.map fun other => if other.kind = product.kind then product else other
  else products ++ [product]

/-- The hardware that is used, if a worker has found it out. -/
def usedHardware? (products : Products) : Option UsedHardware :=
  products.findSome? fun
    | .usedHardware used => some used
    | .typeCheck _ => none

/-- The types, if a worker has checked them. -/
def typeCheck? (products : Products) : Option Typing.Summary :=
  products.findSome? fun
    | .usedHardware _ => none
    | .typeCheck summary => some summary

/-- The names of the products. -/
def names (products : Products) : List String :=
  products.map fun product => product.kind.name

/-- The products in one line. -/
def text (products : Products) : String :=
  Text.quotedList products.names

end Products
end BlockSketch
