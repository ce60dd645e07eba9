import BlockSketch.Annotations
import BlockSketch.Text.Identifier

/-!
Configurations of a robot: the components that are wired to the board, and the
pins that their port roles are wired to. A program refers to components by
name, so no two components share one; no component has a role twice.
-/
namespace BlockSketch

/-- The type of a component. A tag that is not known is kept as it is. -/
inductive ComponentType
  | key | ultrasonic | light | temperature | buzzer | motor | lcd | led
  | other (tag : String)
deriving DecidableEq, Repr

namespace ComponentType

/-- The type with this tag. -/
def ofTag (tag : String) : ComponentType :=
  if tag == "KEY" then key
  else if tag == "ULTRASONIC" then ultrasonic
  else if tag == "LIGHT" then light
  else if tag == "TEMPERATURE" then temperature
  else if tag == "BUZZER" then buzzer
  else if tag == "MOTOR" then motor
  else if tag == "LCD" then lcd
  else if tag == "LED" then led
  else other tag

/-- The tag of the type. -/
def tag : ComponentType → String
  | key => "KEY"
  | ultrasonic => "ULTRASONIC"
  | light => "LIGHT"
  | temperature => "TEMPERATURE"
  | buzzer => "BUZZER"
  | motor => "MOTOR"
  | lcd => "LCD"
  | led => "LED"
  | other tag => tag

/-- Whether the type is not known. -/
def isOther : ComponentType → Bool
  | other _ => true
  | _ => false

/-- The port roles that a component of the type has to wire. -/
def requiredRoles : ComponentType → List String
  | key => ["PIN1"]
  | ultrasonic => ["TRIG", "ECHO"]
  | light | temperature => ["OUTPUT"]
  | buzzer => ["+"]
  | motor => ["IN1", "IN2"]
  | lcd => ["RS", "E", "D4", "D5", "D6", "D7"]
  | led => ["INPUT"]
  | other _ => []

theorem tag_ofTag (tag : String) : (ofTag tag).tag = tag := by
  unfold ofTag
  repeat' split
  all_goals simp_all [ComponentType.tag]

end ComponentType

/-- A port role and the pin it is wired to. -/
structure Port where
  role : String
  pin : Pin
deriving DecidableEq

/-- A component with its ports in the order they are given. -/
structure Component where
  name : Identifier
  type : ComponentType
  ports : List Port
  properties : Option Properties
  roles_nodup : (ports.map Port.role).Nodup
deriving DecidableEq

/-- The pin that a role of the component is wired to. -/
def Component.pin? (component : Component) (role : String) : Option Pin :=
  (component.ports.find? fun port => port.role == role).map Port.pin

/-- Components with different names in the order they are given, and an index
    that leads from the name of a component to its position. -/
structure Roster where
  components : List Component
  index : List (String × Nat)
  names_nodup : (components.map Component.name).Nodup
  indexed : index = (components.map fun component => component.name.text).zipIdx
deriving DecidableEq

namespace Roster

/-- No components. -/
def empty : Roster :=
  ⟨[], [], List.nodup_nil, rfl⟩

/-- The component with this name, at the position that the index gives. -/
def component? (roster : Roster) (name : String) : Option Component :=
  (roster.index.lookup name).bind fun position => roster.components[position]?

/-- The index does not know a name exactly if no component has it. -/
theorem lookup_eq_none_iff {roster : Roster} {name : String} :
    roster.index.lookup name = none ↔ name ∉ roster.components.map fun component => component.name.text := by
  rw [List.lookup_eq_none_iff, ← List.zipIdx_map_fst 0 (roster.components.map _), ← roster.indexed, List.mem_map]
  constructor
  · rintro fresh ⟨entry, member, rfl⟩
    exact bne_iff_ne.mp (fresh entry member) rfl
  · intro unknown entry member
    exact bne_iff_ne.mpr fun same => unknown ⟨entry, member, same.symm⟩

/-- One more component at the end, whose name is new. -/
def push (roster : Roster) (component : Component)
    (new : roster.index.lookup component.name.text = none) : Roster where
  components := roster.components ++ [component]
  index := roster.index ++ [(component.name.text, roster.components.length)]
  names_nodup := by
    simp only [List.map_append, List.map_cons, List.map_nil]
    exact List.nodup_append.2 ⟨roster.names_nodup, by simp, by
      intro name known other same
      simp only [List.mem_singleton] at same
      subst same
      rintro rfl
      obtain ⟨earlier, member, named⟩ := List.mem_map.mp known
      exact lookup_eq_none_iff.mp new (List.mem_map.mpr ⟨earlier, member, congrArg Identifier.text named⟩)⟩
  indexed := by simp [roster.indexed, List.zipIdx_append]

end Roster

/-- The components of a robot. -/
structure Configuration extends Roster where
  robot : String
deriving DecidableEq

/-- The configuration without components. -/
def Configuration.empty : Configuration :=
  ⟨.empty, ""⟩

end BlockSketch
