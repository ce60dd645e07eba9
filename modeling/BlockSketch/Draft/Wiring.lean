import BlockSketch.Configuration.Basic
import BlockSketch.Draft.Block
import BlockSketch.Draft.Error

/-!
Configurations from drafts. Every component is checked before any two are
compared: first its name, then its ports one after the other.
-/
namespace BlockSketch

namespace Draft

/-- Ports without a role that occurs twice. -/
abbrev Wiring := { ports : List Port // (ports.map Port.role).Nodup }

namespace Wiring

/-- No ports. -/
def empty : Wiring := ⟨[], List.nodup_nil⟩

/-- One more port at the end, whose role is new. -/
def push (wiring : Wiring) (port : Port) (new : port.role ∉ wiring.val.map Port.role) : Wiring :=
  ⟨wiring.val ++ [port], by
    simp only [List.map_append, List.map_cons, List.map_nil]
    exact List.nodup_append.2 ⟨wiring.property, by simp, by
      intro role known other same
      simp only [List.mem_singleton] at same
      subst same
      exact fun equal => new (equal ▸ known)⟩⟩

/-- The wiring continued with the ports of a draft. A role that is given twice
    is found before a pin that is no pin. -/
def extend (component : String) (wiring : Wiring) : List (String × String) → Except DraftError Wiring
  | [] => .ok wiring
  | (role, pin) :: rest =>
    if known : role ∈ wiring.val.map Port.role then .error (.duplicatePortRole component role)
    else
      match Pin.ofString? pin with
      | none => .error (.invalidPin component role pin)
      | some pin => extend component (wiring.push ⟨role, pin⟩ known) rest

end Wiring

/-- The component that a draft is of. -/
def Component.build (draft : Component) : Except DraftError BlockSketch.Component :=
  match Identifier.ofString? draft.name with
  | none => .error (.invalidComponentName draft.name)
  | some name => do
    let wiring ← Wiring.empty.extend draft.name draft.ports
    return {
      name
      type := ComponentType.ofTag draft.type
      ports := wiring.val
      properties := draft.properties
      roles_nodup := wiring.property }

end Draft

/-- The roster continued with more components. A name that the index knows
    already is given twice. -/
def Roster.extend (roster : Roster) : List Component → Except DraftError Roster
  | [] => .ok roster
  | component :: rest =>
    if new : roster.index.lookup component.name.text = none then (roster.push component new).extend rest
    else .error (.duplicateComponentName component.name.text)

/-- The configuration that a draft is of. -/
def Draft.Configuration.build (draft : Draft.Configuration) : Except DraftError BlockSketch.Configuration := do
  let components ← draft.components.mapM Component.build
  let roster ← Roster.empty.extend components
  return { roster with robot := draft.robot }

end BlockSketch
