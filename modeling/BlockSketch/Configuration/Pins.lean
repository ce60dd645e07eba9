import BlockSketch.Configuration.Basic
import BlockSketch.Finding
import BlockSketch.Platform.Basic

/-!
Checks on the components of a configuration for a platform. Components claim
the pins of their overlapping roles one after the other from one stock of free
pins, and a pin that is not free any more is a conflict. Apart from that, a
component has to wire all roles that its type needs.
-/
namespace BlockSketch

/-- How the claims of a component stand: the pins that are left for the others,
    those it has got, and the ports whose pin was not free. -/
structure Claim where
  free : List String
  claimed : List String
  conflicts : List Port
deriving DecidableEq

namespace Claim

/-- The claims after one more port. A claimed pin stays claimed. -/
def request (claim : Claim) (port : Port) : Claim :=
  if port.pin.text ∈ claim.free then
    { claim with
      free := claim.free.erase port.pin.text
      claimed := claim.claimed ++ [port.pin.text] }
  else { claim with conflicts := claim.conflicts ++ [port] }

/-- The first pin of a list that occurred before. -/
def firstRepeated? (seen : List String) : List String → Option String
  | [] => none
  | pin :: rest => if pin ∈ seen then some pin else firstRepeated? (pin :: seen) rest

def overlapNotice (pin : String) : Notice :=
  .error .overlappingPorts [("pin", pin)]

/-- One notice for each conflict, and one if the component has claimed a pin
    twice. -/
def notices (claim : Claim) : List Notice :=
  claim.conflicts.map (fun port => overlapNotice port.pin.text) ++
    (firstRepeated? [] claim.claimed).toList.map overlapNotice

end Claim

namespace Platform

/-- The claims of a component on the pins that are free. -/
def claim (platform : Platform) (free : List String) (component : Component) : Claim :=
  (component.ports.filter fun port => platform.isOverlapping port.role).foldl Claim.request ⟨free, [], []⟩

/-- The claims of components on one stock of pins. -/
def claims (platform : Platform) (free : List String) : List Component → List (Component × Claim)
  | [] => []
  | component :: rest =>
    let claim := platform.claim free component
    (component, claim) :: platform.claims claim.free rest

theorem map_fst_claims (platform : Platform) (free : List String) (components : List Component) :
    (platform.claims free components).map Prod.fst = components := by
  induction components generalizing free with
  | nil => rfl
  | cons component rest ih => rw [claims, List.map_cons, ih]

/-- Only the components themselves make claims. -/
theorem component_of_claims {platform : Platform} {free : List String} {components : List Component}
    {claimed : Component × Claim} (member : claimed ∈ platform.claims free components) :
    claimed.1 ∈ components := by
  rw [← platform.map_fst_claims free components]
  exact List.mem_map_of_mem member

end Platform

namespace Component

/-- A notice at the component. -/
def finding (component : Component) (notice : Notice) : Finding :=
  ⟨.component component.name, notice⟩

/-- The roles that the type needs and the component does not wire. -/
def missingRoles (component : Component) : List String :=
  component.type.requiredRoles.filter fun role => (component.pin? role).isNone

def missingNotice (role : String) : Notice :=
  .error .missingPort [("role", role)]

end Component

namespace Configuration

/-- The claims of all components on the free pins of a platform. -/
def claims (configuration : Configuration) (platform : Platform) : List (Component × Claim) :=
  platform.claims platform.freePins configuration.components

/-- What is wrong with the pins. -/
def pinFindings (configuration : Configuration) (platform : Platform) : List Finding :=
  (configuration.claims platform).flatMap fun (component, claim) =>
    claim.notices.map component.finding

/-- What is wrong with the components apart from their pins. -/
def portFindings (configuration : Configuration) : List Finding :=
  configuration.components.flatMap fun component =>
    component.missingRoles.map fun role => component.finding (Component.missingNotice role)

/-- All that is wrong with the configuration on a platform. -/
def validate (configuration : Configuration) (platform : Platform) : List Finding :=
  configuration.pinFindings platform ++ configuration.portFindings

end Configuration
end BlockSketch
