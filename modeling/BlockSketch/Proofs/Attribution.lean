import BlockSketch.Proofs.Run
import BlockSketch.Proofs.Stock

/-!
Which component a refused pin is put down to. The claims of a configuration are numbered pin
by pin, in the order of its components and their ports. A claim is refused exactly if its number
goes beyond the stock of its pin, and the component that makes it gets the notice; what the
components before it have got stays theirs. Apart from that, a component gets one notice if it
was given the same pin twice.
-/
namespace BlockSketch

/-! ## Numbered claims -/

namespace Component

/-- The ports of a component that claim a pin. -/
def overlapping (platform : Platform) (component : Component) : List Port :=
  component.ports.filter fun port => platform.isOverlapping port.role

/-- The ports that claim a pin, each with the component. -/
def entries (platform : Platform) (component : Component) : List (Component × Port) :=
  (component.overlapping platform).map (component, ·)

theorem pins_entries (platform : Platform) (component : Component) :
    ((component.entries platform).map fun entry => entry.2.pin.text) = component.wanted platform := by
  simp [entries, overlapping, wanted, Function.comp_def]

/-- Components of one name that claim the same pins through the same roles. They may differ in
    their type, and in ports that claim no pin. -/
def ClaimsLike (platform : Platform) (first second : Component) : Prop :=
  first.name = second.name ∧ first.overlapping platform = second.overlapping platform

end Component

/-- A claim of a component on the pin of one of its ports, and the number that it has among the
    claims on this pin. The first one has number one. -/
structure Request where
  component : Component
  port : Port
  number : Nat
deriving DecidableEq

namespace Request

def pin (request : Request) : String :=
  request.port.pin.text

/-- Whether the stock has the pin too few times for this claim. -/
def exceeds (stock : List String) (request : Request) : Bool :=
  stock.count request.pin < request.number

/-- Ports of components with their numbers, after claims on these pins. -/
def numbered (before : List String) : List (Component × Port) → List Request
  | [] => []
  | (component, port) :: rest =>
    ⟨component, port, before.count port.pin.text + 1⟩ :: numbered (before ++ [port.pin.text]) rest

theorem numbered_append (before : List String) (first rest : List (Component × Port)) :
    numbered before (first ++ rest) =
      numbered before first ++ numbered (before ++ first.map fun entry => entry.2.pin.text) rest := by
  induction first generalizing before with
  | nil => simp [numbered]
  | cons entry first ih => simp [numbered, ih]

theorem entry_of_numbered {before : List String} {entries : List (Component × Port)} {request : Request}
    (member : request ∈ numbered before entries) : (request.component, request.port) ∈ entries := by
  induction entries generalizing before with
  | nil => cases member
  | cons entry rest ih =>
    rcases List.mem_cons.mp member with rfl | later
    · exact List.mem_cons_self
    · exact List.mem_cons_of_mem _ (ih later)

/-- Only the component itself makes its claims. -/
theorem component_of_entries {platform : Platform} {before : List String} {component : Component}
    {request : Request} (member : request ∈ numbered before (component.entries platform)) :
    request.component = component := by
  obtain ⟨port, _, same⟩ := List.mem_map.mp (entry_of_numbered member)
  exact (Prod.mk.inj same).1.symm

end Request

namespace Configuration

/-- The claims of the configuration: the components in order, the ports of each in order. -/
def requests (configuration : Configuration) (platform : Platform) : List Request :=
  Request.numbered [] (configuration.components.flatMap (Component.entries platform))

/-- The claims of one component among them. -/
def requestsOf (configuration : Configuration) (platform : Platform) (component : Component) :
    List Request :=
  (configuration.requests platform).filter fun request => request.component = component

end Configuration

/-! ## One component -/

namespace Claim

/-- The pin is the first in the list that stood there before. -/
def FirstRepeated (pins : List String) (pin : String) : Prop :=
  ∃ before after, pins = before ++ pin :: after ∧ before.Nodup ∧ pin ∈ before

theorem exists_of_firstRepeated? {seen pins : List String} {pin : String}
    (found : firstRepeated? seen pins = some pin) :
    ∃ before after, pins = before ++ pin :: after ∧ before.Nodup ∧
      (∀ earlier ∈ before, earlier ∉ seen) ∧ (pin ∈ before ∨ pin ∈ seen) := by
  induction pins generalizing seen with
  | nil => cases found
  | cons first rest ih =>
    rw [firstRepeated?] at found
    by_cases known : first ∈ seen
    · rw [if_pos known] at found
      cases found
      exact ⟨[], rest, rfl, List.nodup_nil, by simp, .inr known⟩
    · rw [if_neg known] at found
      obtain ⟨before, after, rfl, distinct, fresh, again⟩ := ih found
      have once : first ∉ before := fun member => fresh first member List.mem_cons_self
      refine ⟨first :: before, after, rfl, List.nodup_cons.mpr ⟨once, distinct⟩, ?_, ?_⟩
      · refine List.forall_mem_cons.mpr ⟨known, fun earlier member old => ?_⟩
        exact fresh earlier member (List.mem_cons_of_mem _ old)
      · rcases again with inside | old
        · exact .inl (List.mem_cons_of_mem _ inside)
        · rcases List.mem_cons.mp old with rfl | old
          · exact .inl List.mem_cons_self
          · exact .inr old

/-- A component that was given no pin twice gets no further notice; else the notice names the
    first pin that it was given again. -/
theorem firstRepeated?_cases (pins : List String) :
    (pins.Nodup ∧ firstRepeated? [] pins = none) ∨
      ∃ pin, FirstRepeated pins pin ∧ firstRepeated? [] pins = some pin := by
  cases found : firstRepeated? [] pins with
  | none => exact .inl ⟨(firstRepeated?_eq_none_iff.mp found).1, rfl⟩
  | some pin =>
    obtain ⟨before, after, split, distinct, _, again⟩ := exists_of_firstRepeated? found
    exact .inr ⟨pin, ⟨before, after, split, distinct, again.resolve_right List.not_mem_nil⟩, rfl⟩

theorem notices_eq (claim : Claim) :
    claim.notices =
      claim.refused.map overlapNotice ++ (firstRepeated? [] claim.claimed).toList.map overlapNotice := by
  simp [notices, refused]

/-- How the claims of a component stand if these requests were made: what goes beyond the stock
    was refused, and the other pins were given out. -/
structure Settled (stock : List String) (requests : List Request) (claim : Claim) : Prop where
  refused_eq : claim.refused = (requests.filter (Request.exceeds stock)).map Request.pin
  claimed_eq : claim.claimed = (requests.filter fun request => !request.exceeds stock).map Request.pin

/-- The pins that are free are those of the stock that no claim before has used up. -/
def Left (stock before free : List String) : Prop :=
  ∀ pin, free.count pin = stock.count pin - before.count pin

variable {stock before : List String} {claim : Claim}

theorem Left.request (left : Left stock before claim.free) (port : Port) :
    Left stock (before ++ [port.pin.text]) (claim.request port).free := by
  intro pin
  rw [(request_served pin claim port).free_eq, left pin, List.count_append]
  omega

theorem Left.mem_iff {free : List String} (left : Left stock before free) (component : Component)
    (port : Port) :
    port.pin.text ∈ free ↔
      Request.exceeds stock ⟨component, port, before.count port.pin.text + 1⟩ = false := by
  have available := left port.pin.text
  have beyond : Request.exceeds stock ⟨component, port, before.count port.pin.text + 1⟩ =
      decide (stock.count port.pin.text < before.count port.pin.text + 1) := rfl
  rw [← List.count_pos_iff, beyond, decide_eq_false_iff_not]
  omega

/-- Requests one after the other, by induction over the ports. The claims before keep count of
    what is left of the stock. -/
theorem foldl_request_eq (left : Left stock before claim.free) (component : Component)
    (ports : List Port) :
    (ports.foldl request claim).refused =
        claim.refused ++
          ((Request.numbered before (ports.map (component, ·))).filter (Request.exceeds stock)).map
            Request.pin ∧
      (ports.foldl request claim).claimed =
        claim.claimed ++
          ((Request.numbered before (ports.map (component, ·))).filter fun request =>
            !request.exceeds stock).map Request.pin := by
  induction ports generalizing claim before with
  | nil => simp [Request.numbered]
  | cons port rest ih =>
    obtain ⟨refused, claimed⟩ := ih (left.request port)
    rw [List.foldl_cons, refused, claimed, List.map_cons, Request.numbered]
    by_cases free : port.pin.text ∈ claim.free
    · have granted := (left.mem_iff component port).mp free
      simp [request, free, granted, Claim.refused, Request.pin]
    · have exceeding := eq_true_of_ne_false (mt (left.mem_iff component port).mpr free)
      simp [request, free, exceeding, Claim.refused, Request.pin]

end Claim

namespace Platform
variable {platform : Platform} {stock before free : List String}

theorem claim_settled (left : Claim.Left stock before free) (component : Component) :
    (platform.claim free component).Settled stock
      (Request.numbered before (component.entries platform)) := by
  have started : Claim.Left stock before (Claim.mk free [] []).free := left
  obtain ⟨refused, claimed⟩ := Claim.foldl_request_eq started component (component.overlapping platform)
  exact ⟨refused, claimed⟩

theorem left_claim (left : Claim.Left stock before free) (component : Component) :
    Claim.Left stock (before ++ component.wanted platform) (platform.claim free component).free := by
  intro pin
  rw [count_free_claim, left pin, List.count_append]
  omega

/-! ## All components -/

/-- Every component is settled by its own claims, which are numbered among those of all. -/
theorem claims_settled {components : List Component} (left : Claim.Left stock before free)
    (distinct : components.Nodup) {entry : Component × Claim}
    (member : entry ∈ platform.claims free components) :
    entry.2.Settled stock
      ((Request.numbered before (components.flatMap (Component.entries platform))).filter fun request =>
        request.component = entry.1) := by
  induction components generalizing before free with
  | nil => cases member
  | cons component rest ih =>
    obtain ⟨fresh, distinct⟩ := List.nodup_cons.mp distinct
    rw [List.flatMap_cons, Request.numbered_append, Component.pins_entries, List.filter_append]
    rcases List.mem_cons.mp member with rfl | later
    · have own : (Request.numbered before (component.entries platform)).filter
          (fun request => request.component = component) =
            Request.numbered before (component.entries platform) := by
        refine List.filter_eq_self.mpr fun request member => decide_eq_true ?_
        exact Request.component_of_entries member
      have others : (Request.numbered (before ++ component.wanted platform)
          (rest.flatMap (Component.entries platform))).filter
            (fun request => request.component = component) = [] := by
        refine List.filter_eq_nil_iff.mpr fun request member same => fresh ?_
        obtain ⟨other, isOther, listed⟩ := List.mem_flatMap.mp (Request.entry_of_numbered member)
        obtain ⟨port, _, found⟩ := List.mem_map.mp listed
        rwa [← of_decide_eq_true same, ← (Prod.mk.inj found).1]
      rw [own, others, List.append_nil]
      exact claim_settled left component
    · have isLater : entry.1 ∈ rest := component_of_claims later
      have others : (Request.numbered before (component.entries platform)).filter
          (fun request => request.component = entry.1) = [] := by
        refine List.filter_eq_nil_iff.mpr fun request member same => fresh ?_
        rwa [← Request.component_of_entries member, of_decide_eq_true same]
      rw [others, List.nil_append]
      exact ih (left_claim left component) distinct later

/-- The claims depend on the overlapping ports only. -/
theorem claims_notices_congr {components others : List Component}
    (same : List.Forall₂ (Component.ClaimsLike platform) components others) (free : List String) :
    ((platform.claims free components).flatMap fun entry => entry.2.notices.map entry.1.finding) =
      (platform.claims free others).flatMap fun entry => entry.2.notices.map entry.1.finding := by
  induction same generalizing free with
  | nil => rfl
  | @cons first second rest more own _ ih =>
    have sameClaim : platform.claim free first = platform.claim free second := by
      unfold claim
      exact congrArg _ own.2
    have sameFinding : first.finding = second.finding := by
      funext notice
      rw [Component.finding, Component.finding, own.1]
    simp only [claims, List.flatMap_cons]
    rw [ih, sameClaim, sameFinding]

end Platform

/-! ## Notices -/

namespace Configuration
variable (configuration : Configuration) (platform : Platform)

theorem noticesAt_finding (component : Component) (notices : List Notice) (name : Identifier) :
    Finding.noticesAt (notices.map component.finding) (.component name) =
      if component.name = name then notices else [] := by
  rw [Finding.noticesAt, List.filter_map, List.map_map]
  by_cases same : component.name = name
  · simp [Component.finding, Function.comp_def, same]
  · simp [Component.finding, Function.comp_def, same]

/-- The notices at a component are those of its own claims. -/
theorem noticesAt_claims {entries : List (Component × Claim)}
    (distinct : (entries.map fun entry => entry.1.name).Nodup) {entry : Component × Claim}
    (member : entry ∈ entries) :
    Finding.noticesAt (entries.flatMap fun entry => entry.2.notices.map entry.1.finding)
      (.component entry.1.name) = entry.2.notices := by
  induction entries with
  | nil => cases member
  | cons first rest ih =>
    obtain ⟨fresh, distinct⟩ := List.nodup_cons.mp distinct
    rw [List.flatMap_cons, Finding.noticesAt_append, noticesAt_finding]
    rcases List.mem_cons.mp member with rfl | later
    · have elsewhere : Finding.noticesAt
          (rest.flatMap fun entry => entry.2.notices.map entry.1.finding) (.component entry.1.name) = [] := by
        rw [Finding.noticesAt, List.map_eq_nil_iff, List.filter_eq_nil_iff]
        intro finding found here
        obtain ⟨other, isOther, found⟩ := List.mem_flatMap.mp found
        obtain ⟨notice, _, rfl⟩ := List.mem_map.mp found
        refine fresh (List.mem_map.mpr ⟨other, isOther, ?_⟩)
        exact Place.component.inj (of_decide_eq_true here)
      rw [if_pos rfl, elsewhere, List.append_nil]
    · have differs : first.1.name ≠ entry.1.name := by
        intro same
        exact fresh (List.mem_map.mpr ⟨entry, later, same.symm⟩)
      rw [if_neg differs, List.nil_append, ih distinct later]

variable {configuration platform}

/-- A component of the configuration with its claims. -/
theorem exists_claim {component : Component} (listed : component ∈ configuration.components) :
    ∃ claim : Claim, claim.Settled platform.freePins (configuration.requestsOf platform component) ∧
      Finding.noticesAt (configuration.pinFindings platform) (.component component.name) =
        claim.notices := by
  have components := platform.map_fst_claims platform.freePins configuration.components
  obtain ⟨⟨_, claim⟩, member, rfl⟩ := List.mem_map.mp (components.symm ▸ listed)
  refine ⟨claim, ?_, ?_⟩
  · refine Platform.claims_settled ?_ configuration.names_nodup.of_map member
    intro pin
    simp
  · have names : ((configuration.claims platform).map fun entry => entry.1.name) =
        configuration.components.map Component.name := by
      rw [← components, List.map_map]
      rfl
    exact noticesAt_claims (names ▸ configuration.names_nodup) member

theorem component_of_pinFindings {finding : Finding}
    (found : finding ∈ configuration.pinFindings platform) :
    ∃ component ∈ configuration.components, finding.place = .component component.name := by
  obtain ⟨entry, member, found⟩ := List.mem_flatMap.mp found
  obtain ⟨notice, _, rfl⟩ := List.mem_map.mp found
  exact ⟨entry.1, Platform.component_of_claims member, rfl⟩

/-- The check of a configuration knows no warnings. -/
theorem isError_of_validate {finding : Finding} (found : finding ∈ configuration.validate platform) :
    finding.notice.isError = true := by
  rcases List.mem_append.mp found with found | found
  · obtain ⟨entry, _, found⟩ := List.mem_flatMap.mp found
    obtain ⟨notice, noticed, rfl⟩ := List.mem_map.mp found
    rw [Claim.notices_eq, ← List.map_append] at noticed
    obtain ⟨pin, _, rfl⟩ := List.mem_map.mp noticed
    rfl
  · obtain ⟨component, _, found⟩ := List.mem_flatMap.mp found
    obtain ⟨role, _, rfl⟩ := List.mem_map.mp found
    rfl

theorem errorCount_validate :
    Finding.errorCount (configuration.validate platform) =
      (configuration.pinFindings platform).length + configuration.portFindings.length := by
  rw [Finding.errorCount, List.countP_eq_length.mpr fun _ found => isError_of_validate found]
  exact List.length_append

/-- The check of the pins puts every refusal down to the claim that goes beyond the stock. Of
    the claims on a pin, counted through the whole configuration, those whose number is greater
    than the stock of the pin are refused, and each gives one notice to its own component, in the
    order of its ports. A component that was given some pin twice gets one more notice, after
    these, about the first pin that it was given again. There are no other notices, ports with
    other roles do not matter, and every notice counts as one error. -/
theorem pin_conflicts_attributed (configuration : Configuration) (platform : Platform) :
    (∀ component ∈ configuration.components,
      let own := configuration.requestsOf platform component
      let given := (own.filter fun request => !request.exceeds platform.freePins).map Request.pin
      ∃ further,
        Finding.noticesAt (configuration.pinFindings platform) (.component component.name) =
          ((own.filter (Request.exceeds platform.freePins)).map fun request =>
            Claim.overlapNotice request.pin) ++ further ∧
        ((given.Nodup ∧ further = []) ∨
          ∃ pin, Claim.FirstRepeated given pin ∧ further = [Claim.overlapNotice pin])) ∧
    (∀ finding ∈ configuration.pinFindings platform,
      ∃ component ∈ configuration.components, finding.place = .component component.name) ∧
    (∀ other : Configuration,
      List.Forall₂ (Component.ClaimsLike platform) configuration.components other.components →
        other.pinFindings platform = configuration.pinFindings platform) ∧
    ∀ project : Project, project.configuration = configuration →
      (project.validateConfiguration platform).findings =
          project.findings ++ (configuration.pinFindings platform ++ configuration.portFindings) ∧
        (project.validateConfiguration platform).errorCount =
          project.errorCount +
            ((configuration.pinFindings platform).length + configuration.portFindings.length) := by
  refine ⟨fun component listed => ?_, fun finding found => component_of_pinFindings found,
    fun other same => (Platform.claims_notices_congr same _).symm, ?_⟩
  · intro own given
    obtain ⟨claim, ⟨refused, claimed⟩, notices⟩ := exists_claim listed
    rw [Claim.notices_eq, refused, List.map_map] at notices
    refine ⟨_, notices, ?_⟩
    rw [show given = claim.claimed from claimed.symm]
    rcases Claim.firstRepeated?_cases claim.claimed with ⟨distinct, none⟩ | ⟨pin, first, some⟩
    · exact .inl ⟨distinct, by rw [none]; rfl⟩
    · exact .inr ⟨pin, first, by rw [some]; rfl⟩
  · rintro project rfl
    rw [← errorCount_validate, Project.validateConfiguration, Project.addFindings, Project.addErrors_eq]
    exact ⟨rfl, rfl⟩

end Configuration

/-- A board on which pin 31 can be claimed twice. -/
def Platform.doubled : Platform where
  name := "doubled"
  freePins := ["31", "31", "32"]
  overlappingRoles := [("IN1", true), ("IN2", true), ("OUT", true), ("GND", false)]
  workflows := []

/-- A motor with both inputs on one pin, and an output on a pin that the board does not have. -/
def Component.shorted (type : ComponentType) : Component where
  name := ⟨"shorted", by decide⟩
  type := type
  ports := [⟨"IN1", ⟨"31", by decide⟩⟩, ⟨"GND", ⟨"32", by decide⟩⟩, ⟨"IN2", ⟨"31", by decide⟩⟩,
    ⟨"OUT", ⟨"39", by decide⟩⟩]
  properties := none
  roles_nodup := by decide

/-- A motor that comes too late for one of its pins. -/
def Component.belated : Component where
  name := ⟨"belated", by decide⟩
  type := .motor
  ports := [⟨"IN1", ⟨"32", by decide⟩⟩, ⟨"IN2", ⟨"31", by decide⟩⟩]
  properties := none
  roles_nodup := by decide

/-- Both motors, the first of which may be something else. -/
def Configuration.tangled (type : ComponentType) : Configuration where
  robot := "arduino"
  components := [.shorted type, .belated]
  index := [("shorted", 0), ("belated", 1)]
  names_nodup := by simp [Component.shorted, Component.belated]
  indexed := rfl

/-- Of three claims on pin 31 the third is refused. The two that are not are claims of one
    component, which gets a notice about that after the one about its other pin. -/
theorem tangled_conflicts_attributed :
    Finding.noticesAt ((Configuration.tangled .motor).pinFindings .doubled)
        (.component (Component.shorted .motor).name) =
      [Claim.overlapNotice "39", Claim.overlapNotice "31"] ∧
    Finding.noticesAt ((Configuration.tangled .motor).pinFindings .doubled)
        (.component Component.belated.name) = [Claim.overlapNotice "31"] ∧
    (Configuration.tangled (.other "SERVO")).pinFindings .doubled =
      (Configuration.tangled .motor).pinFindings .doubled ∧
    (({ program := ⟨⟨⟨[0], {}⟩, []⟩, .mk ⟨[1], {}⟩ []⟩, configuration := .tangled .motor } :
      Project).validateConfiguration .doubled).errorCount = 0 + (3 + 0) := by
  obtain ⟨notices, _, others, counted⟩ :=
    Configuration.pin_conflicts_attributed (.tangled .motor) .doubled
  refine ⟨?_, ?_, others _ (.cons ⟨rfl, rfl⟩ (.cons ⟨rfl, rfl⟩ .nil)), (counted _ rfl).2⟩
  · have requests : (Configuration.tangled .motor).requestsOf .doubled (.shorted .motor) =
        [⟨.shorted .motor, ⟨"IN1", ⟨"31", by decide⟩⟩, 1⟩,
         ⟨.shorted .motor, ⟨"IN2", ⟨"31", by decide⟩⟩, 2⟩,
         ⟨.shorted .motor, ⟨"OUT", ⟨"39", by decide⟩⟩, 1⟩] := by decide +kernel
    obtain ⟨further, listed, again⟩ := notices (.shorted .motor) (by decide)
    rw [requests] at listed again
    rcases again with ⟨distinct, _⟩ | ⟨pin, ⟨before, after, split, _, member⟩, rfl⟩
    · exact absurd distinct (by decide +kernel)
    · have pins : pin ∈ ["31", "31"] := by
        rw [show ["31", "31"] = before ++ pin :: after from split]
        exact List.mem_append_left _ member
      rw [listed, show pin = "31" by simpa using pins]
      rfl
  · have requests : (Configuration.tangled .motor).requestsOf .doubled .belated =
        [⟨.belated, ⟨"IN1", ⟨"32", by decide⟩⟩, 1⟩, ⟨.belated, ⟨"IN2", ⟨"31", by decide⟩⟩, 3⟩] := by
      decide +kernel
    obtain ⟨further, listed, again⟩ := notices .belated (by decide)
    rw [requests] at listed again
    rcases again with ⟨_, rfl⟩ | ⟨pin, ⟨before, after, split, _, member⟩, _⟩
    · exact listed
    · have short : ["32"] = before ++ pin :: after := split
      cases before with
      | nil => cases member
      | cons first rest => simp at short

end BlockSketch
