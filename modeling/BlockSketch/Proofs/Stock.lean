import BlockSketch.Configuration.Pins
import Mathlib.Algebra.BigOperators.Group.Finset.Basic
import Mathlib.Data.List.Forall2
import Mathlib.Data.List.Nodup

/-!
Components claim pins one after the other from one stock, and yet the order does not decide
whether a configuration is accepted. For each pin it only counts how often the pin is wanted
and how often it is free: what goes beyond the stock is refused, whoever comes last
(`Claim.Served`). The order can decide only how often a component has got a pin twice, and
where the stock has each pin once, that never happens.
-/
namespace BlockSketch

/-! ## What is wanted -/

/-- The pins that a component claims: those of its overlapping roles, in the order of its
    ports. -/
def Component.wanted (platform : Platform) (component : Component) : List String :=
  (component.ports.filter fun port => platform.isOverlapping port.role).map fun port => port.pin.text

/-- The pins that all components claim, one after the other. -/
def Configuration.wanted (platform : Platform) (configuration : Configuration) : List String :=
  configuration.components.flatMap (Component.wanted platform)

/-- No two overlapping roles of the component are wired to the same pin. -/
def Component.WiredApart (platform : Platform) (component : Component) : Prop :=
  ∀ first ∈ component.ports, ∀ second ∈ component.ports,
    platform.isOverlapping first.role = true → platform.isOverlapping second.role = true →
      first.pin = second.pin → first.role = second.role

theorem Pin.text_inj {first second : Pin} : first.text = second.text ↔ first = second := by
  cases first
  cases second
  simp

theorem Component.wanted_nodup_iff {platform : Platform} {component : Component} :
    (component.wanted platform).Nodup ↔ component.WiredApart platform := by
  have distinct : component.ports.Nodup := component.roles_nodup.of_map
  unfold wanted WiredApart
  rw [List.nodup_map_iff_inj_on (distinct.filter _)]
  constructor
  · intro injective first isFirst second isSecond overlaps overlapsToo samePin
    have same := injective first (List.mem_filter.mpr ⟨isFirst, overlaps⟩) second
      (List.mem_filter.mpr ⟨isSecond, overlapsToo⟩) (congrArg Pin.text samePin)
    rw [same]
  · intro apart first isFirst second isSecond sameText
    obtain ⟨isFirst, overlaps⟩ := List.mem_filter.mp isFirst
    obtain ⟨isSecond, overlapsToo⟩ := List.mem_filter.mp isSecond
    have sameRole := apart first isFirst second isSecond overlaps overlapsToo (Pin.text_inj.mp sameText)
    exact List.inj_on_of_nodup_map component.roles_nodup isFirst isSecond sameRole

/-! ## One request -/

namespace Claim

/-- The pins that were not free any more. -/
def refused (claim : Claim) : List String :=
  claim.conflicts.map fun port => port.pin.text

/-- What becomes of a pin when these pins are asked for: it is given out as long as it is
    free, and refused from then on. -/
structure Served (pin : String) (before after : Claim) (asked : List String) : Prop where
  free_eq : after.free.count pin = before.free.count pin - asked.count pin
  claimed_eq : after.claimed.count pin =
    before.claimed.count pin + min (asked.count pin) (before.free.count pin)
  refused_eq : after.refused.count pin =
    before.refused.count pin + (asked.count pin - before.free.count pin)

theorem Served.refl (pin : String) (claim : Claim) : Served pin claim claim [] :=
  ⟨by simp, by simp, by simp⟩

theorem Served.trans {pin : String} {first middle last : Claim} {asked more : List String}
    (earlier : Served pin first middle asked) (later : Served pin middle last more) :
    Served pin first last (asked ++ more) := by
  obtain ⟨free, claimed, refused⟩ := earlier
  obtain ⟨freeLater, claimedLater, refusedLater⟩ := later
  rw [free] at freeLater claimedLater refusedLater
  refine ⟨?_, ?_, ?_⟩
  · rw [freeLater, List.count_append]
    omega
  · rw [claimedLater, claimed, List.count_append]
    omega
  · rw [refusedLater, refused, List.count_append]
    omega

/-- A request changes nothing for other pins; its own pin is given out if it is there. -/
theorem request_served (pin : String) (claim : Claim) (port : Port) :
    Served pin claim (claim.request port) [port.pin.text] := by
  unfold request
  by_cases available : port.pin.text ∈ claim.free
  · rw [if_pos available]
    by_cases same : port.pin.text = pin
    · subst same
      have positive : 0 < claim.free.count port.pin.text := List.count_pos_iff.mpr available
      have one : 1 - claim.free.count port.pin.text = 0 := by omega
      have least : min 1 (claim.free.count port.pin.text) = 1 := by omega
      exact ⟨by simp, by simp [least], by simp [refused, one]⟩
    · exact ⟨by simp [same, List.count_erase_of_ne (Ne.symm same)], by simp [same], by simp [refused, same]⟩
  · rw [if_neg available]
    by_cases same : port.pin.text = pin
    · subst same
      have absent : claim.free.count port.pin.text = 0 := List.count_eq_zero.mpr available
      exact ⟨by simp [absent], by simp [absent], by simp [refused, absent]⟩
    · exact ⟨by simp [same], by simp [same], by simp [refused, same]⟩

/-- Requests one after the other, by induction over the ports. -/
theorem foldl_request_served (pin : String) (ports : List Port) (claim : Claim) :
    Served pin claim (ports.foldl request claim) (ports.map fun port => port.pin.text) := by
  induction ports generalizing claim with
  | nil => exact .refl pin claim
  | cons port rest ih => exact (request_served pin claim port).trans (ih (claim.request port))

end Claim

/-! ## One component -/

namespace Platform
variable (platform : Platform) (free : List String)

theorem claim_served (pin : String) (component : Component) :
    Claim.Served pin ⟨free, [], []⟩ (platform.claim free component) (component.wanted platform) :=
  Claim.foldl_request_served pin _ _

theorem count_free_claim (pin : String) (component : Component) :
    (platform.claim free component).free.count pin =
      free.count pin - (component.wanted platform).count pin :=
  (platform.claim_served free pin component).free_eq

theorem count_claimed_claim (pin : String) (component : Component) :
    (platform.claim free component).claimed.count pin =
      min ((component.wanted platform).count pin) (free.count pin) := by
  simpa using (platform.claim_served free pin component).claimed_eq

theorem count_refused_claim (pin : String) (component : Component) :
    (platform.claim free component).refused.count pin =
      (component.wanted platform).count pin - free.count pin := by
  simpa [Claim.refused] using (platform.claim_served free pin component).refused_eq

/-! ## All components -/

/-- The pins that components are refused. -/
def refusals (components : List Component) : List String :=
  (platform.claims free components).flatMap fun entry => entry.2.refused

/-- What is wanted beyond the stock is refused. -/
theorem count_refusals (components : List Component) (pin : String) :
    (platform.refusals free components).count pin =
      (components.flatMap (Component.wanted platform)).count pin - free.count pin := by
  induction components generalizing free with
  | nil => simp [refusals, claims]
  | cons component rest ih =>
    have later := ih (platform.claim free component).free
    rw [count_free_claim] at later
    have split : platform.refusals free (component :: rest) =
        (platform.claim free component).refused ++
          platform.refusals (platform.claim free component).free rest := rfl
    rw [split, List.count_append, count_refused_claim, later, List.flatMap_cons, List.count_append]
    omega

/-- If nothing is refused, a component gets what it wants, and nothing else. -/
theorem claimed_nodup_iff {free : List String} {components : List Component}
    (enough : ∀ pin, (components.flatMap (Component.wanted platform)).count pin ≤ free.count pin) :
    (∀ entry ∈ platform.claims free components, entry.2.claimed.Nodup) ↔
      ∀ component ∈ components, (component.wanted platform).Nodup := by
  induction components generalizing free with
  | nil => simp [claims]
  | cons component rest ih =>
    simp only [List.flatMap_cons, List.count_append] at enough
    have own : (platform.claim free component).claimed.Nodup ↔ (component.wanted platform).Nodup := by
      simp only [List.nodup_iff_count_le_one, count_claimed_claim]
      refine forall_congr' fun pin => ?_
      have fits := enough pin
      rw [min_eq_left (by omega)]
    have left : ∀ pin, (rest.flatMap (Component.wanted platform)).count pin ≤
        (platform.claim free component).free.count pin := by
      intro pin
      have fits := enough pin
      rw [count_free_claim]
      omega
    simp only [claims, List.forall_mem_cons]
    rw [own, ih left]

/-- A stock that has each pin once gives none out twice. -/
theorem claimed_nodup {free : List String} (distinct : free.Nodup) (components : List Component) :
    ∀ entry ∈ platform.claims free components, entry.2.claimed.Nodup := by
  induction components generalizing free with
  | nil => simp [claims]
  | cons component rest ih =>
    rw [List.nodup_iff_count_le_one] at distinct
    simp only [claims, List.forall_mem_cons]
    constructor
    · refine List.nodup_iff_count_le_one.mpr fun pin => ?_
      have once := distinct pin
      rw [count_claimed_claim]
      omega
    · refine ih (List.nodup_iff_count_le_one.mpr fun pin => ?_)
      have once := distinct pin
      rw [count_free_claim]
      omega

end Platform

/-! ## Errors -/

namespace Claim

theorem firstRepeated?_eq_none_iff {seen pins : List String} :
    firstRepeated? seen pins = none ↔ pins.Nodup ∧ ∀ pin ∈ pins, pin ∉ seen := by
  induction pins generalizing seen with
  | nil => simp [firstRepeated?]
  | cons pin rest ih =>
    by_cases known : pin ∈ seen
    · simp [firstRepeated?, known]
    · rw [firstRepeated?, if_neg known, ih, List.nodup_cons, List.forall_mem_cons]
      constructor
      · rintro ⟨distinct, fresh⟩
        refine ⟨⟨fun again => fresh pin again List.mem_cons_self, distinct⟩, known, fun later member => ?_⟩
        exact fun old => fresh later member (List.mem_cons_of_mem _ old)
      · rintro ⟨⟨once, distinct⟩, _, fresh⟩
        refine ⟨distinct, fun later member old => ?_⟩
        rcases List.mem_cons.mp old with rfl | old
        · exact once member
        · exact fresh later member old

/-- A component is in error once for each refusal, and once more if it has got a pin
    twice. -/
theorem errorCount_notices (claim : Claim) :
    Notice.errorCount claim.notices =
      claim.refused.length + if claim.claimed.Nodup then 0 else 1 := by
  have all : ∀ notice ∈ claim.notices, notice.isError = true := by
    intro notice member
    rcases List.mem_append.mp member with conflict | repeated
    · obtain ⟨port, _, rfl⟩ := List.mem_map.mp conflict
      rfl
    · obtain ⟨pin, _, rfl⟩ := List.mem_map.mp repeated
      rfl
  rw [Notice.errorCount, List.countP_eq_length.mpr all]
  have repeated : firstRepeated? [] claim.claimed = none ↔ claim.claimed.Nodup := by
    simp [firstRepeated?_eq_none_iff]
  by_cases distinct : claim.claimed.Nodup
  · simp [notices, refused, repeated.mpr distinct, distinct]
  · obtain ⟨pin, found⟩ := Option.ne_none_iff_exists'.mp (mt repeated.mp distinct)
    simp [notices, refused, found, distinct]

end Claim

namespace Configuration
variable {configuration : Configuration} {platform : Platform}

/-- The number of errors that the check of the pins reports. -/
def pinErrors (configuration : Configuration) (platform : Platform) : Nat :=
  Finding.errorCount (configuration.pinFindings platform)

theorem pinErrors_eq (configuration : Configuration) (platform : Platform) :
    configuration.pinErrors platform =
      (platform.refusals platform.freePins configuration.components).length +
        (configuration.claims platform).countP fun entry => ¬ entry.2.claimed.Nodup := by
  unfold pinErrors pinFindings Platform.refusals claims
  induction platform.claims platform.freePins configuration.components with
  | nil => rfl
  | cons entry rest ih =>
    have own : Finding.errorCount (entry.2.notices.map entry.1.finding) =
        Notice.errorCount entry.2.notices := by
      simp [Finding.errorCount, Notice.errorCount, List.countP_map, Function.comp_def, Component.finding]
    rw [List.flatMap_cons, Finding.errorCount_append, own, ih, Claim.errorCount_notices,
      List.flatMap_cons, List.length_append, List.countP_cons]
    by_cases distinct : entry.2.claimed.Nodup
    · simp only [distinct, not_true_eq_false, decide_false, if_true, Bool.false_eq_true, if_false]
      omega
    · simp only [distinct, not_false_eq_true, decide_true, if_true, if_false]
      omega

/-- No pin is wanted more often than it is free, and no component wants one twice. -/
def Fits (configuration : Configuration) (platform : Platform) : Prop :=
  (∀ pin, (configuration.wanted platform).count pin ≤ platform.freePins.count pin) ∧
    ∀ component ∈ configuration.components, component.WiredApart platform

theorem pinErrors_eq_zero_iff : configuration.pinErrors platform = 0 ↔ configuration.Fits platform := by
  have refusals : (platform.refusals platform.freePins configuration.components).length = 0 ↔
      ∀ pin, (configuration.wanted platform).count pin ≤ platform.freePins.count pin := by
    rw [List.length_eq_zero_iff, List.eq_nil_iff_forall_not_mem]
    refine forall_congr' fun pin => ?_
    rw [← List.count_eq_zero, Platform.count_refusals]
    exact Nat.sub_eq_zero_iff_le
  rw [pinErrors_eq, Nat.add_eq_zero_iff, refusals]
  refine and_congr_right fun enough => ?_
  simp only [← Component.wanted_nodup_iff]
  rw [← Platform.claimed_nodup_iff platform enough, List.countP_eq_zero]
  simp only [decide_not, Bool.not_eq_true', decide_eq_false_iff_not, not_not]
  rfl

/-- With each pin once in the stock, the errors are what is wanted beyond it. -/
theorem pinErrors_eq_sum (distinct : platform.freePins.Nodup) :
    configuration.pinErrors platform =
      ∑ pin ∈ (configuration.wanted platform).toFinset,
        ((configuration.wanted platform).count pin - platform.freePins.count pin) := by
  have once : ((configuration.claims platform).countP fun entry => ¬ entry.2.claimed.Nodup) = 0 := by
    rw [List.countP_eq_zero]
    intro entry member
    simpa using Platform.claimed_nodup platform distinct configuration.components entry member
  rw [pinErrors_eq, once, Nat.add_zero, ← List.sum_toFinset_count_eq_length]
  simp only [Platform.count_refusals]
  refine Finset.sum_subset ?_ ?_
  · intro pin refused
    have positive := List.count_pos_iff.mpr (List.mem_toFinset.mp refused)
    rw [Platform.count_refusals] at positive
    exact List.mem_toFinset.mpr (List.count_pos_iff.mp (Nat.lt_of_lt_of_le positive (Nat.sub_le _ _)))
  · intro pin _ granted
    rw [List.mem_toFinset, ← List.count_eq_zero, Platform.count_refusals] at granted
    exact granted

theorem fits_iff_of_nodup (distinct : platform.freePins.Nodup) :
    configuration.Fits platform ↔
      (configuration.wanted platform).Nodup ∧
        ∀ pin ∈ configuration.wanted platform, pin ∈ platform.freePins := by
  rw [List.nodup_iff_count_le_one] at distinct
  constructor
  · rintro ⟨enough, _⟩
    refine ⟨List.nodup_iff_count_le_one.mpr fun pin => (enough pin).trans (distinct pin), fun pin wanted => ?_⟩
    exact List.count_pos_iff.mp (Nat.lt_of_lt_of_le (List.count_pos_iff.mpr wanted) (enough pin))
  · rintro ⟨once, available⟩
    refine ⟨fun pin => ?_, fun component member => Component.wanted_nodup_iff.mp ?_⟩
    · by_cases wanted : pin ∈ configuration.wanted platform
      · have atMost := List.nodup_iff_count_le_one.mp once pin
        have atLeast := List.count_pos_iff.mpr (available pin wanted)
        omega
      · rw [List.count_eq_zero.mpr wanted]
        exact Nat.zero_le _
    · exact once.sublist (List.sublist_flatten_of_mem (List.mem_map_of_mem member))

end Configuration

/-! ## Order -/

/-- The same component, with its ports in any order. -/
def Component.Reordered (first second : Component) : Prop :=
  first.name = second.name ∧ first.type = second.type ∧ first.properties = second.properties ∧
    first.ports.Perm second.ports

section
variable {components others : List Component} (platform : Platform)

theorem Component.Reordered.wanted_perm {first second : Component} (same : first.Reordered second) :
    (first.wanted platform).Perm (second.wanted platform) :=
  (same.2.2.2.filter _).map _

theorem Component.Reordered.wiredApart_iff {first second : Component} (same : first.Reordered second) :
    first.WiredApart platform ↔ second.WiredApart platform := by
  rw [← wanted_nodup_iff, ← wanted_nodup_iff]
  exact (same.wanted_perm platform).nodup_iff

theorem Component.flatMap_wanted_perm (each : List.Forall₂ Component.Reordered components others) :
    (components.flatMap (Component.wanted platform)).Perm (others.flatMap (Component.wanted platform)) := by
  induction each with
  | nil => exact .nil
  | cons same _ ih => exact (same.wanted_perm platform).append ih

theorem Component.forall_wiredApart_iff (each : List.Forall₂ Component.Reordered components others) :
    (∀ component ∈ components, component.WiredApart platform) ↔
      ∀ component ∈ others, component.WiredApart platform := by
  induction each with
  | nil => rfl
  | cons same _ ih => rw [List.forall_mem_cons, List.forall_mem_cons, same.wiredApart_iff platform, ih]

end

namespace Configuration

/-- The same components in any order, each with its ports in any order. -/
def Reordered (first second : Configuration) : Prop :=
  first.robot = second.robot ∧
    ∃ components, first.components.Perm components ∧
      List.Forall₂ Component.Reordered components second.components

variable {first second : Configuration}

theorem Reordered.wanted_perm (same : first.Reordered second) (platform : Platform) :
    (first.wanted platform).Perm (second.wanted platform) := by
  obtain ⟨_, components, moved, each⟩ := same
  exact (moved.flatMap_right _).trans (Component.flatMap_wanted_perm platform each)

theorem Reordered.wiredApart_iff (same : first.Reordered second) (platform : Platform) :
    (∀ component ∈ first.components, component.WiredApart platform) ↔
      ∀ component ∈ second.components, component.WiredApart platform := by
  obtain ⟨_, components, moved, each⟩ := same
  simp only [moved.mem_iff]
  exact Component.forall_wiredApart_iff platform each

theorem Reordered.fits_iff (same : first.Reordered second) (platform : Platform) :
    first.Fits platform ↔ second.Fits platform := by
  have counts := (same.wanted_perm platform).count_eq
  simp only [Fits, counts, same.wiredApart_iff platform]

/-- The check of the pins accepts a configuration exactly if it fits the stock, in whatever
    order its components and their ports are given. Where the stock has each pin once, that
    means that the pins which are wanted are different and free; and then the errors are
    counted by what is wanted beyond the stock, and do not depend on the order either. -/
theorem pin_check_exact (configuration : Configuration) (platform : Platform) :
    (configuration.pinErrors platform = 0 ↔ configuration.Fits platform) ∧
    (∀ other, configuration.Reordered other →
      (configuration.pinErrors platform = 0 ↔ other.pinErrors platform = 0)) ∧
    (platform.freePins.Nodup →
      (configuration.pinErrors platform = 0 ↔
        (configuration.wanted platform).Nodup ∧
          ∀ pin ∈ configuration.wanted platform, pin ∈ platform.freePins) ∧
      configuration.pinErrors platform =
        ∑ pin ∈ (configuration.wanted platform).toFinset,
          ((configuration.wanted platform).count pin - platform.freePins.count pin) ∧
      ∀ other, configuration.Reordered other →
        configuration.pinErrors platform = other.pinErrors platform) := by
  refine ⟨pinErrors_eq_zero_iff, fun other same => ?_, fun distinct => ⟨?_, pinErrors_eq_sum distinct, ?_⟩⟩
  · rw [pinErrors_eq_zero_iff, pinErrors_eq_zero_iff]
    exact same.fits_iff platform
  · exact pinErrors_eq_zero_iff.trans (fits_iff_of_nodup distinct)
  · intro other same
    have moved := same.wanted_perm platform
    rw [pinErrors_eq_sum distinct, pinErrors_eq_sum distinct, List.toFinset_eq_of_perm _ _ moved]
    simp only [moved.count_eq]

/-- Two components on pin 9, and one on a pin that the board does not have. -/
def crowded : Configuration where
  robot := "arduino"
  components := [
    { name := ⟨"button", by decide⟩, type := .key, ports := [⟨"PIN1", ⟨"9", by decide⟩⟩],
      properties := none, roles_nodup := by decide },
    { name := ⟨"wheel", by decide⟩, type := .motor,
      ports := [⟨"IN1", ⟨"9", by decide⟩⟩, ⟨"IN2", ⟨"44", by decide⟩⟩, ⟨"GND", ⟨"9", by decide⟩⟩],
      properties := none, roles_nodup := by decide }]
  index := [("button", 0), ("wheel", 1)]
  names_nodup := by decide
  indexed := rfl

/-- Whichever of the two is asked first, there are two errors. -/
theorem crowded_in_any_order :
    Platform.arduinoUno.freePins.Nodup ∧ crowded.pinErrors .arduinoUno = 2 ∧
      ¬ crowded.Fits .arduinoUno ∧
      ∀ other, crowded.Reordered other → other.pinErrors .arduinoUno = 2 := by
  have distinct : Platform.arduinoUno.freePins.Nodup := by decide +kernel
  have errors : crowded.pinErrors .arduinoUno = 2 := by decide +kernel
  obtain ⟨accepted, _, exact⟩ := pin_check_exact crowded .arduinoUno
  obtain ⟨_, _, unordered⟩ := exact distinct
  refine ⟨distinct, errors, fun fits => ?_, fun other same => (unordered other same).symm.trans errors⟩
  cases errors.symm.trans (accepted.mpr fits)

end Configuration
end BlockSketch
