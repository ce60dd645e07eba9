import BlockSketch.Draft.Wiring
import BlockSketch.Proofs.Checked
import BlockSketch.Proofs.Naming
import BlockSketch.Proofs.Outcome
import Mathlib.Data.List.Forall2
import Mathlib.Data.List.Induction

/-!
Drafts of configurations that keep all rules: every name is a name, every pin is a pin, no
component has a role twice and no two components share a name. Exactly these drafts are
built. A draft that breaks a rule breaks it somewhere first: in the first component that is
wrong by itself, and only if there is none, in the first name that comes again
(`configuration_built_iff_wellFormed`).
-/
namespace BlockSketch

/-! ## Where a list goes wrong first -/

/-- A property of lists that holds of no items holds of all items, or breaks at one of them. -/
theorem holds_or_breaks {α : Type} (Holds : List α → Prop) (start : Holds []) (items : List α) :
    Holds items ∨ ∃ before item after, items = before ++ item :: after ∧ Holds before ∧
      ¬Holds (before ++ [item]) := by
  induction items using List.reverseRecOn with
  | nil => exact .inl start
  | append_singleton items last ih =>
    rcases ih with holds | ⟨before, item, after, rfl, holds, breaks⟩
    · by_cases further : Holds (items ++ [last])
      · exact .inl further
      · exact .inr ⟨items, last, [], rfl, holds, further⟩
    · exact .inr ⟨before, item, after ++ [last], by simp, holds, breaks⟩

/-! ## Rules -/

namespace Draft

/-- No role comes twice, and all pins are pins. -/
structure PortsWellFormed (ports : List (String × String)) : Prop where
  roles : (ports.map Prod.fst).Nodup
  pins : ∀ port ∈ ports, IsPin port.2

structure Component.WellFormed (draft : Component) : Prop where
  name : IsName draft.name
  ports : PortsWellFormed draft.ports

/-- The draft keeps all rules. -/
structure Configuration.WellFormed (draft : Configuration) : Prop where
  components : ∀ component ∈ draft.components, component.WellFormed
  names : (draft.components.map Component.name).Nodup

/-- What is wrong with a component first: its name, and then, port by port, a role that was
    there before or a pin that is none. -/
inductive Component.FirstFlaw (draft : Component) : DraftError → Prop
  | name (invalid : ¬IsName draft.name) : FirstFlaw draft (.invalidComponentName draft.name)
  | role {before after : List (String × String)} {role pin : String} (named : IsName draft.name)
    (split : draft.ports = before ++ (role, pin) :: after) (well : PortsWellFormed before)
    (again : role ∈ before.map Prod.fst) : FirstFlaw draft (.duplicatePortRole draft.name role)
  | pin {before after : List (String × String)} {role pin : String} (named : IsName draft.name)
    (split : draft.ports = before ++ (role, pin) :: after) (well : PortsWellFormed before)
    (fresh : role ∉ before.map Prod.fst) (invalid : ¬IsPin pin) :
    FirstFlaw draft (.invalidPin draft.name role pin)

/-- What is wrong with a draft first: what is wrong with its first component that is wrong by
    itself, or, if no component is, the first name that was there before. -/
inductive Configuration.FirstFlaw (draft : Configuration) : DraftError → Prop
  | component {before after : List Component} {component : Component} {error : DraftError}
    (split : draft.components = before ++ component :: after) (well : ∀ earlier ∈ before, earlier.WellFormed)
    (flaw : component.FirstFlaw error) : FirstFlaw draft error
  | name {before after : List Component} {component : Component}
    (well : ∀ component ∈ draft.components, component.WellFormed)
    (split : draft.components = before ++ component :: after) (names : (before.map Component.name).Nodup)
    (again : component.name ∈ before.map Component.name) :
    FirstFlaw draft (.duplicateComponentName component.name)

/-! ## One component -/

/-- The component is the one that was drafted. -/
structure Component.Describes (draft : Component) (component : BlockSketch.Component) : Prop where
  name : component.name.text = draft.name
  type : component.type = ComponentType.ofTag draft.type
  ports : component.ports.map (fun port => (port.role, port.pin.text)) = draft.ports
  properties : component.properties = draft.properties

namespace Wiring

/-- The ports of a wiring as they are drafted. -/
def drafted (wiring : Wiring) : List (String × String) :=
  wiring.val.map fun port => (port.role, port.pin.text)

theorem roles_eq (wiring : Wiring) : wiring.val.map Port.role = wiring.drafted.map Prod.fst := by
  simp [drafted, Function.comp_def]

/-- Ports that keep the rules are wired, and those after them are wired next. A flaw after them
    is therefore met with exactly these ports wired. -/
theorem extend_append (component : String) (wiring : Wiring) {before : List (String × String)}
    (roles : ((wiring.drafted ++ before).map Prod.fst).Nodup) (pins : ∀ port ∈ before, IsPin port.2) :
    ∃ reached : Wiring, reached.drafted = wiring.drafted ++ before ∧
      ∀ after, wiring.extend component (before ++ after) = reached.extend component after := by
  induction before generalizing wiring with
  | nil => exact ⟨wiring, by simp, fun _ => rfl⟩
  | cons port rest ih =>
    obtain ⟨role, text⟩ := port
    obtain ⟨valid, others⟩ := List.forall_mem_cons.mp pins
    obtain ⟨pin, isPin⟩ := exists_pin valid
    obtain rfl := Pin.ofString?_eq_some_iff.mp isPin
    have fresh : role ∉ wiring.val.map Port.role := by
      rw [roles_eq]
      rw [List.map_append] at roles
      intro known
      exact (List.nodup_append.mp roles).2.2 role known role List.mem_cons_self rfl
    have pushed : (wiring.push ⟨role, pin⟩ fresh).drafted = wiring.drafted ++ [(role, pin.text)] := by
      simp [drafted, push]
    have distinct : (((wiring.push ⟨role, pin⟩ fresh).drafted ++ rest).map Prod.fst).Nodup := by
      rw [pushed, List.append_assoc]
      exact roles
    obtain ⟨reached, isDrafted, continued⟩ := ih _ distinct others
    refine ⟨reached, by rw [isDrafted, pushed, List.append_assoc]; rfl, fun after => ?_⟩
    rw [List.cons_append, extend, dif_neg fresh, isPin]
    exact continued after

end Wiring

namespace Component
variable {draft : Component} {error : DraftError}

theorem build_of_wellFormed (well : draft.WellFormed) :
    ∃ component, draft.build = .ok component ∧ draft.Describes component := by
  obtain ⟨name, isName⟩ := exists_name well.name
  obtain ⟨wiring, isDrafted, done⟩ := Wiring.extend_append draft.name .empty well.ports.roles well.ports.pins
  have wired : Wiring.empty.extend draft.name draft.ports = .ok wiring := by
    rw [← List.append_nil draft.ports, done, Wiring.extend]
  refine ⟨⟨name, ComponentType.ofTag draft.type, wiring.val, draft.properties, wiring.property⟩, ?_, ?_⟩
  · rw [build, isName]
    simp only [wired]
    rfl
  · exact ⟨Identifier.ofString?_eq_some_iff.mp isName, rfl, isDrafted, rfl⟩

theorem build_of_extend_error (named : IsName draft.name)
    (failed : Wiring.empty.extend draft.name draft.ports = .error error) : draft.build = .error error := by
  obtain ⟨name, isName⟩ := exists_name named
  rw [build, isName]
  simp only [failed]
  rfl

theorem build_of_firstFlaw (flaw : draft.FirstFlaw error) : draft.build = .error error := by
  cases flaw with
  | name invalid => rw [build, ofString?_of_not_isName invalid]
  | role named split well again =>
    obtain ⟨wiring, isDrafted, done⟩ := Wiring.extend_append draft.name .empty well.roles well.pins
    refine build_of_extend_error named ?_
    rw [split, done, Wiring.extend, dif_pos]
    rw [Wiring.roles_eq, isDrafted]
    exact again
  | pin named split well fresh invalid =>
    obtain ⟨wiring, isDrafted, done⟩ := Wiring.extend_append draft.name .empty well.roles well.pins
    refine build_of_extend_error named ?_
    rw [split, done, Wiring.extend, dif_neg, ofString?_of_not_isPin invalid]
    rw [Wiring.roles_eq, isDrafted]
    exact fresh

/-- A component that breaks a rule has a first flaw. -/
theorem wellFormed_or_firstFlaw (draft : Component) : draft.WellFormed ∨ ∃ error, draft.FirstFlaw error := by
  by_cases named : IsName draft.name
  · rcases holds_or_breaks PortsWellFormed ⟨by simp, by simp⟩ draft.ports with
      well | ⟨before, ⟨role, pin⟩, after, split, well, breaks⟩
    · exact .inl ⟨named, well⟩
    · by_cases again : role ∈ before.map Prod.fst
      · exact .inr ⟨_, .role named split well again⟩
      · refine .inr ⟨_, .pin named split well again fun valid => breaks ⟨?_, ?_⟩⟩
        · rw [List.map_append, List.map_singleton, ← List.concat_eq_append]
          exact List.Nodup.concat again well.roles
        · exact List.forall_mem_append.mpr ⟨well.pins, by simpa using valid⟩
  · exact .inr ⟨_, .name named⟩

end Component

end Draft

/-! ## All components -/

namespace Roster

/-- The names of the components of a roster as texts. -/
def texts (roster : Roster) : List String :=
  roster.components.map fun component => component.name.text

/-- Components with new names are listed, and those after them are listed next. -/
theorem extend_append (roster : Roster) {before : List Component}
    (names : (roster.texts ++ before.map fun component => component.name.text).Nodup) :
    ∃ reached : Roster, reached.components = roster.components ++ before ∧
      ∀ after, roster.extend (before ++ after) = reached.extend after := by
  induction before generalizing roster with
  | nil => exact ⟨roster, by simp, fun _ => rfl⟩
  | cons component rest ih =>
    have new : roster.index.lookup component.name.text = none := by
      refine lookup_eq_none_iff.mpr fun known => ?_
      exact (List.nodup_append.mp names).2.2 _ known _ List.mem_cons_self rfl
    have pushed : (roster.push component new).texts = roster.texts ++ [component.name.text] := by
      simp [texts, push]
    have distinct : ((roster.push component new).texts ++ rest.map fun component => component.name.text).Nodup := by
      rw [pushed, List.append_assoc]
      exact names
    obtain ⟨reached, isListed, continued⟩ := ih _ distinct
    refine ⟨reached, by rw [isListed, push, List.append_assoc]; rfl, fun after => ?_⟩
    rw [List.cons_append, extend, dif_pos new]
    exact continued after

end Roster

namespace Draft

/-- The configuration is the one that was drafted, component by component, and its index has
    the name of each with its position. -/
structure Configuration.Describes (draft : Configuration) (configuration : BlockSketch.Configuration) : Prop where
  robot : configuration.robot = draft.robot
  components : List.Forall₂ Component.Describes draft.components configuration.components
  index : configuration.index = (draft.components.map Component.name).zipIdx

namespace Component

theorem mapM_build {drafts : List Component} (well : ∀ draft ∈ drafts, draft.WellFormed) :
    ∃ components, drafts.mapM Component.build = .ok components ∧ List.Forall₂ Describes drafts components := by
  induction drafts with
  | nil => exact ⟨[], rfl, .nil⟩
  | cons draft rest ih =>
    obtain ⟨first, others⟩ := List.forall_mem_cons.mp well
    obtain ⟨component, built, describes⟩ := build_of_wellFormed first
    obtain ⟨components, allBuilt, allDescribe⟩ := ih others
    refine ⟨component :: components, ?_, .cons describes allDescribe⟩
    rw [List.mapM_cons, built, allBuilt]
    rfl

theorem map_name_of_describes {drafts : List Component} {components : List BlockSketch.Component}
    (describe : List.Forall₂ Describes drafts components) :
    components.map (fun component => component.name.text) = drafts.map Component.name := by
  induction describe with
  | nil => rfl
  | cons first _ ih => rw [List.map_cons, List.map_cons, first.name, ih]

end Component

namespace Configuration
variable {draft : Configuration} {error : DraftError}

theorem build_of_mapM {components : List BlockSketch.Component}
    (built : draft.components.mapM Component.build = .ok components) :
    draft.build = do
      let roster ← Roster.empty.extend components
      return ⟨roster, draft.robot⟩ := by
  rw [build, built]
  rfl

theorem build_of_wellFormed (well : draft.WellFormed) :
    ∃ configuration, draft.build = .ok configuration ∧ draft.Describes configuration := by
  obtain ⟨components, built, describe⟩ := Component.mapM_build well.components
  have names : (Roster.empty.texts ++ components.map fun component => component.name.text).Nodup := by
    rw [Component.map_name_of_describes describe]
    exact well.names
  obtain ⟨roster, isListed, done⟩ := Roster.extend_append .empty names
  have listed : Roster.empty.extend components = .ok roster := by
    rw [← List.append_nil components, done, Roster.extend]
  have components : roster.components = components := isListed
  refine ⟨⟨roster, draft.robot⟩, ?_, rfl, ?_, ?_⟩
  · rw [build_of_mapM built, listed]
    rfl
  · rw [components]
    exact describe
  · rw [roster.indexed, components, Component.map_name_of_describes describe]

theorem build_of_firstFlaw (flaw : draft.FirstFlaw error) : draft.build = .error error := by
  cases flaw with
  | component split well flaw =>
    obtain ⟨components, built, _⟩ := Component.mapM_build well
    rw [build, split, List.mapM_append, built, List.mapM_cons, Component.build_of_firstFlaw flaw]
    rfl
  | @name before after component well split names again =>
    rw [split] at well
    obtain ⟨wellBefore, wellAfter⟩ := List.forall_mem_append.mp well
    obtain ⟨wellHere, wellAfter⟩ := List.forall_mem_cons.mp wellAfter
    obtain ⟨front, frontBuilt, describe⟩ := Component.mapM_build wellBefore
    obtain ⟨repeated, isBuilt, describes⟩ := Component.build_of_wellFormed wellHere
    obtain ⟨back, backBuilt, _⟩ := Component.mapM_build wellAfter
    have built : draft.components.mapM Component.build = .ok (front ++ repeated :: back) := by
      rw [split, List.mapM_append, frontBuilt, List.mapM_cons, isBuilt, backBuilt]
      rfl
    have texts := Component.map_name_of_describes describe
    obtain ⟨roster, isListed, done⟩ := Roster.extend_append .empty (texts.symm ▸ names)
    have known : ¬roster.index.lookup repeated.name.text = none := by
      rw [Roster.lookup_eq_none_iff, not_not, isListed, describes.name]
      exact texts.symm ▸ again
    have listed : Roster.empty.extend (front ++ repeated :: back) =
        .error (.duplicateComponentName component.name) := by
      rw [done, Roster.extend, dif_neg known, describes.name]
    rw [build_of_mapM built, listed]
    rfl

/-- A draft that breaks a rule has a first flaw. -/
theorem wellFormed_or_firstFlaw (draft : Configuration) : draft.WellFormed ∨ ∃ error, draft.FirstFlaw error := by
  -- Names are compared only if no component is wrong by itself.
  rcases holds_or_breaks (fun components => ∀ component ∈ components, component.WellFormed) (by simp)
    draft.components with well | ⟨before, component, after, split, well, breaks⟩
  · rcases holds_or_breaks (fun components => (components.map Component.name).Nodup) (by simp)
      draft.components with names | ⟨before, component, after, split, names, breaks⟩
    · exact .inl ⟨well, names⟩
    · refine .inr ⟨_, .name well split names ?_⟩
      by_contra fresh
      refine breaks ?_
      rw [List.map_append, List.map_singleton, ← List.concat_eq_append]
      exact List.Nodup.concat fresh names
  · rcases component.wellFormed_or_firstFlaw with own | ⟨error, flaw⟩
    · exact absurd (List.forall_mem_append.mpr ⟨well, by simpa using own⟩) breaks
    · exact .inr ⟨error, .component split well flaw⟩

theorem exists_built_iff : (∃ configuration, draft.build = .ok configuration) ↔ draft.WellFormed := by
  constructor
  · rintro ⟨configuration, built⟩
    rcases draft.wellFormed_or_firstFlaw with well | ⟨error, flaw⟩
    · exact well
    · rw [build_of_firstFlaw flaw] at built
      cases built
  · intro well
    obtain ⟨configuration, built, _⟩ := build_of_wellFormed well
    exact ⟨configuration, built⟩

theorem build_eq_error_iff : draft.build = .error error ↔ draft.FirstFlaw error := by
  refine ⟨fun failed => ?_, build_of_firstFlaw⟩
  rcases draft.wellFormed_or_firstFlaw with well | ⟨other, flaw⟩
  · obtain ⟨configuration, built, _⟩ := build_of_wellFormed well
    rw [built] at failed
    cases failed
  · rw [build_of_firstFlaw flaw] at failed
    cases failed
    exact flaw

theorem describes_of_build {configuration : BlockSketch.Configuration} (built : draft.build = .ok configuration) :
    draft.Describes configuration := by
  obtain ⟨other, builtToo, describes⟩ := build_of_wellFormed (exists_built_iff.mp ⟨configuration, built⟩)
  rw [built] at builtToo
  cases builtToo
  exact describes

end Configuration
end Draft

/-! ## Lookups -/

namespace Configuration

/-- What is looked up agrees with the lists. The index gives a name the position of the
    component that has it, so that no position is beyond the components. -/
structure Consistent (configuration : Configuration) : Prop where
  index (name : String) (position : Nat) : configuration.index.lookup name = some position ↔
    ∃ component, configuration.components[position]? = some component ∧ component.name.text = name
  bounded : ∀ entry ∈ configuration.index, entry.2 < configuration.components.length
  component (name : String) (component : Component) : configuration.component? name = some component ↔
    component ∈ configuration.components ∧ component.name.text = name
  pin (component : Component) (role : String) (pin : Pin) : component ∈ configuration.components →
    (component.pin? role = some pin ↔ ⟨role, pin⟩ ∈ component.ports)

end Configuration

theorem Component.pin?_eq_some_iff {component : Component} {role : String} {pin : Pin} :
    component.pin? role = some pin ↔ ⟨role, pin⟩ ∈ component.ports := by
  rw [pin?, Option.map_eq_some_iff]
  constructor
  · rintro ⟨port, found, rfl⟩
    obtain rfl : port.role = role := by simpa using List.find?_some found
    exact List.mem_of_find?_eq_some found
  · intro member
    exact ⟨_, find?_of_mem component.roles_nodup member, rfl⟩

theorem Configuration.consistent (configuration : Configuration) : configuration.Consistent where
  index _ _ := lookup_index_eq_some_iff
  bounded entry member := by
    obtain ⟨component, there, _⟩ := mem_index_iff.mp member
    exact (List.getElem?_eq_some_iff.mp there).1
  component name component := by
    refine ⟨mem_of_component?, ?_⟩
    rintro ⟨member, rfl⟩
    exact component?_of_mem member
  pin _ _ _ _ := Component.pin?_eq_some_iff

/-- A draft of a configuration is built exactly if it keeps all rules. If it does not, the error is
    its first flaw. What is built is what was drafted, in order, and lookups in it agree with
    its lists. -/
theorem configuration_built_iff_wellFormed (draft : Draft.Configuration) :
    ((∃ configuration, draft.build = .ok configuration) ↔ draft.WellFormed) ∧
      (∀ error, draft.build = .error error ↔ draft.FirstFlaw error) ∧
      ∀ configuration, draft.build = .ok configuration →
        draft.Describes configuration ∧ configuration.Consistent :=
  ⟨Draft.Configuration.exists_built_iff, fun _ => Draft.Configuration.build_eq_error_iff, fun configuration built =>
    ⟨Draft.Configuration.describes_of_build built, configuration.consistent⟩⟩

/-- Two buttons and a display. -/
def Draft.Configuration.desk : Draft.Configuration where
  robot := "arduino"
  components :=
    [⟨"a", "KEY", [("PIN1", "2")], none⟩, ⟨"b", "KEY", [("PIN1", "A0")], none⟩,
      ⟨"c", "LCD", [("RS", "12"), ("E", "11")], none⟩]

/-- A name comes again, and later a role comes again with a pin that is none. -/
def Draft.Configuration.botched : Draft.Configuration where
  robot := "arduino"
  components :=
    [⟨"a", "KEY", [("PIN1", "2")], none⟩, ⟨"a", "KEY", [("PIN1", "3")], none⟩,
      ⟨"c", "LCD", [("RS", "12"), ("RS", "-1")], none⟩]

theorem desk_built_and_botched_not :
    (Draft.Configuration.desk.WellFormed ∧ ∃ configuration, Draft.Configuration.desk.build = .ok configuration ∧
      configuration.index = [("a", 0), ("b", 1), ("c", 2)] ∧
      Draft.Configuration.desk.Describes configuration ∧ configuration.Consistent) ∧
    Draft.Configuration.botched.FirstFlaw (.duplicatePortRole "c" "RS") := by
  have stored : (Draft.Configuration.desk.build.toOption.map fun configuration => configuration.index) =
      some [("a", 0), ("b", 1), ("c", 2)] := by
    decide +kernel
  obtain ⟨configuration, built, stored⟩ := Option.map_eq_some_iff.mp stored
  replace built := Outcome.eq_ok_of_toOption built
  have failed : Draft.Configuration.botched.build = .error (.duplicatePortRole "c" "RS") := by decide +kernel
  have desk := configuration_built_iff_wellFormed .desk
  exact ⟨⟨desk.1.mp ⟨configuration, built⟩, configuration, built, stored, desk.2.2 configuration built⟩,
    ((configuration_built_iff_wellFormed .botched).2.1 _).mp failed⟩

end BlockSketch
