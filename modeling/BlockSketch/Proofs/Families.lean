import BlockSketch.Draft.Wiring
import BlockSketch.Proofs.Capture

/-!
The names that a sketch defines at its top belong to families: constants for pins, objects for
displays, variables and start times. Each family begins in its own way, but a pin constant
goes on with the name of its component, which may begin in the way of another family. So pin
constants can be written like displays and like variables, and it is said here exactly when;
no other two families ever meet.
-/
namespace BlockSketch

/-! ## What a sketch defines -/

namespace Sketch

/-- The name that a definition introduces. -/
def Definition.defined : Definition → Name
  | pin name _ => name
  | display name _ => name

/-- The name that a global introduces. -/
def Global.defined : Global → Name
  | var name _ => name
  | timer name => name

/-- The names that the sketch introduces outside of its functions, line by line. -/
def fileNames (sketch : Sketch) : List Name :=
  sketch.definitions.map Definition.defined ++ sketch.globals.map Global.defined

/-- The names for a component: a constant for each pin that its type needs, and the object if
    it is a display. -/
def componentNames (component : Component) : List Name :=
  component.type.requiredRoles.map (.pin component.name) ++
    if component.type = .lcd then [.display component.name] else []

variable {component : Component} {definitions : List Definition}

theorem defined_of_pinDefinitions {roles : List String}
    (made : pinDefinitions component roles = .ok definitions) :
    definitions.map Definition.defined = roles.map (.pin component.name) := by
  induction roles generalizing definitions with
  | nil =>
    cases made
    rfl
  | cons role rest ih =>
    unfold pinDefinitions at made
    cases wired : component.pin? role with
    | none => simp [wired] at made
    | some pin =>
      simp only [wired] at made
      obtain ⟨others, later, joined⟩ := Outcome.bind_eq_ok_iff.mp made
      cases joined
      simp [Definition.defined, ih later]

theorem defined_of_componentDefinitions (made : componentDefinitions component = .ok definitions) :
    definitions.map Definition.defined = componentNames component := by
  unfold componentDefinitions at made
  obtain ⟨pins, defined, rest⟩ := Outcome.bind_eq_ok_iff.mp made
  have constants := defined_of_pinDefinitions defined
  by_cases display : component.type = .lcd
  · rw [if_pos display] at rest
    cases rest
    simp [constants, componentNames, display, Definition.defined]
  · rw [if_neg display] at rest
    cases rest
    simp [constants, componentNames, display]

theorem defined_of_components {components : List Component} {all : List (List Definition)}
    (made : components.mapM componentDefinitions = .ok all) :
    all.flatten.map Definition.defined = components.flatMap componentNames := by
  induction components generalizing all with
  | nil =>
    cases made
    rfl
  | cons component rest ih =>
    obtain ⟨own, others, rfl, first, later⟩ := Outcome.mapM_cons_eq_ok made
    rw [List.flatten_cons, List.map_append, defined_of_componentDefinitions first, ih later,
      List.flatMap_cons]

end Sketch

/-- A sketch defines the names of the components that it uses, its variables, and the timers
    that it uses. -/
theorem Program.fileNames_of_sketch {program : Program} {configuration : Configuration}
    {used : UsedHardware} {sketch : Sketch} (made : program.sketch configuration used = .ok sketch) :
    sketch.fileNames =
      (Sketch.usedComponents configuration used).flatMap Sketch.componentNames ++
        (program.names.map .var ++ used.timers.map .timer) := by
  obtain ⟨_, _, definitions, _, _, _, defined, _, isDefinitions, isGlobals, _, _⟩ := parts_of_sketch made
  rw [Sketch.fileNames, isDefinitions, isGlobals, Sketch.defined_of_components defined]
  simp [Sketch.programGlobals, Program.names, Sketch.Global.defined, Function.comp_def]

/-! ## Names that run into another family -/

/-- A text that ends in a plain part after an underscore, and is cut at another underscore: the
    cut is at the same place or before it. -/
theorem append_underscore_eq_iff {first last lead rest : List Char} (plain : '_' ∉ last) :
    first ++ '_' :: last = lead ++ '_' :: rest ↔
      first = lead ∧ rest = last ∨ ∃ middle, first = lead ++ '_' :: middle ∧ rest = middle ++ '_' :: last := by
  constructor
  · intro same
    rcases List.append_eq_append_iff.mp same with ⟨between, isLead, isLast⟩ | ⟨between, isFirst, isRest⟩
    · cases between with
      | nil =>
        obtain ⟨_, isRest⟩ := List.cons.inj isLast
        exact .inl ⟨by simpa using isLead.symm, isRest.symm⟩
      | cons c between =>
        -- the cut would stand inside of the plain part
        obtain ⟨_, inside⟩ := List.cons.inj isLast
        exact absurd (inside ▸ List.mem_append_right between List.mem_cons_self) plain
    · cases between with
      | nil =>
        obtain ⟨_, same⟩ := List.cons.inj isRest
        exact .inl ⟨by simpa using isFirst, same⟩
      | cons c between =>
        obtain ⟨rfl, after⟩ := List.cons.inj isRest
        exact .inr ⟨between, isFirst, after⟩
  · rintro (⟨rfl, rfl⟩ | ⟨middle, rfl, rfl⟩)
    · rfl
    · simp

namespace Sketch

/-- A component and a role are written like a name that comes after a lead: the component is
    called like the lead and the name like the role, or the lead begins the one and the role
    ends the other, with the same text between. -/
def RunsInto (lead component role name : String) : Prop :=
  component = lead ∧ name = role ∨
    ∃ middle, component = lead ++ "_" ++ middle ∧ name = middle ++ "_" ++ role

theorem runsInto_iff {lead component role name : String} (plain : '_' ∉ role.toList) :
    "_" ++ component ++ "_" ++ role = "_" ++ lead ++ "_" ++ name ↔ RunsInto lead component role name := by
  have written (first last : String) :
      ("_" ++ first ++ "_" ++ last).toList = '_' :: (first.toList ++ '_' :: last.toList) := by
    simp
  rw [← String.toList_inj, written, written, List.cons_inj_right, append_underscore_eq_iff plain]
  refine or_congr (and_congr String.toList_inj String.toList_inj) ?_
  constructor
  · rintro ⟨middle, isComponent, isName⟩
    refine ⟨String.ofList middle, String.toList_inj.mp ?_, String.toList_inj.mp ?_⟩
    · simp [isComponent]
    · simp [isName]
  · rintro ⟨middle, rfl, rfl⟩
    exact ⟨middle.toList, by simp, by simp⟩

/-- The roles that have to be wired are written without underscores, and not as numbers. -/
theorem roleText_of_required (type : ComponentType) : ∀ role ∈ type.requiredRoles,
    '_' ∉ (roleText role).toList ∧ (roleText role).toList.all Char.isDigit = false := by
  cases type with
  | other tag => simp [ComponentType.requiredRoles]
  | _ => decide +kernel

section
variable {component : Identifier} {role : String}

theorem Name.pin_text_eq_display_iff (plain : '_' ∉ (roleText role).toList) (other : Identifier) :
    (Name.pin component role).text = (Name.display other).text ↔
      RunsInto "lcd" component.text (roleText role) other.text := by
  have written : (Name.display other).text = "_" ++ "lcd" ++ "_" ++ other.text := rfl
  rw [written]
  exact runsInto_iff plain

theorem Name.pin_text_eq_var_iff (plain : '_' ∉ (roleText role).toList) (name : Identifier) :
    (Name.pin component role).text = (Name.var name).text ↔
      RunsInto "_" component.text (roleText role) name.text := by
  have written : (Name.var name).text = "_" ++ "_" ++ "_" ++ name.text := rfl
  rw [written]
  exact runsInto_iff plain

theorem Name.pin_text_ne_timer (plain : '_' ∉ (roleText role).toList)
    (worded : (roleText role).toList.all Char.isDigit = false) (number : UInt8) :
    (Name.pin component role).text ≠ (Name.timer number).text := by
  intro same
  have digits : (toString number.toNat).toList.all Char.isDigit = true := by
    rw [Nat.toString_eq_repr, Nat.toList_repr, List.all_eq_true]
    intro c member
    exact Nat.isDigit_of_mem_toDigits (by decide) (by decide) member
  have runs : RunsInto "_time" component.text (roleText role) (toString number.toNat) :=
    (runsInto_iff plain).mp same
  rcases runs with ⟨_, isRole⟩ | ⟨middle, _, isMiddle⟩
  · rw [isRole, worded] at digits
    exact Bool.false_ne_true digits
  · have underscore : '_' ∈ (toString number.toNat).toList := by simp [isMiddle]
    exact Bool.false_ne_true (List.all_eq_true.mp digits '_' underscore)

theorem Name.display_text_ne_var (name : Identifier) :
    (Name.display component).text ≠ (Name.var name).text := by
  intro same
  have letters := congrArg String.toList same
  simp [Name.text] at letters

theorem Name.display_text_ne_timer (number : UInt8) :
    (Name.display component).text ≠ (Name.timer number).text := by
  intro same
  have letters := congrArg String.toList same
  simp [Name.text] at letters

end

end Sketch

/-! ## Families -/

open Sketch (Name RunsInto roleText)

/-- The sketch defines the names of the components in use, the variables and the timers in use.
    A pin constant has the text of a display if its component runs into the lead `lcd`, and that
    of a variable if it runs into the lead `_`. Names of other families differ. -/
structure Sketch.Families (program : Program) (configuration : Configuration) (sketch : Sketch) :
    Prop where
  names : sketch.fileNames =
    (usedComponents configuration (program.usedHardware none)).flatMap componentNames ++
      (program.names.map .var ++ (program.usedHardware none).timers.map .timer)
  pin_display : ∀ component role other, .pin component role ∈ sketch.fileNames →
    .display other ∈ sketch.fileNames →
      ((Name.pin component role).text = (Name.display other).text ↔
        RunsInto "lcd" component.text (roleText role) other.text)
  pin_var : ∀ component role name, .pin component role ∈ sketch.fileNames →
    .var name ∈ sketch.fileNames →
      ((Name.pin component role).text = (Name.var name).text ↔
        RunsInto "_" component.text (roleText role) name.text)
  pin_timer : ∀ component role number, .pin component role ∈ sketch.fileNames →
    .timer number ∈ sketch.fileNames → (Name.pin component role).text ≠ (Name.timer number).text
  display_var : ∀ component name, .display component ∈ sketch.fileNames →
    .var name ∈ sketch.fileNames → (Name.display component).text ≠ (Name.var name).text
  display_timer : ∀ component number, .display component ∈ sketch.fileNames →
    .timer number ∈ sketch.fileNames → (Name.display component).text ≠ (Name.timer number).text

/-- A pin constant of a sketch is for a role that its component has to wire. -/
theorem Sketch.required_of_mem_componentNames {component : Component} {name : Identifier} {role : String}
    (member : .pin name role ∈ componentNames component) : role ∈ component.type.requiredRoles := by
  rcases List.mem_append.mp member with constant | object
  · obtain ⟨same, required, isName⟩ := List.mem_map.mp constant
    cases isName
    exact required
  · split at object
    · cases List.mem_singleton.mp object
    · cases object

theorem Program.required_of_mem_fileNames {program : Program} {configuration : Configuration}
    {used : UsedHardware} {sketch : Sketch} (made : program.sketch configuration used = .ok sketch)
    {name : Identifier} {role : String} (member : .pin name role ∈ sketch.fileNames) :
    ∃ type : ComponentType, role ∈ type.requiredRoles := by
  rw [fileNames_of_sketch made] at member
  rcases List.mem_append.mp member with constant | global
  · obtain ⟨component, _, own⟩ := List.mem_flatMap.mp constant
    exact ⟨component.type, Sketch.required_of_mem_componentNames own⟩
  · simp at global

theorem Program.families_of_sketch {program : Program} {configuration : Configuration} {sketch : Sketch}
    (made : program.sketch configuration (program.usedHardware none) = .ok sketch) :
    sketch.Families program configuration := by
  have written (name : Identifier) (role : String) (member : .pin name role ∈ sketch.fileNames) :
      '_' ∉ (roleText role).toList ∧ (roleText role).toList.all Char.isDigit = false := by
    obtain ⟨type, required⟩ := required_of_mem_fileNames made member
    exact Sketch.roleText_of_required type role required
  refine ⟨fileNames_of_sketch made, ?_, ?_, ?_, ?_, ?_⟩
  · intro component role other constant _
    exact Name.pin_text_eq_display_iff (written component role constant).1 other
  · intro component role name constant _
    exact Name.pin_text_eq_var_iff (written component role constant).1 name
  · intro component role number constant _
    obtain ⟨plain, worded⟩ := written component role constant
    exact Name.pin_text_ne_timer plain worded number
  · intro component name _ _
    exact Name.display_text_ne_var name
  · intro component number _ _
    exact Name.display_text_ne_timer number

/-- Of the names at the top of a sketch, only pin constants have texts of another family, and
    only those whose component begins in the way of that family. -/
theorem families_meet_only_at_pins {program : Program} {configuration : Configuration}
    {platform : Platform} {workflow : String} {compilation : Compilation} {source : String}
    (compiled : compile program configuration platform workflow = .ok compilation)
    (present : compilation.report.source = some source) :
    ∃ sketch : Sketch, sketch.render = source ∧ sketch.Families program configuration := by
  obtain ⟨sketch, made, rendered⟩ := exists_sketch_of_source compiled present
  exact ⟨sketch, rendered, Program.families_of_sketch made⟩

/-- Reads two buttons into a variable, and shows a text on a display that is called like the
    variable. -/
def Draft.Program.doubled : Draft.Program where
  declarations := [⟨{}, "PIN1", some "BOOLEAN", .sensor {} .key "lcd"⟩]
  body := [.assign {} "PIN1" (.sensor {} .key "_"), .showText {} "PIN1" (.text {} "pressed")]

/-- A button called `lcd`, a button called `_`, and a display called like their role. -/
def Draft.Configuration.doubled : Draft.Configuration where
  robot := "arduino"
  components := [
    ⟨"lcd", "KEY", [("PIN1", "2")], none⟩,
    ⟨"_", "KEY", [("PIN1", "7")], none⟩,
    ⟨"PIN1", "LCD", [("RS", "12"), ("E", "11"), ("D4", "5"), ("D5", "4"), ("D6", "3"), ("D7", "6")], none⟩]

/-- The report is that of a success, and two names are defined twice: one as a pin and as the
    display, the other as a pin and as the variable. -/
theorem doubled_names_clash :
    ∃ program configuration, Draft.Program.doubled.build = .ok program ∧
      Draft.Configuration.doubled.build = .ok configuration ∧
      ∃ compilation sketch, compile program configuration .arduinoUno "compile" = .ok compilation ∧
        program.sketch configuration (program.usedHardware none) = .ok sketch ∧
        compilation.report.result = .success ∧ compilation.report.source = some sketch.render ∧
        [.pin ⟨"lcd", by decide⟩ "PIN1", .pin ⟨"_", by decide⟩ "PIN1", .display ⟨"PIN1", by decide⟩,
          .var ⟨"PIN1", by decide⟩] ⊆ sketch.fileNames ∧
        (Name.pin ⟨"lcd", by decide⟩ "PIN1").text = (Name.display ⟨"PIN1", by decide⟩).text ∧
        (Name.pin ⟨"_", by decide⟩ "PIN1").text = (Name.var ⟨"PIN1", by decide⟩).text := by
  have clashes : (Draft.Program.doubled.build.toOption.bind fun program =>
      Draft.Configuration.doubled.build.toOption.bind fun configuration =>
        (compile program configuration .arduinoUno "compile").toOption.bind fun compilation =>
          (program.sketch configuration (program.usedHardware none)).toOption.map fun sketch =>
            decide (compilation.report.result = .success ∧
              compilation.report.source = some sketch.render ∧
              [.pin ⟨"lcd", by decide⟩ "PIN1", .pin ⟨"_", by decide⟩ "PIN1",
                .display ⟨"PIN1", by decide⟩, .var ⟨"PIN1", by decide⟩] ⊆ sketch.fileNames)) =
      some true := by
    decide +kernel
  obtain ⟨program, built, clashes⟩ := Option.bind_eq_some_iff.mp clashes
  obtain ⟨configuration, wired, clashes⟩ := Option.bind_eq_some_iff.mp clashes
  obtain ⟨compilation, compiled, clashes⟩ := Option.bind_eq_some_iff.mp clashes
  obtain ⟨sketch, made, clashes⟩ := Option.map_eq_some_iff.mp clashes
  obtain ⟨succeeded, rendered, defined⟩ := of_decide_eq_true clashes
  exact ⟨program, configuration, Outcome.eq_ok_of_toOption built, Outcome.eq_ok_of_toOption wired,
    compilation, sketch, Outcome.eq_ok_of_toOption compiled, Outcome.eq_ok_of_toOption made,
    succeeded, rendered, defined, by decide, by decide⟩

theorem doubled_families :
    ∃ program configuration, Draft.Program.doubled.build = .ok program ∧
      Draft.Configuration.doubled.build = .ok configuration ∧
      ∃ compilation source, compile program configuration .arduinoUno "compile" = .ok compilation ∧
        compilation.report.source = some source ∧
        ∃ sketch : Sketch, sketch.render = source ∧ sketch.Families program configuration := by
  have stored : (Draft.Program.doubled.build.toOption.bind fun program =>
      Draft.Configuration.doubled.build.toOption.bind fun configuration =>
        (compile program configuration .arduinoUno "compile").toOption.map fun compilation =>
          compilation.report.source.isSome) = some true := by
    decide +kernel
  obtain ⟨program, built, stored⟩ := Option.bind_eq_some_iff.mp stored
  obtain ⟨configuration, wired, stored⟩ := Option.bind_eq_some_iff.mp stored
  obtain ⟨compilation, compiled, stored⟩ := Option.map_eq_some_iff.mp stored
  obtain ⟨source, present⟩ := Option.isSome_iff_exists.mp stored
  replace compiled := Outcome.eq_ok_of_toOption compiled
  exact ⟨program, configuration, Outcome.eq_ok_of_toOption built, Outcome.eq_ok_of_toOption wired,
    compilation, source, compiled, present, families_meet_only_at_pins compiled present⟩

end BlockSketch
