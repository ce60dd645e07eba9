import BlockSketch.Proofs.Diagnostics

/-!
Validation as a visit: one node after the other, with the names that are declared so far, the
number of repetitions around, a count of the errors, and the hardware that was met. A node is
visited before the nodes inside it, but a declaration is judged after its value, and the power
of a motor after the expression that gives it.

`Program.validate` and `Program.usedHardware` look at each node with what surrounds it, and need
no state. A visit comes to the same: whatever was known before, it adds what the nodes that it
has passed say (`Visit.Passes`), node by node and then for the program (`Program.visit_passes`).
-/
namespace BlockSketch

/-- What is known in the middle of a visit. -/
structure Visit where
  declared : List Identifier := []
  depth : Nat := 0
  errorCount : Nat := 0
  components : List String := []
  timers : List UInt8 := []
  serial : Bool := false
  brickLight : Bool := false
  findings : List Finding := []

/-- The notices as findings at a node. -/
def Label.findings (label : Label) (notices : List Notice) : List Finding :=
  notices.map fun notice => ⟨.block label.position, notice⟩

/-- The notices of a node are at its position only. -/
theorem Label.noticesAt_findings (label : Label) (notices : List Notice) (place : Place) :
    Finding.noticesAt (label.findings notices) place =
      if place = .block label.position then notices else [] := by
  rw [Finding.noticesAt, findings, List.filter_map, List.map_map]
  by_cases here : place = .block label.position
  · simp [here, Function.comp_def]
  · simp [here, Ne.symm here]

/-- At a position are the notices of the nodes that stand there. -/
theorem Occurrence.noticesAt_findings (configuration : Option Configuration) (occurrences : List Occurrence)
    (position : Position) :
    Finding.noticesAt (occurrences.flatMap (Validation.nodeFindings configuration)) (.block position) =
      (occurrences.filter fun occurrence => occurrence.node.label.position = position).flatMap
        (Validation.notices configuration) := by
  induction occurrences with
  | nil => rfl
  | cons first rest ih =>
    have own : Finding.noticesAt (Validation.nodeFindings configuration first) (.block position) =
        if Place.block position = .block first.node.label.position then
          Validation.notices configuration first else [] :=
      first.node.label.noticesAt_findings (Validation.notices configuration first) (.block position)
    rw [List.flatMap_cons, Finding.noticesAt_append, own, ih]
    by_cases here : first.node.label.position = position
    · simp [here]
    · simp [here, Ne.symm here]

namespace Visit

/-- Attaches a notice to a node. -/
def attach (visit : Visit) (label : Label) (notice : Notice) : Visit :=
  { visit with findings := visit.findings ++ label.findings [notice] }

/-- Attaches an error to a node and counts it. -/
def error (visit : Visit) (label : Label) (message : MessageKey) (parameters : List (String × String)) :
    Visit :=
  { visit.attach label (.error message parameters) with errorCount := visit.errorCount + 1 }

def checkName (visit : Visit) (label : Label) (name : Identifier) : Visit :=
  if name ∈ visit.declared then visit
  else visit.error label .usedBeforeDeclaration [("name", name.text)]

def recordComponent (visit : Visit) (name : Identifier) : Visit :=
  { visit with components := visit.components ++ [name.text] }

/-- A component is recorded if it is there as it is needed. Without a configuration it is taken
    to be. -/
def checkComponent (configuration : Option Configuration) (visit : Visit) (label : Label)
    (use : ComponentUse) : Visit :=
  match configuration with
  | none => visit.recordComponent use.name
  | some wiring =>
    match wiring.component? use.name.text with
    | none => visit.error label use.role.missing [("name", use.name.text)]
    | some component =>
      if component.type = use.type then visit.recordComponent use.name
      else
        visit.error label use.role.wrong
          [("name", use.name.text), ("expected", use.type.tag), ("found", component.type.tag)]

/-- A warning is attached, but not counted. -/
def checkPower (visit : Visit) (label : Label) (power : Expr) : Visit :=
  match power.constant? with
  | some value =>
    if value.isMotorPower then visit
    else visit.attach label (.warning .powerOutOfRange [("power", value.text)])
  | none => visit

def checkFlow (visit : Visit) (label : Label) (way : Flow) : Visit :=
  if visit.depth = 0 then visit.error label .flowOutsideLoop [("flow", Vocabulary.word way)] else visit

/-- A name may be declared again, but that is an error. -/
def declare (visit : Visit) (label : Label) (name : Identifier) : Visit :=
  let checked :=
    if name ∈ visit.declared then visit.error label .declaredTwice [("name", name.text)] else visit
  { checked with declared := checked.declared ++ [name] }

def recordTimer (visit : Visit) (number : UInt8) : Visit :=
  { visit with timers := visit.timers ++ [number] }

def enterLoop (visit : Visit) : Visit :=
  { visit with depth := visit.depth + 1 }

def leaveLoop (visit : Visit) : Visit :=
  { visit with depth := visit.depth - 1 }

/-- The hardware that was met. -/
def hardware (visit : Visit) : UsedHardware :=
  .of visit.components visit.timers visit.serial visit.brickLight

end Visit

/-! ## The order of the visit -/

def Expr.visit (configuration : Option Configuration) : Expr → Visit → Visit
  | .number .., visit => visit
  | .boolean .., visit => visit
  | .text .., visit => visit
  | .var label name _, visit => visit.checkName label name
  | .binary _ _ left right, visit => right.visit configuration (left.visit configuration visit)
  | .unary _ _ operand, visit => operand.visit configuration visit
  | .sensor label device port, visit =>
    visit.checkComponent configuration label ⟨port, device.componentType, .sensor⟩
  | .timer _ clock, visit => visit.recordTimer clock.number

def LoopHead.visit (configuration : Option Configuration) (head : LoopHead) (visit : Visit) : Visit :=
  head.expression?.elim visit fun expr => expr.visit configuration visit

mutual

def Stmt.visit (configuration : Option Configuration) : Stmt → Visit → Visit
  | .light .., visit => { visit with brickLight := true }
  | .lightStatus .., visit => { visit with brickLight := true }
  | .tone label port frequency duration, visit =>
    let checked := visit.checkComponent configuration label ⟨port, .buzzer, .actor⟩
    duration.visit configuration (frequency.visit configuration checked)
  | .motorOn label port power, visit =>
    let checked := visit.checkComponent configuration label ⟨port, .motor, .actor⟩
    (power.visit configuration checked).checkPower label power
  | .motorStop label port, visit => visit.checkComponent configuration label ⟨port, .motor, .actor⟩
  | .showText label port text, visit =>
    text.visit configuration (visit.checkComponent configuration label ⟨port, .lcd, .actor⟩)
  | .serialWrite _ value, visit => value.visit configuration { visit with serial := true }
  | .block body, visit => body.visit configuration visit
  | .assign label name value, visit => value.visit configuration (visit.checkName label name)
  | .branch _ branches, visit => branches.visit configuration visit
  | .loop _ head body, visit =>
    (body.visit configuration (head.visit configuration visit).enterLoop).leaveLoop
  | .flow label way, visit => visit.checkFlow label way
  | .wait _ time, visit => time.visit configuration visit

def Sequence.visit (configuration : Option Configuration) : Sequence → Visit → Visit
  | .mk _ statements, visit => Stmt.visitList configuration statements visit

def Stmt.visitList (configuration : Option Configuration) : List Stmt → Visit → Visit
  | [], visit => visit
  | stmt :: rest, visit => Stmt.visitList configuration rest (stmt.visit configuration visit)

def Branches.visit (configuration : Option Configuration) : Branches → Visit → Visit
  | .only condition body, visit => body.visit configuration (condition.visit configuration visit)
  | .orElse condition body otherwise, visit =>
    otherwise.visit configuration (body.visit configuration (condition.visit configuration visit))
  | .orIf condition body rest, visit =>
    rest.visit configuration (body.visit configuration (condition.visit configuration visit))

end

def Declaration.visit (configuration : Option Configuration) (visit : Visit) (declaration : Declaration) :
    Visit :=
  (declaration.value.visit configuration visit).declare declaration.label declaration.name

/-- The variables are visited before the body. -/
def Program.visit (program : Program) (configuration : Option Configuration) (start : Visit) : Visit :=
  program.body.visit configuration
    (program.task.declarations.foldl (Declaration.visit configuration) start)

/-! ## What a visit adds -/

/-- The components that nodes name and that are there as they are needed. -/
def Node.components (configuration : Option Configuration) (nodes : List Node) : List String :=
  ((nodes.filterMap Node.componentUse?).filter fun use => use.isWired configuration).map
    fun use => use.name.text

/-- A visit from one state to another has declared these names, passed these nodes and found
    this. Where the nodes are at different positions, the notices of each are in order. -/
structure Visit.Passes (configuration : Option Configuration) (names : List Identifier)
    (nodes : List Node) (found : List Finding) (before after : Visit) : Prop where
  declared : after.declared = before.declared ++ names
  depth : after.depth = before.depth
  errorCount : after.errorCount = before.errorCount + Finding.errorCount found
  components : after.components = before.components ++ Node.components configuration nodes
  timers : after.timers = before.timers ++ nodes.filterMap Node.timer?
  serial : after.serial = (before.serial || nodes.any Node.usesSerial)
  brickLight : after.brickLight = (before.brickLight || nodes.any Node.usesBrickLight)
  listed : after.findings.Perm (before.findings ++ found)
  attached : (nodes.map fun node => node.label.position).Nodup → ∀ place,
    Finding.noticesAt after.findings place =
      Finding.noticesAt before.findings place ++ Finding.noticesAt found place

namespace Visit
variable {configuration : Option Configuration} {names more : List Identifier} {nodes others : List Node}
  {found later : List Finding} {before between after : Visit}

theorem Passes.trans (first : Passes configuration names nodes found before between)
    (second : Passes configuration more others later between after) :
    Passes configuration (names ++ more) (nodes ++ others) (found ++ later) before after where
  declared := by rw [second.declared, first.declared, List.append_assoc]
  depth := second.depth.trans first.depth
  errorCount := by rw [second.errorCount, first.errorCount, Finding.errorCount_append, Nat.add_assoc]
  components := by simp [second.components, first.components, Node.components]
  timers := by simp [second.timers, first.timers]
  serial := by simp [second.serial, first.serial, Bool.or_assoc]
  brickLight := by simp [second.brickLight, first.brickLight, Bool.or_assoc]
  listed := by
    rw [← List.append_assoc]
    exact second.listed.trans (first.listed.append_right later)
  attached distinct place := by
    rw [List.map_append, List.nodup_append] at distinct
    rw [second.attached distinct.2.1, first.attached distinct.1, Finding.noticesAt_append,
      List.append_assoc]

/-- What is found may be listed in another order, if that of each node stays. -/
theorem Passes.rearrange (passes : Passes configuration names nodes found before after)
    (same : found.Perm later)
    (ordered : (nodes.map fun node => node.label.position).Nodup → ∀ place,
      Finding.noticesAt found place = Finding.noticesAt later place) :
    Passes configuration names nodes later before after where
  declared := passes.declared
  depth := passes.depth
  errorCount := by
    rw [passes.errorCount]
    exact congrArg _ (same.countP_eq _)
  components := passes.components
  timers := passes.timers
  serial := passes.serial
  brickLight := passes.brickLight
  listed := passes.listed.trans (same.append_left _)
  attached distinct place := by rw [passes.attached distinct, ordered distinct]

/-! ## One node -/

/-- The hardware of a node is recorded. -/
def meet (configuration : Option Configuration) (visit : Visit) (node : Node) : Visit :=
  { visit with
    components := visit.components ++ Node.components configuration [node]
    timers := visit.timers ++ node.timer?.toList
    serial := visit.serial || node.usesSerial
    brickLight := visit.brickLight || node.usesBrickLight }

/-- Notices are attached to a node, and the errors among them counted. -/
def report (visit : Visit) (label : Label) (notices : List Notice) : Visit :=
  { visit with
    errorCount := visit.errorCount + Notice.errorCount notices
    findings := visit.findings ++ label.findings notices }

/-- A node is passed: its hardware is recorded, and what is wrong with it is attached to it. -/
def pass (configuration : Option Configuration) (visit : Visit) (node : Node) : Visit :=
  (visit.meet configuration node).report node.label
    (Validation.notices configuration ⟨node, visit.declared, decide (0 < visit.depth)⟩)

theorem passes_meet (visit : Visit) (node : Node) :
    Passes configuration [] [node] [] visit (visit.meet configuration node) where
  declared := (List.append_nil _).symm
  depth := rfl
  errorCount := rfl
  components := rfl
  timers := by cases timed : node.timer? <;> simp [meet, timed]
  serial := by simp [meet]
  brickLight := by simp [meet]
  listed := by simp [meet]
  attached _ _ := (List.append_nil _).symm

theorem passes_report (visit : Visit) (label : Label) (notices : List Notice) :
    Passes configuration [] [] (label.findings notices) visit (visit.report label notices) where
  declared := (List.append_nil _).symm
  depth := rfl
  errorCount := by
    rw [report, Finding.errorCount, Label.findings, List.countP_map]
    rfl
  components := (List.append_nil _).symm
  timers := (List.append_nil _).symm
  serial := (Bool.or_false _).symm
  brickLight := (Bool.or_false _).symm
  listed := .refl _
  attached _ _ := Finding.noticesAt_append ..

theorem report_nil (visit : Visit) (label : Label) : visit.report label [] = visit := by
  simp [report, Label.findings, Notice.errorCount]

theorem error_eq (visit : Visit) (label : Label) (message : MessageKey) (parameters : List (String × String)) :
    visit.error label message parameters = visit.report label [.error message parameters] := rfl

theorem checkName_eq (visit : Visit) (label : Label) (name : Identifier) :
    visit.checkName label name = visit.report label (Validation.nameNotices visit.declared name) := by
  unfold checkName Validation.nameNotices
  by_cases known : name ∈ visit.declared
  · rw [if_pos known, if_pos known, report_nil]
  · rw [if_neg known, if_neg known, error_eq]

theorem checkPower_eq (visit : Visit) (label : Label) (power : Expr) :
    visit.checkPower label power = visit.report label (Validation.powerNotices power) := by
  unfold checkPower Validation.powerNotices
  cases power.constant? with
  | none => exact (report_nil visit label).symm
  | some value =>
    by_cases fits : value.isMotorPower = true
    · simp [fits, report_nil]
    · simp only [fits]
      rfl

theorem checkFlow_eq (visit : Visit) (label : Label) (way : Flow) (scope : List Identifier) :
    visit.checkFlow label way = visit.report label
      (Validation.programNotices ⟨.stmt (.flow label way), scope, decide (0 < visit.depth)⟩) := by
  unfold checkFlow Validation.programNotices
  by_cases outside : visit.depth = 0
  · simp [outside, error_eq]
  · simp [outside, Nat.pos_of_ne_zero outside, report_nil]

theorem passes_declare (visit : Visit) (declaration : Declaration) :
    Passes configuration [declaration.name] []
      (declaration.label.findings
        (Validation.programNotices ⟨.declaration declaration, visit.declared, false⟩)) visit
      (visit.declare declaration.label declaration.name) := by
  have checked : (if declaration.name ∈ visit.declared then
        visit.error declaration.label .declaredTwice [("name", declaration.name.text)] else visit) =
      visit.report declaration.label
        (Validation.programNotices ⟨.declaration declaration, visit.declared, false⟩) := by
    by_cases known : declaration.name ∈ visit.declared
    · simp [Validation.programNotices, known, error_eq]
    · simp [Validation.programNotices, known, report_nil]
  have reported : Passes configuration [] [] _ visit _ := passes_report visit declaration.label
    (Validation.programNotices ⟨.declaration declaration, visit.declared, false⟩)
  obtain ⟨_, depth, errorCount, components, timers, serial, brickLight, listed, attached⟩ := reported
  rw [declare, checked]
  exact ⟨rfl, depth, errorCount, components, timers, serial, brickLight, listed, attached⟩

/-- A node that names a component has no other hardware. -/
theorem checkComponent_eq {node : Node} {use : ComponentUse} (uses : node.componentUse? = some use)
    (visit : Visit) :
    visit.checkComponent configuration node.label use =
      (visit.meet configuration node).report node.label (Validation.hardwareNotices configuration node) := by
  have alone : node.timer? = none ∧ node.usesSerial = false ∧ node.usesBrickLight = false := by
    cases node with
    | expr part =>
      cases part with
      | sensor => exact ⟨rfl, rfl, rfl⟩
      | _ => cases uses
    | stmt part =>
      cases part with
      | tone | motorOn | motorStop | showText => exact ⟨rfl, rfl, rfl⟩
      | _ => cases uses
    | _ => cases uses
  have met : visit.meet configuration node =
      { visit with components := visit.components ++ Node.components configuration [node] } := by
    simp [meet, alone]
  rw [met]
  cases configuration with
  | none =>
    simp [Validation.hardwareNotices, uses, report_nil, checkComponent, recordComponent, Node.components,
      ComponentUse.isWired]
  | some wiring =>
    have notices : Validation.hardwareNotices (some wiring) node = Validation.componentNotices wiring use := by
      simp [Validation.hardwareNotices, uses]
    rw [notices, checkComponent, Validation.componentNotices]
    cases found : wiring.component? use.name.text with
    | none =>
      have wired : use.wired wiring = .missing := by simp [ComponentUse.wired, found]
      simp [wired, error_eq, Node.components, uses, ComponentUse.isWired]
    | some component =>
      by_cases right : component.type = use.type
      · have wired : use.wired wiring = .right := by simp [ComponentUse.wired, found, right]
        simp [wired, right, report_nil, recordComponent, Node.components, uses, ComponentUse.isWired]
      · have wired : use.wired wiring = .wrong component.type := by simp [ComponentUse.wired, found, right]
        simp [wired, right, error_eq, Node.components, uses, ComponentUse.isWired]

theorem passes_checkComponent {node : Node} {use : ComponentUse} (uses : node.componentUse? = some use)
    (visit : Visit) :
    Passes configuration [] [node] (node.label.findings (Validation.hardwareNotices configuration node)) visit
      (visit.checkComponent configuration node.label use) := by
  rw [checkComponent_eq uses]
  exact (passes_meet visit node).trans (passes_report _ node.label _)

section
variable {node : Node}

theorem hardwareNotices_eq_nil (unnamed : node.componentUse? = none) :
    Validation.hardwareNotices configuration node = [] := by
  cases configuration <;> simp [Validation.hardwareNotices, unnamed]

theorem meet_eq_self (unnamed : node.componentUse? = none) (untimed : node.timer? = none)
    (mute : node.usesSerial = false) (dark : node.usesBrickLight = false) (visit : Visit) :
    visit.meet configuration node = visit := by
  simp [meet, Node.components, unnamed, untimed, mute, dark]

/-- A node in which nothing can be wrong. -/
theorem pass_eq_meet (unnamed : node.componentUse? = none) (visit : Visit)
    (right : Validation.programNotices ⟨node, visit.declared, decide (0 < visit.depth)⟩ = []) :
    visit.pass configuration node = visit.meet configuration node := by
  rw [pass, Validation.notices, hardwareNotices_eq_nil unnamed, right]
  exact report_nil ..

/-- A node without hardware. -/
theorem pass_eq_report (unnamed : node.componentUse? = none) (untimed : node.timer? = none)
    (mute : node.usesSerial = false) (dark : node.usesBrickLight = false) (visit : Visit) :
    visit.pass configuration node =
      visit.report node.label
        (Validation.programNotices ⟨node, visit.declared, decide (0 < visit.depth)⟩) := by
  rw [pass, Validation.notices, hardwareNotices_eq_nil unnamed, meet_eq_self unnamed untimed mute dark]
  rfl

/-- A node that has neither hardware nor anything that can be wrong. -/
theorem pass_eq_self (unnamed : node.componentUse? = none) (untimed : node.timer? = none)
    (mute : node.usesSerial = false) (dark : node.usesBrickLight = false) (visit : Visit)
    (right : Validation.programNotices ⟨node, visit.declared, decide (0 < visit.depth)⟩ = []) :
    visit.pass configuration node = visit := by
  rw [pass_eq_meet unnamed visit right, meet_eq_self unnamed untimed mute dark]

end

/-- A node that names a component, and in which nothing else can be wrong. -/
theorem pass_eq_checkComponent {node : Node} {use : ComponentUse} (uses : node.componentUse? = some use)
    (visit : Visit)
    (right : Validation.programNotices ⟨node, visit.declared, decide (0 < visit.depth)⟩ = []) :
    visit.pass configuration node = visit.checkComponent configuration node.label use := by
  rw [pass, Validation.notices, right, List.append_nil, checkComponent_eq uses]

/-! ## Many nodes -/

/-- The visit has declared these names and passed these nodes, each judged by what surrounds
    it. -/
def Covers (configuration : Option Configuration) (names : List Identifier)
    (occurrences : List Occurrence) (before after : Visit) : Prop :=
  Passes configuration names (occurrences.map Occurrence.node)
    (occurrences.flatMap (Validation.nodeFindings configuration)) before after

variable {occurrences rest : List Occurrence}

theorem Covers.trans (first : Covers configuration names occurrences before between)
    (second : Covers configuration more rest between after) :
    Covers configuration (names ++ more) (occurrences ++ rest) before after := by
  simpa [Covers] using Passes.trans first second

/-- Parts of a program declare nothing. -/
theorem Covers.append (first : Covers configuration [] occurrences before between)
    (second : Covers configuration [] rest between after) :
    Covers configuration [] (occurrences ++ rest) before after :=
  first.trans second

theorem Covers.nil (visit : Visit) : Covers configuration [] [] visit visit := by
  have nothing : Passes configuration [] [] [] visit (visit.report ⟨[], {}⟩ []) := passes_report visit _ []
  rwa [report_nil] at nothing

/-- The state of the visit says what surrounds a node. -/
structure Within (scope : List Identifier) (inLoop : Bool) (visit : Visit) : Prop where
  declared : visit.declared = scope
  loop : decide (0 < visit.depth) = inLoop

variable {scope : List Identifier} {inLoop : Bool} {visit : Visit}

theorem Covers.within (covers : Covers configuration [] occurrences before after)
    (within : Within scope inLoop before) : Within scope inLoop after where
  declared := by rw [Passes.declared covers, List.append_nil, within.declared]
  loop := by rw [Passes.depth covers, within.loop]

theorem covers_pass (within : Within scope inLoop visit) {node : Node}
    (passed : visit.pass configuration node = after) :
    Covers configuration [] [⟨node, scope, inLoop⟩] visit after := by
  obtain ⟨rfl, rfl⟩ := within
  subst passed
  simpa [Covers, Validation.nodeFindings, Label.findings, pass] using
    (passes_meet visit node).trans (passes_report (visit.meet configuration node) node.label
      (Validation.notices configuration ⟨node, visit.declared, decide (0 < visit.depth)⟩))

theorem Within.entered (within : Within scope inLoop visit) : Within scope true visit.enterLoop where
  declared := within.declared
  loop := by simp [enterLoop]

/-- What is repeated is one level deeper, and the level is left again. -/
theorem Covers.repeated (covers : Covers configuration names occurrences before.enterLoop after) :
    Covers configuration names occurrences before after.leaveLoop := by
  obtain ⟨declared, depth, errorCount, components, timers, serial, brickLight, listed, attached⟩ := covers
  have left : after.leaveLoop.depth = before.depth := by
    simp [leaveLoop, depth, enterLoop]
  exact ⟨declared, left, errorCount, components, timers, serial, brickLight, listed, attached⟩

/-- Nodes are passed one after the other. -/
theorem Covers.next (within : Within scope inLoop before)
    (first : Covers configuration [] occurrences before between)
    (second : Within scope inLoop between → Covers configuration [] rest between after) :
    Covers configuration [] (occurrences ++ rest) before after :=
  first.append (second (first.within within))

/-- A node is passed before the nodes inside it. -/
theorem Covers.cons (within : Within scope inLoop before) {node : Node}
    (passed : before.pass configuration node = between)
    (inside : Within scope inLoop between → Covers configuration [] rest between after) :
    Covers configuration [] (⟨node, scope, inLoop⟩ :: rest) before after :=
  .next within (covers_pass within passed) inside

/-- A node that is judged in two parts, before and after the nodes inside it. -/
theorem Covers.late {node : Node} {early late : List Notice} {middle : Visit}
    (judged : Validation.notices configuration ⟨node, scope, inLoop⟩ = early ++ late)
    (first : Passes configuration [] [node] (node.label.findings early) before between)
    (inside : Covers configuration [] occurrences between middle)
    (last : Passes configuration names [] (node.label.findings late) middle after) :
    Covers configuration names (⟨node, scope, inLoop⟩ :: occurrences) before after := by
  have own : Validation.nodeFindings configuration ⟨node, scope, inLoop⟩ =
      node.label.findings early ++ node.label.findings late := by
    simp [Validation.nodeFindings, judged, Label.findings]
  have passes := first.trans (Passes.trans inside last)
  simp only [List.nil_append, List.append_nil, List.singleton_append] at passes
  rw [Covers, List.map_cons, List.flatMap_cons, own, List.append_assoc]
  refine passes.rearrange (List.perm_append_comm.append_left _) fun distinct place => ?_
  have fresh : node.label.position ∉ Occurrence.positions occurrences := by
    rw [List.map_cons, List.map_map] at distinct
    exact (List.nodup_cons.mp distinct).1
  simp only [Finding.noticesAt_append]
  by_cases here : place = .block node.label.position
  · have nothing : Finding.noticesAt (occurrences.flatMap (Validation.nodeFindings configuration)) place = [] := by
      rw [here, Occurrence.noticesAt_findings, List.filter_eq_nil_iff.mpr, List.flatMap_nil]
      intro occurrence member same
      exact fresh (List.mem_map.mpr ⟨occurrence, member, by simpa using same⟩)
    rw [nothing, List.append_nil, List.nil_append]
  · rw [node.label.noticesAt_findings late, if_neg here, List.append_nil, List.nil_append]

end Visit

/-! ## Expressions -/

section
variable {configuration : Option Configuration} {scope : List Identifier} {inLoop : Bool} {visit : Visit}

open Visit

theorem Expr.occurrences_binary (label : Label) (op : BinaryOp) (left right : Expr) :
    (binary label op left right).occurrences scope inLoop =
      [⟨.expr (binary label op left right), scope, inLoop⟩] ++
        (left.occurrences scope inLoop ++ right.occurrences scope inLoop) := by
  simp [occurrences, parts]

theorem Expr.occurrences_unary (label : Label) (op : UnaryOp) (operand : Expr) :
    (unary label op operand).occurrences scope inLoop =
      [⟨.expr (unary label op operand), scope, inLoop⟩] ++ operand.occurrences scope inLoop := by
  simp [occurrences, parts]

/-- What is wrong with an expression does not depend on the repetitions around it. -/
theorem Visit.covers_pass_expr (declared : visit.declared = scope) (inLoop : Bool) {expr : Expr} {after : Visit}
    (passed : visit.pass configuration (.expr expr) = after) :
    Covers configuration [] [⟨.expr expr, scope, inLoop⟩] visit after := by
  have same : Validation.nodeFindings configuration ⟨.expr expr, scope, inLoop⟩ =
      Validation.nodeFindings configuration ⟨.expr expr, scope, decide (0 < visit.depth)⟩ := by
    cases expr <;> rfl
  rw [Covers, List.flatMap_cons, same]
  exact covers_pass ⟨declared, rfl⟩ passed

theorem Expr.visit_covers (expr : Expr) (inLoop : Bool) (declared : visit.declared = scope) :
    Covers configuration [] (expr.occurrences scope inLoop) visit (expr.visit configuration visit) := by
  induction expr generalizing visit with
  | number label literal => exact covers_pass_expr declared inLoop (pass_eq_self rfl rfl rfl rfl visit rfl)
  | boolean label value => exact covers_pass_expr declared inLoop (pass_eq_self rfl rfl rfl rfl visit rfl)
  | text label value => exact covers_pass_expr declared inLoop (pass_eq_self rfl rfl rfl rfl visit rfl)
  | var label name type =>
    refine covers_pass_expr declared inLoop ?_
    rw [pass_eq_report rfl rfl rfl rfl, Expr.visit, checkName_eq]
    rfl
  | binary label op left right visitLeft visitRight =>
    have own : Covers configuration [] [⟨.expr (.binary label op left right), scope, inLoop⟩] visit visit :=
      covers_pass_expr declared inLoop (pass_eq_self rfl rfl rfl rfl visit rfl)
    have first := visitLeft declared
    have second := visitRight (first.within ⟨declared, rfl⟩).declared
    rw [Expr.occurrences_binary]
    exact own.append (first.append second)
  | unary label op operand visitOperand =>
    rw [Expr.occurrences_unary]
    exact (covers_pass_expr declared inLoop (pass_eq_self rfl rfl rfl rfl visit rfl)).append
      (visitOperand declared)
  | sensor label device port =>
    exact covers_pass_expr declared inLoop (pass_eq_checkComponent rfl visit rfl)
  | timer label clock =>
    refine covers_pass_expr declared inLoop ?_
    rw [pass_eq_meet rfl visit rfl]
    simp [meet, Expr.visit, recordTimer, Node.components, Node.componentUse?, Node.timer?, Node.usesSerial,
      Node.usesBrickLight]

theorem LoopHead.visit_covers (head : LoopHead) (inLoop : Bool) (declared : visit.declared = scope) :
    Covers configuration [] (head.occurrences scope inLoop) visit (head.visit configuration visit) := by
  cases head with
  | forever => exact .nil visit
  | times count => exact count.visit_covers inLoop declared
  | during condition => exact condition.visit_covers inLoop declared
  | till condition => exact condition.visit_covers inLoop declared

/-! ## Statements -/

/-- The component of a motor is looked at before its power, and the power after it. -/
theorem Stmt.visit_covers_motorOn (label : Label) (port : Identifier) (power : Expr)
    (within : Within scope inLoop visit) :
    Covers configuration [] ((Stmt.motorOn label port power).occurrences scope inLoop) visit
      ((Stmt.motorOn label port power).visit configuration visit) := by
  have wired : Passes configuration [] [.stmt (.motorOn label port power)]
      (label.findings (Validation.hardwareNotices configuration (.stmt (.motorOn label port power)))) visit
      (visit.checkComponent configuration label ⟨port, .motor, .actor⟩) :=
    passes_checkComponent rfl visit
  have declared : (visit.checkComponent configuration label ⟨port, .motor, .actor⟩).declared = scope := by
    rw [wired.declared, List.append_nil, within.declared]
  refine Covers.late rfl wired (power.visit_covers inLoop declared) ?_
  rw [Stmt.visit, checkPower_eq]
  exact passes_report _ label _

mutual

theorem Stmt.visit_covers : ∀ (stmt : Stmt) {inLoop : Bool} {visit : Visit}, Within scope inLoop visit →
    Covers configuration [] (stmt.occurrences scope inLoop) visit (stmt.visit configuration visit)
  | .light .., _, _, within => covers_pass within (by
    rw [pass_eq_meet rfl _ rfl]
    simp [meet, Stmt.visit, Node.components, Node.componentUse?, Node.timer?, Node.usesSerial,
      Node.usesBrickLight])
  | .lightStatus .., _, _, within => covers_pass within (by
    rw [pass_eq_meet rfl _ rfl]
    simp [meet, Stmt.visit, Node.components, Node.componentUse?, Node.timer?, Node.usesSerial,
      Node.usesBrickLight])
  | .tone _ _ frequency duration, inLoop, _, within =>
    .cons within (pass_eq_checkComponent rfl _ rfl) fun within =>
      .next within (frequency.visit_covers inLoop within.declared) fun within =>
        duration.visit_covers inLoop within.declared
  | .motorOn label port power, _, _, within => Stmt.visit_covers_motorOn label port power within
  | .motorStop .., _, _, within => covers_pass within (pass_eq_checkComponent rfl _ rfl)
  | .showText _ _ text, inLoop, _, within =>
    .cons within (pass_eq_checkComponent rfl _ rfl) fun within => text.visit_covers inLoop within.declared
  | .serialWrite _ value, inLoop, visit, within =>
    have passed : visit.pass configuration (.stmt (.serialWrite _ value)) = { visit with serial := true } := by
      rw [pass_eq_meet rfl _ rfl]
      simp [meet, Node.components, Node.componentUse?, Node.timer?, Node.usesSerial, Node.usesBrickLight]
    .cons within passed fun within => value.visit_covers inLoop within.declared
  | .block body, _, _, within => body.visit_covers within
  | .assign label name value, inLoop, visit, within =>
    have passed : visit.pass configuration (.stmt (.assign label name value)) = visit.checkName label name := by
      rw [pass_eq_report rfl rfl rfl rfl, checkName_eq]
      rfl
    .cons within passed fun within => value.visit_covers inLoop within.declared
  | .branch _ branches, _, visit, within =>
    .cons within (pass_eq_self rfl rfl rfl rfl visit rfl) branches.visit_covers
  | .loop _ head body, inLoop, visit, within =>
    .cons within (pass_eq_self rfl rfl rfl rfl visit rfl) fun within =>
      .next within (head.visit_covers inLoop within.declared) fun within =>
        .repeated (body.visit_covers within.entered)
  | .flow .., _, visit, within => covers_pass within (by
    rw [pass_eq_report rfl rfl rfl rfl, Stmt.visit, checkFlow_eq]
    rfl)
  | .wait _ time, inLoop, visit, within =>
    .cons within (pass_eq_self rfl rfl rfl rfl visit rfl) fun within => time.visit_covers inLoop within.declared

theorem Sequence.visit_covers : ∀ (body : Sequence) {inLoop : Bool} {visit : Visit},
    Within scope inLoop visit →
    Covers configuration [] (body.occurrences scope inLoop) visit (body.visit configuration visit)
  | .mk _ statements, _, visit, within =>
    .cons within (pass_eq_self rfl rfl rfl rfl visit rfl) (Stmt.visitList_covers statements)

theorem Stmt.visitList_covers : ∀ (statements : List Stmt) {inLoop : Bool} {visit : Visit},
    Within scope inLoop visit →
    Covers configuration [] (Stmt.listOccurrences scope inLoop statements) visit
      (Stmt.visitList configuration statements visit)
  | [], _, visit, _ => .nil visit
  | stmt :: rest, _, _, within => .next within (stmt.visit_covers within) (Stmt.visitList_covers rest)

theorem Branches.visit_covers : ∀ (branches : Branches) {inLoop : Bool} {visit : Visit},
    Within scope inLoop visit →
    Covers configuration [] (branches.occurrences scope inLoop) visit (branches.visit configuration visit)
  | .only condition body, inLoop, _, within =>
    .next within (condition.visit_covers inLoop within.declared) body.visit_covers
  | .orElse condition body otherwise, inLoop, _, within =>
    .next within (.next within (condition.visit_covers inLoop within.declared) body.visit_covers)
      otherwise.visit_covers
  | .orIf condition body rest, inLoop, _, within =>
    .next within (.next within (condition.visit_covers inLoop within.declared) body.visit_covers)
      rest.visit_covers

end

/-! ## Programs -/

/-- A declaration is judged after its value, by the names before it, and then declares its own. -/
theorem Declaration.visit_covers (declaration : Declaration) (declared : visit.declared = scope) :
    Covers configuration [declaration.name]
      (⟨.declaration declaration, scope, false⟩ :: declaration.value.occurrences scope false) visit
      (Declaration.visit configuration visit declaration) := by
  have first : Passes configuration [] [.declaration declaration] [] visit visit := by
    have met : Passes configuration [] [.declaration declaration] [] visit _ := passes_meet visit _
    rwa [meet_eq_self rfl rfl rfl rfl] at met
  have inside : Covers configuration [] (declaration.value.occurrences scope false) visit
      (declaration.value.visit configuration visit) := declaration.value.visit_covers false declared
  have known : (declaration.value.visit configuration visit).declared = scope := by
    rw [Passes.declared inside, List.append_nil, declared]
  have judged : Validation.notices configuration ⟨.declaration declaration, scope, false⟩ =
      [] ++ Validation.programNotices ⟨.declaration declaration, scope, false⟩ := by
    cases configuration <;> rfl
  refine Covers.late judged first inside ?_
  rw [← known]
  exact passes_declare _ declaration

theorem Declaration.visitAll_covers (declarations : List Declaration) (declared : visit.declared = scope) :
    Covers configuration (declarations.map Declaration.name) (Declaration.occurrences scope declarations) visit
      (declarations.foldl (Declaration.visit configuration) visit) := by
  induction declarations generalizing scope visit with
  | nil => exact .nil visit
  | cons declaration rest ih =>
    have first : Covers configuration [declaration.name] _ visit _ := declaration.visit_covers declared
    have following : (Declaration.visit configuration visit declaration).declared = scope ++ [declaration.name] := by
      rw [Passes.declared first, declared]
    exact first.trans (ih following)

/-- A visit of a program passes all its nodes, whatever is declared around it and however deep
    it starts. -/
theorem Program.visit_covers (program : Program) (start : Visit) :
    Covers configuration program.names
      (⟨.task program.task, start.declared, decide (0 < start.depth)⟩ ::
        (Declaration.occurrences start.declared program.task.declarations ++
          program.body.occurrences (start.declared ++ program.names) (decide (0 < start.depth))))
      start (program.visit configuration start) := by
  have task : Covers configuration [] [⟨.task program.task, start.declared, decide (0 < start.depth)⟩]
      start start :=
    covers_pass ⟨rfl, rfl⟩ (pass_eq_self rfl rfl rfl rfl start rfl)
  have declarations : Covers configuration program.names
      (Declaration.occurrences start.declared program.task.declarations) start
      (program.task.declarations.foldl (Declaration.visit configuration) start) :=
    Declaration.visitAll_covers program.task.declarations rfl
  have body : Covers configuration []
      (program.body.occurrences (start.declared ++ program.names) (decide (0 < start.depth)))
      (program.task.declarations.foldl (Declaration.visit configuration) start)
      (program.visit configuration start) :=
    program.body.visit_covers ⟨Passes.declared declarations, by rw [Passes.depth declarations]⟩
  simpa using task.trans (declarations.trans body)

/-- A program declares its names, and a visit of it says of each node what its surroundings
    say. -/
theorem Program.visit_passes (program : Program) (configuration : Option Configuration) :
    Passes configuration program.names (program.occurrences.map Occurrence.node)
      (program.validate configuration) {} (program.visit configuration {}) :=
  program.visit_covers {}

/-- The hardware that a visit meets is the hardware of the program. -/
theorem Program.hardware_visit (program : Program) (configuration : Option Configuration) :
    (program.visit configuration {}).hardware = program.usedHardware configuration := by
  have passes := program.visit_passes configuration
  rw [Visit.hardware, passes.components, passes.timers, passes.serial, passes.brickLight]
  rfl

end

end BlockSketch
