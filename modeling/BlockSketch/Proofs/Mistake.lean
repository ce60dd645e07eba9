import BlockSketch.Proofs.Checker
import BlockSketch.Proofs.Position
import BlockSketch.Proofs.Run
import BlockSketch.Proofs.Site

/-!
Each type mistake is reported once. Whether a site is mistaken is said by the rules alone
(`Typing.Site.Mistaken`); what is recorded is one error for each mistaken site, in the order
of the visit, and what a check of the types adds to a project is attached to the nodes of these
sites.
-/
namespace BlockSketch

namespace Typing

/-- An expression is mistaken if it has no type although all its operands have one, and a
    value is if it has another type than the one that is required. -/
def Site.Mistaken : Site → Prop
  | expression declared expr =>
    ¬Typable (Agrees declared) expr ∧ ∀ operand ∈ expr.operands, Typable (Agrees declared) operand
  | slot declared value required _ => ∃ found, HasType (Agrees declared) value found ∧ found ≠ required
  | initial declared declaration =>
    ∃ found, HasType (Agrees declared) declaration.value found ∧ found ≠ declaration.type

/-- The error is what there is to say about a mistaken site. -/
inductive Reports : Site → Fault → Prop
  | use {declared : List Declaration} {label : Label} {name : Identifier} {type known : ValueType}
    (first : firstType? declared name = some known) :
    Reports (.expression declared (.var label name type)) ⟨label, .mismatch known type (.use name)⟩
  | binary {declared : List Declaration} {label : Label} {op : BinaryOp} {left right : Expr}
    {leftType rightType : ValueType} (first : HasType (Agrees declared) left leftType)
    (second : HasType (Agrees declared) right rightType) :
    Reports (.expression declared (.binary label op left right))
      ⟨label, .binaryOperands op leftType rightType⟩
  | unary {declared : List Declaration} {label : Label} {op : UnaryOp} {operand : Expr}
    {found : ValueType} (only : HasType (Agrees declared) operand found) :
    Reports (.expression declared (.unary label op operand)) ⟨label, .unaryOperand op found⟩
  | slot {declared : List Declaration} {value : Expr} {required found : ValueType} {slot : Slot}
    (typed : HasType (Agrees declared) value found) :
    Reports (.slot declared value required slot) ⟨value.label, .mismatch required found slot⟩
  | initial {declared : List Declaration} {declaration : Declaration} {found : ValueType}
    (typed : HasType (Agrees declared) declaration.value found) :
    Reports (.initial declared declaration)
      ⟨declaration.label, .mismatch declaration.type found (.definition declaration.name)⟩

/-! ## The errors of the sites -/

/-- The error that is recorded at a site. -/
def Site.fault? : Site → Option Fault
  | expression declared expr => ownFault? (declared.map entry) expr
  | slot declared value required filled =>
    slotFault? (declared.map entry) value.label value required filled
  | initial declared declaration =>
    slotFault? (declared.map entry) declaration.label declaration.value declaration.type
      (.definition declaration.name)

section
variable {declared : List Declaration}

theorem Site.filterMap_fault? (site : Site) : [site].filterMap Site.fault? = site.fault?.toList := by
  cases found : site.fault? <;> simp [found]

theorem faults_eq (expr : Expr) :
    faults (declared.map entry) expr = (expr.sites declared).filterMap Site.fault? := by
  induction expr with
  | binary label op left right leftIh rightIh =>
    simp only [faults, Expr.sites, leftIh, rightIh, List.filterMap_append, Site.filterMap_fault?]
    rfl
  | unary label op operand ih =>
    simp only [faults, Expr.sites, ih, List.filterMap_append, Site.filterMap_fault?]
    rfl
  | _ => rfl

theorem slotFaults_eq (expr : Expr) (required : ValueType) (slot : Slot) :
    slotFaults (declared.map entry) expr required slot =
      (expr.slotSites declared required slot).filterMap Site.fault? := by
  simp only [slotFaults, Expr.slotSites, faults_eq, List.filterMap_append, Site.filterMap_fault?]
  rfl

theorem headFaults_eq (head : LoopHead) :
    headFaults (declared.map entry) head = (head.sites declared).filterMap Site.fault? := by
  cases head <;> simp [headFaults, LoopHead.sites, slotFaults_eq]

mutual

theorem stmtFaults_eq : ∀ stmt : Stmt,
    stmtFaults (declared.map entry) stmt = (stmt.sites declared).filterMap Site.fault?
  | .light .. => rfl
  | .lightStatus .. => rfl
  | .tone .. => by simp [stmtFaults, Stmt.sites, slotFaults_eq]
  | .motorOn .. => slotFaults_eq ..
  | .motorStop .. => rfl
  | .showText .. => faults_eq ..
  | .serialWrite .. => faults_eq ..
  | .block body => sequenceFaults_eq body
  | .assign _ name _ => by
    simp only [stmtFaults, assignFaults, Stmt.sites, type?_map_entry]
    cases firstType? declared name with
    | none => exact faults_eq _
    | some required => exact slotFaults_eq ..
  | .branch _ branches => branchFaults_eq branches
  | .loop _ head body => by simp [stmtFaults, Stmt.sites, headFaults_eq, sequenceFaults_eq body]
  | .flow .. => rfl
  | .wait .. => slotFaults_eq ..

theorem sequenceFaults_eq : ∀ body : Sequence,
    sequenceFaults (declared.map entry) body = (body.sites declared).filterMap Site.fault?
  | .mk _ statements => listFaults_eq statements

theorem listFaults_eq : ∀ statements : List Stmt,
    listFaults (declared.map entry) statements = (Stmt.listSites declared statements).filterMap Site.fault?
  | [] => rfl
  | stmt :: rest => by simp [listFaults, Stmt.listSites, stmtFaults_eq stmt, listFaults_eq rest]

theorem branchFaults_eq : ∀ branches : Branches,
    branchFaults (declared.map entry) branches = (branches.sites declared).filterMap Site.fault?
  | .only _ body => by simp [branchFaults, Branches.sites, slotFaults_eq, sequenceFaults_eq body]
  | .orElse _ body otherwise => by
    simp [branchFaults, Branches.sites, slotFaults_eq, sequenceFaults_eq body, sequenceFaults_eq otherwise]
  | .orIf _ body rest => by
    simp [branchFaults, Branches.sites, slotFaults_eq, sequenceFaults_eq body, branchFaults_eq rest]

end

theorem taskFaults_eq (declarations : List Declaration) :
    taskFaults (declared.map entry) declarations =
      (Declaration.sites declared declarations).filterMap Site.fault? := by
  induction declarations generalizing declared with
  | nil => rfl
  | cons declaration rest ih =>
    have later := @ih (declared ++ [declaration])
    rw [List.map_append, List.map_singleton] at later
    simp only [taskFaults, declarationFaults, Declaration.sites, faults_eq, later, List.filterMap_append,
      Site.filterMap_fault?]
    rfl

/-- The errors are those of the sites, in the order of the visit. -/
theorem checkTypes_faults_eq (program : Program) :
    program.checkTypes.faults = program.sites.filterMap Site.fault? := by
  simp only [Program.checkTypes, Program.sites, List.filterMap_append, ← taskFaults_eq, ← sequenceFaults_eq,
    List.map_nil]

/-! ## What is mistaken -/

theorem typable_iff {expr : Expr} :
    Typable (Agrees declared) expr ↔ infer? (declared.map entry) expr ≠ none := by
  rw [Ne, infer?_eq_none_iff, not_not]

theorem mistaken_expression_iff {expr : Expr} :
    (Site.expression declared expr).Mistaken ↔
      infer? (declared.map entry) expr = none ∧
        ∀ operand ∈ expr.operands, infer? (declared.map entry) operand ≠ none := by
  simp only [Site.Mistaken, infer?_eq_none_iff, typable_iff]

/-- Where an expression is mistaken, there is an error that says so. -/
theorem ownFault?_cases (expr : Expr) :
    ownFault? (declared.map entry) expr = none ∧ ¬(Site.expression declared expr).Mistaken ∨
      ∃ fault, ownFault? (declared.map entry) expr = some fault ∧
        (Site.expression declared expr).Mistaken ∧ Reports (.expression declared expr) fault := by
  rw [mistaken_expression_iff]
  cases expr with
  | var label name type =>
    simp only [ownFault?, infer?, type?_map_entry, Expr.operands]
    cases found : firstType? declared name with
    | none => simp
    | some known =>
      by_cases same : known = type
      · simp [same]
      · refine .inr ⟨_, if_neg same, ⟨if_neg same, by simp⟩, .use found⟩
  | binary label op left right =>
    simp only [ownFault?, infer?, Expr.operands]
    cases leftFound : infer? (declared.map entry) left with
    | none => simp [leftFound]
    | some leftType =>
      cases rightFound : infer? (declared.map entry) right with
      | none => simp [rightFound]
      | some rightType =>
        by_cases typed : binaryType? op leftType rightType = none
        · exact .inr ⟨_, if_pos typed, ⟨typed, by simp [leftFound, rightFound]⟩,
            .binary (infer?_sound leftFound) (infer?_sound rightFound)⟩
        · simp [typed]
  | unary label op operand =>
    simp only [ownFault?, infer?, Expr.operands]
    cases found : infer? (declared.map entry) operand with
    | none => simp [found]
    | some type =>
      by_cases same : type = unaryType op
      · simp [same]
      · exact .inr ⟨_, if_neg same, ⟨by simp [Option.filter, same], by simp [found]⟩, .unary (infer?_sound found)⟩
  | _ => simp [ownFault?, infer?]

theorem slotFault?_cases (label : Label) (value : Expr) (required : ValueType) (slot : Slot) :
    slotFault? (declared.map entry) label value required slot = none ∧
        (¬∃ found, HasType (Agrees declared) value found ∧ found ≠ required) ∨
      ∃ found, slotFault? (declared.map entry) label value required slot =
          some ⟨label, .mismatch required found slot⟩ ∧
        HasType (Agrees declared) value found ∧ found ≠ required := by
  simp only [← infer?_eq_some_iff, slotFault?]
  cases infer? (declared.map entry) value with
  | none => simp
  | some type =>
    by_cases same : type = required
    · simp [same]
    · exact .inr ⟨type, if_neg same, rfl, same⟩

/-- An error is recorded at a site exactly if it is mistaken. -/
theorem Site.fault?_cases (site : Site) :
    site.fault? = none ∧ ¬site.Mistaken ∨
      ∃ fault, site.fault? = some fault ∧ site.Mistaken ∧ Reports site fault := by
  cases site with
  | expression declared expr => exact ownFault?_cases expr
  | slot declared value required filled =>
    rcases slotFault?_cases value.label value required filled with none | ⟨found, some, typed, other⟩
    · exact .inl none
    · exact .inr ⟨_, some, ⟨found, typed, other⟩, .slot typed⟩
  | initial declared declaration =>
    rcases slotFault?_cases declaration.label declaration.value declaration.type
      (.definition declaration.name) with none | ⟨found, some, typed, other⟩
    · exact .inl none
    · exact .inr ⟨_, some, ⟨found, typed, other⟩, .initial typed⟩

theorem Site.mistaken_iff (site : Site) : site.fault?.isSome = true ↔ site.Mistaken := by
  rcases site.fault?_cases with ⟨none, right⟩ | ⟨fault, some, mistaken, _⟩
  · simp [none, right]
  · simp [some, mistaken]

instance : DecidablePred Site.Mistaken := fun site =>
  decidable_of_iff (site.fault?.isSome = true) site.mistaken_iff

theorem forall₂_reports (sites : List Site) :
    List.Forall₂ Reports (sites.filter (·.Mistaken)) (sites.filterMap Site.fault?) := by
  induction sites with
  | nil => exact .nil
  | cons site rest ih =>
    rcases site.fault?_cases with ⟨none, right⟩ | ⟨fault, some, mistaken, reports⟩
    · simpa [none, right] using ih
    · simpa [some, mistaken] using ⟨reports, ih⟩

/-- An error is attached to the node of its site. -/
theorem Reports.label_eq {site : Site} {fault : Fault} (reports : Reports site fault) :
    fault.label = site.node.label := by
  cases reports <;> rfl

end
end Typing

/-! ## Every mistake once -/

/-- Where positions differ, a position leads to one node. -/
theorem Occurrence.filter_position_eq {occurrences : List Occurrence}
    (distinct : (Occurrence.positions occurrences).Nodup) {occurrence : Occurrence}
    (member : occurrence ∈ occurrences) :
    occurrences.filter (fun other => other.node.label.position = occurrence.node.label.position) =
      [occurrence] := by
  induction occurrences with
  | nil => cases member
  | cons first rest ih =>
    obtain ⟨fresh, distinct⟩ := List.nodup_cons.mp distinct
    rcases List.mem_cons.mp member with rfl | member
    · rw [List.filter_cons_of_pos (by simp), List.filter_eq_nil_iff.mpr]
      intro other later same
      refine fresh (List.mem_map.mpr ⟨other, later, ?_⟩)
      simpa using same
    · have different : first.node.label.position ≠ occurrence.node.label.position := by
        intro same
        exact fresh (List.mem_map.mpr ⟨occurrence, member, same.symm⟩)
      rw [List.filter_cons_of_neg (by simpa using different)]
      exact ih distinct member

namespace Typing

/-- The expressions whose types a site is about. -/
def Site.values : Site → List Expr
  | expression _ expr => expr.operands
  | slot _ value _ _ => [value]
  | initial _ declaration => [declaration.value]

/-- The declarations that count at a site. -/
def Site.declared : Site → List Declaration
  | expression declared _ => declared
  | slot declared _ _ _ => declared
  | initial declared _ => declared

/-- A site is silent about a value that has no type. -/
theorem Site.not_mistaken_of_untypable {site : Site} {value : Expr} (about : value ∈ site.values)
    (untypable : ¬Typable (Agrees site.declared) value) : ¬site.Mistaken := by
  cases site with
  | expression declared expr => exact fun mistaken => untypable (mistaken.2 value about)
  | slot declared filler required filled =>
    obtain rfl := List.mem_singleton.mp about
    rintro ⟨found, typed, _⟩
    exact untypable ⟨found, typed⟩
  | initial declared declaration =>
    obtain rfl := List.mem_singleton.mp about
    rintro ⟨found, typed, _⟩
    exact untypable ⟨found, typed⟩

/-- A visit judges an expression by its type, which is the only one by the rules. If the rules
    give it none, its type is unknown; no expression is without type as statements are. -/
structure Checker.Judges (checker : Checker) (declared : List Declaration) (expr : Expr) : Prop where
  typed : ∀ type, (expr.judge checker).1 = .value type ↔ HasType (Agrees declared) expr type
  unknown : (expr.judge checker).1 = .unknown ↔ ¬Typable (Agrees declared) expr
  inhabited : (expr.judge checker).1 ≠ .void

theorem Checker.Knows.judges {checker : Checker} {declared : List Declaration}
    (knows : checker.Knows (declared.map entry)) (expr : Expr) : checker.Judges declared expr := by
  have judged : (expr.judge checker).1 = .ofType? (infer? (declared.map entry) expr) := by
    rw [expr.judge_eq knows]
  constructor
  · intro type
    rw [judged, Judgement.ofType?_eq_value_iff, infer?_eq_some_iff]
  · rw [judged, Judgement.ofType?_eq_unknown_iff, infer?_eq_none_iff]
  · rw [judged]
    exact Judgement.ofType?_ne_void _

end Typing

/-- A visit that judges the program, on nodes with the notices of the project. -/
def Project.typeVisit (project : Project) : Typing.Checker :=
  project.program.judge { findings := project.findings }

namespace Typing

/-- What a check of the types adds to a project: the mistakes of its program. -/
structure Faithful (project : Project) : Prop where
  /-- The sites are those of the nodes of the program, each of them once. -/
  visited : project.program.sites.Perm
    (project.program.occurrences.flatMap (Occurrence.sites project.program.task.declarations))
  /-- A visit records one error for each mistaken site, in the order of the sites. -/
  reported : List.Forall₂ Reports (project.program.sites.filter (·.Mistaken))
    project.typeVisit.faults
  /-- The check leaves these errors for the workers after it. -/
  product : ∃ summary, summary.faults = project.typeVisit.faults ∧
    project.checkTypes.products = project.products.insert (.typeCheck summary)
  /-- It has attached what the visit attaches. -/
  found : project.checkTypes.findings = project.typeVisit.findings
  /-- After the notices that were there before, a place has one for each mistaken site whose node
      stands there, and other places have none. -/
  attached : ∀ place, ∃ found,
    List.Forall₂ Reports ((project.program.sites.filter (·.Mistaken)).filter fun site =>
      Place.block site.node.label.position = place) found ∧
    Finding.noticesAt project.checkTypes.findings place =
      Finding.noticesAt project.findings place ++ found.map fun fault => fault.cause.notice
  /-- The node of a site is the only one that stands there. -/
  alone : ∀ site ∈ project.program.sites,
    (project.program.occurrences.filter fun occurrence =>
      occurrence.node.label.position = site.node.label.position).map Occurrence.node = [site.node]
  /-- The mistaken sites are counted. -/
  counted : project.checkTypes.errorCount =
    project.errorCount + (project.program.sites.filter (·.Mistaken)).length

/-- Every type error is an error. -/
theorem Fault.errorCount_findings (found : List Fault) : Finding.errorCount (found.map Fault.finding) = found.length := by
  rw [Finding.errorCount, List.countP_map, List.countP_eq_length]
  rintro ⟨label, cause⟩ _
  cases cause <;> rfl

/-- The notices of errors at a place are those of the errors there. -/
theorem Fault.noticesAt_findings (found : List Fault) (place : Place) :
    Finding.noticesAt (found.map Fault.finding) place =
      (found.filter fun fault => Place.block fault.label.position = place).map fun fault => fault.cause.notice := by
  rw [Finding.noticesAt, List.filter_map, List.map_map]
  rfl

theorem forall₂_reports_at (program : Program) (place : Place) :
    List.Forall₂ Reports
      ((program.sites.filter (·.Mistaken)).filter fun site => Place.block site.node.label.position = place)
      (program.checkTypes.faults.filter fun fault => Place.block fault.label.position = place) := by
  rw [checkTypes_faults_eq]
  refine List.rel_filter ?_ (forall₂_reports program.sites)
  intro site fault reports
  simp only [reports.label_eq]

end Typing

open Typing

/-- All that a check of the types does to a project. -/
theorem Project.checkTypes_eq (project : Project) :
    project.checkTypes =
      { project with
        findings := project.findings ++ project.program.checkTypes.faults.map Fault.finding
        errorCount := project.errorCount + project.program.checkTypes.faults.length
        result := project.result.worse (.ofErrors project.program.checkTypes.faults.length)
        products := project.products.insert (.typeCheck project.program.checkTypes)
        log := project.log ++ [.typesChecked project.program.checkTypes.faults.length] } := by
  rw [checkTypes, addFindings, Fault.errorCount_findings, addErrors_eq]
  rfl

theorem Project.faithful {project : Project}
    (distinct : (Occurrence.positions project.program.occurrences).Nodup) : Typing.Faithful project := by
  have walked := project.program.judge_checked project.findings
  have faults : project.typeVisit.faults = project.program.checkTypes.faults := walked.faults
  have reports := forall₂_reports project.program.sites
  rw [← checkTypes_faults_eq] at reports
  refine ⟨project.program.sites_perm, ?_, ⟨project.program.checkTypes, faults.symm, ?_⟩, ?_, fun place => ?_,
    fun site member => ?_, ?_⟩
  · rw [faults]
    exact reports
  · rw [checkTypes_eq]
  · rw [checkTypes_eq, typeVisit, walked.findings]
  · refine ⟨_, forall₂_reports_at project.program place, ?_⟩
    rw [checkTypes_eq, Finding.noticesAt_append, Fault.noticesAt_findings]
  · obtain ⟨occurrence, occurs, isNode⟩ := Program.site_occurs member
    rw [← isNode, Occurrence.filter_position_eq distinct occurs]
    rfl
  · rw [checkTypes_eq, reports.length_eq]

/-- A check of the types of a built program reports every mistake once. Whatever variables a
    visit knows, it judges expressions by the rules, and what has no type is not reported again by
    what is around it. -/
theorem type_mistakes_reported_once {draft : Draft.Program} {project : Project}
    (built : draft.build = .ok project.program) :
    (∀ (checker : Checker) (declared : List Declaration), checker.Knows (declared.map entry) →
      ∀ expr, checker.Judges declared expr) ∧
    (∀ site : Site, ∀ value ∈ site.values, ¬Typable (Agrees site.declared) value → ¬site.Mistaken) ∧
    Typing.Faithful project :=
  ⟨fun _ _ knows => knows.judges, fun _ _ => Site.not_mistaken_of_untypable,
    Project.faithful (Draft.Program.positions_nodup built)⟩

/-- Three mistakes: the tag in the second initial value, the sum of a truth value and a number,
    and the text as a time. The loop that is left is missing as well. -/
def Draft.Program.muddled : Draft.Program where
  declarations := [⟨{}, "n", some "NUMBER", .number {} "1"⟩, ⟨{}, "b", some "BOOLEAN", .var {} "n" (some "STRING")⟩]
  body :=
    [.assign {} "n" (.binary {} "MULTIPLY" (.binary {} "ADD" (.boolean {} true) (.number {} "1")) (.number {} "2")),
      .flow {} (some "BREAK"), .wait {} (.text {} "soon")]

/-- The types are checked after a validator has found another error. -/
theorem muddled_mistakes_reported :
    ∃ program, Draft.Program.muddled.build = .ok program ∧
      ∃ project : Project, project = Project.validateProgram { program, configuration := .empty } none ∧
        project.errorCount = 1 ∧ project.checkTypes.errorCount = 4 ∧
        (∀ expr, Checker.Judges {} [] expr) ∧
        (∀ site ∈ program.sites, ∀ value ∈ site.values,
          ¬Typable (Agrees site.declared) value → ¬site.Mistaken) ∧
        Typing.Faithful project := by
  have counts : (Draft.Program.muddled.build.toOption.map fun program =>
      let project := Project.validateProgram { program, configuration := .empty } none
      (project.errorCount, project.checkTypes.errorCount)) = some (1, 4) := by
    decide +kernel
  obtain ⟨program, built, counts⟩ := Option.map_eq_some_iff.mp counts
  replace built := Outcome.eq_ok_of_toOption built
  obtain ⟨earlier, all⟩ := Prod.mk.inj counts
  have same : (Project.validateProgram { program, configuration := .empty } none).program = program := by
    rw [Project.validateProgram, Project.addFindings, Project.addErrors_eq]
    rfl
  obtain ⟨judges, silent, faithful⟩ := type_mistakes_reported_once (built.trans (congrArg _ same.symm))
  exact ⟨program, built, _, rfl, earlier, all, judges {} [] fun _ => rfl, fun site _ => silent site, faithful⟩

end BlockSketch
