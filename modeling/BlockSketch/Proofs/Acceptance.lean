import BlockSketch.Proofs.Generation
import BlockSketch.Proofs.Mistake
import BlockSketch.Proofs.Scoping
import Mathlib.Data.List.Nodup

/-!
What is accepted by the validator and the type check together. Each of them lets through
what the other one refuses: the type check takes a variable that is not declared at its tag
and goes by the first of two declarations, and the validator does not look at types. Both
together accept a program exactly if it is well scoped and well typed, where both notions
speak of the tree and of the typing rules only.
-/
namespace BlockSketch

open Typing

/-! ## Well-typed programs -/

/-- The node asks for a value of this type in an expression directly inside it. -/
inductive Node.Requires (declarations : List Declaration) : Node → Expr → ValueType → Prop
  | initial {declaration : Declaration} :
    Requires declarations (.declaration declaration) declaration.value declaration.type
  | assigned {label : Label} {value : Expr} {declaration : Declaration}
    (declared : declaration ∈ declarations) :
    Requires declarations (.stmt (.assign label declaration.name value)) value declaration.type
  | arm {label : Label} {branches : Branches} {condition : Expr} {body : Sequence}
    (listed : (condition, body) ∈ branches.arms) :
    Requires declarations (.stmt (.branch label branches)) condition .boolean
  | during {label : Label} {condition : Expr} {body : Sequence} :
    Requires declarations (.stmt (.loop label (.during condition) body)) condition .boolean
  | till {label : Label} {condition : Expr} {body : Sequence} :
    Requires declarations (.stmt (.loop label (.till condition) body)) condition .boolean
  | times {label : Label} {count : Expr} {body : Sequence} :
    Requires declarations (.stmt (.loop label (.times count) body)) count .number
  | wait {label : Label} {time : Expr} : Requires declarations (.stmt (.wait label time)) time .number
  | frequency {label : Label} {port : Identifier} {frequency duration : Expr} :
    Requires declarations (.stmt (.tone label port frequency duration)) frequency .number
  | duration {label : Label} {port : Identifier} {frequency duration : Expr} :
    Requires declarations (.stmt (.tone label port frequency duration)) duration .number
  | power {label : Label} {port : Identifier} {power : Expr} :
    Requires declarations (.stmt (.motorOn label port power)) power .number

/-- Every variable may be read at its tag. -/
def Typing.AtTag (_ : Identifier) (_ : ValueType) : Prop := True

namespace Program

/-- The node is in the task or in the body. -/
def Contains (program : Program) (node : Node) : Prop :=
  (Node.task program.task).Contains node ∨ program.root.Contains node

/-- Tags are right, expressions have types, and where a type is asked for, it is there. -/
structure WellTyped (program : Program) : Prop where
  /-- The tag of a variable is the type that is declared for it. -/
  tags : ∀ label name type, program.Contains (.expr (.var label name type)) →
    ∀ declaration ∈ program.task.declarations, declaration.name = name → declaration.type = type
  /-- The rules give every expression a type. -/
  typable : ∀ expr, program.Contains (.expr expr) → Typable AtTag expr
  /-- Every slot holds a value of the type that it asks for. -/
  slots : ∀ node, program.Contains node → ∀ value required,
    node.Requires program.task.declarations value required → HasType AtTag value required

/-! ## Where which declarations count -/

/-- An initial value with the declarations before it, or the body with all of them. -/
inductive Region (program : Program) : Node → List Declaration → Prop
  | initial {before after : List Declaration} {declaration : Declaration}
    (split : program.task.declarations = before ++ declaration :: after) :
    Region program (.expr declaration.value) before
  | body : Region program program.root program.task.declarations

variable {program : Program} {root : Node} {declared : List Declaration}

theorem Region.subset (region : program.Region root declared) : declared ⊆ program.task.declarations := by
  cases region with
  | initial split =>
    rw [split]
    exact List.subset_append_left ..
  | body => exact fun _ member => member

/-- A region consists of expressions and statements. -/
theorem Region.isPart (region : program.Region root declared) {node : Node} (inside : root.Contains node) :
    node.isPart = true := by
  obtain ⟨ancestors, reached⟩ := inside
  cases region with
  | initial split => exact reached.isPart rfl
  | body => exact reached.isPart rfl

/-- There are statements in the body only, where all declarations count. -/
theorem Region.of_statement (region : program.Region root declared) {stmt : Stmt}
    (inside : root.Contains (.stmt stmt)) : root = program.root ∧ declared = program.task.declarations := by
  obtain ⟨ancestors, reached⟩ := inside
  cases region with
  | initial split =>
    obtain ⟨_, isExpression⟩ := reached.expression rfl
    cases isExpression
  | body => exact ⟨rfl, rfl⟩

theorem contains_of_declaration {declaration : Declaration}
    (member : declaration ∈ program.task.declarations) : program.Contains (.declaration declaration) :=
  .inl ⟨_, .inside (List.mem_map_of_mem member) (.here _)⟩

theorem Region.contains (region : program.Region root declared) {node : Node}
    (inside : root.Contains node) : program.Contains node := by
  cases region with
  | @initial before after declaration split =>
    obtain ⟨ancestors, reached⟩ := inside
    have member : declaration ∈ program.task.declarations := by simp [split]
    exact .inl ⟨_, .inside (List.mem_map_of_mem member) (.inside List.mem_cons_self reached)⟩
  | body => exact .inr inside

/-- The nodes of a program are the task, its declarations, and the nodes of the regions. -/
theorem contains_cases {node : Node} (inside : program.Contains node) :
    node = .task program.task ∨ (∃ declaration ∈ program.task.declarations, node = .declaration declaration) ∨
      ∃ root declared, program.Region root declared ∧ root.Contains node := by
  rcases inside with ⟨ancestors, reached⟩ | inBody
  · cases reached with
    | here => exact .inl rfl
    | inside member below =>
      obtain ⟨declaration, declares, rfl⟩ := List.mem_map.mp member
      cases below with
      | here => exact .inr (.inl ⟨declaration, declares, rfl⟩)
      | inside member below =>
        obtain rfl := List.mem_singleton.mp member
        obtain ⟨before, after, split⟩ := List.append_of_mem declares
        exact .inr (.inr ⟨_, _, .initial split, _, below⟩)
  · exact .inr (.inr ⟨_, _, .body, inBody⟩)

theorem exists_region {expr : Expr} (inside : program.Contains (.expr expr)) :
    ∃ root declared, program.Region root declared ∧ root.Contains (.expr expr) := by
  rcases contains_cases inside with isTask | ⟨_, _, isDeclaration⟩ | found
  · cases isTask
  · cases isDeclaration
  · exact found

theorem mem_of_contains {declaration : Declaration} (inside : program.Contains (.declaration declaration)) :
    declaration ∈ program.task.declarations := by
  rcases contains_cases inside with isTask | ⟨_, member, isDeclaration⟩ | ⟨_, _, region, contained⟩
  · cases isTask
  · cases isDeclaration
    exact member
  · cases region.isPart contained

theorem root_contains_of_statement {stmt : Stmt} (inside : program.Contains (.stmt stmt)) :
    program.root.Contains (.stmt stmt) := by
  rcases contains_cases inside with isTask | ⟨_, _, isDeclaration⟩ | ⟨_, _, region, contained⟩
  · cases isTask
  · cases isDeclaration
  · obtain ⟨rfl, rfl⟩ := region.of_statement contained
    exact contained

/-- The sites of a program are its initial values and the sites of the nodes in the regions. -/
theorem mem_sites_iff {site : Site} :
    site ∈ program.sites ↔
      (∃ before declaration after, program.task.declarations = before ++ declaration :: after ∧
        site = .initial before declaration) ∨
      ∃ root declared node, program.Region root declared ∧ root.Contains node ∧
        site ∈ node.sites declared := by
  rw [program.sites_perm.mem_iff, List.mem_flatMap]
  constructor
  · rintro ⟨occurrence, member, own⟩
    rcases mem_occurrences_iff.mp member with
      rfl | ⟨before, declaration, after, split, rfl | inside⟩ | inside
    · cases own
    · rw [Occurrence.sites_of_scope ⟨_, split.symm⟩ rfl] at own
      exact .inl ⟨before, declaration, after, split, List.mem_singleton.mp own⟩
    · rw [Occurrence.sites_of_scope ⟨_, split.symm⟩ (Expr.share_occurrences _ _ _ inside).1] at own
      obtain ⟨ancestors, reached, _⟩ := Node.reaches_of_mem rfl inside
      exact .inr ⟨_, _, _, .initial split, ⟨_, reached⟩, own⟩
    · rw [Occurrence.sites_of_scope List.prefix_rfl (Sequence.share_occurrences _ _ _ inside).1] at own
      obtain ⟨ancestors, reached, _⟩ := Node.reaches_of_mem rfl inside
      exact .inr ⟨_, _, _, .body, ⟨_, reached⟩, own⟩
  · rintro (⟨before, declaration, after, split, rfl⟩ | ⟨root, declared, node, region, ⟨ancestors, reached⟩, own⟩)
    · refine ⟨_, mem_occurrences_iff.mpr (.inr (.inl ⟨before, declaration, after, split, .inl rfl⟩)), ?_⟩
      rw [Occurrence.sites_of_scope ⟨_, split.symm⟩ rfl]
      exact List.mem_singleton_self _
    · cases region with
      | initial split =>
        obtain ⟨flag, member, _⟩ := reached.occurs rfl (declared.map Declaration.name) false
        refine ⟨_, mem_occurrences_iff.mpr (.inr (.inl ⟨declared, _, _, split, .inr member⟩)), ?_⟩
        rw [Occurrence.sites_of_scope ⟨_, split.symm⟩ rfl]
        exact own
      | body =>
        obtain ⟨flag, member, _⟩ := reached.occurs rfl program.names false
        refine ⟨_, mem_occurrences_iff.mpr (.inr (.inr member)), ?_⟩
        rw [Occurrence.sites_of_scope List.prefix_rfl rfl]
        exact own

/-! ## Types against declarations and types at tags -/

/-- Of declarations with distinct names, one with the name is the one. -/
theorem WellScoped.eq_of_name (well : program.WellScoped) {first second : Declaration}
    (firstMember : first ∈ program.task.declarations) (secondMember : second ∈ program.task.declarations)
    (same : first.name = second.name) : first = second :=
  List.inj_on_of_nodup_map well.distinct firstMember secondMember same

/-- Where tags are right, they agree with the declarations of every region. -/
theorem WellTyped.reads (typed : program.WellTyped) (region : program.Region root declared)
    {expr : Expr} (inside : root.Contains (.expr expr)) : Reads (Agrees declared) expr := by
  intro label name type part known first
  obtain ⟨declaration, member, rfl, rfl⟩ := mem_of_firstType? first
  have contained := region.contains (inside.trans (Expr.contains_of_mem_parts part))
  exact typed.tags label _ type contained declaration (region.subset member) rfl

/-- Without a mistake in a region, every expression in it has a type. -/
theorem Region.typable (region : program.Region root declared)
    (right : ∀ site ∈ program.sites, ¬site.Mistaken) {expr : Expr} (inside : root.Contains (.expr expr)) :
    Typable (Agrees declared) expr := by
  have ownRight (part : Expr) (contained : root.Contains (.expr part)) :
      ¬(Site.expression declared part).Mistaken :=
    right _ (mem_sites_iff.mpr (.inr ⟨root, declared, _, region, contained, List.mem_singleton_self _⟩))
  have step (part : Expr) (contained : root.Contains (.expr part))
      (operands : ∀ operand ∈ part.operands, Typable (Agrees declared) operand) :
      Typable (Agrees declared) part := by
    by_contra untypable
    exact ownRight part contained ⟨untypable, operands⟩
  induction expr with
  | binary label op left right leftIh rightIh =>
    refine step _ inside fun operand member => ?_
    simp only [Expr.operands, List.mem_cons, List.not_mem_nil, or_false] at member
    rcases member with rfl | rfl
    · exact leftIh (inside.child (by simp [Node.children]))
    · exact rightIh (inside.child (by simp [Node.children]))
  | unary label op operand ih =>
    refine step _ inside fun part member => ?_
    obtain rfl := List.mem_singleton.mp member
    exact ih (inside.child (by simp [Node.children]))
  | _ => exact step _ inside (by simp [Expr.operands])

/-- A variable of a region is declared there. -/
theorem WellScoped.exists_declared (well : program.WellScoped) (region : program.Region root declared)
    {label : Label} {name : Identifier} {type : ValueType}
    (inside : root.Contains (.expr (.var label name type))) : ∃ earlier ∈ declared, earlier.name = name := by
  cases region with
  | initial split => exact well.initialReads _ _ _ split label name type inside
  | body => exact well.reads label name type inside

/-- What a statement asks for is a slot of it. -/
theorem WellScoped.exists_slot (well : program.WellScoped) {stmt : Stmt} {value : Expr} {required : ValueType}
    (requires : (Node.stmt stmt).Requires program.task.declarations value required) :
    ∃ slot, Site.slot program.task.declarations value required slot ∈ stmt.slots program.task.declarations := by
  cases requires with
  | @assigned label _ declaration member =>
    obtain ⟨type, first⟩ := exists_firstType? (List.mem_map_of_mem member)
    obtain ⟨found, foundMember, named, rfl⟩ := mem_of_firstType? first
    obtain rfl := well.eq_of_name foundMember member named
    exact ⟨.assignment found.name, by simp [Stmt.slots, first]⟩
  | arm listed => exact ⟨.condition, List.mem_map.mpr ⟨_, listed, rfl⟩⟩
  | during => exact ⟨.condition, List.mem_singleton_self _⟩
  | till => exact ⟨.condition, List.mem_singleton_self _⟩
  | times => exact ⟨.repeatCount, List.mem_singleton_self _⟩
  | wait => exact ⟨.waitTime, List.mem_singleton_self _⟩
  | frequency => exact ⟨.toneFrequency, List.mem_cons_self⟩
  | duration => exact ⟨.toneDuration, by simp [Stmt.slots]⟩
  | power => exact ⟨.motorPower, List.mem_singleton_self _⟩

/-- A slot of a statement is something it asks for. -/
theorem requires_of_slot {stmt : Stmt} {site : Site} (member : site ∈ stmt.slots declared) :
    ∃ value required slot, site = .slot declared value required slot ∧
      (Node.stmt stmt).Requires declared value required := by
  cases stmt with
  | tone label port frequency duration =>
    simp only [Stmt.slots, List.mem_cons, List.not_mem_nil, or_false] at member
    rcases member with rfl | rfl
    · exact ⟨_, _, _, rfl, .frequency⟩
    · exact ⟨_, _, _, rfl, .duration⟩
  | motorOn label port power =>
    obtain rfl := List.mem_singleton.mp member
    exact ⟨_, _, _, rfl, .power⟩
  | assign label name value =>
    obtain ⟨required, found, rfl⟩ := List.mem_map.mp member
    obtain ⟨declaration, declares, rfl, rfl⟩ := mem_of_firstType? (Option.mem_toList.mp found)
    exact ⟨_, _, _, rfl, .assigned declares⟩
  | branch label branches =>
    obtain ⟨arm, listed, rfl⟩ := List.mem_map.mp member
    exact ⟨_, _, _, rfl, .arm listed⟩
  | loop label head body =>
    cases head with
    | forever => cases member
    | times count =>
      obtain rfl := List.mem_singleton.mp member
      exact ⟨_, _, _, rfl, .times⟩
    | during condition =>
      obtain rfl := List.mem_singleton.mp member
      exact ⟨_, _, _, rfl, .during⟩
    | till condition =>
      obtain rfl := List.mem_singleton.mp member
      exact ⟨_, _, _, rfl, .till⟩
  | wait label time =>
    obtain rfl := List.mem_singleton.mp member
    exact ⟨_, _, _, rfl, .wait⟩
  | _ => cases member

/-- A value that is not of another type has the type that is required. -/
theorem Region.hasType (region : program.Region root declared)
    (right : ∀ site ∈ program.sites, ¬site.Mistaken) {value : Expr} {required : ValueType}
    (inside : root.Contains (.expr value))
    (noOther : ¬∃ found, HasType (Agrees declared) value found ∧ found ≠ required) :
    HasType AtTag value required := by
  obtain ⟨found, typed⟩ := region.typable right inside
  obtain rfl : found = required := by
    by_contra other
    exact noOther ⟨found, typed, other⟩
  exact typed.congr fun _ _ _ _ => trivial

theorem wellTyped_of_right (well : program.WellScoped)
    (right : ∀ site ∈ program.sites, ¬site.Mistaken) : program.WellTyped where
  tags label name type inside declaration member named := by
    obtain ⟨root, declared, region, contained⟩ := exists_region inside
    obtain ⟨earlier, earlierMember, earlierNamed⟩ := well.exists_declared region contained
    obtain ⟨known, first⟩ := exists_firstType? (List.mem_map.mpr ⟨earlier, earlierMember, earlierNamed⟩)
    obtain ⟨found, foundMember, foundNamed, rfl⟩ := mem_of_firstType? first
    obtain rfl := well.eq_of_name (region.subset foundMember) member (foundNamed.trans named.symm)
    obtain ⟨_, typed⟩ := region.typable right contained
    cases typed with
    | var agrees => exact agrees _ first
  typable expr inside := by
    obtain ⟨root, declared, region, contained⟩ := exists_region inside
    obtain ⟨type, typed⟩ := region.typable right contained
    exact ⟨type, typed.congr fun _ _ _ _ => trivial⟩
  slots node inside value required requires := by
    cases node with
    | expr part => cases requires
    | task part => cases requires
    | declaration part =>
      cases requires
      obtain ⟨before, after, split⟩ := List.append_of_mem (mem_of_contains inside)
      exact (Region.initial split).hasType right ⟨_, .here _⟩
        (right _ (mem_sites_iff.mpr (.inl ⟨before, part, after, split, rfl⟩)))
    | stmt part =>
      have contained := root_contains_of_statement inside
      obtain ⟨slot, own⟩ := well.exists_slot requires
      exact Region.body.hasType right (contained.child (Stmt.child_of_slot own))
        (right _ (mem_sites_iff.mpr (.inr ⟨_, _, _, .body, contained, own⟩)))

namespace WellTyped
variable (typed : program.WellTyped)
include typed

theorem agrees (region : program.Region root declared) {expr : Expr} (inside : root.Contains (.expr expr))
    {type : ValueType} (atTag : HasType AtTag expr type) : HasType (Agrees declared) expr type :=
  atTag.congr (typed.reads region inside)

/-- A slot that holds the type it asks for is not mistaken. -/
theorem not_other (region : program.Region root declared) {value : Expr} (inside : root.Contains (.expr value))
    {required : ValueType} (holds : HasType AtTag value required) :
    ¬∃ found, HasType (Agrees declared) value found ∧ found ≠ required := by
  rintro ⟨found, other, different⟩
  exact different (other.unique (typed.agrees region inside holds))

theorem right : ∀ site ∈ program.sites, ¬site.Mistaken := by
  intro site member
  rcases mem_sites_iff.mp member with
    ⟨before, declaration, after, split, rfl⟩ | ⟨root, declared, node, region, inside, own⟩
  · have contained : program.Contains (.declaration declaration) :=
      contains_of_declaration (by simp [split])
    exact typed.not_other (.initial split) ⟨_, .here _⟩ (typed.slots _ contained _ _ .initial)
  · cases node with
    | expr part =>
      obtain rfl := List.mem_singleton.mp own
      obtain ⟨type, atTag⟩ := typed.typable part (region.contains inside)
      exact fun mistaken => mistaken.1 ⟨type, typed.agrees region inside atTag⟩
    | stmt part =>
      obtain ⟨value, required, slot, rfl, requires⟩ := requires_of_slot own
      obtain ⟨rfl, rfl⟩ := region.of_statement inside
      exact typed.not_other region (inside.child (Stmt.child_of_slot own))
        (typed.slots _ (region.contains inside) _ _ requires)
    | declaration part => cases region.isPart inside
    | task part => cases own

end WellTyped

theorem faults_eq_nil_iff : program.checkTypes.faults = [] ↔ ∀ site ∈ program.sites, ¬site.Mistaken := by
  simp only [checkTypes_faults_eq, List.filterMap_eq_nil_iff, ← Site.mistaken_iff, Bool.not_eq_true,
    Option.isSome_eq_false_iff, Option.isNone_iff_eq_none]

/-- The type check finds no error in a well-scoped program exactly if it is well typed. -/
theorem WellScoped.typeCheck_errors_eq_zero_iff (well : program.WellScoped) {platform : Platform}
    {configuration : Configuration} :
    Worker.typeCheck.errors platform program configuration = 0 ↔ program.WellTyped := by
  have all : Worker.typeCheck.errors platform program configuration = program.checkTypes.faults.length := by
    rw [Worker.errors, Worker.findings, Finding.errorCount, List.countP_map, List.countP_eq_length]
    intro fault _
    obtain ⟨label, cause⟩ := fault
    cases cause <;> rfl
  rw [all, List.length_eq_zero_iff, faults_eq_nil_iff]
  exact ⟨wellTyped_of_right well, WellTyped.right⟩

end Program

/-! ## Workflows that only check -/

/-- After workers that only check, the verdict is good exactly if none of them has found an
    error. -/
theorem Project.result_of_checks {platform : Platform} {workflow : String} {program : Program}
    {configuration : Configuration} {ran : List Worker} {project : Project}
    (reached : ({ program, configuration } : Project).after? platform workflow ran = some project)
    (checks : .codeGenerator ∉ ran) :
    project.result = .success ↔ ∀ worker ∈ ran, worker.errors platform program configuration = 0 := by
  revert checks
  refine after?_induction
    (motive := fun ran project => .codeGenerator ∉ ran →
      (project.result = .success ↔ ∀ worker ∈ ran, worker.errors platform program configuration = 0))
    ?_ ?_ reached
  · simp
  · intro ran before worker after earlier ih worked checks
    simp only [List.mem_append, List.mem_singleton, not_or] at checks
    obtain ⟨result, _⟩ := worked.checked (Ne.symm checks.2)
    have kept := traced earlier
    rw [result, kept.program_eq, kept.configuration_eq, Verdict.worse_eq_success_iff,
      Verdict.ofErrors_eq_success_iff, ih checks.1, List.forall_mem_append]
    simp

/-- The validator and the type check together accept exactly the well-scoped and well-typed
    programs. -/
theorem accepted_iff_wellScoped_and_wellTyped (program : Program) (configuration : Configuration)
    {platform : Platform} {workflow : String}
    (defined : platform.workflow workflow = .ok [.validator, .typeCheck]) :
    ∃ compilation, compile program configuration platform workflow = .ok compilation ∧
      (compilation.report.result = .success ↔ program.WellScoped ∧ program.WellTyped) := by
  refine ⟨_, compile_eq defined, ?_⟩
  rcases compile_cases defined (compile_eq defined) with
    ⟨last, log, reached, ended⟩ | ⟨before, rest, _, _, split, _⟩
  · rw [ended]
    have result := Project.result_of_checks reached (by decide)
    have errors := result.trans (by simp : _ ↔ Worker.validator.errors platform program configuration = 0 ∧
      Worker.typeCheck.errors platform program configuration = 0)
    refine errors.trans ?_
    rw [Program.validator_errors_eq_zero_iff]
    exact and_congr_right fun well => well.typeCheck_errors_eq_zero_iff
  · have generates : Worker.codeGenerator ∈ [Worker.validator, .typeCheck] := by simp [split]
    simp at generates

/-- The program with the sonar is accepted, so it is well scoped and well typed. -/
theorem sonar_accepted :
    ∃ compilation,
      compile .sonar .empty (.withWorkflow "check" [.validator, .typeCheck]) "check" = .ok compilation ∧
      compilation.report.result = .success ∧ Program.sonar.WellScoped ∧ Program.sonar.WellTyped := by
  have verdict : ((compile .sonar .empty (.withWorkflow "check" [.validator, .typeCheck]) "check").toOption.map
      fun compilation => compilation.report.result) = some .success := by
    decide +kernel
  obtain ⟨compilation, compiled, accepted⟩ := accepted_iff_wellScoped_and_wellTyped .sonar .empty
    (show (Platform.withWorkflow "check" [.validator, .typeCheck]).workflow "check" = .ok _ from rfl)
  rw [compiled] at verdict
  have success : compilation.report.result = .success := Option.some.inj verdict
  exact ⟨compilation, compiled, success, accepted.mp success⟩

end BlockSketch
