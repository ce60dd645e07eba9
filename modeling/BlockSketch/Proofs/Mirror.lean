import BlockSketch.Draft.Build
import BlockSketch.Proofs.Spelling
import Mathlib.Data.List.DropRight

/-!
Programs read back as drafts. The draft of a program has a block for each node, with what the
editor keeps with it, words and names as texts, and the lists in their order; that of the
program's own lists and of the task is nothing but their members. A draft and what is built from
it differ at most in the blanks around numbers, which `Draft.Program.trimmed` takes away.
-/
namespace BlockSketch

/-! ## Drafts -/

namespace Draft

namespace Block

/-- The kind of the node that a block drafts. -/
def kind : Block → Kind
  | number .. => .numConst
  | boolean .. => .boolConst
  | text .. => .stringConst
  | var .. => .var
  | binary .. => .binary
  | unary .. => .unary
  | sensor _ device _ => device.kind
  | timer .. => .timerSensing
  | light .. => .lightAction
  | lightStatus .. => .lightStatusAction
  | tone .. => .toneAction
  | motorOn .. => .motorOnAction
  | motorStop .. => .motorStopAction
  | showText .. => .showTextAction
  | serialWrite .. => .serialWriteAction
  | list .. => .stmtList
  | assign .. => .assignStmt
  | branch .. => .ifStmt
  | loop .. => .repeatStmt
  | flow .. => .flowControl
  | wait .. => .waitTime

mutual

/-- The block without blanks around its numbers, inside as well. -/
def trimmed : Block → Block
  | number notes value => number notes (Text.trim value)
  | binary notes op left right => binary notes op left.trimmed right.trimmed
  | unary notes op operand => unary notes op operand.trimmed
  | tone notes port frequency duration => tone notes port frequency.trimmed duration.trimmed
  | motorOn notes port power => motorOn notes port power.trimmed
  | showText notes port shown => showText notes port shown.trimmed
  | serialWrite notes value => serialWrite notes value.trimmed
  | list notes statements => list notes (trimmedAll statements)
  | assign notes name value => assign notes name value.trimmed
  | branch notes conditions lists otherwise =>
    branch notes (trimmedAll conditions) (trimmedLists lists) (trimmedOtherwise otherwise)
  | loop notes mode expression body => loop notes mode (trimmedExpression expression) (trimmedAll body)
  | wait notes time => wait notes time.trimmed
  | block => block

def trimmedAll : List Block → List Block
  | [] => []
  | block :: rest => block.trimmed :: trimmedAll rest

def trimmedLists : List (List Block) → List (List Block)
  | [] => []
  | blocks :: rest => trimmedAll blocks :: trimmedLists rest

def trimmedOtherwise : Option (List Block) → Option (List Block)
  | none => none
  | some blocks => some (trimmedAll blocks)

def trimmedExpression : Option Block → Option Block
  | none => none
  | some block => some block.trimmed

end

@[simp] theorem kind_trimmed (block : Block) : block.trimmed.kind = block.kind := by
  cases block <;> simp [trimmed, kind]

theorem trimmedAll_eq (blocks : List Block) : trimmedAll blocks = blocks.map trimmed := by
  induction blocks with
  | nil => rfl
  | cons block rest ih => rw [trimmedAll, ih, List.map_cons]

theorem trimmedLists_eq (lists : List (List Block)) : trimmedLists lists = lists.map trimmedAll := by
  induction lists with
  | nil => rfl
  | cons blocks rest ih => rw [trimmedLists, ih, List.map_cons]

end Block

def Variable.trimmed (draft : Variable) : Variable :=
  { draft with value := draft.value.trimmed }

/-- The draft without blanks around its numbers. -/
def Program.trimmed (draft : Program) : Program where
  declarations := draft.declarations.map Variable.trimmed
  body := draft.body.map Block.trimmed

end Draft

/-! ## Drafts of programs -/

open Draft (Block)

/-- The block that drafts the expression. -/
def Expr.draft : Expr → Block
  | .number label literal => .number label.notes literal.text
  | .boolean label value => .boolean label.notes value
  | .text label value => .text label.notes value
  | .var label name type => .var label.notes name.text (some type.word)
  | .binary label op left right => .binary label.notes (some (Vocabulary.word op)) left.draft right.draft
  | .unary label op operand => .unary label.notes (some (Vocabulary.word op)) operand.draft
  | .sensor label device port => .sensor label.notes device port.text
  | .timer label clock => .timer label.notes clock.number

mutual

/-- The block that drafts the statement. -/
def Stmt.draft : Stmt → Block
  | .light label color blink => .light label.notes (some (Vocabulary.word color)) blink
  | .lightStatus label status => .lightStatus label.notes (some (Vocabulary.word status))
  | .tone label port frequency duration => .tone label.notes port.text frequency.draft duration.draft
  | .motorOn label port power => .motorOn label.notes port.text power.draft
  | .motorStop label port => .motorStop label.notes port.text
  | .showText label port text => .showText label.notes port.text text.draft
  | .serialWrite label value => .serialWrite label.notes value.draft
  | .block body => .list body.label.notes body.drafts
  | .assign label name value => .assign label.notes name.text value.draft
  | .branch label branches =>
    .branch label.notes (branches.arms.map fun arm => arm.1.draft) branches.listDrafts branches.otherwiseDrafts
  | .loop label head body =>
    .loop label.notes (some (Vocabulary.word head.mode)) (head.expression?.map Expr.draft) body.drafts
  | .flow label way => .flow label.notes (some (Vocabulary.word way))
  | .wait label time => .wait label.notes time.draft

/-- The blocks that draft the members of the list. -/
def Sequence.drafts : Sequence → List Block
  | .mk _ statements => Stmt.drafts statements

def Stmt.drafts : List Stmt → List Block
  | [] => []
  | stmt :: rest => stmt.draft :: Stmt.drafts rest

/-- The lists of the arms. -/
def Branches.listDrafts : Branches → List (List Block)
  | .only _ body => [body.drafts]
  | .orElse _ body _ => [body.drafts]
  | .orIf _ body rest => body.drafts :: rest.listDrafts

/-- The list for the case that no condition holds. -/
def Branches.otherwiseDrafts : Branches → Option (List Block)
  | .only _ _ => none
  | .orElse _ _ otherwise => some otherwise.drafts
  | .orIf _ _ rest => rest.otherwiseDrafts

end

def Declaration.draft (declaration : Declaration) : Draft.Variable where
  notes := declaration.label.notes
  name := declaration.name.text
  type := some declaration.type.word
  value := declaration.value.draft

/-- The draft that the program is of. -/
def Program.draft (program : Program) : Draft.Program where
  declarations := program.task.declarations.map Declaration.draft
  body := program.body.drafts

/-- The node is the one that the block drafts, with trimmed numbers. -/
def Node.Mirrors : Node → Block → Prop
  | .expr part, block => part.draft = block.trimmed
  | .stmt part, block => part.draft = block.trimmed
  | .declaration _, _ => False
  | .task _, _ => False

theorem Stmt.drafts_eq (statements : List Stmt) : Stmt.drafts statements = statements.map Stmt.draft := by
  induction statements with
  | nil => rfl
  | cons stmt rest ih => rw [drafts, ih, List.map_cons]

theorem Branches.listDrafts_eq (branches : Branches) :
    branches.listDrafts = branches.arms.map fun arm => arm.2.drafts := by
  induction branches using arms.induct with
  | case1 condition body => simp [listDrafts, arms]
  | case2 condition body otherwise => simp [listDrafts, arms]
  | case3 condition body rest ih => simp [listDrafts, arms, ih]

theorem Branches.otherwiseDrafts_eq (branches : Branches) :
    branches.otherwiseDrafts = branches.otherwise?.map Sequence.drafts := by
  induction branches using arms.induct with
  | case1 condition body => simp [otherwiseDrafts, otherwise?]
  | case2 condition body otherwise => simp [otherwiseDrafts, otherwise?]
  | case3 condition body rest ih => simp [otherwiseDrafts, otherwise?, ih]

/-- Arms make branches with these arms, if there is one. -/
theorem Branches.exists_ofArms? (otherwise : Option Sequence) {arms : List (Expr × Sequence)} (some : arms ≠ []) :
    ∃ branches, ofArms? otherwise arms = .some branches ∧ branches.arms = arms ∧ branches.otherwise? = otherwise := by
  induction arms with
  | nil => exact absurd rfl some
  | cons first rest ih =>
    cases rest with
    | nil =>
      cases otherwise with
      | none => exact ⟨_, rfl, rfl, rfl⟩
      | some list => exact ⟨_, rfl, rfl, rfl⟩
    | cons next rest =>
      obtain ⟨branches, made, areArms, isLast⟩ := ih (List.cons_ne_nil next rest)
      exact ⟨.orIf first.1 first.2 branches, by rw [ofArms?, made]; rfl, by rw [Branches.arms, areArms], isLast⟩

/-- Conditions and lists of the same number make branches that are drafted by them. -/
theorem Branches.exists_of_zip (otherwise : Option Sequence) {conditions : List Expr} {lists : List Sequence}
    (some : conditions ≠ []) (even : conditions.length = lists.length) :
    ∃ branches, ofArms? otherwise (conditions.zip lists) = .some branches ∧
      branches.arms.map (fun arm => arm.1.draft) = conditions.map Expr.draft ∧
      branches.listDrafts = lists.map Sequence.drafts ∧
      branches.otherwiseDrafts = otherwise.map Sequence.drafts := by
  have filled : conditions.zip lists ≠ [] := by
    rw [← List.length_pos_iff, List.length_zip, ← even, Nat.min_self, List.length_pos_iff]
    exact some
  obtain ⟨branches, made, areArms, isLast⟩ := exists_ofArms? otherwise filled
  refine ⟨branches, made, ?_, ?_, by rw [otherwiseDrafts_eq, isLast]⟩
  · rw [areArms, ← Function.comp_def Expr.draft Prod.fst, ← List.map_map, List.map_fst_zip (Nat.le_of_eq even)]
  · rw [listDrafts_eq, areArms, ← Function.comp_def Sequence.drafts Prod.snd, ← List.map_map,
      List.map_snd_zip (Nat.le_of_eq even.symm)]

theorem Expr.kind_draft (expr : Expr) : expr.draft.kind = expr.kind := by
  cases expr <;> rfl

theorem Stmt.kind_draft (stmt : Stmt) : stmt.draft.kind = stmt.kind := by
  cases stmt <;> simp [draft, Block.kind, kind]

theorem Node.Mirrors.kind_eq {node : Node} {block : Block} (mirrors : node.Mirrors block) :
    node.kind = block.kind := by
  cases node with
  | expr part =>
    have same : part.draft = block.trimmed := mirrors
    rw [← Block.kind_trimmed, ← same, Expr.kind_draft, Node.kind]
  | stmt part =>
    have same : part.draft = block.trimmed := mirrors
    rw [← Block.kind_trimmed, ← same, Stmt.kind_draft, Node.kind]
  | declaration part => cases mirrors
  | task part => cases mirrors

/-! ## Building without blanks -/

/-- Nothing is left to trim. -/
theorem Text.trim_trim (text : String) : Text.trim (Text.trim text) = Text.trim text := by
  have trim_eq (text : String) : Text.trim text =
      String.ofList ((text.toList.dropWhile Text.isBlank).rdropWhile Text.isBlank) := rfl
  rw [trim_eq, trim_eq text, String.toList_ofList]
  have starts := List.rdropWhile_prefix Text.isBlank (text.toList.dropWhile Text.isBlank)
  have first := List.head?_dropWhile_not Text.isBlank text.toList
  have again := List.rdropWhile_idempotent Text.isBlank (text.toList.dropWhile Text.isBlank)
  generalize (text.toList.dropWhile Text.isBlank).rdropWhile Text.isBlank = kept at *
  cases kept with
  | nil => rfl
  | cons c rest =>
    obtain ⟨cut, whole⟩ := starts
    rw [← whole] at first
    have solid : ¬Text.isBlank c = true := by simpa using first
    rw [List.dropWhile_cons_of_neg solid, again]

theorem Numeral.ofString?_trim (raw : String) : Numeral.ofString? (Text.trim raw) = Numeral.ofString? raw := by
  refine Option.ext fun literal => ?_
  rw [Numeral.ofString?_eq_some_iff, Numeral.ofString?_eq_some_iff, Text.trim_trim]

theorem Assemble.number_trim (label : Label) (raw : String) : number label (Text.trim raw) = number label raw := by
  unfold number
  rw [Numeral.ofString?_trim, Text.trim_trim]

namespace Draft

namespace Block

mutual

/-- Blanks around numbers make no difference to what is built. -/
theorem build_trimmed (position : Position) : ∀ block : Block, block.trimmed.build position = block.build position
  | number _ value => by rw [trimmed, build, build, Assemble.number_trim]
  | boolean _ _ => rfl
  | text _ _ => rfl
  | var _ _ _ => rfl
  | binary _ _ left right => by rw [trimmed, build, build, build_trimmed _ left, build_trimmed _ right]
  | unary _ _ operand => by rw [trimmed, build, build, build_trimmed _ operand]
  | sensor _ _ _ => rfl
  | timer _ _ => rfl
  | light _ _ _ => rfl
  | lightStatus _ _ => rfl
  | tone _ _ frequency duration => by
    rw [trimmed, build, build, build_trimmed _ frequency, build_trimmed _ duration]
  | motorOn _ _ power => by rw [trimmed, build, build, build_trimmed _ power]
  | motorStop _ _ => rfl
  | showText _ _ shown => by rw [trimmed, build, build, build_trimmed _ shown]
  | serialWrite _ value => by rw [trimmed, build, build, build_trimmed _ value]
  | list _ statements => by rw [trimmed, build, build, buildAll_trimmed _ _ statements]
  | assign _ _ value => by rw [trimmed, build, build, build_trimmed _ value]
  | branch _ conditions lists otherwise => by
    rw [trimmed, build, build, buildAll_trimmed _ _ conditions, buildLists_trimmed _ _ lists,
      buildOtherwise_trimmed _ otherwise]
  | loop _ _ expression body => by
    rw [trimmed, build, build, buildExpression_trimmed _ expression, buildAll_trimmed _ _ body]
  | flow _ _ => rfl
  | wait _ time => by rw [trimmed, build, build, build_trimmed _ time]

theorem buildAll_trimmed (parent : Position) (step : Nat) : ∀ blocks : List Block,
    buildAll parent step (trimmedAll blocks) = buildAll parent step blocks
  | [] => rfl
  | block :: rest => by
    rw [trimmedAll, buildAll, buildAll, build_trimmed _ block, buildAll_trimmed _ _ rest]

theorem buildLists_trimmed (parent : Position) (step : Nat) : ∀ lists : List (List Block),
    buildLists parent step (trimmedLists lists) = buildLists parent step lists
  | [] => rfl
  | blocks :: rest => by
    rw [trimmedLists, buildLists, buildLists, buildAll_trimmed _ _ blocks, buildLists_trimmed _ _ rest]

theorem buildOtherwise_trimmed (position : Position) : ∀ otherwise : Option (List Block),
    buildOtherwise position (trimmedOtherwise otherwise) = buildOtherwise position otherwise
  | none => rfl
  | some blocks => by rw [trimmedOtherwise, buildOtherwise, buildOtherwise, buildAll_trimmed _ _ blocks]

theorem buildExpression_trimmed (position : Position) : ∀ expression : Option Block,
    buildExpression position (trimmedExpression expression) = buildExpression position expression
  | none => rfl
  | some block => by rw [trimmedExpression, buildExpression, buildExpression, build_trimmed _ block]

end

end Block

theorem buildVariables_trimmed (parent : Position) (step : Nat) (drafts : List Variable) :
    buildVariables parent step (drafts.map Variable.trimmed) = buildVariables parent step drafts := by
  induction drafts generalizing step with
  | nil => rfl
  | cons draft rest ih =>
    rw [List.map_cons, buildVariables, buildVariables, ih, Variable.build, Variable.build, Variable.trimmed,
      draft.value.build_trimmed]

theorem Program.build_trimmed (draft : Program) : draft.trimmed.build = draft.build := by
  rw [build, build, trimmed, buildVariables_trimmed, ← Block.trimmedAll_eq, Block.buildAll_trimmed]

end Draft
end BlockSketch
