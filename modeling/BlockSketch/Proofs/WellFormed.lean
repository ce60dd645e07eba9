import BlockSketch.Proofs.Magnitude
import BlockSketch.Proofs.Naming
import BlockSketch.Proofs.Violation

/-!
Drafts that keep all rules. The rules are stated block by block, without an order: a word is
one of its set, a name is a name (`IsName`), a number is finite, a child fits its slot, and the
blocks inside keep the rules as well. Exactly these drafts are built, and the program that is
built is the draft again, but for blanks around its numbers (`built_iff_wellFormed`).
-/
namespace BlockSketch

namespace Draft

/-! ## Rules -/

/-- The word of a value. -/
def IsWord (α : Type) [Vocabulary α] (text : Option String) : Prop :=
  ∃ value : α, text = some (Vocabulary.word value)

/-- The word of a type that variables can have. -/
def IsValueType (text : Option String) : Prop :=
  ∃ type : ValueType, text = some type.word

/-- The text, blanks apart, is a number that is not too large. -/
def IsNumber (text : String) : Prop :=
  ∃ number, Decimal.read? (Text.trim text).toList = some number ∧ |number.value| < Double.ceiling

namespace Block

/-- Expressions and sensors have a value. -/
def IsValue (block : Block) : Prop :=
  block.kind.category = .expr ∨ block.kind.category = .sensor

/-- Statements and actors do something. -/
def IsAction (block : Block) : Prop :=
  block.kind.category = .stmt ∨ block.kind.category = .actor

/-- The block keeps all rules, and so do the blocks inside it. -/
inductive WellFormed : Block → Prop
  | number {notes : Annotations} {value : String} (finite : IsNumber value) : WellFormed (number notes value)
  | boolean {notes : Annotations} {value : Bool} : WellFormed (boolean notes value)
  | text {notes : Annotations} {value : String} : WellFormed (text notes value)
  | var {notes : Annotations} {name : String} {type : Option String} (named : IsName name)
    (valued : IsValueType type) : WellFormed (var notes name type)
  | binary {notes : Annotations} {op : Option String} {left right : Block} (word : IsWord BinaryOp op)
    (leftValue : left.IsValue) (rightValue : right.IsValue) (leftWell : left.WellFormed)
    (rightWell : right.WellFormed) : WellFormed (binary notes op left right)
  | unary {notes : Annotations} {op : Option String} {operand : Block} (word : IsWord UnaryOp op)
    (value : operand.IsValue) (well : operand.WellFormed) : WellFormed (unary notes op operand)
  | sensor {notes : Annotations} {device : Sensor} {port : String} (named : IsName port) :
    WellFormed (sensor notes device port)
  | timer {notes : Annotations} {count : UInt8} (positive : 1 ≤ count) : WellFormed (timer notes count)
  | light {notes : Annotations} {color : Option String} {blink : Bool} (word : IsWord LedColor color) :
    WellFormed (light notes color blink)
  | lightStatus {notes : Annotations} {status : Option String} (word : IsWord LightStatus status) :
    WellFormed (lightStatus notes status)
  | tone {notes : Annotations} {port : String} {frequency duration : Block} (named : IsName port)
    (frequencyValue : frequency.IsValue) (durationValue : duration.IsValue) (frequencyWell : frequency.WellFormed)
    (durationWell : duration.WellFormed) : WellFormed (tone notes port frequency duration)
  | motorOn {notes : Annotations} {port : String} {power : Block} (named : IsName port)
    (value : power.IsValue) (well : power.WellFormed) : WellFormed (motorOn notes port power)
  | motorStop {notes : Annotations} {port : String} (named : IsName port) :
    WellFormed (motorStop notes port)
  | showText {notes : Annotations} {port : String} {shown : Block} (named : IsName port)
    (value : shown.IsValue) (well : shown.WellFormed) : WellFormed (showText notes port shown)
  | serialWrite {notes : Annotations} {sent : Block} (value : sent.IsValue) (well : sent.WellFormed) :
    WellFormed (serialWrite notes sent)
  | list {notes : Annotations} {statements : List Block} (actions : ∀ block ∈ statements, block.IsAction)
    (well : ∀ block ∈ statements, block.WellFormed) : WellFormed (list notes statements)
  | assign {notes : Annotations} {name : String} {assigned : Block} (named : IsName name)
    (value : assigned.IsValue) (well : assigned.WellFormed) : WellFormed (assign notes name assigned)
  | branch {notes : Annotations} {conditions : List Block} {lists : List (List Block)}
    {otherwise : Option (List Block)} (some : conditions ≠ []) (even : conditions.length = lists.length)
    (values : ∀ block ∈ conditions, block.IsValue) (well : ∀ block ∈ conditions, block.WellFormed)
    (actions : ∀ blocks ∈ lists, ∀ block ∈ blocks, block.IsAction)
    (listsWell : ∀ blocks ∈ lists, ∀ block ∈ blocks, block.WellFormed)
    (otherActions : ∀ blocks ∈ otherwise, ∀ block ∈ blocks, block.IsAction)
    (otherwiseWell : ∀ blocks ∈ otherwise, ∀ block ∈ blocks, block.WellFormed) :
    WellFormed (branch notes conditions lists otherwise)
  | loop {notes : Annotations} {mode : LoopMode} {expression : Option Block} {body : List Block}
    (head : expression.isSome = true ↔ mode ≠ .forever) (value : ∀ block ∈ expression, block.IsValue)
    (well : ∀ block ∈ expression, block.WellFormed) (actions : ∀ block ∈ body, block.IsAction)
    (bodyWell : ∀ block ∈ body, block.WellFormed) :
    WellFormed (loop notes (some (Vocabulary.word mode)) expression body)
  | flow {notes : Annotations} {way : Option String} (word : IsWord Flow way) : WellFormed (flow notes way)
  | wait {notes : Annotations} {time : Block} (value : time.IsValue) (well : time.WellFormed) :
    WellFormed (wait notes time)

end Block

structure Variable.WellFormed (draft : Variable) : Prop where
  named : IsName draft.name
  valued : IsValueType draft.type
  value : draft.value.IsValue
  well : draft.value.WellFormed

/-- The draft keeps all rules. -/
structure Program.WellFormed (draft : Program) : Prop where
  declarations : ∀ declared ∈ draft.declarations, declared.WellFormed
  actions : ∀ block ∈ draft.body, block.IsAction
  well : ∀ block ∈ draft.body, block.WellFormed

/-! ## Rules that nothing breaks -/

/-- A vocabulary that lists all values of its type. -/
class Listed (α : Type) [Vocabulary α] : Prop where
  mem_values : ∀ value : α, value ∈ Vocabulary.values

instance : Listed BinaryOp := ⟨fun value => by cases value <;> decide⟩
instance : Listed UnaryOp := ⟨fun value => by cases value <;> decide⟩
instance : Listed LedColor := ⟨fun value => by cases value <;> decide⟩
instance : Listed LightStatus := ⟨fun value => by cases value <;> decide⟩
instance : Listed LoopMode := ⟨fun value => by cases value <;> decide⟩
instance : Listed Flow := ⟨fun value => by cases value <;> decide⟩
instance : Listed DataType := ⟨fun value => by
  cases value with
  | value type => cases type <;> decide
  | void => decide⟩

variable {kind : Kind} {field name slot : String} {text : Option String} {parent : Kind} {block : Block}

theorem exists_named?_iff {α : Type} [Vocabulary α] [Listed α] :
    (∃ value : α, named? text = some value) ↔ IsWord α text := by
  constructor
  · rintro ⟨value, names⟩
    exact ⟨value, text_eq_of_named? names⟩
  · rintro ⟨value, rfl⟩
    refine Option.isSome_iff_exists.mp (List.find?_isSome.mpr ⟨value, Listed.mem_values value, ?_⟩)
    exact beq_self_eq_true _

theorem wordErrors_eq_nil_iff {α : Type} [Vocabulary α] [Listed α] :
    wordErrors α kind field text = [] ↔ IsWord α text := by
  rw [← exists_named?_iff]
  cases text with
  | none => simp [wordErrors, named?]
  | some text =>
    simp only [wordErrors, named?, Option.bind_some]
    cases (Vocabulary.ofWord? text : Option α) <;> simp

theorem named?_word (mode : LoopMode) : named? (some (Vocabulary.word mode)) = some mode := by
  cases mode <;> rfl

theorem nameErrors_eq_nil_iff : nameErrors kind name = [] ↔ IsName name := by
  simp [nameErrors, ← isName_iff]

theorem typeErrors_eq_nil_iff :
    wordErrors DataType kind field text = [] ∧ voidErrors kind name (named? text) = [] ↔ IsValueType text := by
  rw [wordErrors_eq_nil_iff, ← exists_named?_iff]
  constructor
  · rintro ⟨⟨type, names⟩, valued⟩
    rw [names] at valued
    cases type with
    | value type => exact ⟨type, text_eq_of_named? names⟩
    | void => cases valued
  · rintro ⟨type, rfl⟩
    cases type <;> exact ⟨⟨_, rfl⟩, rfl⟩

theorem numberErrors_eq_nil_iff {raw : String} : numberErrors raw = [] ↔ IsNumber raw := by
  have reads : (∃ value, Double.read? (Text.trim raw) = some value) ↔ IsNumber raw := by
    unfold Double.read? IsNumber
    cases Decimal.read? (Text.trim raw).toList with
    | none => simp
    | some number => simp [← Double.exists_ofDecimal?_iff]
  rw [← reads, ← Option.isSome_iff_exists, numberErrors, ite_eq_left_iff]
  simp only [List.cons_ne_nil, imp_false, not_not]

theorem timerErrors_eq_nil_iff {count : UInt8} : timerErrors count = [] ↔ 1 ≤ count := by
  have positive : 1 ≤ count ↔ count ≠ 0 := by
    rw [ne_eq, UInt8.le_iff_toNat_le, ← UInt8.toNat_inj]
    exact Nat.one_le_iff_ne_zero
  rw [positive, timerErrors]
  simp

theorem slotErrors_expression_eq_nil_iff : slotErrors .expression parent slot block = [] ↔ block.IsValue := by
  simp [slotErrors, ChildRole.admits, Kind.isExpression, Block.IsValue, or_iff_not_imp_left]

theorem slotErrors_statement_eq_nil_iff : slotErrors .statement parent slot block = [] ↔ block.IsAction := by
  simp [slotErrors, ChildRole.admits, Kind.isStatement, Block.IsAction, or_iff_not_imp_left]

theorem listErrors_eq_nil_iff {statements : List Block} :
    listErrors statements = [] ↔ ∀ block ∈ statements, block.IsAction := by
  simp only [listErrors, List.flatMap_eq_nil_iff, slotErrors_statement_eq_nil_iff]

theorem armErrors_eq_nil_iff {conditions : List Block} {lists : List (List Block)} :
    armErrors conditions lists = [] ↔
      conditions ≠ [] ∧ conditions.length = lists.length ∧ ∀ block ∈ conditions, block.IsValue := by
  simp only [armErrors, List.append_eq_nil_iff, List.flatMap_eq_nil_iff, slotErrors_expression_eq_nil_iff,
    List.length_pos_iff, ite_eq_left_iff, List.cons_ne_nil, imp_false, not_not, and_assoc]

theorem headErrors_eq_nil_iff {mode : LoopMode} {expression : Option Block} :
    headErrors (some mode) expression = [] ↔
      (expression.isSome = true ↔ mode ≠ .forever) ∧ ∀ block ∈ expression, block.IsValue := by
  cases expression with
  | none => cases mode <;> simp [headErrors]
  | some block => cases mode <;> simp [headErrors, slotErrors_expression_eq_nil_iff]

/-! ## Drafts that break nothing -/

namespace Block

theorem violationsAll_eq (blocks : List Block) : violationsAll blocks = blocks.flatMap violations := by
  induction blocks with
  | nil => rfl
  | cons block rest ih => rw [violationsAll, ih, List.flatMap_cons]

theorem violationsLists_eq (lists : List (List Block)) :
    violationsLists lists = lists.flatMap fun blocks => violationsAll blocks ++ listErrors blocks := by
  induction lists with
  | nil => rfl
  | cons blocks rest ih => rw [violationsLists, ih, List.flatMap_cons]

theorem listViolations_eq_nil {blocks : List Block} (actions : ∀ block ∈ blocks, block.IsAction)
    (clean : ∀ block ∈ blocks, block.violations = []) : violationsAll blocks ++ listErrors blocks = [] := by
  rw [violationsAll_eq, List.flatMap_eq_nil_iff.mpr clean, listErrors_eq_nil_iff.mpr actions]
  rfl

theorem WellFormed.violations_eq_nil {block : Block} (well : block.WellFormed) : block.violations = [] := by
  induction well with
  | number finite => rw [violations, numberErrors_eq_nil_iff.mpr finite]
  | boolean => rfl
  | text => rfl
  | var named valued =>
    obtain ⟨word, value⟩ := typeErrors_eq_nil_iff.mpr valued
    rw [violations, word, value, nameErrors_eq_nil_iff.mpr named]
    rfl
  | binary word leftValue rightValue _ _ ihLeft ihRight =>
    rw [violations, wordErrors_eq_nil_iff.mpr word, ihLeft, ihRight, slotErrors_expression_eq_nil_iff.mpr leftValue,
      slotErrors_expression_eq_nil_iff.mpr rightValue]
    rfl
  | unary word value _ ih =>
    rw [violations, wordErrors_eq_nil_iff.mpr word, ih, slotErrors_expression_eq_nil_iff.mpr value]
    rfl
  | sensor named => rw [violations, nameErrors_eq_nil_iff.mpr named]
  | timer positive => rw [violations, timerErrors_eq_nil_iff.mpr positive]
  | light word => rw [violations, wordErrors_eq_nil_iff.mpr word]
  | lightStatus word => rw [violations, wordErrors_eq_nil_iff.mpr word]
  | tone named frequencyValue durationValue _ _ ihFrequency ihDuration =>
    rw [violations, nameErrors_eq_nil_iff.mpr named, ihFrequency, ihDuration,
      slotErrors_expression_eq_nil_iff.mpr frequencyValue, slotErrors_expression_eq_nil_iff.mpr durationValue]
    rfl
  | motorOn named value _ ih =>
    rw [violations, nameErrors_eq_nil_iff.mpr named, ih, slotErrors_expression_eq_nil_iff.mpr value]
    rfl
  | motorStop named => rw [violations, nameErrors_eq_nil_iff.mpr named]
  | showText named value _ ih =>
    rw [violations, nameErrors_eq_nil_iff.mpr named, ih, slotErrors_expression_eq_nil_iff.mpr value]
    rfl
  | serialWrite value _ ih =>
    rw [violations, ih, slotErrors_expression_eq_nil_iff.mpr value]
    rfl
  | list actions _ ih =>
    rw [violations, violationsAll_eq, List.flatMap_eq_nil_iff.mpr ih, listErrors_eq_nil_iff.mpr actions]
    rfl
  | assign named value _ ih =>
    rw [violations, nameErrors_eq_nil_iff.mpr named, ih, slotErrors_expression_eq_nil_iff.mpr value]
    rfl
  | @branch _ _ lists otherwise some even values _ actions _ otherActions _ ihConditions ihLists ihOtherwise =>
    have listsClean : violationsLists lists = [] := by
      rw [violationsLists_eq]
      exact List.flatMap_eq_nil_iff.mpr fun blocks member =>
        listViolations_eq_nil (actions blocks member) (ihLists blocks member)
    have otherwiseClean : violationsOtherwise otherwise = [] := by
      cases otherwise with
      | none => rfl
      | some blocks => exact listViolations_eq_nil (otherActions blocks rfl) (ihOtherwise blocks rfl)
    rw [violations, violationsAll_eq, List.flatMap_eq_nil_iff.mpr ihConditions, listsClean, otherwiseClean,
      armErrors_eq_nil_iff.mpr ⟨some, even, values⟩]
    rfl
  | @loop _ mode expression _ head value _ actions _ ihExpression ihBody =>
    have expressionClean : violationsExpression expression = [] := by
      cases expression with
      | none => rfl
      | some block => exact ihExpression block rfl
    rw [violations, wordErrors_eq_nil_iff.mpr ⟨mode, rfl⟩, expressionClean, violationsAll_eq,
      List.flatMap_eq_nil_iff.mpr ihBody, listErrors_eq_nil_iff.mpr actions, named?_word,
      headErrors_eq_nil_iff.mpr ⟨head, value⟩]
    rfl
  | flow word => rw [violations, wordErrors_eq_nil_iff.mpr word]
  | wait value _ ih =>
    rw [violations, ih, slotErrors_expression_eq_nil_iff.mpr value]
    rfl

mutual

theorem wellFormed_of_violations : ∀ block : Block, block.violations = [] → block.WellFormed
  | number _ _ => fun clean => by
    rw [violations, numberErrors_eq_nil_iff] at clean
    exact .number clean
  | boolean _ _ => fun _ => .boolean
  | text _ _ => fun _ => .text
  | var _ _ _ => fun clean => by
    simp only [violations, List.append_eq_nil_iff] at clean
    obtain ⟨⟨word, named⟩, value⟩ := clean
    exact .var (nameErrors_eq_nil_iff.mp named) (typeErrors_eq_nil_iff.mp ⟨word, value⟩)
  | binary _ _ _ _ => fun clean => by
    simp only [violations, List.append_eq_nil_iff, wordErrors_eq_nil_iff, slotErrors_expression_eq_nil_iff] at clean
    obtain ⟨⟨⟨⟨word, left⟩, right⟩, leftValue⟩, rightValue⟩ := clean
    exact .binary word leftValue rightValue (wellFormed_of_violations _ left) (wellFormed_of_violations _ right)
  | unary _ _ _ => fun clean => by
    simp only [violations, List.append_eq_nil_iff, wordErrors_eq_nil_iff, slotErrors_expression_eq_nil_iff] at clean
    obtain ⟨⟨word, operand⟩, value⟩ := clean
    exact .unary word value (wellFormed_of_violations _ operand)
  | sensor _ _ _ => fun clean => by
    rw [violations, nameErrors_eq_nil_iff] at clean
    exact .sensor clean
  | timer _ _ => fun clean => by
    rw [violations, timerErrors_eq_nil_iff] at clean
    exact .timer clean
  | light _ _ _ => fun clean => by
    rw [violations, wordErrors_eq_nil_iff] at clean
    exact .light clean
  | lightStatus _ _ => fun clean => by
    rw [violations, wordErrors_eq_nil_iff] at clean
    exact .lightStatus clean
  | tone _ _ _ _ => fun clean => by
    simp only [violations, List.append_eq_nil_iff, nameErrors_eq_nil_iff, slotErrors_expression_eq_nil_iff] at clean
    obtain ⟨⟨⟨⟨frequency, duration⟩, named⟩, frequencyValue⟩, durationValue⟩ := clean
    exact .tone named frequencyValue durationValue (wellFormed_of_violations _ frequency)
      (wellFormed_of_violations _ duration)
  | motorOn _ _ _ => fun clean => by
    simp only [violations, List.append_eq_nil_iff, nameErrors_eq_nil_iff, slotErrors_expression_eq_nil_iff] at clean
    obtain ⟨⟨power, named⟩, value⟩ := clean
    exact .motorOn named value (wellFormed_of_violations _ power)
  | motorStop _ _ => fun clean => by
    rw [violations, nameErrors_eq_nil_iff] at clean
    exact .motorStop clean
  | showText _ _ _ => fun clean => by
    simp only [violations, List.append_eq_nil_iff, nameErrors_eq_nil_iff, slotErrors_expression_eq_nil_iff] at clean
    obtain ⟨⟨shown, named⟩, value⟩ := clean
    exact .showText named value (wellFormed_of_violations _ shown)
  | serialWrite _ _ => fun clean => by
    simp only [violations, List.append_eq_nil_iff, slotErrors_expression_eq_nil_iff] at clean
    exact .serialWrite clean.2 (wellFormed_of_violations _ clean.1)
  | list _ _ => fun clean => by
    simp only [violations, List.append_eq_nil_iff, listErrors_eq_nil_iff] at clean
    exact .list clean.2 (allWellFormed_of_violations _ clean.1)
  | assign _ _ _ => fun clean => by
    simp only [violations, List.append_eq_nil_iff, nameErrors_eq_nil_iff, slotErrors_expression_eq_nil_iff] at clean
    obtain ⟨⟨value, named⟩, isValue⟩ := clean
    exact .assign named isValue (wellFormed_of_violations _ value)
  | branch _ _ _ _ => fun clean => by
    simp only [violations, List.append_eq_nil_iff, armErrors_eq_nil_iff] at clean
    obtain ⟨⟨⟨conditions, lists⟩, otherwise⟩, some, even, values⟩ := clean
    have inLists := listsWellFormed_of_violations _ lists
    have inOtherwise := otherwiseWellFormed_of_violations _ otherwise
    exact .branch some even values (allWellFormed_of_violations _ conditions)
      (fun blocks member => (inLists blocks member).1) (fun blocks member => (inLists blocks member).2)
      (fun blocks member => (inOtherwise blocks member).1) (fun blocks member => (inOtherwise blocks member).2)
  | loop _ _ _ _ => fun clean => by
    simp only [violations, List.append_eq_nil_iff, listErrors_eq_nil_iff] at clean
    obtain ⟨⟨⟨⟨word, expression⟩, body⟩, actions⟩, head⟩ := clean
    -- what the head has to be depends on the mode, so the word has to be resolved first
    obtain ⟨mode, rfl⟩ := wordErrors_eq_nil_iff.mp word
    rw [named?_word, headErrors_eq_nil_iff] at head
    exact .loop head.1 head.2 (expressionWellFormed_of_violations _ expression) actions
      (allWellFormed_of_violations _ body)
  | flow _ _ => fun clean => by
    rw [violations, wordErrors_eq_nil_iff] at clean
    exact .flow clean
  | wait _ _ => fun clean => by
    simp only [violations, List.append_eq_nil_iff, slotErrors_expression_eq_nil_iff] at clean
    exact .wait clean.2 (wellFormed_of_violations _ clean.1)

theorem allWellFormed_of_violations : ∀ blocks : List Block, violationsAll blocks = [] →
    ∀ block ∈ blocks, block.WellFormed
  | [] => fun _ => nofun
  | _ :: _ => fun clean => by
    rw [violationsAll, List.append_eq_nil_iff] at clean
    exact List.forall_mem_cons.mpr ⟨wellFormed_of_violations _ clean.1, allWellFormed_of_violations _ clean.2⟩

theorem listsWellFormed_of_violations : ∀ lists : List (List Block), violationsLists lists = [] →
    ∀ blocks ∈ lists, (∀ block ∈ blocks, block.IsAction) ∧ ∀ block ∈ blocks, block.WellFormed
  | [] => fun _ => nofun
  | _ :: _ => fun clean => by
    simp only [violationsLists, List.append_eq_nil_iff, listErrors_eq_nil_iff] at clean
    obtain ⟨⟨first, actions⟩, rest⟩ := clean
    exact List.forall_mem_cons.mpr
      ⟨⟨actions, allWellFormed_of_violations _ first⟩, listsWellFormed_of_violations _ rest⟩

theorem otherwiseWellFormed_of_violations : ∀ otherwise : Option (List Block), violationsOtherwise otherwise = [] →
    ∀ blocks ∈ otherwise, (∀ block ∈ blocks, block.IsAction) ∧ ∀ block ∈ blocks, block.WellFormed
  | none => fun _ => nofun
  | some _ => fun clean => by
    simp only [violationsOtherwise, List.append_eq_nil_iff, listErrors_eq_nil_iff] at clean
    rintro _ ⟨⟩
    exact ⟨clean.2, allWellFormed_of_violations _ clean.1⟩

theorem expressionWellFormed_of_violations : ∀ expression : Option Block, violationsExpression expression = [] →
    ∀ block ∈ expression, block.WellFormed
  | none => fun _ => nofun
  | some _ => fun clean => by
    rintro _ ⟨⟩
    exact wellFormed_of_violations _ clean

end

theorem violations_eq_nil_iff {block : Block} : block.violations = [] ↔ block.WellFormed :=
  ⟨wellFormed_of_violations block, WellFormed.violations_eq_nil⟩

end Block

theorem Variable.violations_eq_nil_iff {draft : Variable} : draft.violations = [] ↔ draft.WellFormed := by
  simp only [violations, List.append_eq_nil_iff, Block.violations_eq_nil_iff, nameErrors_eq_nil_iff,
    slotErrors_expression_eq_nil_iff]
  constructor
  · rintro ⟨⟨⟨⟨word, well⟩, named⟩, valued⟩, value⟩
    exact ⟨named, typeErrors_eq_nil_iff.mp ⟨word, valued⟩, value, well⟩
  · rintro ⟨named, valued, value, well⟩
    obtain ⟨word, isValue⟩ := typeErrors_eq_nil_iff.mpr valued
    exact ⟨⟨⟨⟨word, well⟩, named⟩, isValue⟩, value⟩

theorem Program.violations_eq_nil_iff {draft : Program} : draft.violations = [] ↔ draft.WellFormed := by
  simp only [violations, Block.violationsAll_eq, List.append_eq_nil_iff, List.flatMap_eq_nil_iff,
    Variable.violations_eq_nil_iff, Block.violations_eq_nil_iff, listErrors_eq_nil_iff]
  constructor
  · rintro ⟨⟨declarations, well⟩, actions⟩
    exact ⟨declarations, actions, well⟩
  · rintro ⟨declarations, actions, well⟩
    exact ⟨⟨declarations, well⟩, actions⟩

end Draft

/-- Exactly the drafts that keep all rules are built. What is built is the draft again, with
    trimmed numbers, so that it can be built from it once more; and if there is an error, it is
    the first that the draft gives rise to. -/
theorem built_iff_wellFormed (draft : Draft.Program) :
    ((∃ program, draft.build = .ok program) ↔ draft.WellFormed) ∧
    (∀ program, draft.build = .ok program →
      program.draft = draft.trimmed ∧ program.draft.build = .ok program) ∧
    ∀ error, draft.build = .error error ↔ draft.violations.head? = some error := by
  obtain ⟨reports, mirrors⟩ := draft.build_yields
  refine ⟨?_, fun program built => ?_, reports⟩
  · rw [reports.exists_ok_iff, Draft.Program.violations_eq_nil_iff]
  · have same := mirrors program built
    exact ⟨same, by rw [same, draft.build_trimmed, built]⟩

/-- A draft with blanks around a number, a comment, and an empty list for the last case. -/
def Draft.Program.blinker : Draft.Program where
  declarations := [⟨{ comment := some { text := "pause" } }, "pace", some "NUMBER", .number {} " 1e-3\t"⟩]
  body := [
    .loop {} (some "TIMES") (some (.var {} "pace" (some "NUMBER"))) [
      .branch {} [.boolean {} true] [[.light {} (some "RED") false, .wait {} (.timer {} 1)]] (some [])]]

theorem blinker_built :
    ∃ program, Draft.Program.blinker.build = .ok program ∧ program.draft = Draft.Program.blinker.trimmed ∧
      program.draft.build = .ok program := by
  obtain ⟨built, mirrors, _⟩ := built_iff_wellFormed .blinker
  obtain ⟨program, made⟩ := built.mpr (Draft.Program.violations_eq_nil_iff.mp (by decide +kernel))
  exact ⟨program, made, mirrors program made⟩

end BlockSketch
