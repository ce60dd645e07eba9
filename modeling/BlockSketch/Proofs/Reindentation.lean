import BlockSketch.Proofs.Layout

/-!
Nothing is lost between braces. The text of a list of statements is empty only if there is
nothing in the list. Otherwise its lines are found again, four blanks deeper, wherever the text
goes between braces, and so are the lines of every list inside it, at the depth where that stands
(`reindentation_lossless`).
-/
namespace BlockSketch

open Text (Tidy deeper outdented wrap)

/-! ## Lists without code -/

mutual

/-- Whether there is nothing in the statement: it is a list in which there is nothing. -/
def Stmt.isHollow : Stmt → Bool
  | .block body => body.isHollow
  | _ => false

def Sequence.isHollow : Sequence → Bool
  | .mk _ statements => Stmt.allHollow statements

def Stmt.allHollow : List Stmt → Bool
  | [] => true
  | stmt :: rest => stmt.isHollow && Stmt.allHollow rest

end

namespace Sketch
variable {configuration : Configuration}

/-- Every statement but a list gives one instruction. -/
theorem length_stmtCode {index : Nat} {stmt : Stmt} {code : List Instruction}
    (made : stmtCode configuration index stmt = .ok code) (alone : ∀ body, stmt ≠ .block body) :
    code.length = 1 := by
  have counted : List.length <$> stmtCode configuration index stmt =
      (fun _ => 1) <$> stmtCode configuration index stmt := by
    cases stmt with
    | block body => exact absurd rfl (alone body)
    | light | flow => rfl
    | lightStatus label status => cases status <;> rfl
    | _ => simp [stmtCode]
  rw [made] at counted
  exact Except.ok.inj counted

mutual

theorem stmtCode_eq_nil_iff : ∀ (stmt : Stmt) {index : Nat} {code : List Instruction},
    stmtCode configuration index stmt = .ok code → (code = [] ↔ stmt.isHollow = true)
  | .block body, _, _, made => sequenceCode_eq_nil_iff body made
  | .light .., _, _, made | .lightStatus .., _, _, made | .tone .., _, _, made | .motorOn .., _, _, made
  | .motorStop .., _, _, made | .showText .., _, _, made | .serialWrite .., _, _, made | .assign .., _, _, made
  | .branch .., _, _, made | .loop .., _, _, made | .flow .., _, _, made | .wait .., _, _, made => by
    have one := length_stmtCode made (by simp)
    constructor
    · rintro rfl
      cases one
    · intro hollow
      cases hollow

/-- A list of statements gives no code if and only if there is nothing in it. -/
theorem sequenceCode_eq_nil_iff : ∀ (list : Sequence) {index : Nat} {code : List Instruction},
    sequenceCode configuration index list = .ok code → (code = [] ↔ list.isHollow = true)
  | .mk _ statements, _, _, made => listCode_eq_nil_iff statements made

theorem listCode_eq_nil_iff : ∀ (statements : List Stmt) {index : Nat} {code : List Instruction},
    listCode configuration index statements = .ok code → (code = [] ↔ Stmt.allHollow statements = true)
  | [], _, _, made => by
    cases made
    exact iff_of_true rfl rfl
  | stmt :: rest, _, _, made => by
    obtain ⟨first, firstMade, made⟩ := Outcome.bind_eq_ok_iff.mp made
    obtain ⟨others, othersMade, made⟩ := Outcome.bind_eq_ok_iff.mp made
    cases made
    rw [List.append_eq_nil_iff, Stmt.allHollow, Bool.and_eq_true, stmtCode_eq_nil_iff stmt firstMade,
      listCode_eq_nil_iff rest othersMade]

end

end Sketch

/-! ## Blocks inside blocks -/

/-- The lists that a choice puts between braces. -/
def Branches.bodies : Branches → List Sequence
  | .only _ body => [body]
  | .orElse _ body otherwise => [body, otherwise]
  | .orIf _ body rest => body :: rest.bodies

/-- The lists that a statement puts between braces. -/
def Stmt.bodies : Stmt → List Sequence
  | .branch _ branches => branches.bodies
  | .loop _ _ body => [body]
  | _ => []

/-- The body stands between braces somewhere in the list, with so many braces around these. -/
inductive Sequence.Nests : Sequence → Nat → Sequence → Prop
  | here {list body : Sequence} {stmt : Stmt} (member : stmt ∈ list.statements) (own : body ∈ stmt.bodies) :
    Nests list 0 body
  | block {list inner body : Sequence} {depth : Nat} (member : .block inner ∈ list.statements)
    (inside : Nests inner depth body) : Nests list depth body
  | deeper {list inner body : Sequence} {stmt : Stmt} {depth : Nat} (member : stmt ∈ list.statements)
    (own : inner ∈ stmt.bodies) (inside : Nests inner depth body) : Nests list (depth + 1) body

/-- The inner lines stand among the outer ones, `depth + 1` levels deeper, right below a line that
    ends with an opening brace and right above one that begins with a closing brace, both on the
    level of `depth`. -/
def Text.Between (depth : Nat) (inner outer : List String) : Prop :=
  ∃ before head tail after, outer = before ++ deeper depth (head ++ " \x7b") ::
    (inner.map (deeper (depth + 1)) ++ deeper depth ("\x7d" ++ tail) :: after)

namespace Text.Between
variable {depth : Nat} {inner middle outer : List String}

theorem within (between : Between depth inner outer) (above below : List String) :
    Between depth inner (above ++ outer ++ below) := by
  obtain ⟨before, head, tail, after, rfl⟩ := between
  exact ⟨above ++ before, head, tail, after ++ below, by simp⟩

theorem indented (between : Between depth inner outer) : Between (depth + 1) inner (outer.map Sketch.indent) := by
  obtain ⟨before, head, tail, after, rfl⟩ := between
  refine ⟨before.map Sketch.indent, head, tail, after.map Sketch.indent, ?_⟩
  have again : (inner.map (deeper (depth + 1))).map Sketch.indent = inner.map (deeper (depth + 1 + 1)) := by
    rw [List.map_map]
    exact List.map_congr_left fun line _ => (deeper_succ (depth + 1) line).symm
  rw [List.map_append, List.map_cons, List.map_append, List.map_cons, again, deeper_succ, deeper_succ]

theorem arm (head tail : String) (lines more : List String) :
    Between 0 lines ((head ++ " \x7b") :: (lines.map Sketch.indent ++ ("\x7d" ++ tail) :: more)) := by
  refine ⟨[], head, tail, more, ?_⟩
  rw [Nat.zero_add, map_deeper_one, deeper_zero, deeper_zero, List.nil_append]

theorem braced (head : String) (lines : List String) : Between 0 lines (Sketch.braced head lines) :=
  arm head "" lines []

/-- What is between braces in a block is one level deeper around it. -/
theorem trans (outside : Between 0 middle outer) (inside : Between depth inner middle) :
    Between (depth + 1) inner outer := by
  obtain ⟨before, head, tail, after, rfl⟩ := outside
  rw [Nat.zero_add, map_deeper_one]
  have placed := inside.indented.within (before ++ [deeper 0 (head ++ " \x7b")]) (deeper 0 ("\x7d" ++ tail) :: after)
  simpa using placed

end Text.Between

namespace Sketch

open Text (Between)

theorem branchCode_bodies : ∀ (branches : Branches) {index : Nat} {choice : Choice},
    branchCode configuration index branches = .ok choice → ∀ body ∈ branches.bodies, ∃ bodyIndex code,
      sequenceCode configuration bodyIndex body = .ok code ∧
        ∀ before, Between 0 (Instruction.blockLines code) (choice.lines before)
  | .only _ body, _, _, made => by
    obtain ⟨condition, _, made⟩ := Outcome.bind_eq_ok_iff.mp made
    obtain ⟨code, codeMade, made⟩ := Outcome.bind_eq_ok_iff.mp made
    cases made
    refine List.forall_mem_singleton.mpr ⟨_, code, codeMade, fun before => ?_⟩
    rw [Choice.lines_only]
    exact .braced _ _
  | .orElse _ body otherwise, _, _, made => by
    obtain ⟨condition, _, made⟩ := Outcome.bind_eq_ok_iff.mp made
    obtain ⟨first, firstMade, made⟩ := Outcome.bind_eq_ok_iff.mp made
    obtain ⟨second, secondMade, made⟩ := Outcome.bind_eq_ok_iff.mp made
    cases made
    refine List.forall_mem_cons.mpr ⟨⟨_, first, firstMade, fun before => ?_⟩,
      List.forall_mem_singleton.mpr ⟨_, second, secondMade, fun before => ?_⟩⟩
    · rw [Choice.lines_orElse, braced_else]
      exact .arm _ _ _ _
    · have last := Between.braced "\x7d else" (Instruction.blockLines second)
      rw [Choice.lines_orElse]
      simpa using last.within (_ :: (Instruction.blockLines first).map indent) []
  | .orIf _ body rest, _, _, made => by
    obtain ⟨condition, _, made⟩ := Outcome.bind_eq_ok_iff.mp made
    obtain ⟨first, firstMade, made⟩ := Outcome.bind_eq_ok_iff.mp made
    obtain ⟨others, othersMade, made⟩ := Outcome.bind_eq_ok_iff.mp made
    cases made
    refine List.forall_mem_cons.mpr ⟨⟨_, first, firstMade, fun before => ?_⟩, fun body member => ?_⟩
    · obtain ⟨line, more, _, goesOn⟩ := others.exists_lines_else
      rw [Choice.lines_orIf, goesOn]
      exact .arm _ _ _ _
    · obtain ⟨bodyIndex, code, codeMade, between⟩ := branchCode_bodies rest othersMade body member
      refine ⟨bodyIndex, code, codeMade, fun before => ?_⟩
      rw [Choice.lines_orIf]
      simpa using (between "\x7d else ").within (_ :: (Instruction.blockLines first).map indent) []

theorem stmtCode_bodies {stmt : Stmt} {index : Nat} {code : List Instruction}
    (made : stmtCode configuration index stmt = .ok code) {body : Sequence} (own : body ∈ stmt.bodies) :
    ∃ bodyIndex bodyCode, sequenceCode configuration bodyIndex body = .ok bodyCode ∧
      Between 0 (Instruction.blockLines bodyCode) (Instruction.blockLines code) := by
  cases stmt with
  | branch label branches =>
    obtain ⟨choice, choiceMade, made⟩ := Outcome.bind_eq_ok_iff.mp made
    cases made
    obtain ⟨bodyIndex, bodyCode, bodyMade, between⟩ := branchCode_bodies branches choiceMade body own
    refine ⟨bodyIndex, bodyCode, bodyMade, ?_⟩
    rw [Instruction.blockLines_singleton]
    exact between ""
  | loop label head inner =>
    obtain ⟨loop, _, made⟩ := Outcome.bind_eq_ok_iff.mp made
    obtain ⟨bodyCode, bodyMade, made⟩ := Outcome.bind_eq_ok_iff.mp made
    cases made
    obtain rfl := List.mem_singleton.mp own
    refine ⟨_, bodyCode, bodyMade, ?_⟩
    rw [Instruction.blockLines_singleton]
    exact .braced _ _
  | _ => cases own

/-- The lines of a statement stand together among the lines of the list. -/
theorem listCode_statement {statements : List Stmt} {index : Nat} {code : List Instruction}
    (made : listCode configuration index statements = .ok code) {stmt : Stmt} (member : stmt ∈ statements) :
    ∃ stmtIndex own, stmtCode configuration stmtIndex stmt = .ok own ∧ ∃ above below,
      Instruction.blockLines code = above ++ Instruction.blockLines own ++ below := by
  induction statements generalizing index code with
  | nil => cases member
  | cons first rest ih =>
    obtain ⟨firstCode, firstMade, made⟩ := Outcome.bind_eq_ok_iff.mp made
    obtain ⟨others, othersMade, made⟩ := Outcome.bind_eq_ok_iff.mp made
    cases made
    rw [Instruction.blockLines_append]
    rcases List.mem_cons.mp member with rfl | later
    · exact ⟨_, firstCode, firstMade, [], Instruction.blockLines others, rfl⟩
    · obtain ⟨stmtIndex, own, ownMade, above, below, split⟩ := ih othersMade later
      refine ⟨stmtIndex, own, ownMade, Instruction.blockLines firstCode ++ above, below, ?_⟩
      rw [split, List.append_assoc, List.append_assoc, List.append_assoc]

theorem sequenceCode_statement {list : Sequence} {index : Nat} {code : List Instruction}
    (made : sequenceCode configuration index list = .ok code) {stmt : Stmt} (member : stmt ∈ list.statements) :
    ∃ stmtIndex own, stmtCode configuration stmtIndex stmt = .ok own ∧ ∃ above below,
      Instruction.blockLines code = above ++ Instruction.blockLines own ++ below := by
  cases list
  exact listCode_statement made member

/-- Every body inside a list has code, and its lines stand between braces among the lines of the
    list. -/
theorem sequenceCode_nests {list body : Sequence} {depth : Nat} (nests : list.Nests depth body) {index : Nat}
    {code : List Instruction} (made : sequenceCode configuration index list = .ok code) :
    ∃ bodyIndex bodyCode, sequenceCode configuration bodyIndex body = .ok bodyCode ∧
      Between depth (Instruction.blockLines bodyCode) (Instruction.blockLines code) := by
  induction nests generalizing index code with
  | here member own =>
    obtain ⟨stmtIndex, stmtCode, stmtMade, above, below, split⟩ := sequenceCode_statement made member
    obtain ⟨bodyIndex, bodyCode, bodyMade, between⟩ := stmtCode_bodies stmtMade own
    rw [split]
    exact ⟨bodyIndex, bodyCode, bodyMade, between.within above below⟩
  | block member inside ih =>
    obtain ⟨stmtIndex, stmtCode, stmtMade, above, below, split⟩ := sequenceCode_statement made member
    obtain ⟨bodyIndex, bodyCode, bodyMade, between⟩ := ih stmtMade
    rw [split]
    exact ⟨bodyIndex, bodyCode, bodyMade, between.within above below⟩
  | deeper member own inside ih =>
    obtain ⟨stmtIndex, stmtCode, stmtMade, above, below, split⟩ := sequenceCode_statement made member
    obtain ⟨innerIndex, innerCode, innerMade, outside⟩ := stmtCode_bodies stmtMade own
    obtain ⟨bodyIndex, bodyCode, bodyMade, between⟩ := ih innerMade
    rw [split]
    exact ⟨bodyIndex, bodyCode, bodyMade, (outside.trans between).within above below⟩

/-! ## Nothing is lost -/

/-- The text of the code can be put between braces and taken out again. -/
structure LaidOut (code : List Instruction) : Prop where
  tidy : Tidy (Instruction.blockText code)
  /-- Splitting the text for its new place gives the lines that the code has there. -/
  wrapped : ∀ head, wrap head (Instruction.blockText code) =
    "\n".intercalate (braced head (Instruction.blockLines code))
  /-- Between the braces stand the lines of the text, each four blanks deeper. -/
  between : ∀ head, Text.lines (wrap head (Instruction.blockText code)) =
    Text.lines (head ++ " \x7b") ++ ((Text.lines (Instruction.blockText code)).map (deeper 1) ++ ["\x7d"])
  /-- Without the blanks these lines are the text again, from every depth. -/
  back : ∀ depth, "\n".intercalate
      (((Text.lines (Instruction.blockText code)).map (deeper depth)).map (outdented depth)) =
    Instruction.blockText code

theorem Instruction.tidy_blockText (code : List Instruction) : Tidy (blockText code) :=
  Text.tidy_intercalate (blockLines_solid code)

theorem Instruction.lines_blockText (code : List Instruction) : Text.lines (blockText code) = blockLines code :=
  Text.lines_intercalate (blockLines_solid code)

theorem laidOut (code : List Instruction) : LaidOut code where
  tidy := Instruction.tidy_blockText code
  wrapped := fun head => wrap_blockText head code
  between := fun head => by
    rw [Text.map_deeper_one]
    exact (Instruction.tidy_blockText code).lines_wrap head
  back := (Instruction.tidy_blockText code).outdented_lines

end Sketch

open Sketch

/-- Whatever list of statements is emitted, putting its text together from the texts inside it
    gives the text of its lines. The text is empty if and only if there is nothing in the list. It
    is tidy, so it is found again between braces, and so is the text of every list inside it, at
    the depth where it stands. -/
theorem reindentation_lossless {configuration : Configuration} {index : Nat} {list : Sequence}
    {code : List Instruction} (emitted : sequenceCode configuration index list = .ok code) :
    sequenceText configuration index list = .ok (Instruction.blockText code) ∧
      (Instruction.blockText code = "" ↔ list.isHollow = true) ∧ LaidOut code ∧
      ∀ depth body, list.Nests depth body → ∃ bodyIndex bodyCode,
        sequenceCode configuration bodyIndex body = .ok bodyCode ∧ LaidOut bodyCode ∧
        Text.Between depth (Text.lines (Instruction.blockText bodyCode)) (Text.lines (Instruction.blockText code)) := by
  refine ⟨sequenceText_of_sequenceCode list emitted, ?_, laidOut code, fun depth body nests => ?_⟩
  · rw [Instruction.blockText_eq_empty_iff, sequenceCode_eq_nil_iff list emitted]
  · obtain ⟨bodyIndex, bodyCode, bodyMade, between⟩ := sequenceCode_nests nests emitted
    refine ⟨bodyIndex, bodyCode, bodyMade, laidOut bodyCode, ?_⟩
    rwa [Instruction.lines_blockText, Instruction.lines_blockText]

/-- Sends a text with a newline between two carriage returns. -/
def Sequence.greeting : Sequence :=
  .mk ⟨[3], {}⟩ [.serialWrite ⟨[4], {}⟩ (.text ⟨[5], {}⟩ "hi\r\n\r")]

/-- A choice inside a loop, beside lists in which there is nothing. -/
def Sequence.layered : Sequence :=
  .mk ⟨[], {}⟩ [
    .block (.mk ⟨[0], {}⟩ [.block (.mk ⟨[0, 0], {}⟩ [])]),
    .loop ⟨[1], {}⟩ .forever (.mk ⟨[2], {}⟩ [
      .branch ⟨[6], {}⟩ (.orElse (.boolean ⟨[7], {}⟩ true) .greeting (.mk ⟨[8], {}⟩ []))])]

theorem layered_reindentation_lossless : ∃ code, sequenceCode .empty 0 .layered = .ok code ∧
    Instruction.blockText code = "\n".intercalate [
      "while (true) \x7b",
      "    if (true) \x7b",
      "        Serial.println(String(\"hi\r\\n\r\"));",
      "    \x7d else \x7b",
      "    \x7d",
      "\x7d"] ∧
    LaidOut code ∧ ∃ greetingIndex greetingCode,
      sequenceCode .empty greetingIndex .greeting = .ok greetingCode ∧ LaidOut greetingCode ∧
      Text.Between 1 (Text.lines (Instruction.blockText greetingCode)) (Text.lines (Instruction.blockText code)) := by
  have emitted : sequenceCode .empty 0 .layered = .ok _ := rfl
  have nests : Sequence.layered.Nests 1 .greeting :=
    .deeper (.tail _ (.head _)) (.head _) (.here (.head _) (.head _))
  obtain ⟨_, _, laidOut, inside⟩ := reindentation_lossless emitted
  exact ⟨_, emitted, by decide +kernel, laidOut, inside 1 .greeting nests⟩

end BlockSketch
