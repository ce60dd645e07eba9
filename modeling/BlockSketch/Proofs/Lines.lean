import BlockSketch.Sketch.Render

/-!
Texts and their lines. A text is split where its lines end, and lines are joined with a newline
between two of them. Neither way always leads back: a text may end with a newline or hold
carriage returns, and a line may be empty or hold newlines. Lines that are `Solid` are the lines
of the text they make, and the texts that solid lines make are those that are `Tidy`.

A text goes between braces line by line, each line one level deeper. Of a tidy text nothing is
lost on the way (`Tidy.lines_wrap`, `Tidy.outdented_lines`).
-/
namespace BlockSketch.Text

open Sketch (indent)

/-! ## Splitting -/

/-- A line ends at a newline, and a carriage return just before the newline belongs to that
    end. Behind the last newline there is a line only if something stands there. -/
def splitLines : List Char → List (List Char)
  | [] => []
  | '\n' :: rest => [] :: splitLines rest
  | '\r' :: '\n' :: rest => [] :: splitLines rest
  | c :: rest =>
    match splitLines rest with
    | [] => [[c]]
    | line :: lines => (c :: line) :: lines

/-- The lines of a text. -/
def lines (text : String) : List String :=
  (splitLines text.toList).map String.ofList

theorem splitLines_eq_nil_iff {text : List Char} : splitLines text = [] ↔ text = [] := by
  fun_cases splitLines text <;> simp

theorem splitLines_cons {c : Char} {rest line : List Char} {lines : List (List Char)} (noNewline : c ≠ '\n')
    (apart : ∀ others, c = '\r' → rest ≠ '\n' :: others) (split : splitLines rest = line :: lines) :
    splitLines (c :: rest) = (c :: line) :: lines := by
  rw [splitLines, split]
  · exact noNewline
  · exact apart

theorem splitLines_singleton {c : Char} (noNewline : c ≠ '\n') : splitLines [c] = [[c]] := by
  rw [splitLines]
  · rfl
  · exact noNewline
  · simp

theorem splitLines_of_unbroken {line : List Char} (nonempty : line ≠ []) (unbroken : '\n' ∉ line) :
    splitLines line = [line] := by
  induction line with
  | nil => exact absurd rfl nonempty
  | cons c rest ih =>
    obtain ⟨noNewline, others⟩ := not_or.mp (mt List.mem_cons.mpr unbroken)
    cases rest with
    | nil => exact splitLines_singleton (Ne.symm noNewline)
    | cons d rest =>
      refine splitLines_cons (Ne.symm noNewline) ?_ (ih (List.cons_ne_nil d rest) others)
      rintro _ _ ⟨⟩
      exact others List.mem_cons_self

/-- A newline behind any character but a newline or a carriage return ends a line, and does
    nothing else. -/
theorem splitLines_append {last : Char} (noNewline : last ≠ '\n') (noReturn : last ≠ '\r')
    (front rest : List Char) :
    splitLines (front ++ last :: '\n' :: rest) = splitLines (front ++ [last]) ++ splitLines rest := by
  -- A character that ends no line goes to the front of the first line, on both sides.
  have step (c : Char) (front : List Char) (before : c ≠ '\n')
      (apart : ∀ others, c = '\r' → front ≠ '\n' :: others)
      (ih : splitLines (front ++ last :: '\n' :: rest) = splitLines (front ++ [last]) ++ splitLines rest) :
      splitLines (c :: front ++ last :: '\n' :: rest) = splitLines (c :: front ++ [last]) ++ splitLines rest := by
    have stillApart (back others : List Char) (isReturn : c = '\r') : front ++ last :: back ≠ '\n' :: others := by
      cases front with
      | nil => exact fun starts => noNewline (List.cons.inj starts).1
      | cons d front =>
        rintro ⟨⟩
        exact apart _ isReturn rfl
    obtain ⟨line, lines, split⟩ := List.exists_cons_of_ne_nil
      (mt splitLines_eq_nil_iff.mp (List.append_ne_nil_of_right_ne_nil front (List.cons_ne_nil last [])))
    rw [split, List.cons_append] at ih
    rw [List.cons_append, List.cons_append, splitLines_cons before (stillApart _) ih,
      splitLines_cons before (stillApart _) split, List.cons_append]
  fun_induction splitLines front with
  | case1 =>
    rw [List.nil_append, List.nil_append, splitLines_singleton noNewline]
    exact splitLines_cons noNewline (fun _ isReturn => absurd isReturn noReturn) rfl
  | case2 front ih => rw [List.cons_append, splitLines, ih, List.cons_append, splitLines, List.cons_append]
  | case3 front ih =>
    rw [List.cons_append, List.cons_append, splitLines, ih, List.cons_append, List.cons_append, splitLines,
      List.cons_append]
  | case4 c front before apart _ ih => exact step c front before apart ih
  | case5 c front before apart _ _ _ ih => exact step c front before apart ih

/-! ## Solid lines -/

/-- No line ends inside the text. -/
def Unbroken (text : String) : Prop :=
  '\n' ∉ text.toList

instance (text : String) : Decidable (Unbroken text) :=
  inferInstanceAs (Decidable ('\n' ∉ text.toList))

/-- A line that is found again in every text of which it is a line. -/
structure Solid (line : String) : Prop where
  nonempty : line ≠ ""
  unbroken : Unbroken line
  noReturn : line.toList.getLast? ≠ some '\r'

instance (line : String) : Decidable (Solid line) :=
  decidable_of_iff (line ≠ "" ∧ Unbroken line ∧ line.toList.getLast? ≠ some '\r')
    ⟨fun h => ⟨h.1, h.2.1, h.2.2⟩, fun h => ⟨h.nonempty, h.unbroken, h.noReturn⟩⟩

theorem Unbroken.append {first second : String} (before : Unbroken first) (after : Unbroken second) :
    Unbroken (first ++ second) := by
  rw [Unbroken, String.toList_append, List.mem_append, not_or]
  exact ⟨before, after⟩

theorem getLast?_append {first second : String} (nonempty : second ≠ "") :
    (first ++ second).toList.getLast? = second.toList.getLast? := by
  have chars : second.toList ≠ [] := mt String.toList_eq_nil_iff.mp nonempty
  rw [String.toList_append, List.getLast?_append, List.getLast?_eq_some_getLast chars, Option.some_or]

theorem Solid.append {first second : String} (before : Unbroken first) (after : Solid second) :
    Solid (first ++ second) := by
  refine ⟨?_, before.append after.unbroken, ?_⟩
  · intro empty
    exact after.nonempty (String.append_eq_empty_iff.mp empty).2
  · rw [getLast?_append after.nonempty]
    exact after.noReturn

theorem Solid.indent {line : String} (solid : Solid line) : Solid (indent line) :=
  .append (by decide) solid

theorem Solid.lines_eq {line : String} (solid : Solid line) : lines line = [line] := by
  have chars : line.toList ≠ [] := mt String.toList_eq_nil_iff.mp solid.nonempty
  rw [lines, splitLines_of_unbroken chars solid.unbroken, List.map_singleton, String.ofList_toList]

theorem lines_append {first : String} {last : Char} (ends : first.toList.getLast? = some last)
    (noNewline : last ≠ '\n') (noReturn : last ≠ '\r') (rest : String) :
    lines (first ++ "\n" ++ rest) = lines first ++ lines rest := by
  obtain ⟨front, split⟩ := List.getLast?_eq_some_iff.mp ends
  have chars : (first ++ "\n" ++ rest).toList = front ++ last :: '\n' :: rest.toList := by
    simp [String.toList_append, split]
  rw [lines, lines, lines, chars, splitLines_append noNewline noReturn, split, List.map_append]

theorem Solid.lines_append {line : String} (solid : Solid line) (rest : String) :
    Text.lines (line ++ "\n" ++ rest) = line :: Text.lines rest := by
  have chars : line.toList ≠ [] := mt String.toList_eq_nil_iff.mp solid.nonempty
  have ends := List.getLast?_eq_some_getLast chars
  have noNewline : line.toList.getLast chars ≠ '\n' := by
    intro isNewline
    exact solid.unbroken (isNewline ▸ List.getLast_mem chars)
  have noReturn : line.toList.getLast chars ≠ '\r' := by
    intro isReturn
    exact solid.noReturn (isReturn ▸ ends)
  rw [Text.lines_append ends noNewline noReturn, solid.lines_eq, List.singleton_append]

/-- Solid lines are the lines of the text that they make. -/
theorem lines_intercalate {solids : List String} (solid : ∀ line ∈ solids, Solid line) :
    lines ("\n".intercalate solids) = solids := by
  induction solids with
  | nil => rfl
  | cons line rest ih =>
    obtain ⟨first, others⟩ := List.forall_mem_cons.mp solid
    cases rest with
    | nil => rw [String.intercalate_singleton, first.lines_eq]
    | cons next rest => rw [String.intercalate_cons_cons, first.lines_append, ih others]

/-! ## Tidy texts -/

/-- A text from which splitting takes nothing away, also when a newline comes behind it. -/
structure Tidy (text : String) : Prop where
  noEmptyLine : "" ∉ lines text
  noNewlineAtEnd : text.toList.getLast? ≠ some '\n'
  noReturnBeforeNewline : ¬ ['\r', '\n'] <:+: text.toList
  noReturnAtEnd : text.toList.getLast? ≠ some '\r'

theorem getLast?_ne_of_cons {c d : Char} {rest : List Char} (other : (c :: rest).getLast? ≠ some d) :
    rest.getLast? ≠ some d := by
  intro last
  rw [List.getLast?_cons, last] at other
  exact other rfl

theorem not_infix_of_cons {c : Char} {part rest : List Char} (other : ¬ part <:+: c :: rest) :
    ¬ part <:+: rest :=
  mt (List.IsInfix.trans · (List.suffix_cons c rest).isInfix) other

theorem newline_not_mem_splitLines {text : List Char} : ∀ line ∈ splitLines text, '\n' ∉ line := by
  fun_induction splitLines text with
  | case1 => simp
  | case2 rest ih => simpa using ih
  | case3 rest ih => simpa using ih
  | case4 c rest noNewline => simpa using Ne.symm noNewline
  | case5 c rest noNewline apart line lines split ih =>
    rw [split] at ih
    obtain ⟨first, others⟩ := List.forall_mem_cons.mp ih
    refine List.forall_mem_cons.mpr ⟨?_, others⟩
    simpa [first] using Ne.symm noNewline

/-- Only a newline makes the first line empty. -/
theorem eq_newline_of_splitLines {text : List Char} {lines : List (List Char)}
    (split : splitLines text = [] :: lines) (noEnd : ¬ ['\r', '\n'] <:+: text) :
    ∃ rest, text = '\n' :: rest := by
  fun_cases splitLines text with
  | case1 => cases split
  | case2 rest => exact ⟨rest, rfl⟩
  | case3 rest => exact absurd (List.prefix_append ['\r', '\n'] rest).isInfix noEnd
  | case4 c rest noNewline apart alone =>
    rw [splitLines_eq_nil_iff.mp alone, splitLines_singleton noNewline] at split
    cases split
  | case5 c rest noNewline apart line lines later =>
    rw [splitLines_cons noNewline apart later] at split
    cases split

/-- Without a carriage return before a newline or at the end, no line ends with one. -/
theorem getLast?_ne_return_of_mem_splitLines {text : List Char} (noEnd : ¬ ['\r', '\n'] <:+: text)
    (notLast : text.getLast? ≠ some '\r') : ∀ line ∈ splitLines text, line.getLast? ≠ some '\r' := by
  fun_induction splitLines text with
  | case1 => simp
  | case2 rest ih =>
    refine List.forall_mem_cons.mpr ⟨by simp, ih (not_infix_of_cons noEnd) (getLast?_ne_of_cons notLast)⟩
  | case3 rest => exact absurd (List.prefix_append ['\r', '\n'] rest).isInfix noEnd
  | case4 c rest _ _ alone =>
    rw [splitLines_eq_nil_iff.mp alone] at notLast
    simpa using notLast
  | case5 c rest _ apart line lines split ih =>
    have later := ih (not_infix_of_cons noEnd) (getLast?_ne_of_cons notLast)
    rw [split] at later
    obtain ⟨first, others⟩ := List.forall_mem_cons.mp later
    refine List.forall_mem_cons.mpr ⟨?_, others⟩
    cases line with
    | nil =>
      -- The character is a line by itself, so a newline follows it.
      obtain ⟨others, rfl⟩ := eq_newline_of_splitLines split (not_infix_of_cons noEnd)
      intro isReturn
      exact apart others (Option.some.inj isReturn) rfl
    | cons d line => rwa [List.getLast?_cons_cons]

/-- Joining the lines leads back, unless the end of the text or of a line is lost. -/
theorem intercalate_splitLines {text : List Char} (noEnd : ¬ ['\r', '\n'] <:+: text)
    (notLast : text.getLast? ≠ some '\n') : ['\n'].intercalate (splitLines text) = text := by
  fun_induction splitLines text with
  | case1 => rfl
  | case2 rest ih =>
    have back := ih (not_infix_of_cons noEnd) (getLast?_ne_of_cons notLast)
    have more : splitLines rest ≠ [] := by
      rw [Ne, splitLines_eq_nil_iff]
      rintro rfl
      exact notLast rfl
    obtain ⟨line, lines, split⟩ := List.exists_cons_of_ne_nil more
    rw [split] at back ⊢
    rw [List.intercalate_cons_cons, back]
    rfl
  | case3 rest => exact absurd (List.prefix_append ['\r', '\n'] rest).isInfix noEnd
  | case4 c rest _ _ alone => rw [splitLines_eq_nil_iff.mp alone, List.intercalate_singleton]
  | case5 c rest _ _ line lines split ih =>
    have back := ih (not_infix_of_cons noEnd) (getLast?_ne_of_cons notLast)
    rw [split] at back
    rw [← back]
    cases lines with
    | nil => rw [List.intercalate_singleton, List.intercalate_singleton]
    | cons next lines => rw [List.intercalate_cons_cons, List.intercalate_cons_cons]; rfl

theorem Tidy.solid {text : String} (tidy : Tidy text) : ∀ line ∈ lines text, Solid line := by
  intro line member
  obtain ⟨chars, listed, rfl⟩ := List.mem_map.mp member
  refine ⟨fun empty => tidy.noEmptyLine (empty ▸ member), ?_, ?_⟩
  · rw [Unbroken, String.toList_ofList]
    exact newline_not_mem_splitLines chars listed
  · rw [String.toList_ofList]
    exact getLast?_ne_return_of_mem_splitLines tidy.noReturnBeforeNewline tidy.noReturnAtEnd chars listed

theorem Tidy.intercalate_lines {text : String} (tidy : Tidy text) : "\n".intercalate (lines text) = text := by
  have chars : (lines text).map String.toList = splitLines text.toList := by simp [lines, Function.comp_def]
  rw [← String.toList_inj, String.toList_intercalate, chars]
  exact intercalate_splitLines tidy.noReturnBeforeNewline tidy.noNewlineAtEnd

/-! ### Solid lines make a tidy text -/

theorem not_return_infix_append {line rest : List Char} (unbroken : '\n' ∉ line) (ended : line.getLast? ≠ some '\r')
    (later : ¬ ['\r', '\n'] <:+: rest) : ¬ ['\r', '\n'] <:+: line ++ '\n' :: rest := by
  induction line with
  | nil =>
    rw [List.nil_append, List.infix_cons_iff, not_or]
    exact ⟨by simp, later⟩
  | cons c line ih =>
    obtain ⟨_, others⟩ := not_or.mp (mt List.mem_cons.mpr unbroken)
    rw [List.cons_append, List.infix_cons_iff, not_or]
    refine ⟨?_, ih others (getLast?_ne_of_cons ended)⟩
    rw [List.cons_prefix_cons]
    rintro ⟨rfl, starts⟩
    cases line with
    | nil => exact ended rfl
    | cons d line =>
      rw [List.cons_append, List.cons_prefix_cons] at starts
      exact others (starts.1 ▸ List.mem_cons_self)

theorem Solid.tidy {line : String} (solid : Solid line) : Tidy line where
  noEmptyLine := by
    rw [solid.lines_eq, List.mem_singleton]
    exact solid.nonempty.symm
  noNewlineAtEnd := mt List.mem_of_getLast? solid.unbroken
  noReturnBeforeNewline := fun inside => solid.unbroken (inside.mem (by simp))
  noReturnAtEnd := solid.noReturn

/-- A solid line above a tidy text. -/
theorem Tidy.cons {line text : String} (solid : Solid line) (tidy : Tidy text) (nonempty : text ≠ "") :
    Tidy (line ++ "\n" ++ text) := by
  refine ⟨?_, ?_, ?_, ?_⟩
  · rw [solid.lines_append, List.mem_cons, not_or]
    exact ⟨solid.nonempty.symm, tidy.noEmptyLine⟩
  · rw [getLast?_append nonempty]
    exact tidy.noNewlineAtEnd
  · have chars : (line ++ "\n" ++ text).toList = line.toList ++ '\n' :: text.toList := by simp
    rw [chars]
    exact not_return_infix_append solid.unbroken solid.noReturn tidy.noReturnBeforeNewline
  · rw [getLast?_append nonempty]
    exact tidy.noReturnAtEnd

theorem intercalate_eq_empty_iff {solids : List String} (solid : ∀ line ∈ solids, Solid line) :
    "\n".intercalate solids = "" ↔ solids = [] := by
  constructor
  · intro empty
    rw [← lines_intercalate solid, empty]
    rfl
  · rintro rfl
    rfl

theorem tidy_intercalate {solids : List String} (solid : ∀ line ∈ solids, Solid line) :
    Tidy ("\n".intercalate solids) := by
  induction solids with
  | nil => exact ⟨by decide, by decide, by decide, by decide⟩
  | cons line rest ih =>
    obtain ⟨first, others⟩ := List.forall_mem_cons.mp solid
    cases rest with
    | nil =>
      rw [String.intercalate_singleton]
      exact first.tidy
    | cons next rest =>
      rw [String.intercalate_cons_cons]
      exact (ih others).cons first (mt (intercalate_eq_empty_iff others).mp (List.cons_ne_nil next rest))

/-- A text is tidy if and only if solid lines make it. -/
theorem tidy_iff {text : String} :
    Tidy text ↔ ∃ solids, (∀ line ∈ solids, Solid line) ∧ text = "\n".intercalate solids := by
  constructor
  · intro tidy
    exact ⟨lines text, tidy.solid, tidy.intercalate_lines.symm⟩
  · rintro ⟨solids, solid, rfl⟩
    exact tidy_intercalate solid

/-! ## Putting texts together -/

/-- The last line of one text goes on with the first line of the next. -/
theorem intercalate_append_intercalate (separator line next : String) (before after : List String) :
    separator.intercalate (before ++ [line]) ++ separator.intercalate (next :: after) =
      separator.intercalate (before ++ (line ++ next) :: after) := by
  cases before with
  | nil => rw [List.nil_append, String.intercalate_singleton, List.nil_append, String.intercalate_cons_append]
  | cons first before =>
    rw [String.intercalate_append_of_ne_nil (List.cons_ne_nil _ _) (List.cons_ne_nil _ _),
      String.intercalate_append_of_ne_nil (List.cons_ne_nil _ _) (List.cons_ne_nil _ _),
      String.intercalate_singleton, String.intercalate_cons_append]
    simp only [String.append_assoc]

/-- The texts one below the other, but for those that are empty. -/
def stack (texts : List String) : String :=
  "\n".intercalate (texts.filter (· ≠ ""))

theorem stack_eq_empty_iff {texts : List String} : stack texts = "" ↔ texts.filter (· ≠ "") = [] := by
  constructor
  · intro empty
    cases shown : texts.filter (· ≠ "") with
    | nil => rfl
    | cons text rest =>
      have nonempty : text ≠ "" := by
        have member : text ∈ texts.filter (· ≠ "") := shown ▸ List.mem_cons_self
        simpa using (List.mem_filter.mp member).2
      rw [stack, shown] at empty
      cases rest with
      | nil => exact absurd empty nonempty
      | cons next rest =>
        rw [String.intercalate_cons_cons, String.append_eq_empty_iff, String.append_eq_empty_iff] at empty
        exact absurd empty.1.1 nonempty
  · intro none
    rw [stack, none]
    rfl

theorem stack_cons {solids others texts : List String} (solid : ∀ line ∈ solids, Solid line)
    (othersSolid : ∀ line ∈ others, Solid line) (stacked : stack texts = "\n".intercalate others) :
    stack ("\n".intercalate solids :: texts) = "\n".intercalate (solids ++ others) := by
  by_cases empty : solids = []
  · subst empty
    exact stacked
  · have kept : "\n".intercalate solids ≠ "" := mt (intercalate_eq_empty_iff solid).mp empty
    rw [stack, List.filter_cons_of_pos (by simpa using kept)]
    by_cases last : others = []
    · subst last
      rw [stack_eq_empty_iff.mp stacked, String.intercalate_singleton, List.append_nil]
    · have more : texts.filter (· ≠ "") ≠ [] := by
        rw [Ne, ← stack_eq_empty_iff, stacked]
        exact mt (intercalate_eq_empty_iff othersSolid).mp last
      rw [String.intercalate_cons_of_ne_nil more, String.intercalate_append_of_ne_nil empty last, ← stacked]
      rfl

/-! ## Moving lines to the right -/

/-- A line this many levels deeper. -/
def deeper (depth : Nat) (line : String) : String :=
  String.ofList (List.replicate (4 * depth) ' ') ++ line

/-- A line without the blanks of this many levels. -/
def outdented (depth : Nat) (line : String) : String :=
  String.ofList (line.toList.drop (4 * depth))

theorem deeper_zero (line : String) : deeper 0 line = line := by
  simp [deeper]

theorem deeper_succ (depth : Nat) (line : String) : deeper (depth + 1) line = indent (deeper depth line) := by
  have blanks : List.replicate (4 * (depth + 1)) ' ' = "    ".toList ++ List.replicate (4 * depth) ' ' := by
    rw [Nat.mul_succ, Nat.add_comm, ← List.replicate_append_replicate]
    rfl
  rw [deeper, blanks, String.ofList_append, String.ofList_toList, String.append_assoc]
  rfl

theorem map_deeper_one (lines : List String) : lines.map (deeper 1) = lines.map indent :=
  List.map_congr_left fun line _ => by rw [deeper_succ, deeper_zero]

theorem outdented_deeper (depth : Nat) (line : String) : outdented depth (deeper depth line) = line := by
  simp [outdented, deeper]

section
variable {head : String} {solids : List String}

theorem solid_indented (solid : ∀ line ∈ solids, Solid line) : ∀ line ∈ solids.map indent, Solid line :=
  List.forall_mem_map.mpr fun line member => (solid line member).indent

theorem solid_opening (unbroken : Unbroken head) : Solid (head ++ " \x7b") :=
  .append unbroken (by decide)

/-- The lines of a block, and the brace that closes it. -/
theorem solid_body (solid : ∀ line ∈ solids, Solid line) : ∀ line ∈ solids.map indent ++ ["\x7d"], Solid line :=
  List.forall_mem_append.mpr ⟨solid_indented solid, by decide⟩

theorem solid_braced (unbroken : Unbroken head) (solid : ∀ line ∈ solids, Solid line) :
    ∀ line ∈ Sketch.braced head solids, Solid line :=
  List.forall_mem_cons.mpr ⟨solid_opening unbroken, solid_body solid⟩

end

/-- The lines of the text, each one level deeper unless it is empty. -/
def reindent (text : String) : String :=
  "\n".intercalate ((lines text).map fun line => if line = "" then "" else indent line)

/-- The text between braces, after what stands before the first of them. -/
def wrap (head text : String) : String :=
  if text = "" then head ++ " \x7b\n\x7d" else head ++ " \x7b\n" ++ reindent text ++ "\n\x7d"

theorem reindent_intercalate {solids : List String} (solid : ∀ line ∈ solids, Solid line) :
    reindent ("\n".intercalate solids) = "\n".intercalate (solids.map indent) := by
  rw [reindent, lines_intercalate solid]
  congr 1
  refine List.map_congr_left fun line member => ?_
  rw [if_neg (solid line member).nonempty]

theorem wrap_intercalate {solids : List String} (solid : ∀ line ∈ solids, Solid line) (head : String) :
    wrap head ("\n".intercalate solids) = "\n".intercalate (Sketch.braced head solids) := by
  unfold wrap Sketch.braced
  by_cases empty : solids = []
  · subst empty
    simp [String.append_assoc]
  · rw [if_neg (mt (intercalate_eq_empty_iff solid).mp empty), reindent_intercalate solid,
      String.intercalate_cons_of_ne_nil (by simp),
      String.intercalate_append_of_ne_nil (by simpa using empty) (List.cons_ne_nil _ _),
      String.intercalate_singleton]
    simp [String.append_assoc]

/-- Between the braces stand the lines of a tidy text, each one level deeper. -/
theorem Tidy.lines_wrap {text : String} (tidy : Tidy text) (head : String) :
    lines (wrap head text) = lines (head ++ " \x7b") ++ ((lines text).map indent ++ ["\x7d"]) := by
  obtain ⟨solids, solid, rfl⟩ := tidy_iff.mp tidy
  have opened : (head ++ " \x7b").toList.getLast? = some '\x7b' := getLast?_append (by decide)
  rw [wrap_intercalate solid, Sketch.braced, String.intercalate_cons_of_ne_nil (by simp),
    lines_append opened (by decide) (by decide), lines_intercalate (solid_body solid),
    lines_intercalate solid]

/-- The lines of a tidy text come back from every depth. -/
theorem Tidy.outdented_lines {text : String} (tidy : Tidy text) (depth : Nat) :
    "\n".intercalate (((lines text).map (deeper depth)).map (outdented depth)) = text := by
  have back : outdented depth ∘ deeper depth = id := funext (outdented_deeper depth)
  rw [List.map_map, back, List.map_id, tidy.intercalate_lines]

end BlockSketch.Text
