import BlockSketch.Toml.Scalar
import BlockSketch.Toml.Value

/-!
Reading TOML. Every function takes the text that is left and gives, with what
it has read, the text after it. Where a text is read in rounds, each round takes
some of it, so as many rounds as the text has characters are enough.
-/
namespace BlockSketch.Toml

def isSpace (c : Char) : Bool :=
  c == ' ' || c == '\t'

def skipSpaces (text : List Char) : List Char :=
  text.dropWhile isSpace

/-- Control characters, which no comment or string holds. -/
def isControl (c : Char) : Bool :=
  (c.toNat < 0x20 && c != '\t') || c.toNat == 0x7F

/-- What follows the end of a line. -/
def afterNewline? : List Char → Option (List Char)
  | '\n' :: rest => some rest
  | '\r' :: '\n' :: rest => some rest
  | _ => none

/-- What follows a comment, if one stands here. -/
def skipComment (text : List Char) : List Char :=
  match text with
  | '#' :: rest => rest.dropWhile fun c => !isControl c
  | _ => text

/-- What follows the rest of a line that says nothing more. -/
def afterLine? (text : List Char) : Option (List Char) :=
  match skipComment (skipSpaces text) with
  | [] => some []
  | rest => afterNewline? rest

/-- What follows spaces, comments and line ends. -/
def skipGap : (rounds : Nat) → List Char → List Char
  | 0, text => text
  | rounds + 1, text =>
    match afterNewline? (skipComment (skipSpaces text)) with
    | some rest => skipGap rounds rest
    | none => skipSpaces text

/-! ### Strings -/

/-- The character with the code point that so many digits give. -/
def codePoint? (count : Nat) (text : List Char) : Option (Char × List Char) :=
  let digits := text.take count
  let code := wholeValue 16 digits
  if digits.length == count && digits.all isHexDigit && Nat.isValidChar code then
    some (Char.ofNat code, text.drop count)
  else none

/-- The character that an escape stands for, from after the backslash. -/
def escape? : List Char → Option (Char × List Char)
  | 'b' :: rest => some ('\x08', rest)
  | 't' :: rest => some ('\t', rest)
  | 'n' :: rest => some ('\n', rest)
  | 'f' :: rest => some ('\x0c', rest)
  | 'r' :: rest => some ('\r', rest)
  | 'e' :: rest => some ('\x1b', rest)
  | '"' :: rest => some ('"', rest)
  | '\\' :: rest => some ('\\', rest)
  | 'x' :: rest => codePoint? 2 rest
  | 'u' :: rest => codePoint? 4 rest
  | 'U' :: rest => codePoint? 8 rest
  | _ => none

/-- A string on one line with escapes, from after its first quote. -/
def basicString? : (rounds : Nat) → List Char → Option (List Char × List Char)
  | 0, _ => none
  | _, [] => none
  | rounds + 1, c :: rest =>
    if c == '"' then some ([], rest)
    else if c == '\\' then do
      let (c, rest) ← escape? rest
      let (tail, rest) ← basicString? rounds rest
      return (c :: tail, rest)
    else if isControl c then none
    else do
      let (tail, rest) ← basicString? rounds rest
      return (c :: tail, rest)

/-- A string on one line without escapes, from after its first quote. -/
def literalString? (text : List Char) : Option (List Char × List Char) :=
  let inside := text.takeWhile fun c => c != '\'' && !isControl c
  match text.drop inside.length with
  | '\'' :: rest => some (inside, rest)
  | _ => none

/-- The number of quotes at the front of a text. -/
def quoteRun (quote : Char) (text : List Char) : Nat :=
  (text.takeWhile (· == quote)).length

/-- A line end right after the opening quotes is no part of a string. -/
def skipFirstNewline (text : List Char) : List Char :=
  (afterNewline? text).getD text

/-- What follows spaces and line ends. -/
def skipBlanks : List Char → List Char
  | [] => []
  | '\r' :: '\n' :: rest => skipBlanks rest
  | c :: rest => if isSpace c || c == '\n' then skipBlanks rest else c :: rest

/-- What follows a backslash at the end of a line: the next character that is
    neither a space nor a line end. -/
def afterContinuation? (text : List Char) : Option (List Char) :=
  (afterNewline? (skipSpaces text)).map skipBlanks

/-- A string over several lines, from after its opening quotes. Up to two
    quotes may stand right before the three that end it. Escapes are read in
    strings that have them. -/
def longString? (quote : Char) (escapes : Bool) :
    (rounds : Nat) → List Char → Option (List Char × List Char)
  | 0, _ => none
  | _, [] => none
  | rounds + 1, c :: rest =>
    if c == quote then
      let run := quoteRun quote (c :: rest)
      if run < 3 then do
        let (tail, rest) ← longString? quote escapes rounds rest
        return (c :: tail, rest)
      else if 5 < run then none
      else some (List.replicate (run - 3) quote, (c :: rest).drop run)
    else if c == '\\' && escapes then
      match afterContinuation? rest with
      | some rest => longString? quote escapes rounds rest
      | none => do
        let (c, rest) ← escape? rest
        let (tail, rest) ← longString? quote escapes rounds rest
        return (c :: tail, rest)
    else if c == '\n' || !isControl c then do
      let (tail, rest) ← longString? quote escapes rounds rest
      return (c :: tail, rest)
    else
      match c, rest with
      | '\r', '\n' :: rest => do
        let (tail, rest) ← longString? quote escapes rounds rest
        return ('\r' :: '\n' :: tail, rest)
      | _, _ => none

/-! ### Keys -/

/-- How many parts a key has at most, and how many brackets and braces may be
    open at once. -/
def nestingLimit : Nat :=
  80

def isBareKeyChar (c : Char) : Bool :=
  c.isAlphanum || c == '_' || c == '-'

/-- One part of a key: a bare word, or a string on one line. -/
def keyPart? (text : List Char) : Option (String × List Char) :=
  match text with
  | '"' :: rest => do
    let (inside, rest) ← basicString? (rest.length + 1) rest
    return (String.ofList inside, rest)
  | '\'' :: rest => do
    let (inside, rest) ← literalString? rest
    return (String.ofList inside, rest)
  | _ =>
    let word := text.takeWhile isBareKeyChar
    if word.isEmpty then none else some (String.ofList word, text.drop word.length)

/-- The further parts of a key, each after a dot, and what follows the key and
    its spaces. The parts are fewer than the limit. -/
def keyTail? : (limit : Nat) → List Char → Option (List String × List Char)
  | 0, _ => none
  | limit + 1, text =>
    match skipSpaces text with
    | '.' :: rest => do
      let (part, rest) ← keyPart? (skipSpaces rest)
      let (parts, rest) ← keyTail? limit rest
      return (part :: parts, rest)
    | rest => some ([], rest)

/-- A key as the parts before its last one, and the last one. -/
def key? (text : List Char) : Option ((List String × String) × List Char) := do
  let (first, rest) ← keyPart? (skipSpaces text)
  let (others, rest) ← keyTail? nestingLimit rest
  let parts := first :: others
  return ((parts.dropLast, parts.getLastD first), rest)

/-! ### Values -/

/-- The characters that numbers, dates and truth values are made of. -/
def isScalarChar (c : Char) : Bool :=
  c.isAlphanum || c == '+' || c == '-' || c == '_' || c == '.' || c == ':'

/-- A number, a date or a truth value. A space may stand between a date and a
    time. -/
def scalar? (text : List Char) : Option (Toml × List Char) :=
  let word := text.takeWhile isScalarChar
  let rest := text.drop word.length
  let time := match rest with
    | ' ' :: c :: _ => if c.isDigit && afterDate? word == some [] then
        (rest.drop 1).takeWhile isScalarChar else []
    | _ => []
  if word == "true".toList then some (.boolean true, rest)
  else if word == "false".toList then some (.boolean false, rest)
  else if !time.isEmpty then
    if isMoment (word ++ ' ' :: time) then some (.scalar, rest.drop (time.length + 1)) else none
  else if isScalar word then some (.scalar, rest)
  else none

/-- A string of any of the four forms. -/
def string? (text : List Char) : Option (String × List Char) := do
  let (inside, rest) ← match text with
    | '"' :: '"' :: '"' :: rest =>
      longString? '"' true (rest.length + 1) (skipFirstNewline rest)
    | '\'' :: '\'' :: '\'' :: rest =>
      longString? '\'' false (rest.length + 1) (skipFirstNewline rest)
    | '"' :: rest => basicString? (rest.length + 1) rest
    | '\'' :: rest => literalString? rest
    | _ => none
  return (String.ofList inside, rest)

/-- A string, a number, a date or a truth value. -/
def plainValue? (text : List Char) : Option (Toml × List Char) :=
  if text.head? == some '"' || text.head? == some '\'' then
    (string? text).map fun (value, rest) => (.string value, rest)
  else scalar? text

/-- The items of an array up to its closing bracket. A comma may follow the
    last one. -/
def items? (item? : List Char → Option (Toml × List Char)) :
    (rounds : Nat) → List Char → Option (List Toml × List Char)
  | 0, _ => none
  | _, ']' :: rest => some ([], rest)
  | rounds + 1, text => do
    let (item, rest) ← item? text
    match skipGap (rest.length + 1) rest with
    | ',' :: rest => do
      let (items, rest) ← items? item? rounds (skipGap (rest.length + 1) rest)
      return (item :: items, rest)
    | ']' :: rest => return ([item], rest)
    | _ => none

/-- The assignments of a table between braces up to the closing one. A line may
    end anywhere but inside a key, and a comma may follow the last assignment. -/
def assignments? (item? : List Char → Option (Toml × List Char)) :
    (rounds : Nat) → List Char → Option (List (List String × String × Toml) × List Char)
  | 0, _ => none
  | _, '}' :: rest => some ([], rest)
  | rounds + 1, text => do
    let ((path, key), rest) ← key? text
    let '=' :: rest := skipGap (rest.length + 1) rest | none
    let (value, rest) ← item? (skipGap (rest.length + 1) rest)
    match skipGap (rest.length + 1) rest with
    | ',' :: rest => do
      let (others, rest) ← assignments? item? rounds (skipGap (rest.length + 1) rest)
      return ((path, key, value) :: others, rest)
    | '}' :: rest => return ([(path, key, value)], rest)
    | _ => none

/-- A value, in which brackets and braces nest to so many levels at most. -/
def value? : (levels : Nat) → List Char → Option (Toml × List Char)
  | 0, text => plainValue? text
  | levels + 1, text =>
    match text with
    | '[' :: rest => do
      let (items, rest) ← items? (value? levels) (rest.length + 1) (skipGap (rest.length + 1) rest)
      return (.array items, rest)
    | '{' :: rest => do
      let (assignments, rest) ←
        assignments? (value? levels) (rest.length + 1) (skipGap (rest.length + 1) rest)
      let table ← ofAssignments? assignments
      return (table, rest)
    | _ => plainValue? text

/-! ### Documents -/

/-- The statement on a line that is not empty. -/
def statement? (text : List Char) : Option (Statement × List Char) :=
  match text with
  | '[' :: '[' :: rest => do
    let ((path, key), rest) ← key? rest
    let ']' :: ']' :: rest := rest | none
    return (.elementHeader path key, rest)
  | '[' :: rest => do
    let ((path, key), rest) ← key? rest
    let ']' :: rest := rest | none
    return (.header path key, rest)
  | _ => do
    let ((path, key), rest) ← key? text
    let '=' :: rest := rest | none
    let (value, rest) ← value? nestingLimit (skipSpaces rest)
    return (.assignment path key value, rest)

/-- The statements of a document. -/
def statements? : (rounds : Nat) → List Char → Option (List Statement)
  | 0, _ => none
  | rounds + 1, text =>
    match skipGap (text.length + 1) text with
    | [] => some []
    | rest =>
      match skipComment rest with
      | [] => some []
      | _ => do
        let (statement, rest) ← statement? rest
        let rest ← afterLine? rest
        let others ← statements? rounds rest
        return statement :: others

/-- What follows a byte order mark at the front of a text. -/
def skipMark : List Char → List Char
  | '\ufeff' :: rest => rest
  | text => text

/-- The table that a document describes. -/
def read? (source : String) : Option Toml :=
  let text := skipMark source.toList
  (statements? (text.length + 1) text).bind ofStatements?

end BlockSketch.Toml
