import FacetSearch.Document.Syntax
import FacetSearch.Json.Reader
import FacetSearch.Ordered
/-!
# Reading documents

A reader for document texts. Blanks, commas, line ends and comments separate tokens and mean
nothing else; where two tokens cannot run together none is needed. A keyword counts wherever its
letters stand, so `queryQ` is a query with the name `Q`.

Each step takes a text and gives what it read with the text left over. Steps that call each other
take fuel, of which a small multiple of the length of the text is always enough.
-/

namespace FacetSearch.Document

open Schema (TypeRef isNameStart isNameChar)

/-! ## Tokens -/

def isSeparator (c : Char) : Bool :=
  c = ' ' || c = ',' || c = '\t' || c = '\n' || c = '\r' || c = '\ufeff'

/-- The text after separators and comments. -/
def skip (comment : Bool) : List Char → List Char
  | [] => []
  | c :: rest =>
    if comment then skip (c ≠ '\n' && c ≠ '\r') rest
    else if isSeparator c then skip false rest
    else if c = '#' then skip true rest
    else c :: rest

/-- Go on after separators. -/
def next (s : List Char) : List Char := skip false s

def keyword? (word : String) (s : List Char) : Option (List Char) :=
  if word.toList.isPrefixOf s then some (s.drop word.length) else none

def name? : List Char → Option (String × List Char)
  | [] => none
  | c :: rest =>
    if isNameStart c then
      let tail := rest.takeWhile isNameChar
      some (String.ofList (c :: tail), rest.drop tail.length)
    else none

/-! ## Numbers -/

/-- A fraction at the start of a text, with its point. -/
def fraction : List Char → List Char
  | '.' :: rest =>
    let digits := rest.takeWhile Char.isDigit
    if digits = [] then [] else '.' :: digits
  | _ => []

/-- An exponent at the start of a text, with its mark. -/
def exponent : List Char → List Char
  | [] => []
  | mark :: rest =>
    if mark = 'e' ∨ mark = 'E' then
      let sign := rest.takeWhile fun c => c = '+' || c = '-'
      let digits := (rest.drop sign.length).takeWhile Char.isDigit
      if sign.length ≤ 1 ∧ digits ≠ [] then mark :: sign ++ digits else []
    else []

/-- A number. A zero at the start stands alone, and no name may follow directly. -/
def number? (s : List Char) : Option (Value × List Char) := do
  let (sign, s) := match s with
    | '-' :: s => (['-'], s)
    | s => ([], s)
  let digits := s.takeWhile Char.isDigit
  let whole := if digits.head? = some '0' then ['0'] else digits
  if whole = [] then none
  let s := s.drop whole.length
  let fraction := fraction s
  let s := s.drop fraction.length
  let exponent := exponent s
  let s := s.drop exponent.length
  if s.head?.any isNameStart then none
  let (value, _) ← Json.number? (sign ++ whole ++ fraction ++ exponent)
  return (.ofJson value, s)

/-! ## Strings -/

/-- The character that an escape after a backslash stands for. -/
def escape? : List Char → Option (Char × List Char)
  | 'u' :: rest => do
    let (n, rest) ← Json.unit? rest
    if 0xd800 ≤ n ∧ n < 0xe000 then none else return (Char.ofNat n, rest)
  | s => Json.escape? s

/-- The rest of a string after its opening quote, given what was read so far, last first. -/
def string? : Nat → List Char → List Char → Option (String × List Char)
  | 0, _, _ => none
  | _, _, [] => none
  | fuel + 1, read, c :: rest =>
    if c = '\x22' then some (String.ofList read.reverse, rest)
    else if c = '\\' then
      match escape? rest with
      | some (e, rest) => string? fuel (e :: read) rest
      | none => none
    else if c = '\n' ∨ c = '\r' then none
    else string? fuel (c :: read) rest

/-- The rest of a block string after its opening quotes, up to the closing ones. Quotes after a
backslash do not close it. -/
def block? : Nat → List Char → List Char → Option (List Char × List Char)
  | 0, _, _ => none
  | _, _, [] => none
  | fuel + 1, read, c :: rest =>
    match keyword? "\"\"\"" (c :: rest), keyword? "\\\"\"\"" (c :: rest) with
    | some after, _ => some (read.reverse, after)
    | none, some after => block? fuel ('\x22' :: '\x22' :: '\x22' :: read) after
    | none, none => block? fuel (c :: read) rest

/-- The lines of a text, given the current line, last character first. -/
def lines (line : List Char) : List Char → List (List Char)
  | [] => [line.reverse]
  | '\r' :: '\n' :: rest => line.reverse :: lines [] rest
  | c :: rest =>
    if c = '\n' ∨ c = '\r' then line.reverse :: lines [] rest else lines (c :: line) rest

def isIndent (c : Char) : Bool := c = ' ' || c = '\t'

/-- The text of a block: without the indentation that all lines but the first share, and without
blank lines at its ends. -/
def blockText (raw : List Char) : String :=
  let all := lines [] raw
  let indents := (all.drop 1).filterMap fun line =>
    let indent := (line.takeWhile isIndent).length
    if indent < line.length then some indent else none
  let common := indents.min?.getD 0
  let cut := all.take 1 ++ (all.drop 1).map fun line =>
    if common ≤ line.length then line.drop common else line
  let blank (line : List Char) : Bool := line.all isIndent
  let kept := ((cut.dropWhile blank).reverse.dropWhile blank).reverse
  "\n".intercalate (kept.map String.ofList)

/-- A string or a block string. Three quotes without three more to close them are an empty string
and the start of another one. -/
def text? (s : List Char) : Option (String × List Char) :=
  let block := (keyword? "\"\"\"" s).bind fun rest => block? (rest.length + 1) [] rest
  match block with
  | some (raw, rest) => some (blockText raw, rest)
  | none => (keyword? "\"" s).bind fun rest => string? (rest.length + 1) [] rest

/-! ## Values -/

mutual

/-- A value. Variables are not allowed in a constant one. -/
def value? (fuel : Nat) (constant : Bool) (s : List Char) : Option (Value × List Char) :=
  match fuel with
  | 0 => none
  | fuel + 1 =>
    match next s with
    | [] => none
    | c :: rest =>
      if c = '$' then
        if constant then none else (name? (next rest)).map fun (name, rest) => (.reference name, rest)
      else if c = '-' ∨ c.isDigit then number? (c :: rest)
      else if c = '\x22' then (text? (c :: rest)).map fun (text, rest) => (.str text, rest)
      else if c = '[' then items? fuel constant [] rest
      else if c = '\x7b' then fields? fuel constant [] rest
      else
        match keyword? "true" (c :: rest), keyword? "false" (c :: rest),
          keyword? "null" (c :: rest) with
        | some rest, _, _ => some (.bool true, rest)
        | _, some rest, _ => some (.bool false, rest)
        | _, _, some rest => some (.null, rest)
        | _, _, _ => (name? (c :: rest)).map fun (name, rest) => (.word name, rest)
  termination_by structural fuel

/-- The rest of a list, given the items read so far, last first. -/
def items? (fuel : Nat) (constant : Bool) (read : List Value) (s : List Char) :
    Option (Value × List Char) :=
  match fuel with
  | 0 => none
  | fuel + 1 =>
    match next s with
    | ']' :: rest => some (.list read.reverse, rest)
    | s =>
      match value? fuel constant s with
      | some (item, rest) => items? fuel constant (item :: read) rest
      | none => none
  termination_by structural fuel

/-- The rest of an object, given the fields read so far, last first. Of fields with one name the
last counts, in the place of the first. -/
def fields? (fuel : Nat) (constant : Bool) (read : List (String × Value)) (s : List Char) :
    Option (Value × List Char) :=
  match fuel with
  | 0 => none
  | fuel + 1 =>
    match next s with
    | '\x7d' :: rest => some (.object (OrderedMap.ofList read.reverse).entries, rest)
    | s =>
      match name? s with
      | none => none
      | some (key, rest) =>
        match next rest with
        | ':' :: rest =>
          match value? fuel constant rest with
          | some (value, rest) => fields? fuel constant ((key, value) :: read) rest
          | none => none
        | _ => none
  termination_by structural fuel

end

/-! ## Types -/

/-- A type, without separators inside. -/
def type? : Nat → List Char → Option (TypeRef × List Char)
  | 0, _ => none
  | fuel + 1, s => do
    let (type, rest) ← match s with
      | '[' :: rest => do
        let (element, rest) ← type? fuel rest
        let rest ← keyword? "]" rest
        pure (TypeRef.list element, rest)
      | s => (name? s).map fun (name, rest) => (TypeRef.named name, rest)
    match rest with
    | '!' :: rest => return (.nonNull type, rest)
    | rest => return (type, rest)

/-! ## Arguments and directives -/

/-- The arguments up to the closing bracket, given those read so far, last first. -/
def argumentList? (fuel : Nat) (constant : Bool) (read : List (String × Value)) (s : List Char) :
    Option (List (String × Value) × List Char) :=
  match fuel with
  | 0 => none
  | fuel + 1 =>
    match next s with
    | ')' :: rest => if read.isEmpty then none else some (read.reverse, rest)
    | s => do
      let (key, rest) ← name? s
      let rest ← keyword? ":" (next rest)
      let (value, rest) ← value? (2 * rest.length + 2) constant rest
      argumentList? fuel constant ((key, value) :: read) rest

/-- The arguments in brackets, of which there is at least one; none without a bracket. -/
def arguments? (constant : Bool) (s : List Char) : Option (List (String × Value) × List Char) :=
  match next s with
  | '(' :: rest => argumentList? (rest.length + 1) constant [] rest
  | s => some ([], s)

/-- The directives at the start of a text. -/
def directives? (fuel : Nat) (constant : Bool) (s : List Char) :
    Option (List Directive × List Char) :=
  match fuel with
  | 0 => none
  | fuel + 1 =>
    match next s with
    | '@' :: rest => do
      let (name, rest) ← name? (next rest)
      let (arguments, rest) ← arguments? constant rest
      let (directives, rest) ← directives? fuel constant rest
      return (⟨name, arguments⟩ :: directives, rest)
    | s => some ([], s)

/-! ## Selections -/

/-- The type for which a fragment is meant. -/
def condition? (s : List Char) : Option (String × List Char) := do
  let rest ← keyword? "on" (next s)
  name? (next rest)

mutual

/-- A field, a fragment or selections in place. -/
def selection? (fuel : Nat) (s : List Char) : Option (Selection × List Char) :=
  match fuel with
  | 0 => none
  | fuel + 1 =>
    match keyword? "..." (next s) with
    | some s =>
      match condition? s with
      | some (condition, s) => inline? fuel (some condition) s
      | none =>
        match name? (next s) with
        | some (name, s) => do
          let (directives, s) ← directives? (s.length + 1) false s
          return (.spread name directives, s)
        | none => inline? fuel none s
    | none => do
      let (name, s) ← name? (next s)
      let (key, name, s) ← match next s with
        | ':' :: s => (name? (next s)).map fun (field, s) => (name, field, s)
        | s => some (name, name, s)
      let (arguments, s) ← arguments? false s
      let (directives, s) ← directives? (s.length + 1) false s
      let (selections, s) ← match next s with
        | '\x7b' :: s => selections? fuel [] s
        | s => some ([], s)
      return (.field key name arguments directives selections, s)
  termination_by structural fuel

/-- Selections in place, after their condition. -/
def inline? (fuel : Nat) (condition : Option String) (s : List Char) :
    Option (Selection × List Char) :=
  match fuel with
  | 0 => none
  | fuel + 1 => do
    let (directives, s) ← directives? (s.length + 1) false s
    let s ← keyword? "\x7b" (next s)
    let (selections, s) ← selections? fuel [] s
    return (.inline condition directives selections, s)
  termination_by structural fuel

/-- The selections up to the closing brace, of which there is at least one, given those read so
far, last first. -/
def selections? (fuel : Nat) (read : List Selection) (s : List Char) :
    Option (List Selection × List Char) :=
  match fuel with
  | 0 => none
  | fuel + 1 =>
    match next s with
    | '\x7d' :: s => if read.isEmpty then none else some (read.reverse, s)
    | s =>
      match selection? fuel s with
      | some (selection, s) => selections? fuel (selection :: read) s
      | none => none
  termination_by structural fuel

end

/-- The selections in braces. -/
def selectionSet? (s : List Char) : Option (List Selection × List Char) := do
  let s ← keyword? "\x7b" (next s)
  selections? (3 * s.length + 3) [] s

/-! ## Definitions -/

def variableDefinition? (s : List Char) : Option (VariableDefinition × List Char) := do
  let s ← keyword? "$" (next s)
  let (name, s) ← name? (next s)
  let s ← keyword? ":" (next s)
  let (type, s) ← type? (s.length + 1) (next s)
  let (_, s) ← directives? (s.length + 1) true s
  match next s with
  | '=' :: s => do
    let (value, s) ← value? (2 * s.length + 2) true s
    return (⟨name, type, some value⟩, s)
  | s => return (⟨name, type, none⟩, s)

/-- The variables up to the closing bracket, given those read so far, last first. -/
def variableList? (fuel : Nat) (read : List VariableDefinition) (s : List Char) :
    Option (List VariableDefinition × List Char) :=
  match fuel with
  | 0 => none
  | fuel + 1 =>
    match next s with
    | ')' :: s => some (read.reverse, s)
    | s => do
      let (definition, s) ← variableDefinition? s
      variableList? fuel (definition :: read) s

/-- The rest of an operation after its keyword. -/
def operationTail? (kind : OperationKind) (s : List Char) : Option (Operation × List Char) := do
  let (name, s) := match name? (next s) with
    | some (name, s) => (some name, s)
    | none => (none, s)
  let (parameters, s) ← match next s with
    | '(' :: s => variableList? (s.length + 1) [] s
    | s => some ([], s)
  let (directives, s) ← directives? (s.length + 1) false s
  let (selections, s) ← selectionSet? s
  return (⟨kind, name, parameters, directives, selections⟩, s)

def operation? (s : List Char) : Option (Operation × List Char) :=
  match keyword? "query" s, keyword? "mutation" s, keyword? "subscription" s with
  | some s, _, _ => operationTail? .query s
  | _, some s, _ => operationTail? .mutation s
  | _, _, some s => operationTail? .subscription s
  | _, _, _ => (selectionSet? s).map fun (selections, s) =>
    (⟨.query, none, [], [], selections⟩, s)

def fragmentDefinition? (s : List Char) : Option (FragmentDefinition × List Char) := do
  let s ← keyword? "fragment" s
  let (name, s) ← name? (next s)
  let (condition, s) ← condition? s
  let (directives, s) ← directives? (s.length + 1) false s
  let (selections, s) ← selectionSet? s
  return (⟨name, condition, directives, selections⟩, s)

/-- All definitions of a text. -/
def definitions? (fuel : Nat) (d : Document) (s : List Char) : Option Document :=
  match fuel with
  | 0 => none
  | fuel + 1 =>
    match next s with
    | [] => some d
    | s =>
      match operation? s with
      | some (operation, s) =>
        definitions? fuel { d with operations := d.operations ++ [operation] } s
      | none => do
        let (fragment, s) ← fragmentDefinition? s
        definitions? fuel { d with fragments := d.fragments ++ [fragment] } s

/-! ## Documents -/

/-- Names tell the definitions apart: a nameless operation is alone, and no two operations and no
two fragments have one name. -/
def WellNamed (d : Document) : Prop :=
  (d.operations.map Operation.name).Nodup ∧ (d.fragments.map FragmentDefinition.name).Nodup ∧
    (none ∈ d.operations.map Operation.name → d.operations.length = 1)

instance (d : Document) : Decidable d.WellNamed := by unfold WellNamed; infer_instance

mutual

/-- A selection nests at most `depth` levels deep, fragments included. -/
def Selection.fits (d : Document) : Nat → Selection → Bool
  | depth, .field _ _ _ _ selections =>
    selections.isEmpty || match depth with
      | 0 => false
      | depth + 1 => fitAll d depth selections
  | depth, .spread name _ =>
    match d.fragment? name with
    | none => true
    | some fragment => match depth with
      | 0 => false
      | depth + 1 => fitAll d depth fragment.selections
  | depth, .inline _ _ selections => match depth with
    | 0 => false
    | depth + 1 => fitAll d depth selections
  termination_by depth selection => (depth, sizeOf selection)

def fitAll (d : Document) : Nat → List Selection → Bool
  | _, [] => true
  | depth, selection :: rest => selection.fits d depth && fitAll d depth rest
  termination_by depth selections => (depth, sizeOf selections)

end

/-- How deep the selections of an operation may nest. -/
def maxNesting : Nat := 32

/-- The document of a text: with at least one operation, with distinct names, and not nested too
deep, which also keeps a fragment from containing itself. -/
def read? (text : String) : Option Document := do
  let s := text.toList
  let d ← definitions? (s.length + 1) ⟨[], []⟩ s
  if d.operations ≠ [] ∧ d.WellNamed ∧ d.operations.all (fun o => fitAll d maxNesting o.selections)
  then return d
  else none

end FacetSearch.Document
