import GLBindings.Toml.Quoted
import GLBindings.Toml.Scalar
import GLBindings.Toml.Value

namespace GLBindings.Toml

/-!
# Toml — documents

* `key`, `value` — what stands on the sides of an equals sign.
* `Statement` — a key with its value, or a header.
* `statements` — the statements of a text.
* `parse?` — the table that a document describes.

A value can hold values, so reading it takes fuel; the number of characters always suffices. How
deep values and keys can be nested is limited by `maxDepth`.
-/

/-- How many brackets and braces can be open at once in a value, and how many parts a key can
have. -/
def maxDepth : Nat := 80

/-! ### Between statements -/

/-- What follows white space, line ends and comments; `none` if a comment holds a control
character. -/
def skipFiller (inComment : Bool) : List Char → Option (List Char)
  | [] => some []
  | c :: rest =>
    if startsNewline (c :: rest) then skipFiller (inComment && c == '\r') rest
    else if inComment then if isLineChar c then skipFiller true rest else none
    else if isSpace c then skipFiller false rest
    else if c = '#' then skipFiller true rest
    else some (c :: rest)

/-- What follows spaces and tabs. -/
def skipSpace (cs : List Char) : List Char :=
  cs.dropWhile isSpace

/-- Is there nothing more in the line but a comment? -/
def isLineEnd (cs : List Char) : Bool :=
  cs = [] || cs.head? = some '#' || startsNewline cs

/-- What follows a character, which must be in front. -/
def expect (c : Char) (cs : List Char) : Option (List Char) :=
  if cs.head? = some c then some (cs.drop 1) else none

/-! ### Keys -/

/-- Can the character be in a key without quotation marks? -/
def isBareChar (c : Char) : Bool :=
  c.isAlphanum || c == '_' || c == '-'

/-- One part of a key. -/
def simpleKey (cs : List Char) : Option (String × List Char) :=
  match cs with
  | '"' :: rest => (basic rest).map fun (text, rest) => (String.ofList text, rest)
  | '\'' :: rest => (literal rest).map fun (text, rest) => (String.ofList text, rest)
  | _ =>
    match cs.takeWhile isBareChar with
    | [] => none
    | bare => some (String.ofList bare, cs.drop bare.length)

/-- A key of so many parts at most: the parts before the last, and the last. -/
def keyWithin (limit : Nat) (cs : List Char) : Option ((List String × String) × List Char) := do
  match limit with
  | 0 => none
  | limit + 1 =>
    let (first, rest) ← simpleKey cs
    match skipSpace rest with
    | '.' :: rest =>
      let ((path, last), rest) ← keyWithin limit (skipSpace rest)
      some ((first :: path, last), rest)
    | _ => some (([], first), rest)

/-- A key: its parts before the last, and the last. -/
def key (cs : List Char) : Option ((List String × String) × List Char) :=
  keyWithin maxDepth cs

/-! ### Values -/

/-- A text value and what follows it. -/
def textValue (p : Piece) : Option (Value × List Char) :=
  p.map fun (text, rest) => (.text (String.ofList text), rest)

/-- A value without quotation marks and brackets. -/
def scalarValue (cs : List Char) : Option (Value × List Char) :=
  let run := scalarRun cs
  if isScalar run then some (.scalar (String.ofList run), cs.drop run.length) else none

mutual

/-- A value with at most so many open brackets, and what follows it. -/
def value (fuel depth : Nat) (cs : List Char) : Option (Value × List Char) := do
  match fuel with
  | 0 => none
  | fuel + 1 =>
    match cs with
    | '"' :: '"' :: '"' :: rest => textValue (multilineBasic false (dropNewline rest))
    | '"' :: rest => textValue (basic rest)
    | '\'' :: '\'' :: '\'' :: rest => textValue (multilineLiteral (dropNewline rest))
    | '\'' :: rest => textValue (literal rest)
    | '[' :: rest =>
      guard (0 < depth)
      let (items, rest) ← arrayItems fuel (depth - 1) rest
      some (.array items, rest)
    | '\x7b' :: rest =>
      guard (0 < depth)
      let (entries, rest) ← inlineEntries fuel (depth - 1) [] rest
      some (.table .inline entries, rest)
    | cs => scalarValue cs

/-- The items of an array up to its closing bracket; a comma may stand behind the last. -/
def arrayItems (fuel depth : Nat) (cs : List Char) : Option (List Value × List Char) := do
  match fuel with
  | 0 => none
  | fuel + 1 =>
    match ← skipFiller false cs with
    | ']' :: rest => some ([], rest)
    | cs =>
      let (item, rest) ← value fuel depth cs
      match ← skipFiller false rest with
      | ']' :: rest => some ([item], rest)
      | ',' :: rest =>
        let (items, rest) ← arrayItems fuel depth rest
        some (item :: items, rest)
      | _ => none

/-- The entries of a table between braces up to the closing one, added to those before; a comma may
stand behind the last, and lines may end everywhere but in keys. -/
def inlineEntries (fuel depth : Nat) (before : Table) (cs : List Char) :
    Option (Table × List Char) := do
  match fuel with
  | 0 => none
  | fuel + 1 =>
    match ← skipFiller false cs with
    | '\x7d' :: rest => some (before, rest)
    | cs =>
      let ((path, last), rest) ← key cs
      let rest ← expect '=' (← skipFiller false rest)
      let (item, rest) ← value fuel depth (← skipFiller false rest)
      let entries ← before.insertAt path last item
      match ← skipFiller false rest with
      | '\x7d' :: rest => some (entries, rest)
      | ',' :: rest => inlineEntries fuel depth entries rest
      | _ => none

end

/-! ### Statements -/

/-- What a line of a document says. -/
inductive Statement where
  /-- A key has a value. -/
  | entry (path : List String) (key : String) (value : Value)
  /-- A table begins. -/
  | header (path : List String) (key : String)
  /-- A further table of several begins. -/
  | arrayHeader (path : List String) (key : String)
  deriving Repr

/-- One statement and what follows it. -/
def statement (fuel : Nat) (cs : List Char) : Option (Statement × List Char) := do
  match cs with
  | '[' :: '[' :: rest =>
    let ((path, last), rest) ← key (skipSpace rest)
    some (.arrayHeader path last, ← expect ']' (← expect ']' (skipSpace rest)))
  | '[' :: rest =>
    let ((path, last), rest) ← key (skipSpace rest)
    some (.header path last, ← expect ']' (skipSpace rest))
  | cs =>
    let ((path, last), rest) ← key cs
    let (item, rest) ← value fuel maxDepth (skipSpace (← expect '=' (skipSpace rest)))
    some (.entry path last item, rest)

/-- All statements, each in a line of its own. -/
def statements (fuel : Nat) (cs : List Char) : Option (List Statement) := do
  match fuel with
  | 0 => none
  | fuel + 1 =>
    match ← skipFiller false cs with
    | [] => some []
    | cs =>
      let (first, rest) ← statement fuel cs
      let rest := skipSpace rest
      if isLineEnd rest then some (first :: (← statements fuel rest)) else none

/-! ### Tables -/

/-- A key with its path and its value. -/
abbrev Entry := List String × String × Value

/-- A header with the entries under it. -/
structure Section where
  /-- Does the header stand between double brackets? -/
  isArray : Bool
  path : List String
  key : String
  entries : List Entry

/-- The entries in front of all headers, and the sections. -/
def sections : List Statement → List Entry × List Section
  | [] => ([], [])
  | .entry path key value :: rest =>
    let (entries, others) := sections rest
    ((path, key, value) :: entries, others)
  | .header path key :: rest =>
    let (entries, others) := sections rest
    ([], ⟨false, path, key, entries⟩ :: others)
  | .arrayHeader path key :: rest =>
    let (entries, others) := sections rest
    ([], ⟨true, path, key, entries⟩ :: others)

/-- Sets entries in order. -/
def Table.fill (entries : List Entry) (t : Table) : Option Table :=
  entries.foldlM (fun t (path, key, value) => t.insertAt path key value) t

/-- Adds a section. -/
def Table.addSection (t : Table) (s : Section) : Option Table :=
  if s.isArray then t.appendAt s.path s.key (Table.fill s.entries)
  else t.openAt s.path s.key (Table.fill s.entries)

/-- The table that statements describe. -/
def Table.ofStatements (list : List Statement) : Option Table := do
  let (entries, others) := sections list
  others.foldlM Table.addSection (← Table.fill entries [])

/-- The table that a document describes. A byte order mark in front is skipped. -/
def parse? (s : String) : Option Table := do
  let cs := match s.toList with
    | '\uFEFF' :: cs => cs
    | cs => cs
  Table.ofStatements (← statements (cs.length + 1) cs)

end GLBindings.Toml
