import Dialogue.Toml.Item
import Dialogue.Toml.Literal

/-!
# TOML documents

A document is read line by line: a header says which table the entries after it
belong to. `parse?` gives the table of the whole document, or nothing if it is not
well formed.
-/

namespace Dialogue.Toml

/-- Keys and values nested deeper than this are refused. -/
def levelLimit : Nat := 79

/-! ## Spaces, comments and keys -/

/-- What follows spaces and a comment up to the end of the line, which must be all
    there is. -/
def endOfLine? (input : List Char) : Option (List Char) :=
  let rest := input.dropWhile isSpace
  let rest := match rest with
    | '#' :: comment => comment.dropWhile isCommentChar
    | rest => rest
  if rest.isEmpty then some [] else lineEnd? rest

/-- What follows spaces, line ends and whole comments; inside a comment a line end
    is due. -/
def skipLines? (inComment : Bool) : List Char → Option (List Char)
  | [] => if inComment then none else some []
  | '\r' :: '\n' :: rest => skipLines? false rest
  | '\n' :: rest => skipLines? false rest
  | c :: rest =>
    if inComment then (if isCommentChar c then skipLines? true rest else none)
    else if isSpace c then skipLines? false rest
    else if c = '#' then skipLines? true rest
    else some (c :: rest)

/-- The characters of keys without quotes. -/
def isKeyChar (c : Char) : Bool :=
  c.isAlphanum || c == '-' || c == '_'

/-- A key, in quotes or not. -/
def key? (input : List Char) : Option (String × List Char) :=
  match line? input with
  | some (cs, rest) => some (String.ofList cs, rest)
  | none =>
    let word := input.takeWhile isKeyChar
    if word.isEmpty then none else some (String.ofList word, input.dropWhile isKeyChar)

/-- Keys with points between them, at most so many, and what follows them. -/
def keys? : Nat → List Char → Option (List String × List Char)
  | 0, _ => none
  | count + 1, input => do
    let (key, rest) ← key? (input.dropWhile isSpace)
    match rest.dropWhile isSpace with
    | '.' :: rest =>
      let (more, rest) ← keys? count rest
      some (key :: more, rest)
    | rest => some ([key], rest)

/-- A dotted key as the keys it passes through and its own. -/
def splitKeys : List String → List String × String
  | [] => ([], "")
  | [key] => ([], key)
  | key :: rest => let (path, last) := splitKeys rest; (key :: path, last)

/-- A dotted key and what follows it. -/
def dottedKey? (input : List Char) : Option ((List String × String) × List Char) :=
  (keys? levelLimit input).map fun (keys, rest) => (splitKeys keys, rest)

/-! ## Values -/

mutual

/-- A value inside `level` arrays and tables in braces, and what follows it. The
    fuel bounds the number of steps. -/
def item? (fuel level : Nat) (input : List Char) : Option (Item × List Char) :=
  match fuel with
  | 0 => none
  | fuel + 1 =>
    match input with
    | '[' :: rest =>
      if level < levelLimit then items? fuel (level + 1) [] rest else none
    | '{' :: rest =>
      if level < levelLimit then
        match rest.dropWhile isSpace with
        | '}' :: rest => some (.table .braces [], rest)
        | rest => entries? fuel (level + 1) [] rest
      else none
    | 't' :: 'r' :: 'u' :: 'e' :: rest => some (.bool true, rest)
    | 'f' :: 'a' :: 'l' :: 's' :: 'e' :: rest => some (.bool false, rest)
    | c :: rest =>
      if c = '"' ∨ c = '\'' then
        (string? (c :: rest)).map fun (cs, rest) => (.string (String.ofList cs), rest)
      else
        match moment? (c :: rest) with
        | some rest => some (.moment, rest)
        | none =>
          (number? (c :: rest)).map fun (i, rest) =>
            (match i with | some i => .integer i | none => .float, rest)
    | [] => none

/-- The rest of an array from an item or its end on, with the items before it, the
    newest first. -/
def items? (fuel level : Nat) (read : List Item) (input : List Char) :
    Option (Item × List Char) :=
  match fuel with
  | 0 => none
  | fuel + 1 =>
    match skipLines? false input with
    | some (']' :: rest) => some (.array read.reverse, rest)
    | some rest =>
      match item? fuel level rest with
      | none => none
      | some (item, rest) =>
        match skipLines? false rest with
        | some (']' :: rest) => some (.array (item :: read).reverse, rest)
        | some (',' :: rest) => items? fuel level (item :: read) rest
        | _ => none
    | none => none

/-- The rest of a table in braces from an entry on, with the entries before it. All
    stands on one line, and nothing follows a last comma. -/
def entries? (fuel level : Nat) (read : Table) (input : List Char) :
    Option (Item × List Char) :=
  match fuel with
  | 0 => none
  | fuel + 1 =>
    match dottedKey? input with
    | some ((path, key), '=' :: rest) =>
      match item? fuel level (rest.dropWhile isSpace) with
      | none => none
      | some (item, rest) =>
        match Table.define key item false (!path.isEmpty) path read with
        | none => none
        | some read =>
          match rest.dropWhile isSpace with
          | '}' :: rest => some (.table .braces read, rest)
          | ',' :: rest => entries? fuel level read rest
          | _ => none
    | _ => none

end

/-- A value, and what follows it. -/
def value? (input : List Char) : Option (Item × List Char) :=
  item? (2 * input.length + 1) 0 input

/-! ## Lines -/

/-- What a line says. -/
inductive Line where
  | blank
  /-- The entries that follow belong to this table. -/
  | header (path : List String) (key : String)
  /-- They belong to a new element of this array of tables. -/
  | element (path : List String) (key : String)
  | entry (path : List String) (key : String) (item : Item)
  deriving Repr

/-- A line, and what follows it. -/
def readLine? (input : List Char) : Option (Line × List Char) :=
  match input.dropWhile isSpace with
  | '[' :: '[' :: rest =>
    match dottedKey? rest with
    | some ((path, key), ']' :: ']' :: rest) =>
      (endOfLine? rest).map fun rest => (.element path key, rest)
    | _ => none
  | '[' :: rest =>
    match dottedKey? rest with
    | some ((path, key), ']' :: rest) =>
      (endOfLine? rest).map fun rest => (.header path key, rest)
    | _ => none
  | rest =>
    match endOfLine? rest with
    | some rest => some (.blank, rest)
    | none =>
      match dottedKey? rest with
      | some ((path, key), '=' :: rest) =>
        match value? (rest.dropWhile isSpace) with
        | some (item, rest) => (endOfLine? rest).map fun rest => (.entry path key item, rest)
        | none => none
      | _ => none

/-- A document as far as it is read. -/
structure Document where
  root : Table := []
  /-- The table that entries belong to. -/
  current : List String := []

/-- Take in a line. -/
def Document.step (d : Document) : Line → Option Document
  | .blank => some d
  | .header path key =>
    (Table.within (Table.open? key) path d.root).map fun root => ⟨root, path ++ [key]⟩
  | .element path key =>
    (Table.within (Table.openElement? key) path d.root).map fun root => ⟨root, path ++ [key]⟩
  | .entry path key item =>
    (Table.within (Table.define key item false (!path.isEmpty) path) d.current d.root).map
      fun root => { d with root }

/-- Take in the lines of the input. The fuel bounds their number. -/
def Document.read (fuel : Nat) (d : Document) (input : List Char) : Option Document :=
  match fuel with
  | 0 => none
  | fuel + 1 =>
    if input.isEmpty then some d
    else
      match readLine? input with
      | none => none
      | some (line, rest) => (d.step line).bind fun d => Document.read fuel d rest

/-- The table of a document. A mark of the byte order may stand in front. -/
def parse? (text : String) : Option Table :=
  let input := match text.toList with
    | '\uFEFF' :: rest => rest
    | cs => cs
  (Document.read (input.length + 1) {} input).map (·.root)

end Dialogue.Toml
