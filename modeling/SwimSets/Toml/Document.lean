import SwimSets.Toml.Number

/-!
# TOML documents

A document is a list of statements, one to a line: a header that opens a table, a header in double
brackets that opens a further table of a list, or a key with its value. The statements are read
first (`statements`) and then carried out from the top (`Statement.perform`), which is where a key
that is there already is refused.

Values nest to a depth of `maxDepth`, and so do the tables that one key with dots names.

With `quote` and `read` there is a way for the program to write and read TOML (`Format.known`).
-/

namespace SwimSets.Toml

open Reader

/-- How deep values may nest, and how many parts a key may have. -/
def maxDepth : Nat := 79

/-- Spaces and tabs. -/
def spaces : Reader Unit := do
  let _ ← run fun c => c == ' ' || c == '\t'

/-- A comment, up to the end of its line. -/
def comment : Reader Unit := do
  exactly "#"
  let _ ← run isPrintable

/-- Spaces, newlines and comments between the items of an array. -/
def gaps : Reader Unit := do
  let _ ← many (oneOf [do let _ ← char fun c => c == ' ' || c == '\t', newline,
    do comment; newline])

/-- One key. -/
def simpleKey : Reader Text :=
  oneOf [basicText, literalText,
    do
      let c ← char isKeyChar
      return c :: (← run isKeyChar)]

/-- A key: its parts with dots between them, at most `maxDepth` of them. -/
def key : Reader (List Text) := do
  spaces
  let ks ← sepBy1 (do spaces; exactly "."; spaces) simpleKey
  spaces
  if ks.length ≤ maxDepth then return ks else failure

/-- A boolean. -/
def boolean : Reader Value :=
  oneOf [do exactly "true"; return .boolean true, do exactly "false"; return .boolean false]

/-- A value that holds no others. -/
def leaf : Reader Value := oneOf [do return .text (← quoted), boolean, number]

/-- A key, an equals sign and a value. -/
def pair (node : Reader Node) : Reader (List Text × Node) := do
  let ks ← key
  exactly "="
  spaces
  return (ks, ← node)

/-- The items of an array and its closing bracket. -/
def arrayTail (node : Reader Node) : Reader Node := do
  gaps
  let first ← maybe node
  match first with
  | none =>
    exactly "]"
    return .array []
  | some n =>
    let ns ← many (do gaps; exactly ","; gaps; node)
    gaps
    let _ ← maybe (exactly ",")
    gaps
    exactly "]"
    return .array (n :: ns)

/-- The pairs of a table in braces, put into it one after another. -/
def inlineTable (pairs : List (List Text × Node)) : Option Node :=
  (pairs.foldlM (fun (s : Origin × Nodes) (p : List Text × Node) =>
    p.1.getLast?.bind fun k => putPair p.1.dropLast k p.2 s.1 s.2) (Origin.inline, [])).map
      fun s => .table s.1 s.2

/-- The pairs of a table in braces and the closing brace. -/
def inlineTail (node : Reader Node) : Reader Node := do
  let pairs ← maybe (sepBy1 (exactly ",") (do let p ← pair node; spaces; return p))
  spaces
  let _ ← char (· == '\x7d')
  fun t => (inlineTable (pairs.getD [])).map fun n => (n, t)

/-- A value that holds others to a given depth. -/
def node : Nat → Reader Node
  | 0 => do return .leaf (← leaf)
  | depth + 1 =>
    oneOf [do return .leaf (← leaf),
      do exactly "["; arrayTail (node depth),
      do let _ ← char (· == '\x7b'); inlineTail (node depth)]

/-! ## Statements -/

/-- A line of a document that says something. -/
inductive Statement where
  /-- A header that opens a table. -/
  | table (path : List Text)
  /-- A header that opens a further table of a list. -/
  | row (path : List Text)
  /-- A key with its value. -/
  | pair (path : List Text) (value : Node)

/-- A header. -/
def header : Reader Statement :=
  oneOf [do
      exactly "[["
      let ks ← key
      exactly "]]"
      return .row ks,
    do
      exactly "["
      let ks ← key
      exactly "]"
      return .table ks]

/-- A statement. -/
def statement : Reader Statement :=
  oneOf [header, do
    let (ks, v) ← pair (node maxDepth)
    return .pair ks v]

/-- A line with its end, or the last line of the document; at least one character. -/
def line : Reader (Option Statement) := fun t =>
  if t.isEmpty then none
  else
    (do
      spaces
      let s ← maybe statement
      spaces
      let _ ← maybe comment
      oneOf [newline, atEnd]
      return s : Reader (Option Statement)) t

/-- The document without a byte order mark at its start. -/
def dropMark : Text → Text
  | [] => []
  | c :: r => if c.toNat = 0xFEFF then r else c :: r

/-- The statements of a document. -/
def statements (t : Text) : Option (List Statement) :=
  match many line (dropMark t) with
  | some (ls, []) => some (ls.filterMap id)
  | _ => none

/-- A document being carried out: the header that holds, and the entries so far. -/
structure Progress where
  header : List Text
  entries : Nodes

namespace Statement

/-- A change of the whole document by its path and last key. -/
def onPath (path : List Text)
    (change : List Text → Text → Origin → Nodes → Option (Origin × Nodes)) (es : Nodes) :
    Option Nodes :=
  path.getLast?.bind fun k => (change path.dropLast k .explicit es).map (·.2)

/-- A statement carried out. -/
def perform (p : Progress) : Statement → Option Progress
  | .table path => (onPath path openTable p.entries).map fun es => ⟨path, es⟩
  | .row path => (onPath path appendTable p.entries).map fun es => ⟨path, es⟩
  | .pair path v =>
    (descend false (fun o es =>
      path.getLast?.bind fun k => putPair path.dropLast k v o es) p.header .explicit p.entries).map
        fun new => ⟨p.header, new.2⟩

end Statement

/-- The entries of a document, if it is one. -/
def read (t : Text) : Option Entries :=
  (statements t).bind fun ss => (ss.foldlM Statement.perform ⟨[], []⟩).map fun p =>
    Node.entries p.entries

/-- The writer and the reader of the program. -/
instance Format.known : Format := ⟨Toml.quote, Toml.read⟩

end SwimSets.Toml
