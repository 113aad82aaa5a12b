/-
Documents from YAML texts. Outside of brackets the columns make the structure: a collection is as
deep as its first item, and what it holds is deeper. A key stands on one line with its colon. A
text holds one document.
-/
import Xacml.Document.Yaml.Scalar

namespace Xacml.Document.Yaml

/-! ## Properties of nodes -/

/-- What may stand in front of a node. -/
structure Properties where
  anchor : Option String
  tag : Option String

def Properties.none : Properties := ⟨Option.none, Option.none⟩

def Properties.isEmpty (p : Properties) : Bool := p.anchor.isNone && p.tag.isNone

def isNameChar (c : Char) : Bool := c.isAlphanum || c == '_' || c == '-'

/-- Reads the name of an anchor. -/
def anchorName (s : Spot) : Option (String × Spot) :=
  let name := s.rest.takeWhile isNameChar
  let rest := s.rest.drop name.length
  let ends := endsWord rest || rest.head?.any fun c => "?:,]\x7d%@\x60".toList.contains c
  if name.isEmpty || !ends then none
  else some (String.ofList name, { s with rest, column := s.column + name.length })

/-- Reads a tag after its mark; only the two standard handles are known. -/
def tagName (flow : Bool) (s : Spot) : Option (String × Spot) :=
  let tag := s.rest.takeWhile fun c => !isBlank c && !(flow && isBracket c)
  let name := match tag with
    | '!' :: name => name
    | name => name
  if name.contains '!' then none
  else
    some (String.ofList tag,
      { s with rest := s.rest.drop tag.length, column := s.column + tag.length })

/-- Reads an anchor and a tag, each at most once, and the blanks of the line after them. -/
def properties (flow : Bool) : Nat → Properties → Spot → Option (Properties × Spot)
  | 0, p, s => some (p, s)
  | fuel + 1, p, s =>
    match s.rest with
    | '&' :: _ =>
      if p.anchor.isSome then none
      else do
        let (name, s) ← anchorName s.next
        properties flow fuel { p with anchor := some name } s.skipSpaces
    | '!' :: _ =>
      if p.tag.isSome then none
      else do
        let (name, s) ← tagName flow s.next
        properties flow fuel { p with tag := some name } s.skipSpaces
    | _ => some (p, s)

/-- The node with its properties, at the place after it. Under a tag, other than that of nulls, a
plain scalar is no null. -/
def finish (p : Properties) (n : Node) (s : Spot) : Node × Spot :=
  let n := if p.tag.all (· == "!null") then n else n.tag
  (n, s.anchor p.anchor n)

/-! ## Scalars -/

/-- Reads a scalar or an alias; `parent` is the indentation around it, `none` at the top. -/
def scalar (flow : Bool) (parent : Option Nat) (s : Spot) : Option (Node × Spot) :=
  match s.rest with
  | '*' :: _ => do
    let (name, after) ← anchorName s.next
    let n ← after.anchors.lookup name
    some (n, after)
  | '\'' :: rest => do
    let (t, after) ← singleFrom s.anchors [] s.line (s.column + 1) rest
    some (.quoted (String.ofList t), after)
  | '"' :: rest => do
    let (t, after) ← doubleFrom s.anchors (rest.length + 1) [] s.line (s.column + 1) rest
    some (.quoted (String.ofList t), after)
  | c :: _ =>
    if !flow && (c == '|' || c == '>') then do
      let (t, after) ← blockScalar (c == '>') (parent.getD 0) s.next
      some (.quoted (String.ofList t), after)
    else if startsPlain flow s.rest then do
      let indent := (parent.map (· + 1)).getD 0
      let (t, after) ← plainFrom flow indent s.anchors [] s.line s.column s.rest
      some (.plain (String.ofList t) false, after)
    else none
  | [] => none

/-! ## Between brackets -/

mutual

/-- Reads a node between brackets. Where a collection goes on, the node is empty. -/
def flowNode : Nat → Spot → Option (Node × Spot)
  | 0, _ => none
  | fuel + 1, s => do
    let s := s.skipFlow
    let (p, s) ← properties true 2 .none s
    let s := s.skipFlow
    match s.rest with
    | '[' :: _ =>
      let (items, after) ← flowItems fuel s.next
      some (finish p (.list items) after)
    | '\x7b' :: _ =>
      let (entries, after) ← flowEntries fuel s.next
      some (finish p (.record entries) after)
    | c :: _ =>
      if c = ',' ∨ c = ']' ∨ c = '\x7d' ∨ c = ':' then
        if p.isEmpty then none else some (finish p .empty s)
      else if s.isEnd then none
      else
        let (n, after) ← scalar true none s
        some (finish p n after)
    | [] => none

/-- Reads what follows a key between brackets: its value, if there is a colon on the line. -/
def flowValue : Nat → Nat → Spot → Option (Option Node × Spot)
  | 0, _, _ => none
  | fuel + 1, line, s =>
    let s := s.skipFlow
    match s.rest with
    | ':' :: _ =>
      if s.line = line then
        let after := s.next.skipFlow
        match after.rest with
        | ',' :: _ => some (some .empty, after)
        | ']' :: _ => some (some .empty, after)
        | '\x7d' :: _ => some (some .empty, after)
        | _ => (flowNode fuel after).map fun (n, after) => (some n, after)
      else none
    | _ => some (none, s)

/-- Reads an item between brackets: a node and, after a colon, its value. -/
def flowItem : Nat → Spot → Option ((Node × Option Node) × Spot)
  | 0, _ => none
  | fuel + 1, s => do
    let s := s.skipFlow
    if s.isAt '?' then
      let s := s.next.skipFlow
      match s.rest with
      | ',' :: _ => some ((.empty, some .empty), s)
      | ']' :: _ => some ((.empty, some .empty), s)
      | '\x7d' :: _ => some ((.empty, some .empty), s)
      | ':' :: _ =>
        let (v, after) ← flowValue fuel s.line s
        some ((.empty, some (v.getD .empty)), after)
      | _ =>
        let (n, s) ← flowNode fuel s
        let s := s.skipFlow
        let (v, after) ← flowValue fuel s.line s
        some ((n, some (v.getD .empty)), after)
    else
      let (n, after) ← flowNode fuel s
      let (v, after) ← flowValue fuel s.line after
      some ((n, v), after)

/-- Reads the items of a list up to its closing bracket. An item with a value is a record. -/
def flowItems : Nat → Spot → Option (List Node × Spot)
  | 0, _ => none
  | fuel + 1, s =>
    let s := s.skipFlow
    match s.rest with
    | ']' :: _ => some ([], s.next)
    | _ => do
      let ((n, v), after) ← flowItem fuel s
      let item := match v with
        | some v => .record [(n, v)]
        | none => n
      let after := after.skipFlow
      match after.rest with
      | ',' :: _ => (flowItems fuel after.next).map fun (items, after) => (item :: items, after)
      | ']' :: _ => some ([item], after.next)
      | _ => none

/-- Reads the entries of a record up to its closing brace. -/
def flowEntries : Nat → Spot → Option (List (Node × Node) × Spot)
  | 0, _ => none
  | fuel + 1, s =>
    let s := s.skipFlow
    match s.rest with
    | '\x7d' :: _ => some ([], s.next)
    | _ => do
      let ((n, v), after) ← flowItem fuel s
      let entry := (n, v.getD .empty)
      let after := after.skipFlow
      match after.rest with
      | ',' :: _ => (flowEntries fuel after.next).map fun (es, after) => (entry :: es, after)
      | '\x7d' :: _ => some ([entry], after.next)
      | _ => none

end

/-! ## Block context -/

/-- Reads a node that is not a block collection, without its properties. -/
def inlineNode (fuel : Nat) (parent : Option Nat) (s : Spot) : Option (Node × Spot) :=
  match s.rest with
  | '[' :: _ => (flowItems fuel s.next).map fun (items, after) => (.list items, after)
  | '\x7b' :: _ => (flowEntries fuel s.next).map fun (entries, after) => (.record entries, after)
  | _ => scalar false parent s

/-- Reads a key that stands on one line with its colon; gives the place after the colon. -/
def blockKey? (fuel : Nat) (parent : Option Nat) (s : Spot) : Option (Node × Spot) := do
  let (p, start) ← properties false 2 .none s
  let (n, after) ← if start.isAt ':' then some (.empty, start) else inlineNode fuel parent start
  let (n, after) := finish p n after
  let after := after.skipSpaces
  if after.line = s.line ∧ after.isAt ':' then some (n, after.next) else none

/-- Whether a place is deeper than the collection around it, if there is one. -/
def isDeeper (parent : Option Nat) (s : Spot) : Bool := parent.all (· < s.column)

mutual

/-- Reads a node in block context, in a collection of column `parent`. Where nothing is deeper than
the collection the node is empty, but a list of the column itself counts where `level` allows it.
`key` tells whether a key may start here. -/
def blockNode : Nat → Option Nat → Bool → Bool → Spot → Option (Node × Spot)
  | 0, _, _, _, _ => none
  | fuel + 1, parent, key, level, s =>
    let (s, key) := s.skip key
    if s.isEnd then some (.empty, s)
    else if !isDeeper parent s then
      if level && parent == some s.column && s.isAt '-' && key then
        (blockItems fuel s.column true s).map fun (items, after) => (.list items, after)
      else some (.empty, s)
    else if s.isAt '-' then
      if key then (blockItems fuel s.column false s).map fun (items, after) => (.list items, after)
      else none
    else if s.isAt '?' || (blockKey? fuel parent s).isSome then
      if key then (blockEntries fuel s.column s).map fun (es, after) => (.record es, after)
      else none
    else do
      let (p, start) ← properties false 2 .none s
      match start.rest with
      | [] => some (finish p .empty start)
      | c :: _ =>
        if !p.isEmpty && (c == '\n' || c == '#') then
          let (n, after) ← blockNode fuel parent true level start
          some (finish p n after)
        else
          let (n, after) ← inlineNode fuel parent start
          some (finish p n after)

/-- Reads the items of a list of column `column`; one that is level with the record around it ends
at the record's next key. -/
def blockItems : Nat → Nat → Bool → Spot → Option (List Node × Spot)
  | 0, _, _, _ => none
  | fuel + 1, column, level, s =>
    let (s, _) := s.skip false
    if s.isEnd || s.column < column then some ([], s)
    else if s.column = column ∧ s.isAt '-' then do
      let (n, after) ← blockNode fuel (some column) true false s.next
      let (items, after) ← blockItems fuel column level after
      some (n :: items, after)
    else if level && s.column == column then some ([], s)
    else none

/-- Reads the entries of a record of column `column`. -/
def blockEntries : Nat → Nat → Spot → Option (List (Node × Node) × Spot)
  | 0, _, _ => none
  | fuel + 1, column, s =>
    let (s, _) := s.skip false
    if s.isEnd || s.column < column then some ([], s)
    else if s.column ≠ column then none
    else do
      let (entry, after) ← blockEntry fuel column s
      let (es, after) ← blockEntries fuel column after
      some (entry :: es, after)

/-- Reads an entry of a record of column `column`. -/
def blockEntry : Nat → Nat → Spot → Option ((Node × Node) × Spot)
  | 0, _, _ => none
  | fuel + 1, column, s =>
    if s.isAt '?' then do
      let (k, after) ← blockNode fuel (some column) true true s.next
      let (s, _) := after.skip false
      if !s.isEnd && s.column == column && s.isAt ':' then
        let (n, after) ← blockNode fuel (some column) true true s.next
        some ((k, n), after)
      else some ((k, .empty), s)
    else if s.isAt ':' then none
    else do
      let (k, after) ← blockKey? fuel (some column) s
      let (n, after) ← blockNode fuel (some column) false true after
      some ((k, n), after)

end

/-! ## Documents -/

/-- Skips the lines in front of a document: comments, the version, and the marker of its start.
Tells too whether a key may start after them, which it may not on the marker's line. -/
def skipStart (s : Spot) : Option (Spot × Bool) :=
  let (s, _) := s.skip true
  match s.rest with
  | '%' :: _ =>
    if s.column = 0 ∧ (isVersion "%YAML 1.1" s ∨ isVersion "%YAML 1.2" s) then
      let line := s.rest.takeWhile (· != '\n')
      let (s, _) := { s with rest := s.rest.drop line.length }.skip true
      if isStart s then some ({ s with rest := s.rest.drop 3, column := 3 }, false) else none
    else none
  | _ =>
    if isStart s then some ({ s with rest := s.rest.drop 3, column := 3 }, false)
    else if s.column == 0 && isMarker s.rest then none
    else some (s, true)
where
  isStart (s : Spot) : Bool := s.column == 0 && isMarker s.rest && s.rest.head? == some '-'
  isVersion (version : String) (s : Spot) : Bool :=
    version.toList.isPrefixOf s.rest && endsWord (s.rest.drop version.length)

/-- Whether nothing but the marker of the end follows. -/
def isFinished (s : Spot) : Bool :=
  let (s, _) := s.skip false
  if s.column == 0 && isMarker s.rest && s.rest.head? == some '.' then
    ({ s with rest := s.rest.drop 3, column := 3 }.skip false).1.rest.isEmpty
  else s.rest.isEmpty

/-- The document of a text. An empty text holds an empty record. -/
def read? (source : String) : Option Document := do
  let chars := match source.toList with
    | '\ufeff' :: rest => rest
    | s => s
  if !chars.all isAllowed then none
  else
    let s := normalized chars
    let (start, key) ← skipStart ⟨s, 0, 0, []⟩
    let (n, after) ← blockNode (4 * s.length + 16) none key false start
    if !isFinished after then none
    else match n with
      | .plain "" _ => some (.record [])
      | n => n.document?

end Xacml.Document.Yaml
