import SchemaBeans.Yaml.Fault
import SchemaBeans.Yaml.Token
import SchemaBeans.Yaml.Tree

/-!
# Yaml — Tree — Builder

Making a tree of tokens.  Where a node may be left out, an empty scalar stands for it.  A document
is one node, with directives and markers around it, and there is no more than one document.

The functions that read nodes call each other with less fuel each time, so fuel in proportion to
the number of tokens is enough for any text.
-/

namespace SchemaBeans.Yaml

/-- The tokens that are left, and the names that are known. -/
structure Supply where
  tokens : List Token
  /-- The anchors by name, each with its number. -/
  anchors : List (String × Nat) := []
  /-- What handles stand for. -/
  handles : List (String × TagText) := []
  deriving DecidableEq, Repr

namespace Supply

/-- The next token. -/
def next? (s : Supply) : Option Token := s.tokens.head?

/-- The next token is this one. -/
def isAt (s : Supply) (t : Token) : Bool := s.next? == some t

/-- The next token is one of these. -/
def isAtAny (s : Supply) (ts : List Token) : Bool := s.next?.any ts.contains

/-- Goes over the next token. -/
def skip (s : Supply) : Supply := { s with tokens := s.tokens.tail }

/-- Gives a name to the anchor that comes next, whose number is the number of names so far. -/
def anchor (s : Supply) (name : String) : Nat × Supply :=
  (s.anchors.length,
    { s with
      anchors :=
        if s.anchors.any (·.1 == name) then
          s.anchors.map fun (n, number) => if n = name then (n, s.anchors.length) else (n, number)
        else s.anchors ++ [(name, s.anchors.length)] })

/-- The tag that a handle and a suffix make. -/
def tag? (s : Supply) (handle : String) (suffix : TagText) : Option TagText :=
  if handle = "" then some suffix else (s.handles.lookup handle).map (· ++ suffix)

end Supply

/-- Reads the anchor and the tag in front of a node, in either order.  The anchor is named here and
numbered once the node is known to follow. -/
def properties (s : Supply) : (Option String × Option (String × TagText)) × Supply :=
  match s.tokens with
  | .anchor name :: .tag handle suffix :: ts =>
    ((some name, some (handle, suffix)), { s with tokens := ts })
  | .tag handle suffix :: .anchor name :: ts =>
    ((some name, some (handle, suffix)), { s with tokens := ts })
  | .anchor name :: ts => ((some name, none), { s with tokens := ts })
  | .tag handle suffix :: ts => ((none, some (handle, suffix)), { s with tokens := ts })
  | _ => ((none, none), s)

/-- Numbers the anchor of a node and resolves its tag. -/
def Supply.resolve (s : Supply) (anchor : Option String) (tag : Option (String × TagText)) :
    Option (Properties × Supply) := do
  let tag ← match tag with
    | none => some none
    | some (handle, suffix) => (s.tag? handle suffix).map some
  match anchor with
  | none => return ({ tag := tag }, s)
  | some name =>
    let (number, s) := s.anchor name
    return ({ anchor := some number, tag := tag }, s)

/-- The empty scalar that an anchor or a tag belongs to if no node follows it. -/
def emptyNode (p : Properties) (s : Supply) : Option (Tree × Supply) :=
  if p = {} then none else some (.scalar p true "", s)

mutual

/-- Reads a node.  Block collections are read only in a block context, and a sequence that is not
indented only as the key or the value of a block mapping. -/
def node (inBlock unindented : Bool) : (fuel : Nat) → Supply → Option (Tree × Supply)
  | 0, _ => none
  | fuel + 1, s =>
    match s.next? with
    | some (.alias name) => (s.anchors.lookup name).map fun number => (.alias number, s.skip)
    | _ =>
      let ((anchor, tag), s) := properties s
      match s.resolve anchor tag with
      | none => none
      | some (p, s) =>
        match s.next? with
        | some .blockEntry =>
          if unindented then
            (unindentedItems fuel s).map fun (items, s) => (.sequence p items, s)
          else emptyNode p s
        | some (.scalar plain text) =>
          some (.scalar p plain text, s.skip)
        | some .flowSequenceStart =>
          (flowItems true fuel s.skip).map fun (items, s) => (.sequence p items, s)
        | some .flowMappingStart =>
          (flowEntries true fuel s.skip).map fun (entries, s) => (.mapping p entries, s)
        | some .blockSequenceStart =>
          if inBlock then (blockItems fuel s.skip).map fun (items, s) => (.sequence p items, s)
          else emptyNode p s
        | some .blockMappingStart =>
          if inBlock then (blockEntries fuel s.skip).map fun (entries, s) => (.mapping p entries, s)
          else emptyNode p s
        | _ => emptyNode p s

/-- Reads a node, or nothing in front of one of the given tokens. -/
def nodeUnless (inBlock unindented : Bool) (stops : List Token) :
    (fuel : Nat) → Supply → Option (Tree × Supply)
  | 0, _ => none
  | fuel + 1, s =>
    if s.isAtAny stops then some (.empty, s) else node inBlock unindented fuel s

/-- Reads the items of a block sequence and its end. -/
def blockItems : (fuel : Nat) → Supply → Option (List Tree × Supply)
  | 0, _ => none
  | fuel + 1, s =>
    if s.isAt .blockEntry then do
      let (item, s) ← nodeUnless true false [.blockEntry, .blockEnd] fuel s.skip
      let (items, s) ← blockItems fuel s
      return (item :: items, s)
    else if s.isAt .blockEnd then some ([], s.skip)
    else none

/-- Reads the items of a sequence that is not indented. -/
def unindentedItems : (fuel : Nat) → Supply → Option (List Tree × Supply)
  | 0, _ => none
  | fuel + 1, s =>
    if s.isAt .blockEntry then do
      let (item, s) ← nodeUnless true false [.blockEntry, .key, .value, .blockEnd] fuel s.skip
      let (items, s) ← unindentedItems fuel s
      return (item :: items, s)
    else some ([], s)

/-- Reads the value of an entry, which may be left out. -/
def valueOrEmpty (inBlock : Bool) (stops : List Token) :
    (fuel : Nat) → Supply → Option (Tree × Supply)
  | 0, _ => none
  | fuel + 1, s =>
    if s.isAt .value then nodeUnless inBlock inBlock stops fuel s.skip else some (.empty, s)

/-- Reads the entries of a block mapping and its end. -/
def blockEntries : (fuel : Nat) → Supply → Option (List (Tree × Tree) × Supply)
  | 0, _ => none
  | fuel + 1, s =>
    if s.isAt .key then do
      let (key, s) ← nodeUnless true true [.key, .value, .blockEnd] fuel s.skip
      let (value, s) ← valueOrEmpty true [.key, .value, .blockEnd] fuel s
      let (entries, s) ← blockEntries fuel s
      return ((key, value) :: entries, s)
    else if s.isAt .blockEnd then some ([], s.skip)
    else none

/-- Reads the items of a flow sequence and its end; a comma comes between two of them. -/
def flowItems (isFirst : Bool) : (fuel : Nat) → Supply → Option (List Tree × Supply)
  | 0, _ => none
  | fuel + 1, s =>
    if s.isAt .flowSequenceEnd then some ([], s.skip)
    else if !isFirst && !s.isAt .flowEntry then none
    else
      let s := if isFirst then s else s.skip
      if s.isAt .flowSequenceEnd then some ([], s.skip)
      else do
        let (item, s) ← if s.isAt .key then pairItem fuel s.skip else node false false fuel s
        let (items, s) ← flowItems false fuel s
        return (item :: items, s)

/-- Reads an item that is a mapping of one entry, without braces.  If its key is left out, the token
after it is lost. -/
def pairItem : (fuel : Nat) → Supply → Option (Tree × Supply)
  | 0, _ => none
  | fuel + 1, s => do
    let (key, s) ←
      if s.isAtAny [.value, .flowEntry, .flowSequenceEnd] then some (.empty, s.skip)
      else node false false fuel s
    let (value, s) ← valueOrEmpty false [.flowEntry, .flowSequenceEnd] fuel s
    return (.mapping {} [(key, value)], s)

/-- Reads the entries of a flow mapping and its end; a comma comes between two of them. -/
def flowEntries (isFirst : Bool) : (fuel : Nat) → Supply → Option (List (Tree × Tree) × Supply)
  | 0, _ => none
  | fuel + 1, s =>
    if s.isAt .flowMappingEnd then some ([], s.skip)
    else if !isFirst && !s.isAt .flowEntry then none
    else
      let s := if isFirst then s else s.skip
      if s.isAt .flowMappingEnd then some ([], s.skip)
      else if s.isAt .key then do
        let stops := [.flowEntry, .flowMappingEnd]
        let (key, s) ← nodeUnless false false (.value :: stops) fuel s.skip
        let (value, s) ← valueOrEmpty false stops fuel s
        let (entries, s) ← flowEntries false fuel s
        return ((key, value) :: entries, s)
      else do
        let (key, s) ← node false false fuel s
        let (entries, s) ← flowEntries false fuel s
        return ((key, .empty) :: entries, s)

end

/-- Reads directives: one version at most, and no handle twice. -/
def directives : (hasVersion : Bool) → List (String × TagText) → List Token →
    Option (List (String × TagText) × List Token)
  | hasVersion, handles, .versionDirective major minor :: ts =>
    if hasVersion || major ≠ 1 || (minor ≠ 1 && minor ≠ 2) then none
    else directives true handles ts
  | hasVersion, handles, .tagDirective handle start :: ts =>
    if handles.any (·.1 == handle) then none
    else directives hasVersion (handles ++ [(handle, start)]) ts
  | _, handles, ts => some (handles, ts)

/-- The tokens at which a document is left empty. -/
def endsContent (s : Supply) : Bool :=
  match s.next? with
  | none | some .documentStart | some .documentEnd => true
  | some (.versionDirective _ _) | some (.tagDirective _ _) => true
  | _ => false

/-- Reads the node of a document from behind its directives. -/
def content (handles : List (String × TagText)) (ts : List Token) : Option (Tree × List Token) :=
  let supply (ts : List Token) : Supply := { tokens := ts, handles := handles ++ defaultHandles }
  let fuel := 4 * ts.length + 4
  let read (s : Supply) := (node true false fuel s).map fun (t, s) => (t, s.tokens)
  match ts with
  | .documentStart :: ts =>
    if endsContent (supply ts) then some (.empty, ts) else read (supply ts)
  | _ => read (supply ts)

/-- The tree of a text's tokens, if there is a document. -/
def Tree.ofTokens (ts : List Token) : Except Fault (Option Tree) :=
  match ts with
  | [] => .ok none
  | _ =>
    match directives false [] ts with
    | none => .error .node
    | some (handles, rest) =>
      if rest.length < ts.length ∧ rest.head? ≠ some .documentStart then .error .node
      else
        match content handles rest with
        | none => .error .node
        | some (tree, rest) =>
          if (rest.dropWhile (· == .documentEnd)).isEmpty then .ok (some tree)
          else .error .severalDocuments

end SchemaBeans.Yaml
