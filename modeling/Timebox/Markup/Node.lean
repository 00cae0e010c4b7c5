import Timebox.Markup.Cursor
import Timebox.Markup.Token

/-!
# From tokens to nodes

A text of the markup holds one document, which is a node: a scalar, a list of nodes, or a map of
pairs of nodes. A node that is left out is an empty plain scalar. Each reader takes tokens from the
front and returns what is left; its depth of recursion is bounded by the number of tokens.
-/

namespace Timebox.Markup

/-- A node of a document. -/
inductive Node where
  | scalar (text : String) (plain : Bool)
  | list (items : List Node)
  | map (pairs : List (Node × Node))
  deriving Repr, Inhabited

namespace Node

/-- A node that is left out. -/
def empty : Node := .scalar "" true

/-- What a reader gives. -/
abbrev Reading (α : Type) := Except Defect (α × List Token)

/-- The next token is one of some. -/
def nextIs (ts : List Token) : List Token → Bool
  | [] => false
  | t :: _ => t.isOneOf ts

/-- The tokens are over or the next one is one of some. -/
def stopsAt (ts : List Token) : List Token → Bool
  | [] => true
  | t :: _ => t.isOneOf ts

/-- Put a node in front of those that are read after it. -/
def consReading {α : Type} (a : α) (rest : Reading (List α)) : Reading (List α) :=
  rest.map fun (as, ts) => (a :: as, ts)

/-- Why the next token cannot be read here: it is out of place, or the text breaks off. -/
def misplaced : List Token → Defect
  | .broken d :: _ => d
  | _ => .malformed

mutual

/-- A node. Block collections are only allowed outside brackets, and a sequence without indentation
of its own only as the content of a pair. -/
def readNode (inBlock inPair : Bool) : Nat → List Token → Reading Node
  | 0, _ => .error .malformed
  | fuel + 1, ts =>
    match ts with
    | .scalar text plain :: ts => .ok (.scalar text plain, ts)
    | .openList :: ts => (readItems true fuel ts).map fun (ns, ts) => (.list ns, ts)
    | .openMap :: ts => (readPairs true fuel ts).map fun (ps, ts) => (.map ps, ts)
    | .sequenceStart :: ts =>
      if inBlock then (readEntries true fuel ts).map fun (ns, ts) => (.list ns, ts)
      else .error .malformed
    | .mappingStart :: ts =>
      if inBlock then (readBlockPairs fuel ts).map fun (ps, ts) => (.map ps, ts)
      else .error .malformed
    | .entry :: _ =>
      if inPair then (readEntries false fuel ts).map fun (ns, ts) => (.list ns, ts)
      else .error .malformed
    | _ => .error (misplaced ts)

/-- A node, or an empty one if one of some tokens is next. -/
def readOptional (stops : List Token) (inBlock inPair : Bool) : Nat → List Token → Reading Node
  | 0, _ => .error .malformed
  | fuel + 1, ts =>
    if nextIs stops ts then .ok (empty, ts) else readNode inBlock inPair fuel ts

/-- The entries of a block sequence; one that is indented by itself is closed by a token. -/
def readEntries (closed : Bool) : Nat → List Token → Reading (List Node)
  | 0, _ => .error .malformed
  | fuel + 1, ts =>
    match ts with
    | .entry :: ts =>
      let stops := if closed then [.entry, .blockEnd] else [.entry, .key, .value, .blockEnd]
      match readOptional stops true false fuel ts with
      | .error e => .error e
      | .ok (n, ts) => consReading n (readEntries closed fuel ts)
    | .blockEnd :: rest => .ok ([], if closed then rest else ts)
    | _ => if closed then .error (misplaced ts) else .ok ([], ts)

/-- The content after the mark of a value; empty if there is no such mark. -/
def readContent (stops : List Token) (inBlock : Bool) : Nat → List Token → Reading Node
  | 0, _ => .error .malformed
  | fuel + 1, ts =>
    match ts with
    | .value :: ts => readOptional stops inBlock inBlock fuel ts
    | _ => .ok (empty, ts)

/-- The pairs of a block mapping up to its end. -/
def readBlockPairs : Nat → List Token → Reading (List (Node × Node))
  | 0, _ => .error .malformed
  | fuel + 1, ts =>
    match ts with
    | .key :: ts =>
      match readOptional [.key, .value, .blockEnd] true true fuel ts with
      | .error e => .error e
      | .ok (k, ts) =>
        match readContent [.key, .value, .blockEnd] true fuel ts with
        | .error e => .error e
        | .ok (v, ts) => consReading (k, v) (readBlockPairs fuel ts)
    | .blockEnd :: ts => .ok ([], ts)
    | _ => .error (misplaced ts)

/-- A pair that stands as a list item in brackets. -/
def readSinglePair : Nat → List Token → Reading Node
  | 0, _ => .error .malformed
  | fuel + 1, ts =>
    match readOptional [.value, .comma, .closeList] false false fuel ts with
    | .error e => .error e
    | .ok (k, ts) =>
      (readContent [.comma, .closeList] false fuel ts).map fun (v, ts) => (.map [(k, v)], ts)

/-- The items of a list in brackets; after the first, a comma comes before each. -/
def readItems (first : Bool) : Nat → List Token → Reading (List Node)
  | 0, _ => .error .malformed
  | fuel + 1, ts =>
    match ts with
    | .closeList :: ts => .ok ([], ts)
    | _ =>
      let ts? := if first then some ts else match ts with
        | .comma :: ts => some ts
        | _ => none
      match ts? with
      | none => .error (misplaced ts)
      | some (.closeList :: ts) => .ok ([], ts)
      | some (.key :: ts) =>
        match readSinglePair fuel ts with
        | .error e => .error e
        | .ok (n, ts) => consReading n (readItems false fuel ts)
      | some ts =>
        match readNode false false fuel ts with
        | .error e => .error e
        | .ok (n, ts) => consReading n (readItems false fuel ts)

/-- The pairs of a map in brackets; after the first, a comma comes before each. An item that is no
key has no value. -/
def readPairs (first : Bool) : Nat → List Token → Reading (List (Node × Node))
  | 0, _ => .error .malformed
  | fuel + 1, ts =>
    match ts with
    | .closeMap :: ts => .ok ([], ts)
    | _ =>
      let ts? := if first then some ts else match ts with
        | .comma :: ts => some ts
        | _ => none
      match ts? with
      | none => .error (misplaced ts)
      | some (.closeMap :: ts) => .ok ([], ts)
      | some (.key :: ts) =>
        match readOptional [.value, .comma, .closeMap] false false fuel ts with
        | .error e => .error e
        | .ok (k, ts) =>
          match readContent [.comma, .closeMap] false fuel ts with
          | .error e => .error e
          | .ok (v, ts) => consReading (k, v) (readPairs false fuel ts)
      | some ts =>
        match readNode false false fuel ts with
        | .error e => .error e
        | .ok (k, ts) => consReading (k, empty) (readPairs false fuel ts)

end

/-- The node of a document, and the tokens after it. -/
def readDocument (fuel : Nat) : List Token → Reading Node
  | .documentStart :: ts =>
    if stopsAt [.directive, .documentStart, .documentEnd] ts then .ok (empty, ts)
    else readNode true false fuel ts
  | ts => readNode true false fuel ts

/-- The node that tokens hold; none if there are no tokens. -/
def ofTokens (ts : List Token) : Except Defect (Option Node) :=
  match ts with
  | [] => .ok none
  | _ =>
    match readDocument (4 * ts.length + 4) ts with
    | .error e => .error e
    | .ok (n, rest) =>
      match rest.dropWhile (· == .documentEnd) with
      | [] => .ok (some n)
      | rest => .error (misplaced rest)

end Node

end Timebox.Markup
