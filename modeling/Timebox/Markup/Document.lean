import Timebox.Markup.Lexer
import Timebox.Markup.Node
import Timebox.Markup.Typing
import Timebox.Value.Key

/-!
# Values of documents

A document becomes a dynamic value: scalars by their form, lists item by item, maps pair by pair. A
key that comes again keeps its place and takes the later value. Of several defects the one nearest
to the root counts, and of those the first.
-/

namespace Timebox.Markup

/-- A defect and how deep it lies. -/
structure Mishap where
  depth : Nat
  defect : Defect
  deriving DecidableEq, Repr

/-- The mishap that counts. -/
def Mishap.outer (a b : Mishap) : Mishap :=
  if b.depth < a.depth then b else a

/-- Combine two results, or take the mishap that counts. -/
def combine {α β : Type} (a : Except Mishap α) (b : Except Mishap β) : Except Mishap (α × β) :=
  match a, b with
  | .ok x, .ok y => .ok (x, y)
  | .error e, .ok _ => .error e
  | .ok _, .error e => .error e
  | .error e, .error e' => .error (e.outer e')

namespace Node

/-- The node merges another mapping into the one that it is a key of. -/
def isMerge : Node → Bool
  | scalar text plain => plain && text == mergeMark
  | _ => false

/-- The value of a scalar at a depth. -/
def scalarValue (depth : Nat) (text : String) (plain : Bool) : Except Mishap Value :=
  if plain then
    match typed text with
    | .ok v => .ok v
    | .error e => .error ⟨depth, e⟩
  else .ok (.text text)

/-- The value of a key at a depth; collections are no keys. -/
def keyValue (depth : Nat) : Node → Except Mishap Value
  | scalar text plain =>
    if text = defaultMark then .ok (.text text) else scalarValue depth text plain
  | _ => .error ⟨depth, .malformed⟩

mutual

/-- The value of a node inside a collection of some depth. -/
def toValue (depth : Nat) : Node → Except Mishap Value
  | scalar text plain => scalarValue depth text plain
  | list items => (toValues (depth + 1) items).map .list
  | map pairs =>
    if pairs.any fun p => p.1.isMerge then .error ⟨depth + 1, .malformed⟩
    else
      (toEntries (depth + 1) pairs).map fun es =>
        .map (es.foldl (fun acc e => Value.setEntry e.1 e.2 acc) [])

/-- The values of list items. -/
def toValues (depth : Nat) : List Node → Except Mishap (List Value)
  | [] => .ok []
  | n :: ns => (combine (toValue depth n) (toValues depth ns)).map fun (v, vs) => v :: vs

/-- The entries of map pairs. -/
def toEntries (depth : Nat) : List (Node × Node) → Except Mishap (List (Value × Value))
  | [] => .ok []
  | (k, v) :: rest =>
    (combine (combine (keyValue depth k) (toValue depth v)) (toEntries depth rest)).map
      fun (e, es) => e :: es

end

end Node

/-- The value of a markup text; absent if it holds no document. -/
def read (s : String) : Except Defect Value :=
  match Node.ofTokens (Token.ofText s) with
  | .error e => .error e
  | .ok none => .ok .null
  | .ok (some n) =>
    match n.toValue 0 with
    | .ok v => .ok v
    | .error m => .error m.defect

end Timebox.Markup
