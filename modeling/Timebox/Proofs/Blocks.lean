import Timebox.Arguments.Program

/-!
# Blocks put back what they found

An override writes its items one after the other.  If all of them are pairs, the arguments are
overlaid with the pairs; if not, they are as they were (`Arguments.overrideWritten_eq`), although
some items may have been written by then.

A block holds for the duration of an override.  Its body is any program: it may override, save and
restore as it likes, and hold further blocks.  `ArgumentOp.Nests` says how a program answers that
keeps its blocks apart: each block, however deep inside others, ends with the arguments that it
found, and its body has started from these, overlaid with the pairs of the block, or has not run at
all.  Every program answers in that way (`ArgumentOp.runAll_nests`), and so a block leaves the
arguments as they were on entry (`ArgumentOp.run_block_nests`).
-/

namespace Timebox

/-! ### Overrides -/

/-- The pairs of all items, or the error of the first item that is no pair. -/
def OverrideItem.toPairs : List OverrideItem → Except PairError (List (String × String))
  | [] => .ok []
  | x :: xs =>
    match x.toPair with
    | .error e => .error e
    | .ok p => (toPairs xs).map (p :: ·)

/-- The pairs of an override, or why it has none. -/
def OverrideItems.pairs : OverrideItems → Except Fault (List (String × String))
  | .single v => .error (PairError.noItems v)
  | .items xs => (OverrideItem.toPairs xs).mapError PairError.fault

/-- The pairs of an override as it is written down, or why it has none. -/
def WrittenItems.pairs (w : WrittenItems) : Except Fault (List (String × String)) :=
  match w.check with
  | .error f => .error f
  | .ok checked => checked.pairs

namespace Arguments

section

variable {a : Arguments} {xs : List OverrideItem}

/-- Items that are all pairs are written as an overlay. -/
theorem writePairs_of_ok {ps : List (String × String)} (h : OverrideItem.toPairs xs = .ok ps) :
    a.writePairs xs = (a.overlay ps, none) := by
  induction xs generalizing a ps with
  | nil =>
    cases h
    rfl
  | cons x xs ih =>
    unfold OverrideItem.toPairs at h
    unfold writePairs
    -- all items unpack, so the first one does and the others do
    cases hx : x.toPair with
    | error e =>
      rw [hx] at h
      cases h
    | ok p =>
      rw [hx] at h
      cases hxs : OverrideItem.toPairs xs with
      | error e =>
        rw [hxs] at h
        cases h
      | ok qs =>
        rw [hxs] at h
        cases h
        exact ih hxs

/-- An item that is no pair stops the writing. -/
theorem writePairs_of_error {e : PairError} (h : OverrideItem.toPairs xs = .error e) :
    (a.writePairs xs).2 = some e := by
  induction xs generalizing a with
  | nil => cases h
  | cons x xs ih =>
    unfold OverrideItem.toPairs at h
    unfold writePairs
    cases hx : x.toPair with
    | error e' =>
      rw [hx] at h
      cases h
      rfl
    | ok p =>
      rw [hx] at h
      cases hxs : OverrideItem.toPairs xs with
      | error e' =>
        rw [hxs] at h
        cases h
        exact ih hxs
      | ok qs =>
        rw [hxs] at h
        cases h

end

variable (a : Arguments)

/-- An override comes to all or nothing. -/
theorem override_eq (items : OverrideItems) :
    a.override items = match items.pairs with
      | .ok ps => (a.overlay ps, .ok a.save)
      | .error f => (a, .error f) := by
  cases items with
  | single v => rfl
  | items xs =>
    unfold override write OverrideItems.pairs
    dsimp only
    cases hxs : OverrideItem.toPairs xs with
    | ok ps =>
      rw [writePairs_of_ok hxs]
      rfl
    | error e =>
      -- whatever has been written by then, the token puts the arguments back
      have hstopped : (a.writePairs xs).2 = some e := writePairs_of_error hxs
      rw [hstopped]
      rfl

/-- An override that is refused before it starts changes nothing either. -/
theorem overrideWritten_eq (items : WrittenItems) :
    a.overrideWritten items = match items.pairs with
      | .ok ps => (a.overlay ps, .ok a.save)
      | .error f => (a, .error f) := by
  unfold overrideWritten WrittenItems.pairs
  cases items.check with
  | error f => rfl
  | ok checked => exact a.override_eq checked

end Arguments

/-! ### Programs that keep their blocks apart -/

/-- The arguments after an operation, as its reply shows them. -/
def Reply.after : Reply → Arguments
  | .value _ after => after
  | .fault _ after => after
  | .block _ _ after => after

mutual

/-- An operation that found some arguments has answered in this way: if it was at fault it has left
them alone, and if it was a block it has put them back.  The body of a block has started from the
arguments overlaid with the pairs of the block, and the fault that it raises at its end is that with
which the block is left; a block without pairs is refused, and its body does not run. -/
def ArgumentOp.Nests (found : Arguments) : ArgumentOp → Reply → Prop
  | .block items body fault, reply =>
    match items.pairs with
    | .error f => reply = .block [] (some (.refused f)) found
    | .ok ps => ∃ inner, reply = .block inner (fault.map .raised) found ∧
        ArgumentOp.AllNest (found.overlay ps) body inner
  | _, .fault _ after => after = found
  | _, .value _ _ => True
  | _, .block _ _ _ => False

/-- Operations have answered one after the other, each having found what the one before it left. -/
def ArgumentOp.AllNest (found : Arguments) : List ArgumentOp → List Reply → Prop
  | [], [] => True
  | op :: ops, reply :: replies => op.Nests found reply ∧ ArgumentOp.AllNest reply.after ops replies
  | _, _ => False

end

/-- A reply shows the arguments as its operation leaves them. -/
theorem ArgumentOp.after_run (op : ArgumentOp) (s : ArgumentState) :
    (op.run s).1.after = (op.run s).2.arguments := by
  -- the first four operations may answer in more than one way
  cases op with
  | integer key default =>
    unfold ArgumentOp.run
    split <;> rfl
  | override items name =>
    unfold ArgumentOp.run
    split <;> rfl
  | restore name =>
    unfold ArgumentOp.run ArgumentState.restoreNamed
    split <;> rfl
  | block items body fault =>
    unfold ArgumentOp.run
    split <;> rfl
  | get key default => rfl
  | contains key => rfl
  | size => rfl
  | save name => rfl
  | sameTexts other => rfl
  | sameArguments other => rfl

/-- What a block comes to. -/
theorem ArgumentOp.run_block_eq (items : WrittenItems) (body : List ArgumentOp)
    (fault : Option Fault) (s : ArgumentState) :
    (ArgumentOp.block items body fault).run s = match items.pairs with
      | .error f => (.block [] (some (.refused f)) s.arguments, s)
      | .ok ps =>
        let (replies, inner) := runAll body { s with arguments := s.arguments.overlay ps }
        (.block replies (fault.map .raised) s.arguments,
          { inner with arguments := s.arguments }) := by
  rw [ArgumentOp.run, Arguments.overrideWritten_eq]
  cases items.pairs <;> rfl

mutual

/-- Every operation keeps its blocks apart. -/
theorem ArgumentOp.run_nests (op : ArgumentOp) (s : ArgumentState) :
    op.Nests s.arguments (op.run s).1 := by
  cases op with
  | block items body fault =>
    rw [run_block_eq, Nests]
    cases items.pairs with
    | error f => rfl
    | ok ps => exact ⟨_, rfl, runAll_nests body { s with arguments := s.arguments.overlay ps }⟩
  | override items name =>
    rw [run, Arguments.overrideWritten_eq]
    cases items.pairs with
    | error f => rfl
    | ok ps => trivial
  | integer key default =>
    rw [run]
    cases Arguments.integer s.arguments key default with
    | error f => rfl
    | ok n => trivial
  | restore name =>
    rw [run, ArgumentState.restoreNamed]
    cases s.token? name with
    | none => rfl
    | some token => trivial
  | get key default => trivial
  | contains key => trivial
  | size => trivial
  | save name => trivial
  | sameTexts other => trivial
  | sameArguments other => trivial

/-- And so does every program. -/
theorem ArgumentOp.runAll_nests (ops : List ArgumentOp) (s : ArgumentState) :
    ArgumentOp.AllNest s.arguments ops (runAll ops s).1 := by
  cases ops with
  | nil => trivial
  | cons op ops =>
    rw [runAll, AllNest, after_run]
    exact ⟨run_nests op s, runAll_nests ops (op.run s).2⟩

end

/-- A block leaves the arguments as it found them, whatever its body does and however it ends, and
so does every block inside it.  A block that cannot be entered leaves everything as it was. -/
theorem ArgumentOp.run_block_nests (items : WrittenItems) (body : List ArgumentOp)
    (fault : Option Fault) (s : ArgumentState) :
    let left := (ArgumentOp.block items body fault).run s
    left.2.arguments = s.arguments ∧
      (ArgumentOp.block items body fault).Nests s.arguments left.1 ∧
      ∀ f, items.pairs = .error f → left.2 = s := by
  intro left
  refine ⟨?_, run_nests _ s, fun f hf => ?_⟩
  · show ((ArgumentOp.block items body fault).run s).2.arguments = _
    rw [run_block_eq]
    cases items.pairs <;> rfl
  · show ((ArgumentOp.block items body fault).run s).2 = s
    rw [run_block_eq, hf]

end Timebox
