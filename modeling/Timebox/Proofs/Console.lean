import Mathlib.Data.List.Basic
import Timebox.Proofs.Ascii
import Timebox.Proofs.EventLine
import Timebox.Telemetry.Outlet
import Timebox.Text.Cut

/-!
# The console is faithful

A console is written the line of each event that it takes, with a line feed at its end.  It takes an
event unless there is an integer in it that has no text, and raises a fault instead of writing
anything of such an event (`Telemetry.Outlet.emit_console`).

No line breaks, whatever the texts in an event hold, so what is written is cut into these lines at
its line feeds (`Telemetry.Outlet.splitAt_written`).  A line that is read gives back the object of
its event, and nothing of the event is lost but the order of its fields.

Values that differ in the order of fields only are the same (`Json.Same`): a list is compared place
by place, and an object key by key.  Main statement: `Telemetry.Outlet.console_faithful`.
-/

namespace Timebox

/-! ### Values without an order of fields -/

namespace Json

/-- The value holds no others. -/
def IsScalar : Json → Prop
  | list _ | object _ => False
  | _ => True

/-- Two values are the same but for the order of the fields of their objects. -/
inductive Same : Json → Json → Prop
  | scalar {j : Json} (h : j.IsScalar) : Same j j
  | list {xs ys : List Json} (hlength : xs.length = ys.length)
    (h : ∀ (i : Nat) (a b : Json), xs[i]? = some a → ys[i]? = some b → Same a b) :
    Same (list xs) (list ys)
  | object {fs gs : List (String × Json)}
    (hkeys : ∀ key, (fs.lookup key).isSome = (gs.lookup key).isSome)
    (h : ∀ key a b, fs.lookup key = some a → gs.lookup key = some b → Same a b) :
    Same (object fs) (object gs)

/-- No object in the value has a key twice. -/
inductive HasDistinctKeys : Json → Prop
  | scalar {j : Json} (h : j.IsScalar) : HasDistinctKeys j
  | list {items : List Json} (h : ∀ j ∈ items, HasDistinctKeys j) : HasDistinctKeys (list items)
  | object {fields : List (String × Json)} (hkeys : (fields.map Prod.fst).Nodup)
    (h : ∀ f ∈ fields, HasDistinctKeys f.2) : HasDistinctKeys (object fields)

section Same

variable {a b c j : Json} {fields : List (String × Json)} {key : String}

theorem Same.symm (h : Same a b) : Same b a := by
  induction h with
  | scalar h => exact .scalar h
  | list hlength _ ih => exact .list hlength.symm fun i a b ha hb => ih i b a hb ha
  | object hkeys _ ih =>
    exact .object (fun key => (hkeys key).symm) fun key a b ha hb => ih key b a hb ha

theorem Same.trans (h : Same a b) (h' : Same b c) : Same a c := by
  induction h generalizing c with
  | scalar h => exact h'
  | @list xs ys hlength _ ih =>
    cases h' with
    | scalar h => cases h
    | list hlength' h' =>
      refine .list (hlength.trans hlength') fun i a c ha hc => ?_
      -- the list in the middle has a member at that place as well
      have hi : i < ys.length := by
        have := (List.getElem?_eq_some_iff.mp ha).1
        omega
      have hb : ys[i]? = some ys[i] := List.getElem?_eq_getElem hi
      exact ih i a ys[i] ha hb (h' i ys[i] c hb hc)
  | @object fs gs hkeys _ ih =>
    cases h' with
    | scalar h => cases h
    | object hkeys' h' =>
      refine .object (fun key => (hkeys key).trans (hkeys' key)) fun key a c ha hc => ?_
      have hsome : (gs.lookup key).isSome = true := by
        rw [← hkeys, ha]
        rfl
      obtain ⟨b, hb⟩ := Option.isSome_iff_exists.mp hsome
      exact ih key a b ha hb (h' key b c hb hc)

theorem arranged_of_isScalar (h : j.IsScalar) : arranged j = j := by
  cases j with
  | list | object => cases h
  | _ => rfl

theorem arrangedItems_eq_map (items : List Json) : arrangedItems items = items.map arranged := by
  induction items with
  | nil => rfl
  | cons j items ih => rw [List.map_cons, ← ih]; rfl

theorem mem_of_lookup (h : fields.lookup key = some j) : ∃ f ∈ fields, f.2 = j := by
  obtain ⟨before, after, rfl, -⟩ := List.lookup_eq_some_iff.mp h
  exact ⟨(key, j), by simp, rfl⟩

/-- Arranging the fields of a value keeps the value the same. -/
theorem HasDistinctKeys.same_arranged (h : j.HasDistinctKeys) : Same (arranged j) j := by
  induction h with
  | scalar h =>
    rw [arranged_of_isScalar h]
    exact .scalar h
  | @list items _ ih =>
    rw [arranged, arrangedItems_eq_map]
    refine .list (List.length_map _) fun i a b ha hb => ?_
    rw [List.getElem?_map, hb] at ha
    cases ha
    exact ih b (List.mem_of_getElem? hb)
  | @object fields hkeys _ ih =>
    rw [arranged_object]
    refine .object (fun key => ?_) fun key a b ha hb => ?_
    · rw [lookup_arranged hkeys, Option.isSome_map]
    · rw [lookup_arranged hkeys, hb] at ha
      cases ha
      obtain ⟨f, hf, rfl⟩ := mem_of_lookup hb
      exact ih f hf

/-- Values that are arranged alike are the same. -/
theorem HasDistinctKeys.same_of_arranged (ha : a.HasDistinctKeys) (hb : b.HasDistinctKeys)
    (h : arranged a = arranged b) : Same a b :=
  ha.same_arranged.symm.trans (h ▸ hb.same_arranged)

end Same

end Json

namespace Telemetry

open Json

/-! ### Events -/

namespace Event

/-- The pins and the details are data: they hold no fractions, and no object in them has a key
twice. -/
structure HoldsData (e : Event) : Prop where
  pins : HasPlainFields e.pins
  details : HasPlainFields e.details
  pins_keys : (Json.object e.pins).HasDistinctKeys
  details_keys : (Json.object e.details).HasDistinctKeys

/-- Two events are the same but for the order of fields in their pins and details.  Details that are
not there are empty. -/
structure Same (e e' : Event) : Prop where
  kind : e.kind = e'.kind
  phase : e.phase = e'.phase
  outcome : e.outcome = e'.outcome
  severity : e.severity = e'.severity
  stamp : e.stamp = e'.stamp
  pins : (Json.object e.pins).Same (.object e'.pins)
  details : (Json.object e.details).Same (.object e'.details)

variable {e e' : Event}

/-- An event has a line if its pins and its details can be written. -/
theorem isWritable_eq (e : Event) :
    e.isWritable = ((Json.object e.pins).isWritable && (Json.object e.details).isWritable) := by
  obtain ⟨kind, phase, outcome, severity, pins, stamp, details⟩ := e
  cases details <;>
    simp [isWritable, toJson, Json.isWritable, Json.toValue, Json.toEntries, Value.isWritable,
      Value.areEntriesWritable]

theorem HoldsData.legible (h : e.HoldsData) : e.Legible where
  pins := h.pins
  details := h.details
  distinct := by
    cases h.details_keys with
    | scalar h => cases h
    | object hkeys _ => exact hkeys

theorem HoldsData.toJson_keys (h : e.HoldsData) : e.toJson.HasDistinctKeys := by
  have hnamed : ∀ f ∈ [("event_kind", Json.text e.kind), ("phase", .text e.phase.word),
      ("outcome", .text e.outcome.word), ("severity", .text e.severity.word),
      ("pins", .object e.pins), ("ts_utc", .text e.stamp)], f.2.HasDistinctKeys := by
    simp only [List.forall_mem_cons]
    exact ⟨.scalar trivial, .scalar trivial, .scalar trivial, .scalar trivial, h.pins_keys,
      .scalar trivial, List.forall_mem_nil _⟩
  have hdetails : ∀ f ∈ if e.details.isEmpty then [] else [("details", Json.object e.details)],
      f.2.HasDistinctKeys := by
    split
    · exact List.forall_mem_nil _
    · exact List.forall_mem_singleton.mpr h.details_keys
  exact .object e.nodup_fields (List.forall_mem_append.mpr ⟨hnamed, hdetails⟩)

/-- What is read off the line of an event is its object. -/
theorem HoldsData.decode_line (h : e.HoldsData) :
    ∃ j, Json.decode e.line = some j ∧ j.Same e.toJson :=
  ⟨_, Json.decode_line (isPlain_toJson h.legible), h.toJson_keys.same_arranged⟩

/-- Events with one line are the same. -/
theorem HoldsData.same_of_line (h : e.HoldsData) (h' : e'.HoldsData) (hline : e.line = e'.line) :
    e.Same e' := by
  have hread := ofLine?_line h.legible
  rw [hline, ofLine?_line h'.legible] at hread
  have harranged : e.arranged = e'.arranged := (Option.some.inj hread).symm
  simp only [arranged, Event.mk.injEq] at harranged
  obtain ⟨hkind, hphase, houtcome, hseverity, hpins, hstamp, hdetails⟩ := harranged
  refine ⟨hkind, hphase, houtcome, hseverity, hstamp, ?_, ?_⟩
  · refine h.pins_keys.same_of_arranged h'.pins_keys ?_
    rw [arranged_object, arranged_object, hpins]
  · refine h.details_keys.same_of_arranged h'.details_keys ?_
    rw [arranged_object, arranged_object, hdetails]

end Event

/-! ### What is written -/

namespace Outlet

variable {o : Outlet}

/-- Emit events one after the other, whatever faults come back. -/
def emitAll (o : Outlet) (es : List Event) : Outlet := es.foldl (fun o e => (o.emit e).1) o

/-- The text that the console is written. -/
def written (o : Outlet) : String := String.join (o.lines.map fun line => line ++ "\n")

/-- An outlet with a console and nothing else. -/
def console : Outlet := .single .console

/-- The outlet is a console on its own: nothing contains the faults of its only sink. -/
structure IsConsole (o : Outlet) : Prop where
  guarded : o.guarded = false
  sinks : o.sinks = [.console]

theorem isConsole_console : console.IsConsole := ⟨rfl, rfl⟩

/-- A console takes an event that has a line, and raises a fault instead of taking any other. -/
theorem emit_console (h : o.IsConsole) (e : Event) :
    (o.emit e).1.IsConsole ∧
      (o.emit e).1.events .console = o.events .console ++ [e].filter Event.isWritable ∧
      (o.emit e).2 = if e.isWritable then none else some .tooManyDigits := by
  refine ⟨⟨h.guarded, h.sinks⟩, ?_, ?_⟩
  · show ((o.delivered ++ (deliver o.guarded o.emitted e o.sinks).1).filter _).map _ = _
    rw [h.guarded, h.sinks, List.filter_append, List.map_append]
    cases hwritable : e.isWritable with
    | true => simp [deliver, Sink.console, hwritable, events]
    | false => simp [deliver, Sink.console, hwritable, events, lets]
  · show (deliver o.guarded o.emitted e o.sinks).2 = _
    rw [h.guarded, h.sinks]
    cases hwritable : e.isWritable with
    | true => simp [deliver, Sink.console, hwritable]
    | false => simp [deliver, Sink.console, hwritable, lets]

theorem isConsole_emitAll (h : o.IsConsole) (es : List Event) : (o.emitAll es).IsConsole := by
  induction es generalizing o with
  | nil => exact h
  | cons e es ih => exact ih (emit_console h e).1

/-- A console has been delivered the events that have lines. -/
theorem events_emitAll (h : o.IsConsole) (es : List Event) :
    (o.emitAll es).events .console = o.events .console ++ es.filter Event.isWritable := by
  induction es generalizing o with
  | nil => exact (List.append_nil _).symm
  | cons e es ih =>
    obtain ⟨hconsole, hevents, -⟩ := emit_console h e
    calc (o.emitAll (e :: es)).events .console
        = (o.emit e).1.events .console ++ es.filter Event.isWritable := ih hconsole
      _ = o.events .console ++ ([e].filter Event.isWritable ++ es.filter Event.isWritable) := by
        rw [hevents, List.append_assoc]
      _ = o.events .console ++ (e :: es).filter Event.isWritable := by
        rw [← List.filter_append, List.singleton_append]

/-- A console on its own gets the lines of the events that have lines. -/
theorem lines_console (es : List Event) :
    (console.emitAll es).lines = (es.filter Event.isWritable).map Event.line := by
  unfold lines
  rw [events_emitAll isConsole_console]
  rfl

/-- Lines that do not break come back where each has been given an end. -/
theorem pieces_flatMap_ended {mark : Char} {ls : List (List Char)} (h : ∀ l ∈ ls, mark ∉ l) :
    Text.pieces mark (ls.flatMap fun l => l ++ [mark]) = ls ++ [[]] := by
  induction ls with
  | nil => rfl
  | cons l ls ih =>
    have hrest := ih fun x hx => h x (List.mem_cons_of_mem l hx)
    rw [List.flatMap_cons, List.append_assoc, List.singleton_append,
      Text.pieces_append (h l List.mem_cons_self), hrest, List.cons_append]

theorem not_mem_line (e : Event) : '\n' ∉ e.line.toList := by
  intro h
  have hprintable := (printable_line_object e.fields).2 '\n' h
  exact absurd hprintable (by decide)

/-- What is written is cut into the lines of the events that have lines at its line feeds. -/
theorem splitAt_written (es : List Event) : Text.splitAt '\n' (console.emitAll es).written =
    (es.filter Event.isWritable).map Event.line ++ [""] := by
  have hchars : (console.emitAll es).written.toList =
      ((es.filter Event.isWritable).map fun e => e.line.toList).flatMap fun l => l ++ ['\n'] := by
    rw [written, lines_console]
    simp [String.toList_join, List.flatMap_map]
  have hbreak : ∀ l ∈ (es.filter Event.isWritable).map fun e => e.line.toList, '\n' ∉ l := by
    intro l hl
    obtain ⟨e, -, rfl⟩ := List.mem_map.mp hl
    exact not_mem_line e
  rw [Text.splitAt, hchars, pieces_flatMap_ended hbreak]
  simp

/-- **A console is faithful.**  It raises a fault for an event that holds an integer with too many
digits, and what it is written is cut at its line feeds into the lines of all other events, in their
order.  No line is empty, and all are made of printable ASCII characters.  A line is read as the
object of its event, so that events with one line are the same. -/
theorem console_faithful {es : List Event} (h : ∀ e ∈ es, e.HoldsData) :
    (∀ before e, ((console.emitAll before).emit e).2 =
      if e.isWritable then none else some .tooManyDigits) ∧
    Text.splitAt '\n' (console.emitAll es).written =
      (es.filter Event.isWritable).map Event.line ++ [""] ∧
    (∀ e ∈ es.filter Event.isWritable, e.line ≠ "" ∧ Json.Printable e.line.toList ∧
      ∃ j, Json.decode e.line = some j ∧ j.Same e.toJson) ∧
    ∀ e ∈ es.filter Event.isWritable, ∀ e' ∈ es.filter Event.isWritable,
      e.line = e'.line → e.Same e' := by
  have hdata : ∀ e ∈ es.filter Event.isWritable, e.HoldsData :=
    fun e he => h e (List.mem_of_mem_filter he)
  refine ⟨fun before e => ?_, splitAt_written es, fun e he => ?_, fun e he e' he' => ?_⟩
  · exact (emit_console (isConsole_emitAll isConsole_console before) e).2.2
  · obtain ⟨hne, hprintable⟩ := printable_line_object e.fields
    exact ⟨hne, hprintable, (hdata e he).decode_line⟩
  · exact (hdata e he).same_of_line (hdata e' he')

/-- An event with an integer of one digit too many. -/
def longEvent : Event :=
  { kind := "A", phase := .gate, outcome := .ok
    details := [("n", .int (Nat.pow 10 Text.maxDigits))] }

theorem holdsData_longEvent : longEvent.HoldsData where
  pins := trivial
  details := ⟨trivial, trivial⟩
  pins_keys := .object (by decide) nofun
  details_keys := .object (by decide) (List.forall_mem_singleton.mpr (.scalar trivial))

theorem isWritable_longEvent : longEvent.isWritable = false := by
  have hdetails : (Json.object longEvent.details).isWritable = false := by
    simp only [longEvent, Json.isWritable, Json.toValue, Json.toEntries, Value.isWritable,
      Value.areEntriesWritable, Value.isWritableInteger_limit, Bool.and_false, Bool.false_and]
  rw [Event.isWritable_eq, hdetails, Bool.and_false]

/-- A console does not write a line for every event: there is none for an integer that is too
long. -/
theorem not_forall_line_written : ¬ ∀ es : List Event, (∀ e ∈ es, e.HoldsData) →
    Text.splitAt '\n' (console.emitAll es).written = es.map Event.line ++ [""] := by
  intro hall
  have hsplit := hall [longEvent] (List.forall_mem_singleton.mpr holdsData_longEvent)
  have hnone : [longEvent].filter Event.isWritable = [] := by
    simp [isWritable_longEvent]
  rw [splitAt_written, hnone] at hsplit
  exact absurd (congrArg List.length hsplit) (by decide)

/-- An event whose texts hold line ends, quotes, a backslash, a control character and a character
beyond the basic plane. -/
def oddEvent : Event :=
  { kind := "A\n\x22B\x5c"
    phase := .gate
    outcome := .ok
    pins := [("\x00\r", .text "\x7f\u2028😀"),
      ("é", .list [.null, .bool true, .int (-7), .object [("b", .text "\n"), ("a", .list [])]])] }

theorem console_faithful_of_odd_texts :
    (∀ e ∈ [oddEvent], e.HoldsData) ∧ oddEvent.isWritable = true ∧
      Text.splitAt '\n' (console.emitAll [oddEvent]).written = [oddEvent.line, ""] ∧
      ∃ j, Json.decode oddEvent.line = some j ∧ j.Same oddEvent.toJson := by
  -- no key occurs twice: in the nested object, in the list around it, in the event
  have hinner : (Json.object [("b", .text "\n"), ("a", .list [])]).HasDistinctKeys := by
    refine .object (by decide) (List.forall_mem_cons.mpr ⟨.scalar trivial, ?_⟩)
    exact List.forall_mem_singleton.mpr (.list (List.forall_mem_nil _))
  have hlist : (Json.list [.null, .bool true, .int (-7),
      .object [("b", .text "\n"), ("a", .list [])]]).HasDistinctKeys := by
    refine .list ?_
    simp only [List.forall_mem_cons]
    exact ⟨.scalar trivial, .scalar trivial, .scalar trivial, hinner, List.forall_mem_nil _⟩
  have hdata : ∀ e ∈ [oddEvent], e.HoldsData := by
    refine List.forall_mem_singleton.mpr ⟨?_, trivial, ?_, .object (by decide) nofun⟩
    · exact ⟨trivial, ⟨trivial, trivial, trivial, ⟨trivial, trivial, trivial⟩, trivial⟩, trivial⟩
    · refine .object (by decide) (List.forall_mem_cons.mpr ⟨.scalar trivial, ?_⟩)
      exact List.forall_mem_singleton.mpr hlist
  have hwritable : oddEvent.isWritable = true := by decide +kernel
  have hall : [oddEvent].filter Event.isWritable = [oddEvent] := by
    simp [hwritable]
  obtain ⟨-, hsplit, hlines, -⟩ := console_faithful hdata
  rw [hall] at hsplit hlines
  obtain ⟨-, -, hdecode⟩ := hlines oddEvent List.mem_cons_self
  rw [List.map_singleton, List.singleton_append] at hsplit
  exact ⟨hdata, hwritable, hsplit, hdecode⟩

end Outlet

end Telemetry

end Timebox
