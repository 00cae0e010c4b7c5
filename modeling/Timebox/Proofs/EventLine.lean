import Timebox.Proofs.JsonLine
import Timebox.Telemetry.Tally

/-!
# Events read off their lines

An event whose pins and details hold no fractions can be read off its line
(`Telemetry.Event.ofLine?_line`), but for the order of their fields, which no tally looks at
(`Telemetry.Tally.ofEvents_arranged`).
-/

namespace Timebox

/-! ### Fields by their keys -/

namespace Json

/-- The fields, if the value is an object. -/
def fields? : Json → Option (List (String × Json))
  | object fields => some fields
  | _ => none

/-- Where no key occurs twice, the order of the entries is no matter. -/
theorem lookup_of_perm {xs ys : List (String × Json)} (h : xs.Perm ys)
    (hd : (xs.map Prod.fst).Nodup) (key : String) : xs.lookup key = ys.lookup key := by
  induction h with
  | nil => rfl
  | cons x _ ih =>
    obtain ⟨k, v⟩ := x
    rw [List.map_cons, List.nodup_cons] at hd
    rw [List.lookup_cons, List.lookup_cons, ih hd.2]
  | swap x y l =>
    obtain ⟨k, v⟩ := x
    obtain ⟨k', v'⟩ := y
    have hne : k' ≠ k := by
      intro hk
      rw [List.map_cons, List.map_cons, List.nodup_cons] at hd
      exact hd.1 (hk ▸ List.mem_cons_self)
    rw [List.lookup_cons, List.lookup_cons, List.lookup_cons, List.lookup_cons]
    -- the keys differ, so that at most one of the two entries is found
    by_cases hk : key = k
    · have hk' : (key == k') = false := by
        rw [beq_eq_false_iff_ne, hk]
        exact hne.symm
      rw [hk']
    · have hk : (key == k) = false := beq_eq_false_iff_ne.mpr hk
      rw [hk]
  | trans h _ ih ih' => exact (ih hd).trans (ih' ((h.map Prod.fst).nodup_iff.mp hd))

theorem lookup_map_arrangedField (fields : List (String × Json)) (key : String) :
    (fields.map arrangedField).lookup key = (fields.lookup key).map arranged := by
  induction fields with
  | nil => rfl
  | cons f fs ih =>
    obtain ⟨k, j⟩ := f
    show List.lookup key ((k, arranged j) :: fs.map arrangedField) = _
    rw [List.lookup_cons, List.lookup_cons, ih]
    cases key == k with
    | true => rfl
    | false => rfl

/-- The fields of an arranged object. -/
theorem lookup_arranged {fields : List (String × Json)} (hd : (fields.map Prod.fst).Nodup)
    (key : String) :
    ((byKey fields).map arrangedField).lookup key = (fields.lookup key).map arranged := by
  have hperm : (byKey fields).Perm fields := List.mergeSort_perm fields _
  have hkeys : ((byKey fields).map Prod.fst).Nodup := (hperm.map Prod.fst).nodup_iff.mpr hd
  rw [lookup_map_arrangedField, lookup_of_perm hperm hkeys]

end Json

namespace Telemetry

open Json

/-! ### Words -/

theorem Phase.ofWord?_word (p : Phase) : ofWord? p.word = some p := by
  cases p <;> decide

theorem Outcome.ofWord?_word (o : Outcome) : ofWord? o.word = some o := by
  cases o <;> decide

theorem Severity.ofWord?_word (s : Severity) : ofWord? s.word = some s := by
  cases s <;> decide

/-! ### Events -/

namespace Event

/-- There is no fraction in the pins or the details, and no detail is there twice. -/
structure Legible (e : Event) : Prop where
  pins : HasPlainFields e.pins
  details : HasPlainFields e.details
  distinct : (e.details.map Prod.fst).Nodup

/-- The event with its pins and details in the order of their keys. -/
def arranged (e : Event) : Event :=
  { e with
    pins := (byKey e.pins).map arrangedField
    details := (byKey e.details).map arrangedField }

/-- The event that an object shows. -/
def ofJson? (j : Json) : Option Event := do
  let kind ← (j.field? "event_kind").bind text?
  let phase ← ((j.field? "phase").bind text?).bind Phase.ofWord?
  let outcome ← ((j.field? "outcome").bind text?).bind Outcome.ofWord?
  let severity ← ((j.field? "severity").bind text?).bind Severity.ofWord?
  let pins ← (j.field? "pins").bind fields?
  let stamp ← (j.field? "ts_utc").bind text?
  let details := ((j.field? "details").bind fields?).getD []
  return { kind, phase, outcome, severity, pins, stamp, details }

/-- The event that a line shows. -/
def ofLine? (line : String) : Option Event :=
  (decode line).bind ofJson?

/-- The fields with which an event is written. -/
def fields (e : Event) : List (String × Json) :=
  [("event_kind", .text e.kind), ("phase", .text e.phase.word),
    ("outcome", .text e.outcome.word), ("severity", .text e.severity.word),
    ("pins", .object e.pins), ("ts_utc", .text e.stamp)] ++
    if e.details.isEmpty then [] else [("details", .object e.details)]

variable {e : Event}

theorem nodup_fields (e : Event) : (e.fields.map Prod.fst).Nodup := by
  unfold fields
  split
  · show ["event_kind", "phase", "outcome", "severity", "pins", "ts_utc"].Nodup
    decide
  · show ["event_kind", "phase", "outcome", "severity", "pins", "ts_utc", "details"].Nodup
    decide

theorem isPlain_toJson (h : e.Legible) : IsPlain e.toJson := by
  have hdetails : HasPlainFields (if e.details.isEmpty then [] else
      [("details", .object e.details)]) := by
    split
    · trivial
    · exact ⟨h.details, trivial⟩
  exact ⟨trivial, trivial, trivial, trivial, h.pins, trivial, hdetails⟩

/-- A field of the object that is read off the line of an event. -/
theorem field?_arranged (e : Event) (key : String) :
    (Json.arranged e.toJson).field? key = (e.fields.lookup key).map Json.arranged := by
  show (Json.arranged (.object e.fields)).field? key = _
  rw [arranged_object]
  exact lookup_arranged e.nodup_fields key

/-- Details that are left out are empty. -/
theorem details_arranged (e : Event) :
    (((Json.arranged e.toJson).field? "details").bind fields?).getD [] =
      (byKey e.details).map arrangedField := by
  have hlookup : e.fields.lookup "details" =
      (if e.details.isEmpty then [] else [("details", .object e.details)]).lookup "details" := rfl
  rw [field?_arranged, hlookup]
  -- empty details are not written, and a missing field is read as empty details
  cases hd : e.details with
  | nil => simp [byKey]
  | cons d ds =>
    show ((some (Json.arranged (.object (d :: ds)))).bind fields?).getD [] = _
    rw [arranged_object]
    rfl

/-- An event can be read off its line. -/
theorem ofLine?_line (h : e.Legible) : ofLine? e.line = some e.arranged := by
  have hdecode : decode e.line = some (Json.arranged e.toJson) := decode_line (isPlain_toJson h)
  -- the fields are found one by one in the object that the line is read as
  have hkind : (Json.arranged e.toJson).field? "event_kind" = some (.text e.kind) :=
    field?_arranged e "event_kind"
  have hphase : (Json.arranged e.toJson).field? "phase" = some (.text e.phase.word) :=
    field?_arranged e "phase"
  have houtcome : (Json.arranged e.toJson).field? "outcome" = some (.text e.outcome.word) :=
    field?_arranged e "outcome"
  have hseverity : (Json.arranged e.toJson).field? "severity" = some (.text e.severity.word) :=
    field?_arranged e "severity"
  have hpins : (Json.arranged e.toJson).field? "pins" =
      some (.object ((byKey e.pins).map arrangedField)) :=
    (field?_arranged e "pins").trans (congrArg some (arranged_object e.pins))
  have hstamp : (Json.arranged e.toJson).field? "ts_utc" = some (.text e.stamp) :=
    field?_arranged e "ts_utc"
  unfold ofLine?
  rw [hdecode, Option.bind_some, ofJson?, details_arranged, hkind, hphase, houtcome, hseverity,
    hpins, hstamp]
  simp only [Option.bind_eq_bind, Option.bind_some, text?, fields?, Phase.ofWord?_word,
    Outcome.ofWord?_word, Severity.ofWord?_word]
  rfl

/-- The outcome that a line shows. -/
def Shows (line : String) (o : Outcome) : Prop :=
  ∃ j, decode line = some j ∧ j.field? "outcome" = some (.text o.word)

/-- The line of an event shows its outcome and no other. -/
theorem shows_line_iff (h : e.Legible) (o : Outcome) : Shows e.line o ↔ e.outcome = o := by
  have hdecode : decode e.line = some (Json.arranged e.toJson) := decode_line (isPlain_toJson h)
  have houtcome : (Json.arranged e.toJson).field? "outcome" = some (.text e.outcome.word) :=
    field?_arranged e "outcome"
  constructor
  · rintro ⟨j, hj, ho⟩
    obtain rfl := Option.some.inj (hj.symm.trans hdecode)
    have hword : e.outcome.word = o.word := Json.text.inj (Option.some.inj (houtcome.symm.trans ho))
    -- outcomes with one word are the same
    have hread := Outcome.ofWord?_word e.outcome
    rw [hword, Outcome.ofWord?_word] at hread
    exact (Option.some.inj hread).symm
  · rintro rfl
    exact ⟨_, hdecode, houtcome⟩

/-! ### Tallies -/

theorem duration?_arranged (e : Event) (h : e.Legible) : e.arranged.duration? = e.duration? := by
  unfold duration? arranged
  dsimp only
  rw [lookup_arranged h.distinct]
  cases e.details.lookup durationField with
  | none => rfl
  | some j => cases j <;> rfl

end Event

/-- Arranged events tell the same durations about the parts of the run that are chosen. -/
theorem durations_arranged (q : Phase → Bool) {es : List Event} (h : ∀ e ∈ es, e.Legible) :
    ((es.map Event.arranged).filter fun e => q e.phase).filterMap Event.duration? =
      (es.filter fun e => q e.phase).filterMap Event.duration? := by
  induction es with
  | nil => rfl
  | cons e es ih =>
    obtain ⟨he, hes⟩ := List.forall_mem_cons.mp h
    have hphase : e.arranged.phase = e.phase := rfl
    rw [List.map_cons, List.filter_cons, List.filter_cons, hphase]
    cases q e.phase with
    | false => exact ih hes
    | true =>
      show (e.arranged :: _).filterMap Event.duration? = (e :: _).filterMap Event.duration?
      rw [List.filterMap_cons, List.filterMap_cons, e.duration?_arranged he, ih hes]

/-- A tally does not look at the order of pins and details. -/
theorem Tally.ofEvents_arranged {es : List Event} (h : ∀ e ∈ es, e.Legible) :
    ofEvents (es.map Event.arranged) = ofEvents es := by
  have hkinds : (es.map Event.arranged).map Event.kind = es.map Event.kind := List.map_map
  have houtcomes : (es.map Event.arranged).map Event.outcome = es.map Event.outcome :=
    List.map_map
  have hphase : ∀ p, durationsOf p (es.map Event.arranged) = durationsOf p es :=
    fun p => durations_arranged (fun q => decide (q = p)) h
  have hidle := durations_arranged Phase.isIdle h
  unfold ofEvents
  simp only [hkinds, houtcomes, hphase, hidle]

end Telemetry

end Timebox
