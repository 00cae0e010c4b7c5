import Timebox.Loading
import Timebox.Proofs.Shape

/-!
# How loading fails

A profile or a scenario that is loaded has passed every check (`Profile.IsValid`,
`Scenario.IsValid`).  A text that cannot be loaded is reported by a profile error, save for two
cases (`Loading.Escapes`): the reader raises a fault when it converts something in the text, or a
key in what it has read has too many digits to be a text.  Then both loads raise that fault
(`Loading.load_contained_or_escapes`).

Nothing is assumed of the reader, so that this holds of any markup, and whatever a reader takes for
a value.
-/

namespace Timebox

/-! ### Checked records -/

namespace Validation

section Checks

variable {α β : Type} {fields : Fields} {name : String} {default : α} {check : Value → Checked α}

theorem both_eq_ok_iff {a : Checked α} {b : Checked β} {x : α} {y : β} :
    Checked.both a b = .ok (x, y) ↔ a = .ok x ∧ b = .ok y := by
  cases a with
  | ok x' => cases b <;> simp [Checked.both]
  | error e => cases b <;> simp [Checked.both]

theorem at_eq_ok {place : Place} {c : Checked α} {a : α} (h : c.at place = .ok a) : c = .ok a := by
  cases c with
  | ok a' => exact h
  | error issues => cases h

/-- What holds of the default and of all that passes the check holds of the field. -/
theorem of_optionalField {P : α → Prop} {a : α}
    (h : optionalField fields name default check = .ok a) (hdefault : P default)
    (hcheck : ∀ v a, check v = .ok a → P a) : P a := by
  unfold optionalField at h
  split at h
  · cases h
    exact hdefault
  · exact hcheck _ a (at_eq_ok h)

theorem of_requiredField {P : α → Prop} {a : α} (h : requiredField fields name check = .ok a)
    (hcheck : ∀ v a, check v = .ok a → P a) : P a := by
  unfold requiredField at h
  split at h
  · cases h
  · exact hcheck _ a (at_eq_ok h)

/-- What holds of all that passes the check holds of the members of a list. -/
theorem forall_of_checkItems {P : α → Prop} {position : Nat} {items : List Value} {as : List α}
    (h : checkItems check position items = .ok as) (hcheck : ∀ v a, check v = .ok a → P a) :
    ∀ a ∈ as, P a := by
  induction items generalizing position as with
  | nil =>
    cases h
    simp
  | cons v items ih =>
    rw [checkItems] at h
    split at h
    · next a rest heq =>
      cases h
      obtain ⟨ha, hrest⟩ := both_eq_ok_iff.mp heq
      exact List.forall_mem_cons.mpr ⟨hcheck v a (at_eq_ok ha), ih hrest⟩
    · cases h

theorem le_of_checkAtLeast {least n : Int} {v : Value} (h : checkAtLeast least v = .ok n) :
    least ≤ n := by
  unfold checkAtLeast at h
  split at h
  · split at h
    · cases h
      assumption
    · cases h
  · cases h

end Checks

end Validation

open Validation

/-- What is checked of a profile beyond the kinds of its fields. -/
structure Profile.IsValid (p : Profile) : Prop where
  leeway : 0 ≤ p.leeway
  poll : 1 ≤ p.poll
  grace : 0 ≤ p.grace

/-- What is checked of a scenario beyond the kinds of its fields. -/
def Scenario.IsValid (s : Scenario) : Prop :=
  ∀ x ∈ s.extras, x.key ≠ ""

theorem Profile.leeway_of_checkStated {v : Value} {stated : Option Int}
    (h : checkStated 0 v = .ok stated) : 0 ≤ stated.getD defaultLeeway := by
  unfold checkStated at h
  split at h
  · next heq =>
    cases h
    exact le_of_checkAtLeast heq
  · cases h

theorem Profile.isValid_of_ofFields {fields : Fields} {p : Profile} (h : ofFields fields = .ok p) :
    p.IsValid := by
  unfold ofFields at h
  dsimp only at h
  split at h
  · next heq =>
    cases h
    simp only [both_eq_ok_iff] at heq
    obtain ⟨⟨⟨-, hstated⟩, ⟨hpoll, hgrace⟩, -⟩, -⟩ := heq
    exact {
      leeway := of_optionalField (P := fun stated => 0 ≤ stated.getD defaultLeeway) hstated
        (by decide) fun _ _ => leeway_of_checkStated
      poll := of_optionalField hpoll (by decide) fun _ _ => le_of_checkAtLeast
      grace := of_optionalField hgrace (by decide) fun _ _ => le_of_checkAtLeast }
  · cases h

theorem ExtraArgument.key_of_ofValue {v : Value} {x : ExtraArgument} (h : ofValue v = .ok x) :
    x.key ≠ "" := by
  -- it is the check of the key that refuses the empty text
  have hkey : ∀ v s, checkKey v = .ok s → s ≠ "" := by
    intro v s h
    unfold checkKey at h
    split at h
    · split at h
      · cases h
      · next hempty =>
        cases h
        simpa using hempty
    · cases h
  unfold ofValue at h
  split at h
  · unfold ofFields at h
    dsimp only at h
    split at h
    · next heq =>
      cases h
      simp only [both_eq_ok_iff] at heq
      exact of_requiredField (P := fun key => key ≠ "") heq.1.1 hkey
    · cases h
  · cases h

theorem Scenario.isValid_of_ofFields {fields : Fields} {s : Scenario}
    (h : ofFields fields = .ok s) : s.IsValid := by
  -- extras stand in a list or in a mapping, and every one is checked by itself
  have hextras : ∀ v xs, ExtraArgument.checkAll v = .ok xs →
      ∀ x ∈ xs, x.key ≠ "" := by
    intro v xs h
    unfold ExtraArgument.checkAll at h
    split at h
    · exact forall_of_checkItems h fun _ _ => ExtraArgument.key_of_ofValue
    · split at h
      · exact forall_of_checkItems h fun _ _ => ExtraArgument.key_of_ofValue
      · cases h
    · cases h
  unfold ofFields at h
  dsimp only at h
  split at h
  · next heq =>
    cases h
    simp only [both_eq_ok_iff] at heq
    obtain ⟨⟨-, -, hlast⟩, -⟩ := heq
    exact of_optionalField (P := fun xs => ∀ x ∈ xs, x.key ≠ "") hlast (by simp) hextras
  · cases h

/-! ### Expansion -/

namespace Expansion

open Value (Within)

/-- What has no text in data that cannot be expanded is a key of a mapping in it. -/
theorem exists_key_of_expand_error {env : Bindings} {v : Value}
    (h : expand env v = .error .noKeyText) :
    ∃ entries, Within (.map entries) v ∧ ∃ e ∈ entries, e.1.isWritable = false := by
  induction v using Value.induction_nested with
  | text s => exact absurd (expandText_error (map_eq_error_iff.mp h)) (by decide)
  | scalar v hv =>
    rw [expand_scalar hv] at h
    cases h
  | list items ih =>
    obtain ⟨v, hv, h⟩ := exists_item_of_expandItems_error (map_eq_error_iff.mp h)
    obtain ⟨entries, hentries, he⟩ := ih v hv h
    exact ⟨entries, .item hv hentries, he⟩
  | map entries ih =>
    -- if all keys have texts it is a value that fails, and the key is further inside
    by_cases hkeys : ∀ e ∈ entries, e.1.isWritable = true
    · obtain ⟨e, he, h⟩ := exists_entry_of_expandEntries_error hkeys (map_eq_error_iff.mp h)
      obtain ⟨inner, hinner, hkey⟩ := ih e he h
      exact ⟨inner, .entry he hinner, hkey⟩
    · obtain ⟨e, he⟩ := not_forall.mp hkeys
      obtain ⟨he, hkey⟩ := Classical.not_imp.mp he
      exact ⟨entries, .here, e, he, Bool.not_eq_true _ ▸ hkey⟩

end Expansion

/-! ### Loading -/

namespace Loading

open Value (Within)

/-- What may leave a load although it is no profile error: the fault that the reader raises when it
converts something, or that of a key with too many digits to be a text. -/
inductive Escapes (read : Markup.Reader) (text : String) : Fault → Prop
  | raised {f : Fault} (h : read text = .error (.raised f)) : Escapes read text f
  | key {v : Value} {entries : List (Value × Value)} {entry : Value × Value}
    (hread : read text = .ok v) (hentries : Within (.map entries) v) (hentry : entry ∈ entries)
    (hkey : entry.1.isWritable = false) : Escapes read text Expansion.Failure.noKeyText.fault

/-- A load gives a valid result, or it raises a profile error. -/
def Contained {α : Type} (path : String) (IsValid : α → Prop) (r : Except LoadError α) : Prop :=
  (∃ a, r = .ok a ∧ IsValid a) ∨ ∃ e, r = .error e ∧ (e.fault path).className = "ProfileError"

section Loads

variable {read : Markup.Reader} {env : Bindings} {text : String} {e : LoadError}
  {entries : List (Value × Value)}

theorem escapes_of_expandEntries (path : String) (hread : read text = .ok (.map entries))
    (h : expandEntries env entries = .error e) :
    (e.fault path).className = "ProfileError" ∨ Escapes read text (e.fault path) := by
  unfold expandEntries at h
  split at h
  · cases h
  · cases h
    exact .inl rfl
  · next f heq =>
    cases h
    cases f with
    | missingVariable name => exact .inl rfl
    | noKeyText =>
      obtain ⟨inner, hinner, entry, hentry, hkey⟩ := Expansion.exists_key_of_expand_error heq
      exact .inr (.key hread hinner hentry hkey)

/-- What keeps a text from being read is reported as a faulty profile, or it escapes. -/
theorem escapes_of_readEntries (path : String) (h : readEntries read env text = .error e) :
    (e.fault path).className = "ProfileError" ∨ Escapes read text (e.fault path) := by
  unfold readEntries at h
  split at h
  · next d hread =>
    cases h
    cases d with
    | malformed => exact .inl rfl
    | raised f => exact .inr (.raised hread)
  · next v hread =>
    cases v with
    | map entries => exact escapes_of_expandEntries path hread h
    | null => cases h
    | _ =>
      -- data that are no mapping are refused before anything in them is expanded
      cases h
      exact .inl rfl

end Loads

/-- Checked entries give a valid result, or they are refused. -/
theorem contained_check {α : Type} {IsValid : α → Prop} {ofFields : Fields → Checked α}
    (hvalid : ∀ fields a, ofFields fields = .ok a → IsValid a) (path : String)
    (entries : List (Value × Value)) : Contained path IsValid (check ofFields entries) := by
  unfold check
  split
  · next a heq => exact .inl ⟨a, rfl, hvalid _ a heq⟩
  · exact .inr ⟨_, rfl, rfl⟩

/-- **Loading fails in one way, save for what escapes.**  A profile and a scenario that are loaded
from a text, by whatever reader and under whatever environment, are valid, or a profile error is
raised; or else the reader raises a fault, or a key has no text, and both loads raise that.
Whatever fault a reader raises does leave both loads. -/
theorem load_contained_or_escapes (read : Markup.Reader) (env : Bindings) (path text : String) :
    ((Contained path Profile.IsValid (Profile.load read env text) ∧
        Contained path Scenario.IsValid (Scenario.load read env text)) ∨
      ∃ e, Escapes read text (e.fault path) ∧
        Profile.load read env text = .error e ∧ Scenario.load read env text = .error e) ∧
    ∀ f, read text = .error (.raised f) → ∃ e, e.fault path = f ∧
      Profile.load read env text = .error e ∧ Scenario.load read env text = .error e := by
  unfold Profile.load Scenario.load
  refine ⟨?_, fun f hread => ?_⟩
  · -- both loads read the same entries, and what they check fails in one way
    cases h : readEntries read env text with
    | ok entries =>
      exact .inl ⟨contained_check (fun _ _ => Profile.isValid_of_ofFields) path entries,
        contained_check (fun _ _ => Scenario.isValid_of_ofFields) path (unwrap entries)⟩
    | error e =>
      obtain hclass | hescapes := escapes_of_readEntries path h
      · exact .inl ⟨.inr ⟨e, rfl, hclass⟩, .inr ⟨e, rfl, hclass⟩⟩
      · exact .inr ⟨e, hescapes, rfl, rfl⟩
  · have h : readEntries read env text = .error (.unread (.raised f)) := by
      rw [readEntries, hread]
    rw [h]
    exact ⟨_, rfl, rfl, rfl⟩

/-- A month and a day that do not exist keep a profile from being loaded, and it is not a profile
error that says so. -/
theorem not_forall_load_contained :
    ¬ ∀ env path text, Contained path Profile.IsValid (Profile.load Markup.reader env text) ∧
      Contained path Scenario.IsValid (Scenario.load Markup.reader env text) := by
  intro h
  have hdefect : (Markup.read "profile_id: 2024-13-45\n").map (fun _ => ()) = .error .noValue := by
    decide +kernel
  have hread := Expansion.map_eq_error_iff.mp hdefect
  have hload : Profile.load Markup.reader .empty "profile_id: 2024-13-45\n" =
      .error (.unread Markup.Defect.noValue.error) := by
    rw [Profile.load, readEntries, Markup.reader, hread]
    rfl
  obtain ⟨p, hp, -⟩ | ⟨e, he, hclass⟩ := (h .empty "p" "profile_id: 2024-13-45\n").1
  · rw [hload] at hp
    cases hp
  · rw [hload] at he
    cases he
    exact absurd hclass (by decide)

end Loading

end Timebox
