import Mathlib.Data.List.Nodup
import Timebox.Loading
import Timebox.Proofs.Templates

/-!
# The shape of expanded data

What the environment holds goes into texts and stays there.  Data that is expanded under two
environments comes out in one shape (`Expansion.Shares`): the keys, the lengths of the lists and the
scalars are those of the data, and only texts with a token in them may differ (`shares_of_expand`).
Data without tokens is kept, with its keys as texts (`expand_of_not_hasToken`), and what makes
expansion fail is a text in it that cannot be expanded (`exists_text_of_expand_error`).

Keys are taken to stay different as texts, at every depth (`Value.HasDistinctKeys`): where two keys
have one text, the later entry takes the place of the earlier.
-/

namespace Timebox

/-! ### Parts of a value -/

namespace Value

/-- The value is no text and holds no other values. -/
def IsScalar : Value → Prop
  | text _ | list _ | map _ => False
  | _ => True

/-- A value stands in another one at any depth, as a member of a list or under a key. -/
inductive Within (part : Value) : Value → Prop
  | here : Within part part
  | item {v : Value} {items : List Value} (hv : v ∈ items) (h : Within part v) :
    Within part (list items)
  | entry {p : Value × Value} {entries : List (Value × Value)} (hp : p ∈ entries)
    (h : Within part p.2) : Within part (map entries)

/-- The texts of a mapping's keys. -/
def keyTexts (entries : List (Value × Value)) : List String :=
  entries.map fun p => p.1.display

/-- The keys of all mappings in a value have texts, and those of one mapping different ones. -/
def HasDistinctKeys (v : Value) : Prop :=
  ∀ entries, Within (map entries) v →
    (∀ p ∈ entries, p.1.isWritable = true) ∧ (keyTexts entries).Nodup

mutual

/-- The value with the keys of all its mappings as texts. -/
def withTextKeys : Value → Value
  | list items => list (itemsWithTextKeys items)
  | map entries => ofFields (fieldsWithTextKeys entries)
  | v => v

/-- The members of a list with keys as texts. -/
def itemsWithTextKeys : List Value → List Value
  | [] => []
  | v :: vs => withTextKeys v :: itemsWithTextKeys vs

/-- The entries of a mapping with keys as texts. -/
def fieldsWithTextKeys : List (Value × Value) → List (String × Value)
  | [] => []
  | (k, v) :: rest => (k.display, withTextKeys v) :: fieldsWithTextKeys rest

end

/-- Induction on values, with a case for those that hold no others. -/
theorem induction_nested {motive : Value → Prop} (text : ∀ s, motive (text s))
    (scalar : ∀ v, v.IsScalar → motive v)
    (list : ∀ items, (∀ v ∈ items, motive v) → motive (list items))
    (map : ∀ entries, (∀ p ∈ entries, motive p.2) → motive (map entries)) : ∀ v, motive v
  | .text s => text s
  | .list items => list items fun v _ => induction_nested text scalar list map v
  | .map entries => map entries fun p _ => induction_nested text scalar list map p.2
  | .null => scalar _ trivial
  | .bool _ => scalar _ trivial
  | .int _ => scalar _ trivial
  | .real _ => scalar _ trivial
  | .date _ => scalar _ trivial
  | .timestamp _ => scalar _ trivial
decreasing_by
  · have := List.sizeOf_lt_of_mem ‹_›
    simp only [Value.list.sizeOf_spec]
    omega
  · have := List.sizeOf_lt_of_mem ‹_›
    obtain ⟨k, v⟩ := p
    simp only [Value.map.sizeOf_spec, Prod.mk.sizeOf_spec] at *
    omega

section Parts

variable {part v : Value} {items : List Value} {entries : List (Value × Value)}

theorem within_list_iff :
    Within part (list items) ↔ part = list items ∨ ∃ v ∈ items, Within part v := by
  constructor
  · intro h
    cases h with
    | here => exact .inl rfl
    | item hv h => exact .inr ⟨_, hv, h⟩
  · rintro (rfl | ⟨v, hv, h⟩)
    · exact .here
    · exact .item hv h

theorem within_map_iff :
    Within part (map entries) ↔ part = map entries ∨ ∃ p ∈ entries, Within part p.2 := by
  constructor
  · intro h
    cases h with
    | here => exact .inl rfl
    | entry hp h => exact .inr ⟨_, hp, h⟩
  · rintro (rfl | ⟨p, hp, h⟩)
    · exact .here
    · exact .entry hp h

theorem hasDistinctKeys_text (s : String) : (text s).HasDistinctKeys := by
  intro entries h
  cases h

theorem hasDistinctKeys_scalar (h : v.IsScalar) : v.HasDistinctKeys := by
  intro entries hentries
  cases hentries <;> cases h

theorem hasDistinctKeys_list_iff :
    (list items).HasDistinctKeys ↔ ∀ v ∈ items, v.HasDistinctKeys := by
  constructor
  · intro h v hv entries hentries
    exact h entries (.item hv hentries)
  · intro h entries hentries
    obtain hlist | ⟨v, hv, hentries⟩ := within_list_iff.mp hentries
    · cases hlist
    · exact h v hv entries hentries

theorem hasDistinctKeys_map_iff :
    (map entries).HasDistinctKeys ↔
      ((∀ p ∈ entries, p.1.isWritable = true) ∧ (keyTexts entries).Nodup) ∧
        ∀ p ∈ entries, p.2.HasDistinctKeys := by
  constructor
  · intro h
    exact ⟨h entries .here, fun p hp inner hinner => h inner (.entry hp hinner)⟩
  · rintro ⟨hkeys, h⟩ inner hinner
    obtain hmap | ⟨p, hp, hinner⟩ := within_map_iff.mp hinner
    · cases hmap
      exact hkeys
    · exact h p hp inner hinner

end Parts

end Value

namespace Expansion

open Value (Within HasDistinctKeys keyTexts ofFields)

variable {env env' : Bindings}

/-! ### Sharing a shape -/

mutual

/-- Two values are what data becomes under two environments.  They are texts where it is a text, and
differ only if there is a token in it; they are lists or mappings where it is one, with as many
members and with its keys; and they are the data itself where it is a scalar. -/
inductive Shares (env env' : Bindings) : Value → Value → Value → Prop
  | token {s a b : String} (h : HasToken s.toList) (ha : expandText env s = .ok a)
    (hb : expandText env' s = .ok b) : Shares env env' (.text s) (.text a) (.text b)
  | plain {s : String} (h : ¬ HasToken s.toList) : Shares env env' (.text s) (.text s) (.text s)
  | scalar {v : Value} (h : v.IsScalar) : Shares env env' v v v
  | list {items as bs : List Value} (h : SharesItems env env' items as bs) :
    Shares env env' (.list items) (.list as) (.list bs)
  | map {entries as bs : List (Value × Value)} (h : SharesEntries env env' entries as bs) :
    Shares env env' (.map entries) (.map as) (.map bs)

/-- The members of two lists share the shape of those of a third, place by place. -/
inductive SharesItems (env env' : Bindings) : List Value → List Value → List Value → Prop
  | nil : SharesItems env env' [] [] []
  | cons {v a b : Value} {items as bs : List Value} (h : Shares env env' v a b)
    (hrest : SharesItems env env' items as bs) :
    SharesItems env env' (v :: items) (a :: as) (b :: bs)

/-- The entries of two mappings share the shape of those of a third: their keys are its keys as
texts. -/
inductive SharesEntries (env env' : Bindings) :
    List (Value × Value) → List (Value × Value) → List (Value × Value) → Prop
  | nil : SharesEntries env env' [] [] []
  | cons {k v a b : Value} {entries as bs : List (Value × Value)} (h : Shares env env' v a b)
    (hrest : SharesEntries env env' entries as bs) :
    SharesEntries env env' ((k, v) :: entries) ((.text k.display, a) :: as)
      ((.text k.display, b) :: bs)

end

/-! ### Members and entries -/

section Results

variable {ε α β : Type} {f : α → β} {x : Except ε α}

theorem map_eq_ok_iff {b : β} : x.map f = .ok b ↔ ∃ a, x = .ok a ∧ b = f a := by
  cases x <;> simp [Except.map, eq_comm]

theorem map_eq_error_iff {e : ε} : x.map f = .error e ↔ x = .error e := by
  cases x <;> simp [Except.map]

end Results

section Parts

variable {items ws : List Value} {entries : List (Value × Value)} {fields : List (String × Value)}
  {k v : Value} {e : Failure}

theorem expandItems_cons_eq_ok_iff :
    expandItems env (v :: items) = .ok ws ↔
      ∃ a as, expand env v = .ok a ∧ expandItems env items = .ok as ∧ ws = a :: as := by
  rw [expandItems]
  cases expand env v with
  | error e => simp
  | ok a =>
    cases expandItems env items with
    | error e => simp
    | ok as => simp [eq_comm]

theorem expandEntries_cons_eq_ok_iff :
    expandEntries env ((k, v) :: entries) = .ok fields ↔
      ∃ a as, k.isWritable = true ∧ expand env v = .ok a ∧ expandEntries env entries = .ok as ∧
        fields = (k.display, a) :: as := by
  rw [expandEntries]
  cases k.isWritable with
  | false => simp
  | true =>
    cases expand env v with
    | error e => simp
    | ok a =>
      cases expandEntries env entries with
      | error e => simp
      | ok as => simp [eq_comm]

/-- A list fails to expand at one of its members. -/
theorem exists_item_of_expandItems_error (h : expandItems env items = .error e) :
    ∃ v ∈ items, expand env v = .error e := by
  induction items with
  | nil => cases h
  | cons v items ih =>
    rw [expandItems] at h
    cases hv : expand env v with
    | error e' =>
      rw [hv] at h
      cases h
      exact ⟨v, List.mem_cons_self, hv⟩
    | ok a =>
      cases hrest : expandItems env items with
      | error e' =>
        rw [hv, hrest] at h
        cases h
        obtain ⟨w, hw, he⟩ := ih hrest
        exact ⟨w, List.mem_cons_of_mem v hw, he⟩
      | ok as =>
        rw [hv, hrest] at h
        cases h

/-- A mapping fails to expand at one of its values if its keys have texts. -/
theorem exists_entry_of_expandEntries_error (hkeys : ∀ p ∈ entries, p.1.isWritable = true)
    (h : expandEntries env entries = .error e) : ∃ p ∈ entries, expand env p.2 = .error e := by
  induction entries with
  | nil => cases h
  | cons p entries ih =>
    obtain ⟨k, v⟩ := p
    rw [expandEntries, if_pos (hkeys (k, v) List.mem_cons_self)] at h
    cases hv : expand env v with
    | error e' =>
      rw [hv] at h
      cases h
      exact ⟨(k, v), List.mem_cons_self, hv⟩
    | ok a =>
      cases hrest : expandEntries env entries with
      | error e' =>
        rw [hv, hrest] at h
        cases h
        obtain ⟨q, hq, he⟩ := ih (fun q hq => hkeys q (List.mem_cons_of_mem _ hq)) hrest
        exact ⟨q, List.mem_cons_of_mem _ hq, he⟩
      | ok as =>
        rw [hv, hrest] at h
        cases h

end Parts

/-! ### Different keys -/

section Keys

variable {entries : List (Value × Value)} {fields : List (String × Value)}

theorem keys_of_expandEntries (h : expandEntries env entries = .ok fields) :
    fields.map Prod.fst = keyTexts entries := by
  induction entries generalizing fields with
  | nil =>
    cases h
    rfl
  | cons p entries ih =>
    obtain ⟨k, v⟩ := p
    obtain ⟨a, as, -, -, hrest, rfl⟩ := expandEntries_cons_eq_ok_iff.mp h
    rw [List.map_cons, ih hrest]
    rfl

/-- A key that is not there is set at the end. -/
theorem setField_of_not_mem {key : String} (h : key ∉ fields.map Prod.fst) (value : Value) :
    setField key value (fields.map fun (k, v) => (.text k, v)) =
      (fields ++ [(key, value)]).map fun (k, v) => (.text k, v) := by
  induction fields with
  | nil => rfl
  | cons field fields ih =>
    obtain ⟨k, v⟩ := field
    rw [List.map_cons, List.mem_cons, not_or] at h
    rw [List.map_cons, setField, if_neg (Ne.symm h.1), ih h.2]
    rfl

theorem foldl_setField (acc : List (String × Value))
    (h : ((acc ++ fields).map Prod.fst).Nodup) :
    fields.foldl (fun es (k, v) => setField k v es) (acc.map fun (k, v) => (.text k, v)) =
      (acc ++ fields).map fun (k, v) => (.text k, v) := by
  induction fields generalizing acc with
  | nil => rw [List.append_nil, List.foldl_nil]
  | cons field fields ih =>
    obtain ⟨k, v⟩ := field
    have hmove : acc ++ (k, v) :: fields = acc ++ [(k, v)] ++ fields := by simp
    have hk : k ∉ acc.map Prod.fst := by
      rw [List.map_append, List.map_cons] at h
      exact fun hk => List.disjoint_of_nodup_append h hk List.mem_cons_self
    rw [hmove] at h ⊢
    rw [← ih (acc ++ [(k, v)]) h, ← setField_of_not_mem hk, List.foldl_cons]

/-- No entry takes the place of another if the keys are different texts. -/
theorem expand_map (hkeys : (keyTexts entries).Nodup) :
    expand env (.map entries) = (expandEntries env entries).map ofFields := by
  rw [expand]
  cases h : expandEntries env entries with
  | error e => rfl
  | ok fields =>
    have hfold := foldl_setField [] ((keys_of_expandEntries h).symm ▸ hkeys)
    exact congrArg (fun es => Except.ok (Value.map es)) hfold

end Keys

/-! ### Two environments -/

section Sharing

variable {v a b : Value} {items as bs : List Value} {entries : List (Value × Value)}
  {fields fields' : List (String × Value)}

theorem expand_scalar (h : v.IsScalar) : expand env v = .ok v := by
  cases v with
  | text | list | map => cases h
  | _ => rfl

theorem sharesItems (ih : ∀ v ∈ items, ∀ a b, expand env v = .ok a → expand env' v = .ok b →
      Shares env env' v a b)
    (ha : expandItems env items = .ok as) (hb : expandItems env' items = .ok bs) :
    SharesItems env env' items as bs := by
  induction items generalizing as bs with
  | nil =>
    cases ha
    cases hb
    exact .nil
  | cons v items hrest =>
    obtain ⟨a, as, hv, has, rfl⟩ := expandItems_cons_eq_ok_iff.mp ha
    obtain ⟨b, bs, hv', hbs, rfl⟩ := expandItems_cons_eq_ok_iff.mp hb
    exact .cons (ih v List.mem_cons_self a b hv hv')
      (hrest (fun w hw => ih w (List.mem_cons_of_mem v hw)) has hbs)

theorem sharesEntries (ih : ∀ p ∈ entries, ∀ a b, expand env p.2 = .ok a →
      expand env' p.2 = .ok b → Shares env env' p.2 a b)
    (ha : expandEntries env entries = .ok fields) (hb : expandEntries env' entries = .ok fields') :
    SharesEntries env env' entries (fields.map fun (k, v) => (.text k, v))
      (fields'.map fun (k, v) => (.text k, v)) := by
  induction entries generalizing fields fields' with
  | nil =>
    cases ha
    cases hb
    exact .nil
  | cons p entries hrest =>
    obtain ⟨k, v⟩ := p
    obtain ⟨a, as, -, hv, has, rfl⟩ := expandEntries_cons_eq_ok_iff.mp ha
    obtain ⟨b, bs, -, hv', hbs, rfl⟩ := expandEntries_cons_eq_ok_iff.mp hb
    exact .cons (ih (k, v) List.mem_cons_self a b hv hv')
      (hrest (fun q hq => ih q (List.mem_cons_of_mem _ hq)) has hbs)

/-- What data becomes under two environments shares its shape. -/
theorem shares_of_expand (hkeys : v.HasDistinctKeys) (ha : expand env v = .ok a)
    (hb : expand env' v = .ok b) : Shares env env' v a b := by
  induction v using Value.induction_nested generalizing a b with
  | text s =>
    obtain ⟨s₁, hs₁, rfl⟩ := map_eq_ok_iff.mp ha
    obtain ⟨s₂, hs₂, rfl⟩ := map_eq_ok_iff.mp hb
    -- a text without a token is the same in any environment
    by_cases htoken : HasToken s.toList
    · exact .token htoken hs₁ hs₂
    · rw [expandText_of_not_hasToken htoken] at hs₁ hs₂
      cases hs₁
      cases hs₂
      exact .plain htoken
  | scalar v h =>
    rw [expand_scalar h] at ha hb
    cases ha
    cases hb
    exact .scalar h
  | list items ih =>
    obtain ⟨as, has, rfl⟩ := map_eq_ok_iff.mp ha
    obtain ⟨bs, hbs, rfl⟩ := map_eq_ok_iff.mp hb
    have hkeys := Value.hasDistinctKeys_list_iff.mp hkeys
    exact .list (sharesItems (fun v hv _ _ => ih v hv (hkeys v hv)) has hbs)
  | map entries ih =>
    obtain ⟨⟨-, hdistinct⟩, hkeys⟩ := Value.hasDistinctKeys_map_iff.mp hkeys
    rw [expand_map hdistinct] at ha hb
    obtain ⟨fields, hfields, rfl⟩ := map_eq_ok_iff.mp ha
    obtain ⟨fields', hfields', rfl⟩ := map_eq_ok_iff.mp hb
    exact .map (sharesEntries (fun p hp _ _ => ih p hp (hkeys p hp)) hfields hfields')

end Sharing

/-! ### Data without tokens -/

section Untokened

variable {v : Value} {items : List Value} {entries : List (Value × Value)}

theorem expandItems_of_forall (h : ∀ v ∈ items, expand env v = .ok v.withTextKeys) :
    expandItems env items = .ok (Value.itemsWithTextKeys items) := by
  induction items with
  | nil => rfl
  | cons v items ih =>
    exact expandItems_cons_eq_ok_iff.mpr ⟨_, _, h v List.mem_cons_self,
      ih fun w hw => h w (List.mem_cons_of_mem v hw), rfl⟩

theorem expandEntries_of_forall (hkeys : ∀ p ∈ entries, p.1.isWritable = true)
    (h : ∀ p ∈ entries, expand env p.2 = .ok p.2.withTextKeys) :
    expandEntries env entries = .ok (Value.fieldsWithTextKeys entries) := by
  induction entries with
  | nil => rfl
  | cons p entries ih =>
    obtain ⟨k, v⟩ := p
    exact expandEntries_cons_eq_ok_iff.mpr ⟨_, _, hkeys (k, v) List.mem_cons_self,
      h (k, v) List.mem_cons_self, ih (fun q hq => hkeys q (List.mem_cons_of_mem _ hq))
        fun q hq => h q (List.mem_cons_of_mem _ hq), rfl⟩

/-- Data without tokens keeps all but the form of its keys. -/
theorem expand_of_not_hasToken (hkeys : v.HasDistinctKeys)
    (h : ∀ s, Within (.text s) v → ¬ HasToken s.toList) : expand env v = .ok v.withTextKeys := by
  induction v using Value.induction_nested with
  | text s =>
    exact map_eq_ok_iff.mpr ⟨s, expandText_of_not_hasToken (h s .here), rfl⟩
  | scalar v hv =>
    rw [expand_scalar hv]
    cases v with
    | text | list | map => cases hv
    | _ => rfl
  | list items ih =>
    have hkeys := Value.hasDistinctKeys_list_iff.mp hkeys
    exact map_eq_ok_iff.mpr ⟨_, expandItems_of_forall fun v hv =>
      ih v hv (hkeys v hv) fun s hs => h s (.item hv hs), rfl⟩
  | map entries ih =>
    obtain ⟨⟨hwritable, hdistinct⟩, hkeys⟩ := Value.hasDistinctKeys_map_iff.mp hkeys
    rw [expand_map hdistinct]
    exact map_eq_ok_iff.mpr ⟨_, expandEntries_of_forall hwritable fun p hp =>
      ih p hp (hkeys p hp) fun s hs => h s (.entry hp hs), rfl⟩

end Untokened

/-! ### Failing -/

section Failing

variable {part v a : Value} {s : String} {items as : List Value}
  {entries : List (Value × Value)} {fields : List (String × Value)} {p : Value × Value}
  {e : Failure}

theorem exists_of_expandItems (h : expandItems env items = .ok as) (hv : v ∈ items) :
    ∃ a, expand env v = .ok a := by
  induction items generalizing as with
  | nil => cases hv
  | cons w items ih =>
    obtain ⟨a, as, ha, has, -⟩ := expandItems_cons_eq_ok_iff.mp h
    rcases List.mem_cons.mp hv with rfl | hv
    · exact ⟨a, ha⟩
    · exact ih has hv

theorem exists_of_expandEntries (h : expandEntries env entries = .ok fields) (hp : p ∈ entries) :
    ∃ a, expand env p.2 = .ok a := by
  induction entries generalizing fields with
  | nil => cases hp
  | cons q entries ih =>
    obtain ⟨a, as, -, ha, has, -⟩ := expandEntries_cons_eq_ok_iff.mp h
    rcases List.mem_cons.mp hp with rfl | hp
    · exact ⟨a, ha⟩
    · exact ih has hp

/-- Where data is expanded, so is everything in it. -/
theorem exists_of_within (hpart : Within part v) (h : expand env v = .ok a) :
    ∃ b, expand env part = .ok b := by
  induction hpart generalizing a with
  | here => exact ⟨a, h⟩
  | item hv _ ih =>
    obtain ⟨as, has, -⟩ := map_eq_ok_iff.mp h
    obtain ⟨b, hb⟩ := exists_of_expandItems has hv
    exact ih hb
  | entry hp _ ih =>
    obtain ⟨fields, hfields, -⟩ := map_eq_ok_iff.mp h
    obtain ⟨b, hb⟩ := exists_of_expandEntries hfields hp
    exact ih hb

/-- What data fails with is what a text in it fails with. -/
theorem exists_text_of_expand_error (hkeys : v.HasDistinctKeys) (h : expand env v = .error e) :
    ∃ s, Within (.text s) v ∧ expandText env s = .error e := by
  induction v using Value.induction_nested with
  | text s => exact ⟨s, .here, map_eq_error_iff.mp h⟩
  | scalar v hv =>
    rw [expand_scalar hv] at h
    cases h
  | list items ih =>
    have hkeys := Value.hasDistinctKeys_list_iff.mp hkeys
    obtain ⟨v, hv, he⟩ := exists_item_of_expandItems_error (map_eq_error_iff.mp h)
    obtain ⟨s, hs, he⟩ := ih v hv (hkeys v hv) he
    exact ⟨s, .item hv hs, he⟩
  | map entries ih =>
    obtain ⟨⟨hwritable, -⟩, hkeys⟩ := Value.hasDistinctKeys_map_iff.mp hkeys
    obtain ⟨p, hp, he⟩ := exists_entry_of_expandEntries_error hwritable (map_eq_error_iff.mp h)
    obtain ⟨s, hs, he⟩ := ih p hp (hkeys p hp) he
    exact ⟨s, .entry hp hs, he⟩

theorem replacement_error {content : List Char} (h : replacement env content = .error e) :
    e.fault.className = "ProfileError" := by
  rcases fills_or_lacks env content with ⟨cs, hfills⟩ | hlacks
  · rw [hfills.replacement] at h
    cases h
  · rw [hlacks.replacement] at h
    cases h
    rfl

theorem expandPieces_error {ps : List Piece} (h : expandPieces env ps = .error e) :
    e.fault.className = "ProfileError" := by
  induction ps with
  | nil => cases h
  | cons p ps ih =>
    rw [expandPieces] at h
    split at h
    · next hp =>
      cases h
      cases p with
      | literal c => cases hp
      | token content => exact replacement_error hp
    · split at h
      · next hps =>
        cases h
        exact ih hps
      · cases h

/-- The only way for a text to fail is a variable that is missing. -/
theorem expandText_error (h : expandText env s = .error e) : e.fault.className = "ProfileError" :=
  expandPieces_error (map_eq_error_iff.mp h)

end Failing

/-- **The environment cannot inject structure.**  Let the keys of data stay different as texts, at
every depth.  What it becomes under two environments shares its shape: the keys, the lengths of the
lists and the scalars are those of the data, and texts differ only where there is a token.  Data
without tokens is kept, with its keys as texts.  Expansion raises a profile error exactly if a text
at some depth does, and whatever it raises is raised by a text. -/
theorem expand_structure {v : Value} (hkeys : v.HasDistinctKeys) :
    (∀ env env' a b, expand env v = .ok a → expand env' v = .ok b → Shares env env' v a b) ∧
    ((∀ s, Within (.text s) v → ¬ HasToken s.toList) → ∀ env, expand env v = .ok v.withTextKeys) ∧
    ∀ env,
      ((∃ e, expand env v = .error e ∧ e.fault.className = "ProfileError") ↔
        ∃ s e, Within (.text s) v ∧ expandText env s = .error e ∧
          e.fault.className = "ProfileError") ∧
      ∀ e, expand env v = .error e → ∃ s, Within (.text s) v ∧ expandText env s = .error e := by
  refine ⟨fun env env' a b => shares_of_expand hkeys,
    fun h env => expand_of_not_hasToken hkeys h,
    fun env => ⟨⟨?_, ?_⟩, fun e => exists_text_of_expand_error hkeys⟩⟩
  · rintro ⟨e, he, hclass⟩
    obtain ⟨s, hs, he⟩ := exists_text_of_expand_error hkeys he
    exact ⟨s, e, hs, he, hclass⟩
  · rintro ⟨s, e, hs, he, -⟩
    cases hv : expand env v with
    | error e' =>
      obtain ⟨t, -, ht⟩ := exists_text_of_expand_error hkeys hv
      exact ⟨e', rfl, expandText_error ht⟩
    | ok a =>
      -- all texts of data that is expanded are expanded
      obtain ⟨b, hb⟩ := exists_of_within hs hv
      obtain ⟨out, hout, -⟩ := map_eq_ok_iff.mp hb
      rw [he] at hout
      cases hout

/-- A token that is all there is to a text gives way to what fills it. -/
theorem expandText_token {env : Bindings} (t : Token) {value : List Char}
    (h : Fills env t.content value) :
    expandText env (String.ofList t.chars) = .ok (String.ofList value) := by
  have hplain : ¬ ['$', '\x7b'] <:+: ([] : List Char) := by simp
  let s : Template := { opening := ⟨[], hplain⟩, rest := [(t, ⟨[], hplain⟩)] }
  have htext : s.text = String.ofList t.chars := by simp [s, Template.text, charsOf]
  have hbecomes : s.Becomes env (String.ofList value) := ⟨_, .cons h .nil, by simp [s]⟩
  rw [← htext]
  exact expandText_eq_ok_iff.mpr hbecomes

/-- A list with a token under one key, and a mapping under a text. -/
def sampleData (s : String) (k l : Value) : Value :=
  .map [(k, .list [.text s, .null]), (.text "b", .map [(l, .text "x")])]

/-- What looks like a list, or like a token, is put in as a text. -/
theorem expand_structure_of_sampleData :
    let env := Bindings.ofPairs [("A", "[1, 2]")]
    let env' := Bindings.ofPairs [("A", "$\x7bB\x7d")]
    let data := sampleData "$\x7bA\x7d" .null (.bool true)
    let result := fun s : String => sampleData s (.text "None") (.text "True")
    data.HasDistinctKeys ∧ expand env data = .ok (result "[1, 2]") ∧
      expand env' data = .ok (result "$\x7bB\x7d") ∧
      Shares env env' data (result "[1, 2]") (result "$\x7bB\x7d") := by
  intro env env' data result
  have hlist : (Value.list [.text "$\x7bA\x7d", .null]).HasDistinctKeys :=
    Value.hasDistinctKeys_list_iff.mpr (by
      have hnull : Value.null.HasDistinctKeys := Value.hasDistinctKeys_scalar trivial
      simp [Value.hasDistinctKeys_text, hnull])
  have hmap : (Value.map [(.bool true, .text "x")]).HasDistinctKeys :=
    Value.hasDistinctKeys_map_iff.mpr
      ⟨⟨by decide, by decide⟩, by simp [Value.hasDistinctKeys_text]⟩
  have hkeys : data.HasDistinctKeys :=
    Value.hasDistinctKeys_map_iff.mpr ⟨⟨by decide, by decide⟩, by simp [hlist, hmap]⟩
  -- the environment matters at the one token and nowhere else
  have htoken : ∀ env value, Holds env ['A'] value →
      expand env data = .ok (result (String.ofList value)) := by
    intro env value h
    have hlone : expandText env "$\x7bA\x7d" = .ok (String.ofList value) :=
      expandText_token ⟨['A'], by decide, by decide⟩ (.required (by decide) h)
    have hplain : expandText env "x" = .ok "x" := by
      refine expandText_of_not_hasToken ?_
      rintro ⟨content, -, -, h⟩
      have hdollar : '$' ∈ "x".toList := h.subset List.mem_cons_self
      exact absurd hdollar (by decide)
    simp only [data, sampleData, expand, expandItems, expandEntries, hlone, hplain]
    rfl
  have hvalue : expand env data = .ok (result "[1, 2]") :=
    htoken env "[1, 2]".toList ⟨rfl, '[', by decide, by decide⟩
  have hvalue' : expand env' data = .ok (result "$\x7bB\x7d") :=
    htoken env' "$\x7bB\x7d".toList ⟨rfl, '$', by decide, by decide⟩
  obtain ⟨hshares, -, -⟩ := expand_structure hkeys
  exact ⟨hkeys, hvalue, hvalue', hshares env env' _ _ hvalue hvalue'⟩

end Expansion

end Timebox
