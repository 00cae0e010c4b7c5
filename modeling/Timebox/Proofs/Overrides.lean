import Mathlib.Data.List.Forall2
import Timebox.Proofs.Blocks

/-!
# Overrides take all of their items or none

An item of an override is a pair of texts if it unpacks into two texts (`OverrideItem.Unpacks`);
otherwise there is one reason why it is none (`OverrideItem.Defies`).  An override whose items are
all pairs binds them from left to right.  Any other one leaves the arguments alone, although it has
written the items before the first one that is no pair, and it is refused for the reason of that
item: those that come after it are not looked at (`Arguments.override_all_or_nothing`).
-/

namespace Timebox

/-! ### Items -/

namespace OverrideItem

variable {x : OverrideItem} {xs : List OverrideItem} {key value : String} {e : PairError}

/-- An item is a pair of texts: a checked one, a list of two texts, a text of two characters, or a
mapping with two keys that are texts. -/
inductive Unpacks : OverrideItem → String → String → Prop
  | pair (key value : String) : Unpacks (.pair key value) key value
  | list (key value : String) : Unpacks (.loose (.list [.text key, .text value])) key value
  | text {s : String} {c d : Char} (h : s.toList = [c, d]) :
    Unpacks (.loose (.text s)) (.ofList [c]) (.ofList [d])
  | keys (key value : String) (v w : Value) :
    Unpacks (.loose (.map [(.text key, v), (.text value, w)])) key value

/-- Why an item is no pair of texts: it has no parts, not two of them, or two that are not both
texts. -/
inductive Defies : OverrideItem → PairError → Prop
  | indivisible {v : Value} (h : v.parts? = none) : Defies (.loose v) (.indivisible v)
  | partCount {v : Value} {parts : List Value} (h : v.parts? = some parts)
    (hcount : parts.length ≠ 2) : Defies (.loose v) (.partCount parts.length)
  | notTexts {v first second : Value} (h : v.parts? = some [first, second])
    (htexts : ∀ key value, ¬ (first = .text key ∧ second = .text value)) :
    Defies (.loose v) (.notTexts first second)

theorem Unpacks.toPair (h : x.Unpacks key value) : x.toPair = .ok (key, value) := by
  cases h with
  | pair key value => rfl
  | list key value => rfl
  | text h => simp [OverrideItem.toPair, Value.parts?, h]
  | keys key value v w => rfl

/-- A value whose parts are two texts unpacks into them. -/
theorem unpacks_of_parts {v : Value} (h : v.parts? = some [.text key, .text value]) :
    (loose v).Unpacks key value := by
  cases v with
  | list items =>
    obtain rfl := Option.some.inj h
    exact .list key value
  | text s =>
    have hparts := Option.some.inj h
    -- the parts of a text are its characters, so there are two of them
    match hs : s.toList with
    | [] => simp [hs] at hparts
    | [c] => simp [hs] at hparts
    | [c, d] =>
      simp only [hs, List.map_cons, List.map_nil, List.cons.injEq, Value.text.injEq,
        and_true] at hparts
      obtain ⟨rfl, rfl⟩ := hparts
      exact .text hs
    | c :: d :: e :: cs => simp [hs] at hparts
  | map entries =>
    have hkeys := Option.some.inj h
    match entries with
    | [] => simp at hkeys
    | [p] => simp at hkeys
    | [(first, v), (second, w)] =>
      simp only [List.map_cons, List.map_nil, List.cons.injEq, and_true] at hkeys
      obtain ⟨rfl, rfl⟩ := hkeys
      exact .keys key value v w
    | p :: q :: r :: rest => simp at hkeys
  | _ => cases h

theorem unpacks_of_toPair (h : x.toPair = .ok (key, value)) : x.Unpacks key value := by
  cases x with
  | pair key' value' =>
    obtain ⟨rfl, rfl⟩ := Prod.mk.inj (Except.ok.inj h)
    exact .pair key' value'
  | loose v =>
    simp only [OverrideItem.toPair] at h
    split at h
    · cases h
    · next key' value' hparts =>
      obtain ⟨rfl, rfl⟩ := Prod.mk.inj (Except.ok.inj h)
      exact unpacks_of_parts hparts
    · cases h
    · cases h

theorem defies_of_toPair (h : x.toPair = .error e) : x.Defies e := by
  cases x with
  | pair key value => cases h
  | loose v =>
    simp only [OverrideItem.toPair] at h
    split at h
    · next hparts =>
      obtain rfl := Except.error.inj h
      exact .indivisible hparts
    · cases h
    · next first second htexts hparts =>
      obtain rfl := Except.error.inj h
      exact .notTexts hparts fun key value ⟨hkey, hvalue⟩ => htexts key value hkey hvalue
    · next parts _ hpairs hparts =>
      obtain rfl := Except.error.inj h
      refine .partCount hparts fun hcount => ?_
      obtain ⟨first, second, rfl⟩ := List.length_eq_two.mp hcount
      exact hpairs first second rfl

theorem Defies.toPair (h : x.Defies e) : x.toPair = .error e := by
  cases h with
  | indivisible h => simp only [OverrideItem.toPair, h]
  | @partCount v parts h hcount =>
    match parts with
    | [] => simp only [OverrideItem.toPair, h]
    | [p] => simp only [OverrideItem.toPair, h]
    | [p, q] => exact absurd rfl hcount
    | p :: q :: r :: rest => simp only [OverrideItem.toPair, h]
  | @notTexts v first second h htexts =>
    -- This is the form in which the branch of two texts is excluded.
    have hpair : ∀ key value, first = .text key → second ≠ .text value :=
      fun key value hkey hvalue => htexts key value ⟨hkey, hvalue⟩
    simp only [OverrideItem.toPair, h]

/-! ### Lists of items -/

/-- Items that come to pairs unpack into them, one by one. -/
theorem unpacks_of_toPairs {ps : List (String × String)} (h : toPairs xs = .ok ps) :
    List.Forall₂ (fun x p => x.Unpacks p.1 p.2) xs ps := by
  induction xs generalizing ps with
  | nil =>
    obtain rfl := Except.ok.inj h
    exact .nil
  | cons x xs ih =>
    unfold toPairs at h
    cases hx : x.toPair with
    | error e =>
      rw [hx] at h
      cases h
    | ok p =>
      rw [hx] at h
      cases hxs : toPairs xs with
      | error e =>
        rw [hxs] at h
        cases h
      | ok qs =>
        rw [hxs] at h
        obtain rfl := Except.ok.inj h
        exact .cons (unpacks_of_toPair hx) (ih hxs)

/-- Items that do not come to pairs have a first one that is none. -/
theorem exists_defies_of_toPairs (h : toPairs xs = .error e) : ∃ before x after,
    xs = before ++ x :: after ∧ (∀ y ∈ before, ∃ key value, y.Unpacks key value) ∧
      x.Defies e := by
  induction xs with
  | nil => cases h
  | cons x xs ih =>
    unfold toPairs at h
    cases hx : x.toPair with
    | error e' =>
      rw [hx] at h
      obtain rfl := Except.error.inj h
      exact ⟨[], x, xs, rfl, fun y hy => absurd hy List.not_mem_nil, defies_of_toPair hx⟩
    | ok p =>
      rw [hx] at h
      cases hxs : toPairs xs with
      | error e' =>
        -- this item is a pair, so the reason lies among those after it
        rw [hxs] at h
        obtain rfl := Except.error.inj h
        obtain ⟨before, y, after, rfl, hbefore, hy⟩ := ih hxs
        refine ⟨x :: before, y, after, rfl, fun z hz => ?_, hy⟩
        rcases List.mem_cons.mp hz with rfl | hz
        · exact ⟨p.1, p.2, unpacks_of_toPair hx⟩
        · exact hbefore z hz
      | ok qs =>
        rw [hxs] at h
        cases h

/-- The first item that is no pair is the reason, whatever comes after it. -/
theorem toPairs_of_defies {before : List OverrideItem}
    (hbefore : ∀ y ∈ before, ∃ key value, y.Unpacks key value) (hx : x.Defies e)
    (after : List OverrideItem) : toPairs (before ++ x :: after) = .error e := by
  induction before with
  | nil =>
    rw [List.nil_append, toPairs, hx.toPair]
  | cons y ys ih =>
    obtain ⟨key, value, hy⟩ := hbefore y List.mem_cons_self
    rw [List.cons_append, toPairs, hy.toPair, ih fun z hz => hbefore z (List.mem_cons_of_mem y hz)]
    rfl

end OverrideItem

/-! ### Overrides -/

/-- The class of the fault that reports why an item is no pair. Two parts that are not both texts
are a faulty argument, unless there is an integer in them with too many digits to be shown. -/
def PairError.className : PairError → String
  | indivisible _ => "TypeError"
  | partCount _ => "ValueError"
  | notTexts first second =>
    if first.isWritable && second.isWritable then "ArgumentError" else "ValueError"

theorem PairError.className_fault (e : PairError) : e.fault.className = e.className := by
  cases e with
  | indivisible v => rfl
  | partCount n =>
    by_cases h : n < 2
    · simp only [PairError.fault, if_pos h]
      rfl
    · simp only [PairError.fault, if_neg h]
      rfl
  | notTexts first second =>
    simp only [PairError.fault, PairError.className]
    split
    · rfl
    · rfl

/-- **An override takes all of its items or none.**  If all are pairs of texts, they are bound from
left to right, and the token keeps what there was before.  If not, the first item that is no pair is
the reason, whatever comes after it, and the arguments are what they were; and so they are if there
is nothing to take items from. -/
theorem Arguments.override_all_or_nothing (a : Arguments) (items : OverrideItems) :
    (∃ xs ps, items = .items xs ∧
      List.Forall₂ (fun x p => OverrideItem.Unpacks x p.1 p.2) xs ps ∧
      a.override items = (a.overlay ps, .ok { snapshot := a, restored := false }) ∧
      ∀ key, (a.overlay ps).get? key = (ps.reverse.lookup key).or (a.get? key)) ∨
    (∃ before x after e, items = .items (before ++ x :: after) ∧
      (∀ y ∈ before, ∃ key value, y.Unpacks key value) ∧ x.Defies e ∧
      e.fault.className = e.className ∧
      ∀ others, a.override (.items (before ++ x :: others)) = (a, .error e.fault)) ∨
    (∃ v f, items = .single v ∧ f.className = "TypeError" ∧ a.override items = (a, .error f)) := by
  cases items with
  | single v => exact Or.inr (Or.inr ⟨v, PairError.noItems v, rfl, rfl, rfl⟩)
  | items xs =>
    cases hxs : OverrideItem.toPairs xs with
    | ok ps =>
      refine Or.inl ⟨xs, ps, rfl, OverrideItem.unpacks_of_toPairs hxs, ?_, a.get?_overlay ps⟩
      rw [override_eq, OverrideItems.pairs, hxs]
      rfl
    | error e =>
      obtain ⟨before, x, after, rfl, hbefore, hx⟩ := OverrideItem.exists_defies_of_toPairs hxs
      refine Or.inr (Or.inl ⟨before, x, after, e, rfl, hbefore, hx, e.className_fault, ?_⟩)
      -- whatever comes after the faulty item, the outcome is the same
      intro others
      rw [override_eq, OverrideItems.pairs, OverrideItem.toPairs_of_defies hbefore hx others]
      rfl

/-- A pair that is not of texts is not always refused as a faulty argument: an integer in it may
have too many digits for a text. -/
theorem Arguments.not_forall_override_badArgument :
    ¬ ∀ (a : Arguments) (x : OverrideItem) (first second : Value),
      x.Defies (.notTexts first second) →
        ∃ f, a.override (.items [x]) = (a, .error f) ∧ f.className = "ArgumentError" := by
  intro hall
  let long : Value := .int (Nat.pow 10 Text.maxDigits)
  have hlong : long.isWritable = false := by
    simp only [long, Value.isWritable, Value.isWritableInteger_limit]
  have hx : (OverrideItem.loose (.list [.text "k", long])).Defies (.notTexts (.text "k") long) :=
    .notTexts rfl fun _ _ h => Value.noConfusion h.2
  obtain ⟨f, hf, hclass⟩ := hall .empty _ _ _ hx
  have hfault : f = (PairError.notTexts (.text "k") long).fault := by
    rw [override_eq, OverrideItems.pairs, OverrideItem.toPairs, hx.toPair] at hf
    exact (Except.error.inj (congrArg Prod.snd hf)).symm
  rw [hfault, PairError.className_fault, PairError.className, hlong, Bool.and_false] at hclass
  exact absurd hclass (by decide)

end Timebox
