import Timebox.Json.Decode
import Timebox.Json.Encode

/-!
# Lines that read back

A value without fractions is read off the line that it is written on (`Json.decode_line`).  Lines
sort the fields of objects by their keys, so what is read off is the value `Json.arranged`.

The reader is followed from its smallest part up: an escaped character reads back
(`readChar_escapeChar`), then a text and a number, then the members of a list and the fields of an
object if each of them does (`readItems_separated`, `readFields_separated`).  A number ends where
something follows that does not go on with it (`Delimited`), and a value begins where the blanks end
(`Opens`).  The reader's fuel is no matter, because twice the length of what is read is enough.
-/

namespace Timebox.Json

open Text

/-! ### Characters -/

theorem hexValue?_hexDigit (n : Nat) : hexValue? (hexDigit n) = some (n % 16) := by
  have hdigit : ∀ d : Fin 16, hexValue? (hexDigit d) = some d.val := by decide
  have hn : hexDigit n = hexDigit (n % 16) := by
    unfold hexDigit
    rw [Nat.mod_mod]
  rw [hn]
  exact hdigit ⟨n % 16, Nat.mod_lt n (by decide)⟩

/-- Four digits write any sixteen-bit unit. -/
theorem readUnit_hexDigits {n : Nat} (hn : n < 0x10000) (rest : List Char) :
    readUnit (hexDigits 4 n ++ rest) = some (n, rest) := by
  have hdigits : hexDigits 4 n ++ rest = hexDigit (n / 16 / 16 / 16) :: hexDigit (n / 16 / 16) ::
      hexDigit (n / 16) :: hexDigit n :: rest := rfl
  have hvalue : ((n / 16 / 16 / 16 % 16 * 16 + n / 16 / 16 % 16) * 16 + n / 16 % 16) * 16 +
      n % 16 = n := by omega
  rw [hdigits]
  simp only [readUnit, hexValue?_hexDigit, Option.bind_eq_bind, Option.bind_some, hvalue]
  rfl

/-- The code point of a character is no surrogate. -/
theorem toNat_cases (c : Char) : c.toNat < 0xD800 ∨ 0xDFFF < c.toNat ∧ c.toNat < 0x110000 := by
  exact c.valid

/-- A character that is neither escaped nor a control character stands for itself. -/
theorem readChar_self {c : Char} (hquote : ¬ (c = doubleQuote ∨ c = backslash))
    (hc : 0x20 ≤ c.toNat) (rest : List Char) : readChar (c :: rest) = some (some c, rest) := by
  obtain ⟨hquote, hbackslash⟩ := not_or.mp hquote
  have hplain : ¬ (c.toNat < 0x20 ∨ c = '\x5c') := by
    rintro (h | h)
    · omega
    · exact hbackslash h
  unfold readChar
  split
  · next h => cases h
  · next h => exact absurd (List.cons.inj h).1 hquote
  · next h => exact absurd (List.cons.inj h).1 hbackslash
  · next h =>
    obtain ⟨rfl, rfl⟩ := List.cons.inj h
    rw [if_neg hplain]

/-- The escape of a unit that is no surrogate reads back. -/
theorem readChar_unitEscape {n : Nat} (hn : n < 0xD800 ∨ 0xDFFF < n ∧ n < 0x10000)
    (rest : List Char) : readChar (unitEscape n ++ rest) = some (some (Char.ofNat n), rest) := by
  have hunit : readUnit (hexDigits 4 n ++ rest) = some (n, rest) :=
    readUnit_hexDigits (by omega) rest
  have hescaped : readEscaped n rest = some (Char.ofNat n, rest) := by
    unfold readEscaped
    rw [if_neg (by omega), if_neg (by omega)]
  show ((readUnit (hexDigits 4 n ++ rest)).bind fun p =>
    (readEscaped p.1 p.2).bind fun q => some (some q.1, q.2)) = _
  rw [hunit, Option.bind_some, hescaped, Option.bind_some]

/-- The escapes of two surrogates read back as one character. -/
theorem readChar_surrogates {n : Nat} (hlow : 0x10000 ≤ n) (hhigh : n < 0x110000)
    (rest : List Char) :
    readChar (unitEscape (0xD800 + (n - 0x10000) / 0x400) ++
      unitEscape (0xDC00 + (n - 0x10000) % 0x400) ++ rest) = some (some (Char.ofNat n), rest) := by
  have hhead : readUnit (hexDigits 4 (0xD800 + (n - 0x10000) / 0x400) ++
      (unitEscape (0xDC00 + (n - 0x10000) % 0x400) ++ rest)) =
        some (0xD800 + (n - 0x10000) / 0x400,
          unitEscape (0xDC00 + (n - 0x10000) % 0x400) ++ rest) :=
    readUnit_hexDigits (by omega) _
  have htail : readUnit (hexDigits 4 (0xDC00 + (n - 0x10000) % 0x400) ++ rest) =
      some (0xDC00 + (n - 0x10000) % 0x400, rest) :=
    readUnit_hexDigits (by omega) rest
  -- the two halves make up the number that they were taken from
  have hvalue : 0x10000 + (0xD800 + (n - 0x10000) / 0x400 - 0xD800) * 0x400 +
      (0xDC00 + (n - 0x10000) % 0x400 - 0xDC00) = n := by omega
  have hescaped : readEscaped (0xD800 + (n - 0x10000) / 0x400)
      (unitEscape (0xDC00 + (n - 0x10000) % 0x400) ++ rest) = some (Char.ofNat n, rest) := by
    unfold readEscaped
    rw [if_pos (by omega)]
    show ((readUnit (hexDigits 4 (0xDC00 + (n - 0x10000) % 0x400) ++ rest)).bind _) = _
    rw [htail, Option.bind_some]
    dsimp only
    rw [if_pos (by omega), hvalue]
  rw [List.append_assoc]
  show ((readUnit (hexDigits 4 (0xD800 + (n - 0x10000) / 0x400) ++ _)).bind fun p =>
    (readEscaped p.1 p.2).bind fun q => some (some q.1, q.2)) = _
  rw [hhead, Option.bind_some, hescaped, Option.bind_some]

/-- An escaped character reads back. -/
theorem readChar_escapeChar (c : Char) (rest : List Char) :
    readChar (escapeChar c ++ rest) = some (some c, rest) := by
  have hvalid := toNat_cases c
  have hof : Char.ofNat c.toNat = c := Char.ofNat_toNat c
  unfold escapeChar
  dsimp only
  by_cases hquote : c = doubleQuote ∨ c = backslash
  · rw [if_pos hquote]
    rcases hquote with rfl | rfl
    · rfl
    · rfl
  rw [if_neg hquote]
  by_cases hplain : 0x20 ≤ c.toNat ∧ c.toNat ≤ 0x7E
  · rw [if_pos hplain]
    exact readChar_self hquote hplain.1 rest
  rw [if_neg hplain]
  -- the escapes that have letters
  split
  · next h => rw [h]; rfl
  split
  · next h => rw [h]; rfl
  split
  · next h => rw [h]; rfl
  split
  · next h =>
    rw [h] at hof
    rw [← hof]
    rfl
  split
  · next h =>
    rw [h] at hof
    rw [← hof]
    rfl
  split
  -- all other characters are written as one unit, or as two beyond the basic plane
  · rw [readChar_unitEscape (by omega), hof]
  · rw [readChar_surrogates (by omega) (by omega), hof]

/-! ### Texts -/

theorem escapeChar_ne_nil (c : Char) : escapeChar c ≠ [] := by
  intro h
  have hread := readChar_escapeChar c []
  rw [h] at hread
  cases hread

theorem length_le_flatMap_escapeChar (cs : List Char) :
    cs.length ≤ (cs.flatMap escapeChar).length := by
  induction cs with
  | nil => exact Nat.le_refl 0
  | cons c cs ih =>
    have hc : 0 < (escapeChar c).length := List.length_pos_iff.mpr (escapeChar_ne_nil c)
    rw [List.flatMap_cons, List.length_append, List.length_cons]
    omega

/-- Escaped characters read back up to the closing quote. -/
theorem readChars_escaped {fuel : Nat} (cs rest : List Char) (h : cs.length < fuel) :
    readChars fuel (cs.flatMap escapeChar ++ doubleQuote :: rest) = some (cs, rest) := by
  induction cs generalizing fuel with
  | nil =>
    obtain ⟨fuel, rfl⟩ : ∃ k, fuel = k + 1 := ⟨fuel - 1, by omega⟩
    rfl
  | cons c cs ih =>
    rw [List.length_cons] at h
    obtain ⟨fuel, rfl⟩ : ∃ k, fuel = k + 1 := ⟨fuel - 1, by omega⟩
    have hrest : readChars fuel (cs.flatMap escapeChar ++ doubleQuote :: rest) = some (cs, rest) :=
      ih (by omega)
    rw [List.flatMap_cons, List.append_assoc]
    unfold readChars
    rw [readChar_escapeChar]
    dsimp only
    rw [hrest]
    rfl

/-- A text reads back. -/
theorem readChars_encodeText {fuel : Nat} (s : String) (rest : List Char)
    (h : (encodeText s).length ≤ fuel) : ∃ inner, encodeText s = doubleQuote :: inner ∧
      readChars fuel (inner ++ rest) = some (s.toList, rest) := by
  have hlength := length_le_flatMap_escapeChar s.toList
  refine ⟨s.toList.flatMap escapeChar ++ [doubleQuote], rfl, ?_⟩
  have hfuel : s.toList.length < fuel := by
    simp only [encodeText, List.length_append, List.length_cons, List.length_nil] at h
    omega
  rw [List.append_assoc]
  exact readChars_escaped s.toList rest hfuel

/-! ### Numbers -/

/-- What follows a number does not go on with it. -/
def Delimited (rest : List Char) : Prop :=
  ∀ c ∈ rest.head?, c.isDigit = false ∧ c ≠ '.' ∧ c ≠ 'e' ∧ c ≠ 'E'

theorem takeWhile_digits {ds rest : List Char} (hds : ∀ c ∈ ds, c.isDigit = true)
    (hrest : Delimited rest) : (ds ++ rest).takeWhile Char.isDigit = ds := by
  rw [List.takeWhile_append_of_pos hds]
  cases rest with
  | nil => simp
  | cons c cs =>
    have hc := (hrest c rfl).1
    simp [hc]

/-- The digits of a natural number read back. -/
theorem readNat_toDigits (n : Nat) {rest : List Char} (hrest : Delimited rest) :
    readNat (Nat.toDigits 10 n ++ rest) = some (n, (Nat.toDigits 10 n).length, rest) := by
  have hdigits : (Nat.toDigits 10 n ++ rest).takeWhile Char.isDigit = Nat.toDigits 10 n :=
    takeWhile_digits (fun c hc => Nat.isDigit_of_mem_toDigits (by decide) (by decide) hc) hrest
  have hvalue : (Nat.toDigits 10 n).foldl (fun n c => 10 * n + (c.toNat - 0x30)) 0 = n :=
    Nat.ofDigitChars_toDigits (by decide) (by decide)
  have hne : (Nat.toDigits 10 n).isEmpty = false := by
    simp [Nat.toDigits_ne_nil]
  unfold readNat
  rw [hdigits]
  dsimp only
  rw [hne, hvalue, List.drop_left]
  rfl

theorem readExponent_none {rest : List Char} (h : Delimited rest) :
    readExponent rest = some (none, rest) := by
  cases rest with
  | nil => rfl
  | cons c cs =>
    obtain ⟨-, -, he, hE⟩ := h c rfl
    show (if c = 'e' ∨ c = 'E' then _ else some (none, c :: cs)) = _
    rw [if_neg (not_or.mpr ⟨he, hE⟩)]

/-- The first digit of a number is no sign. -/
theorem head?_toDigits_ne (n : Nat) (rest : List Char) :
    (Nat.toDigits 10 n ++ rest).head? ≠ some '-' := by
  intro h
  have hmem : '-' ∈ Nat.toDigits 10 n := by
    cases hds : Nat.toDigits 10 n with
    | nil => exact absurd hds Nat.toDigits_ne_nil
    | cons d ds =>
      rw [hds] at h
      exact Option.some.inj h ▸ List.mem_cons_self
  have hdigit : Char.isDigit '-' = true :=
    Nat.isDigit_of_mem_toDigits (by decide) (by decide) hmem
  cases hdigit

/-- A number without fraction and exponent is an integer of the sign before it. -/
theorem readNumber_of_sign (negative : Bool) {cs ds rest : List Char} {n k : Nat}
    (hsign : (match cs with
      | '-' :: ds => (true, ds)
      | _ => (false, cs)) = (negative, ds))
    (hnat : readNat ds = some (n, k, rest)) (hrest : Delimited rest) :
    readNumber cs = some (int (if negative then -(n : Int) else n), rest) := by
  have hexponent := readExponent_none hrest
  unfold readNumber
  split
  next hread =>
  obtain ⟨rfl, rfl⟩ := Prod.mk.inj (hread.symm.trans hsign)
  rw [hnat]
  simp only [Option.bind_eq_bind, Option.bind_some]
  split
  · -- there is no fraction
    exact absurd rfl (hrest '.' rfl).2.1
  · rw [hexponent]
    rfl

/-- An integer reads back. -/
theorem readNumber_toString (n : Int) {rest : List Char} (hrest : Delimited rest) :
    readNumber ((toString n).toList ++ rest) = some (int n, rest) := by
  cases n with
  | ofNat k =>
    have hhead := head?_toDigits_ne k rest
    show readNumber ((Nat.repr k).toList ++ rest) = some (int k, rest)
    rw [Nat.toList_repr]
    refine readNumber_of_sign false ?_ (readNat_toDigits k hrest) hrest
    split
    · next h =>
      rw [h] at hhead
      exact absurd rfl hhead
    · rfl
  | negSucc k =>
    show readNumber (("-" ++ Nat.repr (k + 1)).toList ++ rest) = _
    rw [String.toList_append, Nat.toList_repr, List.append_assoc]
    exact readNumber_of_sign true rfl (readNat_toDigits (k + 1) hrest) hrest

/-! ### Values -/

mutual

/-- There is no number with a fraction in the value. -/
def IsPlain : Json → Prop
  | real _ => False
  | list items => ArePlain items
  | object fields => HasPlainFields fields
  | _ => True

/-- There is no number with a fraction in the members. -/
def ArePlain : List Json → Prop
  | [] => True
  | j :: js => IsPlain j ∧ ArePlain js

/-- There is no number with a fraction in the fields. -/
def HasPlainFields : List (String × Json) → Prop
  | [] => True
  | (_, j) :: rest => IsPlain j ∧ HasPlainFields rest

end

/-- Fields in the order of their keys. -/
def byKey (fields : List (String × Json)) : List (String × Json) :=
  fields.mergeSort fun a b => !(b.1 < a.1)

mutual

/-- The value with the fields of its objects in the order of their keys. -/
def arranged : Json → Json
  | list items => list (arrangedItems items)
  | object fields => object (byKey (arrangedFields fields))
  | j => j

/-- The members, each arranged. -/
def arrangedItems : List Json → List Json
  | [] => []
  | j :: js => arranged j :: arrangedItems js

/-- The fields with their values arranged. -/
def arrangedFields : List (String × Json) → List (String × Json)
  | [] => []
  | (k, j) :: rest => (k, arranged j) :: arrangedFields rest

end

/-! ### How values begin -/

/-- A character that is no blank and no closing bracket. -/
def Opens (c : Char) : Prop :=
  ∀ d ∈ [' ', '\t', '\n', '\r', ']'], c ≠ d

instance (c : Char) : Decidable (Opens c) :=
  List.decidableBAll (fun d => c ≠ d) [' ', '\t', '\n', '\r', ']']

theorem Opens.skipBlanks {c : Char} (h : Opens c) (cs : List Char) :
    skipBlanks (c :: cs) = c :: cs := by
  have hspace := h ' ' (by decide)
  have htab := h '\t' (by decide)
  have hfeed := h '\n' (by decide)
  have hreturn := h '\r' (by decide)
  simp [Json.skipBlanks, hspace, htab, hfeed, hreturn]

theorem skipBlanks_space (cs : List Char) : skipBlanks (' ' :: cs) = skipBlanks cs := rfl

/-- An integer begins with a digit or with the sign. -/
theorem toString_int (n : Int) :
    ∃ c tail, (toString n).toList = c :: tail ∧ (c.isDigit = true ∨ c = '-') := by
  cases n with
  | ofNat k =>
    show ∃ c tail, (Nat.repr k).toList = c :: tail ∧ _
    rw [Nat.toList_repr]
    cases hds : Nat.toDigits 10 k with
    | nil => exact absurd hds Nat.toDigits_ne_nil
    | cons d ds =>
      have hd : d ∈ Nat.toDigits 10 k := hds ▸ List.mem_cons_self
      exact ⟨d, ds, rfl, Or.inl (Nat.isDigit_of_mem_toDigits (by decide) (by decide) hd)⟩
  | negSucc k =>
    show ∃ c tail, ("-" ++ Nat.repr (k + 1)).toList = c :: tail ∧ _
    rw [String.toList_append]
    exact ⟨'-', _, rfl, Or.inr rfl⟩

/-- What begins an integer begins nothing else. -/
theorem ne_of_digit_or_sign {c : Char} (hc : c.isDigit = true ∨ c = '-') :
    ∀ d ∈ [' ', '\t', '\n', '\r', ']', '\x22', '[', '\x7b', 'n', 't', 'f'], c ≠ d := by
  have hother : ∀ d ∈ [' ', '\t', '\n', '\r', ']', '\x22', '[', '\x7b', 'n', 't', 'f'],
      ¬ (d.isDigit = true ∨ d = '-') := by simp
  intro d hd hcd
  exact hother d hd (hcd ▸ hc)

theorem encode_opens {j : Json} (h : IsPlain j) : ∃ c tail, encode j = c :: tail ∧ Opens c := by
  cases j with
  | null => exact ⟨'n', _, rfl, by decide⟩
  | bool b =>
    cases b with
    | true => exact ⟨'t', _, rfl, by decide⟩
    | false => exact ⟨'f', _, rfl, by decide⟩
  | int n =>
    obtain ⟨c, tail, hn, hc⟩ := toString_int n
    refine ⟨c, tail, hn, fun d hd => ne_of_digit_or_sign hc d ?_⟩
    exact List.mem_append_left ['\x22', '[', '\x7b', 'n', 't', 'f'] hd
  | real x => exact h.elim
  | text s => exact ⟨'\x22', _, rfl, by decide⟩
  | list items => exact ⟨'[', _, rfl, by decide⟩
  | object fields => exact ⟨'\x7b', _, rfl, by decide⟩

theorem separated_opens {j : Json} (h : IsPlain j) (js : List Json) :
    ∃ c tail, separated (encodeItems (j :: js)) = c :: tail ∧ Opens c := by
  obtain ⟨c, tail, hj, hc⟩ := encode_opens h
  cases js with
  | nil => exact ⟨c, tail, hj, hc⟩
  | cons k ks =>
    refine ⟨c, tail ++ ',' :: ' ' :: separated (encodeItems (k :: ks)), ?_, hc⟩
    show encode j ++ ',' :: ' ' :: separated (encodeItems (k :: ks)) = _
    rw [hj]
    rfl

/-! ### Values that read back -/

/-- The value reads back, arranged. -/
def Reads (j : Json) : Prop :=
  IsPlain j ∧ ∀ (budget fuel : Nat) (cs rest : List Char), (encode j).length ≤ budget →
    2 * (encode j).length ≤ fuel → skipBlanks cs = encode j ++ rest → Delimited rest →
      readValue budget fuel cs = some (arranged j, rest)

theorem delimited_of_mem {c : Char} (hc : c ∈ [',', ']', '\x7d']) (rest : List Char) :
    Delimited (c :: rest) := by
  have hfree : ∀ d ∈ [',', ']', '\x7d'], d.isDigit = false ∧ d ≠ '.' ∧ d ≠ 'e' ∧ d ≠ 'E' := by
    simp
  intro d hd
  obtain rfl := Option.some.inj hd
  exact hfree c hc

/-- The members of a list read back if each of them does. -/
theorem readItems_separated {j : Json} {js : List Json} (h : ∀ k ∈ j :: js, Reads k)
    {budget fuel : Nat} {cs rest : List Char}
    (hbudget : (separated (encodeItems (j :: js))).length ≤ budget)
    (hfuel : 2 * (separated (encodeItems (j :: js))).length + 1 ≤ fuel)
    (hcs : skipBlanks cs = separated (encodeItems (j :: js)) ++ ']' :: rest) :
    readItems budget fuel cs = some (arrangedItems (j :: js), rest) := by
  induction js generalizing j fuel cs with
  | nil =>
    obtain ⟨fuel, rfl⟩ : ∃ k, fuel = k + 1 := ⟨fuel - 1, by omega⟩
    have hj : readValue budget fuel cs = some (arranged j, ']' :: rest) := by
      refine (h j List.mem_cons_self).2 budget fuel cs _ hbudget ?_ hcs
        (delimited_of_mem (by decide) rest)
      exact Nat.le_of_succ_le_succ hfuel
    rw [readItems, hj]
    rfl
  | cons k ks ih =>
    obtain ⟨fuel, rfl⟩ : ∃ k, fuel = k + 1 := ⟨fuel - 1, by omega⟩
    have hsplit : separated (encodeItems (j :: k :: ks)) =
        encode j ++ ',' :: ' ' :: separated (encodeItems (k :: ks)) := rfl
    rw [hsplit] at hbudget hfuel hcs
    simp only [List.length_append, List.length_cons] at hbudget hfuel
    rw [List.append_assoc] at hcs
    have hj : readValue budget fuel cs = some (arranged j, _) :=
      (h j List.mem_cons_self).2 budget fuel cs _ (by omega) (by omega) hcs
        (delimited_of_mem (by decide) _)
    -- the blank after the comma is skipped, and no item starts with another one
    have hopens : skipBlanks (' ' :: (separated (encodeItems (k :: ks)) ++ ']' :: rest)) =
        separated (encodeItems (k :: ks)) ++ ']' :: rest := by
      obtain ⟨c, tail, hk, hc⟩ := separated_opens (h k (by simp)).1 ks
      rw [skipBlanks_space, hk]
      exact hc.skipBlanks _
    have hks : readItems budget fuel (' ' :: (separated (encodeItems (k :: ks)) ++ ']' :: rest)) =
        some (arrangedItems (k :: ks), rest) :=
      ih (fun x hx => h x (List.mem_cons_of_mem j hx)) (by omega) (by omega) hopens
    rw [readItems, hj]
    show (readItems budget fuel
      (' ' :: (separated (encodeItems (k :: ks)) ++ ']' :: rest))).map _ = _
    rw [hks]
    rfl

/-- A field as it is written. -/
def writtenField (f : String × Json) : List Char :=
  encodeField (f.1, encode f.2)

/-- A field as it reads back. -/
def arrangedField (f : String × Json) : String × Json :=
  (f.1, arranged f.2)

/-- The first field reads back if its value does. -/
theorem readFields_field {f : String × Json} (hf : Reads f.2) {budget fuel : Nat}
    {cs rest : List Char} (hbudget : (writtenField f).length ≤ budget)
    (hfuel : 2 * (writtenField f).length ≤ fuel) (hcs : skipBlanks cs = writtenField f ++ rest)
    (hrest : Delimited rest) :
    readFields budget (fuel + 1) cs =
      match skipBlanks rest with
      | ',' :: rest =>
        (readFields budget fuel rest).map fun (fs, rest) => (arrangedField f :: fs, rest)
      | '\x7d' :: rest => some ([arrangedField f], rest)
      | _ => none := by
  obtain ⟨key, j⟩ := f
  have hj : Reads j := hf
  have hwritten : writtenField (key, j) = encodeText key ++ ':' :: ' ' :: encode j := rfl
  rw [hwritten] at hbudget hfuel hcs
  simp only [List.length_append, List.length_cons] at hbudget hfuel
  have hkeyBudget : (encodeText key).length ≤ budget := by omega
  -- the key is read to its closing quote, whatever characters it holds
  obtain ⟨inner, hkey, hread⟩ :=
    readChars_encodeText key (':' :: ' ' :: (encode j ++ rest)) hkeyBudget
  have hopens : skipBlanks (' ' :: (encode j ++ rest)) = encode j ++ rest := by
    obtain ⟨c, tail, hencode, hc⟩ := encode_opens hj.1
    rw [skipBlanks_space, hencode]
    exact hc.skipBlanks _
  have hvalue : readValue budget fuel (' ' :: (encode j ++ rest)) = some (arranged j, rest) :=
    hj.2 budget fuel _ rest (by omega) (by omega) hopens hrest
  have hsplit : skipBlanks cs = doubleQuote :: (inner ++ ':' :: ' ' :: (encode j ++ rest)) := by
    rw [hcs, hkey]
    simp only [List.append_assoc, List.cons_append]
  have hcolon : skipBlanks (':' :: ' ' :: (encode j ++ rest)) =
      ':' :: ' ' :: (encode j ++ rest) := rfl
  rw [readFields]
  simp only [hsplit, doubleQuote, hread, hcolon, hvalue, String.ofList_toList]
  rfl

/-- The fields of an object read back if the value of each of them does. -/
theorem readFields_separated {f : String × Json} {fs : List (String × Json)}
    (h : ∀ x ∈ f :: fs, Reads x.2) {budget fuel : Nat} {cs rest : List Char}
    (hbudget : (separated ((f :: fs).map writtenField)).length ≤ budget)
    (hfuel : 2 * (separated ((f :: fs).map writtenField)).length + 1 ≤ fuel)
    (hcs : skipBlanks cs = separated ((f :: fs).map writtenField) ++ '\x7d' :: rest) :
    readFields budget fuel cs = some ((f :: fs).map arrangedField, rest) := by
  induction fs generalizing f fuel cs with
  | nil =>
    obtain ⟨fuel, rfl⟩ : ∃ k, fuel = k + 1 := ⟨fuel - 1, by omega⟩
    rw [readFields_field (h f List.mem_cons_self) hbudget (Nat.le_of_succ_le_succ hfuel) hcs
      (delimited_of_mem (by decide) rest)]
    rfl
  | cons g gs ih =>
    obtain ⟨fuel, rfl⟩ : ∃ k, fuel = k + 1 := ⟨fuel - 1, by omega⟩
    have hsplit : separated ((f :: g :: gs).map writtenField) =
        writtenField f ++ ',' :: ' ' :: separated ((g :: gs).map writtenField) := rfl
    rw [hsplit] at hbudget hfuel hcs
    simp only [List.length_append, List.length_cons] at hbudget hfuel
    rw [List.append_assoc] at hcs
    have hopens : skipBlanks (' ' :: (separated ((g :: gs).map writtenField) ++ '\x7d' :: rest)) =
        separated ((g :: gs).map writtenField) ++ '\x7d' :: rest := by
      -- whatever follows it, a field begins with a quote
      cases gs with
      | nil => rfl
      | cons _ _ => rfl
    have hgs : readFields budget fuel
        (' ' :: (separated ((g :: gs).map writtenField) ++ '\x7d' :: rest)) =
          some ((g :: gs).map arrangedField, rest) :=
      ih (fun x hx => h x (List.mem_cons_of_mem f hx)) (by omega) (by omega) hopens
    rw [readFields_field (h f List.mem_cons_self) (by omega) (by omega) hcs
      (delimited_of_mem (by decide) _)]
    show (readFields budget fuel
      (' ' :: (separated ((g :: gs).map writtenField) ++ '\x7d' :: rest))).map _ = _
    rw [hgs]
    rfl

/-- The text of a value is not empty, so its reader has some fuel. -/
theorem reads_of_succ {j : Json} (hplain : IsPlain j)
    (h : ∀ (budget fuel : Nat) (cs rest : List Char), (encode j).length ≤ budget →
      2 * (encode j).length ≤ fuel + 1 → skipBlanks cs = encode j ++ rest → Delimited rest →
        readValue budget (fuel + 1) cs = some (arranged j, rest)) : Reads j := by
  have hpos : 0 < (encode j).length := by
    obtain ⟨c, tail, hencode, -⟩ := encode_opens hplain
    rw [hencode]
    exact Nat.succ_pos _
  refine ⟨hplain, fun budget fuel cs rest hbudget hfuel hcs hrest => ?_⟩
  obtain ⟨fuel, rfl⟩ : ∃ k, fuel = k + 1 := ⟨fuel - 1, by omega⟩
  exact h budget fuel cs rest hbudget hfuel hcs hrest

/-- A list reads back if its members do. -/
theorem reads_list {items : List Json} (hplain : IsPlain (list items))
    (h : ∀ j ∈ items, Reads j) : Reads (list items) := by
  refine reads_of_succ hplain fun budget fuel cs rest hbudget hfuel hcs hrest => ?_
  have hencode : encode (list items) = '[' :: (separated (encodeItems items) ++ [']']) := rfl
  rw [hencode] at hbudget hfuel hcs
  simp only [List.length_append, List.length_cons, List.length_nil] at hbudget hfuel
  rw [List.cons_append, List.append_assoc] at hcs
  rw [readValue, hcs]
  cases items with
  | nil => rfl
  | cons j js =>
    obtain ⟨c, tail, hsep, hc⟩ := separated_opens (h j List.mem_cons_self).1 js
    -- an item follows, so that the list is not closed at once
    have hskip : skipBlanks (separated (encodeItems (j :: js)) ++ ([']'] ++ rest)) =
        separated (encodeItems (j :: js)) ++ ']' :: rest := by
      rw [hsep]
      exact hc.skipBlanks _
    have hread : readItems budget fuel (separated (encodeItems (j :: js)) ++ ([']'] ++ rest)) =
        some (arrangedItems (j :: js), rest) :=
      readItems_separated h (by omega) (by omega) hskip
    dsimp only
    rw [if_neg (by decide), if_pos rfl, hread, hskip, hsep]
    split
    · next hclosed => exact absurd (List.cons.inj hclosed).1 (hc ']' (by decide))
    · rfl

theorem encodeFields_eq_map (fields : List (String × Json)) :
    encodeFields fields = fields.map fun f => (f.1, encode f.2) := by
  induction fields with
  | nil => rfl
  | cons f fs ih => rw [List.map_cons, ← ih]; rfl

theorem arrangedFields_eq_map (fields : List (String × Json)) :
    arrangedFields fields = fields.map arrangedField := by
  induction fields with
  | nil => rfl
  | cons f fs ih => rw [List.map_cons, ← ih]; rfl

/-- The fields of an object are written in the order of their keys. -/
theorem encode_object (fields : List (String × Json)) : encode (object fields) =
    '\x7b' :: (separated ((byKey fields).map writtenField) ++ ['\x7d']) := by
  have hsort : sortFields (encodeFields fields) =
      (byKey fields).map fun f => (f.1, encode f.2) := by
    rw [encodeFields_eq_map]
    refine (List.map_mergeSort ?_).symm
    intro a _ b _
    rfl
  have hmap : (sortFields (encodeFields fields)).map encodeField =
      (byKey fields).map writtenField := by
    rw [hsort, List.map_map]
    rfl
  rw [encode, hmap]
  rfl

theorem byKey_map_arrangedField (fields : List (String × Json)) :
    byKey (fields.map arrangedField) = (byKey fields).map arrangedField := by
  refine (List.map_mergeSort ?_).symm
  intro a _ b _
  rfl

theorem arranged_object (fields : List (String × Json)) :
    arranged (object fields) = object ((byKey fields).map arrangedField) := by
  rw [arranged, arrangedFields_eq_map, byKey_map_arrangedField]

/-- An object reads back if the values of its fields do. -/
theorem reads_object {fields : List (String × Json)} (hplain : IsPlain (object fields))
    (h : ∀ f ∈ fields, Reads f.2) : Reads (object fields) := by
  refine reads_of_succ hplain fun budget fuel cs rest hbudget hfuel hcs hrest => ?_
  have hfields : ∀ f ∈ byKey fields, Reads f.2 :=
    fun f hf => h f (List.mem_mergeSort.mp hf)
  rw [encode_object] at hbudget hfuel hcs
  simp only [List.length_append, List.length_cons, List.length_nil] at hbudget hfuel
  rw [List.cons_append, List.append_assoc] at hcs
  rw [readValue, hcs, arranged_object]
  -- the fields are written in the order of their keys, and read in that order
  generalize byKey fields = sorted at hfields hbudget hfuel ⊢
  cases sorted with
  | nil => rfl
  | cons f fs =>
    obtain ⟨tail, hsep⟩ : ∃ tail, separated ((f :: fs).map writtenField) = doubleQuote :: tail := by
      cases fs with
      | nil => exact ⟨_, rfl⟩
      | cons _ _ => exact ⟨_, rfl⟩
    have hskip : skipBlanks (separated ((f :: fs).map writtenField) ++ (['\x7d'] ++ rest)) =
        separated ((f :: fs).map writtenField) ++ '\x7d' :: rest := by
      rw [hsep]
      rfl
    have hread : readFields budget fuel
        (separated ((f :: fs).map writtenField) ++ (['\x7d'] ++ rest)) =
          some ((f :: fs).map arrangedField, rest) :=
      readFields_separated hfields (by omega) (by omega) hskip
    dsimp only
    rw [if_neg (by decide), if_neg (by decide), if_pos rfl, hread, hskip, hsep]
    rfl

/-- A value reads back if the text that follows its blanks does. -/
theorem reads_word {j : Json} (hplain : IsPlain j)
    (h : ∀ budget fuel rest, readValue budget (fuel + 1) (encode j ++ rest) =
      some (arranged j, rest)) : Reads j := by
  refine reads_of_succ hplain fun budget fuel cs rest hbudget hfuel hcs hrest => ?_
  obtain ⟨c, tail, hencode, hc⟩ := encode_opens hplain
  have hskip : skipBlanks (encode j ++ rest) = encode j ++ rest := by
    rw [hencode]
    exact hc.skipBlanks _
  have hread := h budget fuel rest
  rw [readValue, hskip] at hread
  rw [readValue, hcs]
  exact hread

theorem reads_int (n : Int) : Reads (int n) := by
  refine reads_of_succ trivial fun budget fuel cs rest hbudget hfuel hcs hrest => ?_
  obtain ⟨c, tail, hn, hc⟩ := toString_int n
  have hne := ne_of_digit_or_sign hc
  have hencode : encode (int n) = c :: tail := hn
  rw [hencode] at hcs
  have hread : readNumber (c :: tail ++ rest) = some (int n, rest) := by
    rw [← hn]
    exact readNumber_toString n hrest
  rw [readValue, hcs, List.cons_append]
  dsimp only
  rw [if_neg (hne '\x22' (by decide)), if_neg (hne '[' (by decide)),
    if_neg (hne '\x7b' (by decide)), if_neg (hne 'n' (by decide)), if_neg (hne 't' (by decide)),
    if_neg (hne 'f' (by decide))]
  exact hread

theorem reads_text (t : String) : Reads (text t) := by
  refine reads_of_succ trivial fun budget fuel cs rest hbudget hfuel hcs hrest => ?_
  obtain ⟨inner, htext, hread⟩ := readChars_encodeText t rest hbudget
  have hencode : encode (text t) = doubleQuote :: inner := htext
  rw [hencode] at hcs
  rw [readValue, hcs]
  show (readChars budget (inner ++ rest)).map _ = _
  rw [hread]
  show some (text (String.ofList t.toList), rest) = _
  rw [String.ofList_toList]
  rfl

mutual

/-- A value without fractions reads back. -/
theorem reads (j : Json) (h : IsPlain j) : Reads j := by
  cases j with
  | null => exact reads_word h fun _ _ _ => rfl
  | bool b =>
    cases b with
    | true => exact reads_word h fun _ _ _ => rfl
    | false => exact reads_word h fun _ _ _ => rfl
  | int n => exact reads_int n
  | real x => exact h.elim
  | text t => exact reads_text t
  | list items => exact reads_list h (reads_items items h)
  | object fields => exact reads_object h (reads_fields fields h)

theorem reads_items (items : List Json) (h : ArePlain items) : ∀ j ∈ items, Reads j := by
  cases items with
  | nil => exact List.forall_mem_nil _
  | cons j js =>
    obtain ⟨hj, hjs⟩ := h
    exact List.forall_mem_cons.mpr ⟨reads j hj, reads_items js hjs⟩

theorem reads_fields (fields : List (String × Json)) (h : HasPlainFields fields) :
    ∀ f ∈ fields, Reads f.2 := by
  cases fields with
  | nil => exact List.forall_mem_nil _
  | cons f fs =>
    obtain ⟨k, j⟩ := f
    obtain ⟨hj, hfs⟩ := h
    exact List.forall_mem_cons.mpr ⟨reads j hj, reads_fields fs hfs⟩

end

/-- **A value without fractions can be read off its line**, with the fields of its objects in the
order of their keys. -/
theorem decode_line {j : Json} (h : IsPlain j) : decode (line j) = some (arranged j) := by
  have hopens : skipBlanks (encode j) = encode j ++ [] := by
    obtain ⟨c, tail, hencode, hc⟩ := encode_opens h
    rw [List.append_nil, hencode]
    exact hc.skipBlanks tail
  have hread : readValue ((encode j).length + 1) (2 * (encode j).length + 2) (encode j) =
      some (arranged j, []) :=
    (reads j h).2 _ _ _ [] (by omega) (by omega) hopens fun c hc => by cases hc
  unfold decode line
  rw [String.toList_ofList]
  dsimp only
  rw [hread]
  rfl

end Timebox.Json
