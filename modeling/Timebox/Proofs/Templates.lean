import Timebox.Expansion

/-!
# Templates

A template is a text that is written from literals, with a token between each two of them
(`Expansion.Template`).  What fills a token is the text of its variable, or its default if the
variable is blank (`Expansion.Fills`).  Reading a template gives its literals and tokens back
(`Template.pieces_text`), so expanding it puts in what fills each token and leaves the rest alone;
what is put in is not read again.  It fails exactly if there is a token that nothing fills, and then
at the first one (`expandText_template`).
-/

namespace Timebox.Expansion

variable {env : Bindings}

/-! ### What fills a token -/

section Filling

variable {name content value cs : List Char} {e : Failure}

/-- The variable is bound to a text that is not blank. -/
def Holds (env : Bindings) (name value : List Char) : Prop :=
  env.get? (String.ofList name) = some (String.ofList value) ∧
    ∃ c ∈ value, Text.isBlank c = false

/-- What fills a token.  A token with a default is cut at the first `:-` in it. -/
inductive Fills (env : Bindings) : List Char → List Char → Prop
  | optional {name default value : List Char} (hname : ¬ [':', '-'] <:+: name)
    (h : Holds env name value) : Fills env (name ++ ':' :: '-' :: default) value
  | default {name default : List Char} (hname : ¬ [':', '-'] <:+: name)
    (h : ∀ value, ¬ Holds env name value) : Fills env (name ++ ':' :: '-' :: default) default
  | required {name value : List Char} (hname : ¬ [':', '-'] <:+: name)
    (h : Holds env name value) : Fills env name value

/-- A token has no default, and its variable is blank or not there. -/
def Lacks (env : Bindings) (content : List Char) : Prop :=
  ¬ [':', '-'] <:+: content ∧ ∀ value, ¬ Holds env content value

theorem holds_iff :
    Holds env name value ↔
      Text.isAllBlank (textOf env name) = false ∧ (textOf env name).toList = value := by
  unfold Holds textOf
  cases env.get? (String.ofList name) with
  | none => simp [Text.isAllBlank]
  | some s =>
    have hvalue : s = String.ofList value ↔ s.toList = value := by
      rw [← String.toList_inj, String.toList_ofList]
    rw [Option.getD_some, Option.some.injEq, hvalue, and_comm]
    refine and_congr_left ?_
    rintro rfl
    simp [Text.isAllBlank]

theorem forall_not_holds_iff :
    (∀ value, ¬ Holds env name value) ↔ Text.isAllBlank (textOf env name) = true := by
  simp [holds_iff]

theorem Fills.replacement (h : Fills env content cs) : replacement env content = .ok cs := by
  cases h with
  | optional hname h =>
    obtain ⟨hblank, rfl⟩ := holds_iff.mp h
    simp [Expansion.replacement, Text.cutFirstPair_append (by decide) hname, hblank]
  | default hname h =>
    have hblank := forall_not_holds_iff.mp h
    simp [Expansion.replacement, Text.cutFirstPair_append (by decide) hname, hblank]
  | required hname h =>
    obtain ⟨hblank, rfl⟩ := holds_iff.mp h
    simp [Expansion.replacement, Text.cutFirstPair_eq_none_iff.mpr hname, hblank]

theorem Lacks.replacement (h : Lacks env content) :
    replacement env content = .error (.missingVariable (String.ofList content)) := by
  have hblank := forall_not_holds_iff.mp h.2
  simp [Expansion.replacement, Text.cutFirstPair_eq_none_iff.mpr h.1, hblank]

theorem Fills.not_lacks (h : Fills env content cs) : ¬ Lacks env content := by
  intro hlacks
  have heq := h.replacement
  rw [hlacks.replacement] at heq
  cases heq

/-- Something fills a token, unless its variable is needed and missing. -/
theorem fills_or_lacks (env : Bindings) (content : List Char) :
    (∃ cs, Fills env content cs) ∨ Lacks env content := by
  by_cases hdefault : [':', '-'] <:+: content
  · obtain ⟨name, default, rfl, hname⟩ := Text.exists_first_pair hdefault
    left
    by_cases h : ∃ value, Holds env name value
    · obtain ⟨value, h⟩ := h
      exact ⟨value, .optional hname h⟩
    · exact ⟨default, .default hname (not_exists.mp h)⟩
  · by_cases h : ∃ value, Holds env content value
    · obtain ⟨value, h⟩ := h
      exact .inl ⟨value, .required hdefault h⟩
    · exact .inr ⟨hdefault, not_exists.mp h⟩

end Filling

/-! ### Reading -/

section Reading

variable {c : Char} {cs rest content : List Char}

/-- A token is read off the front of a text. -/
theorem pieces_token (hne : content ≠ []) (hclosed : '\x7d' ∉ content) (rest : List Char) :
    pieces ('$' :: '\x7b' :: (content ++ '\x7d' :: rest)) = .token content :: pieces rest := by
  have htoken : tokenAfterOpening (content ++ '\x7d' :: rest) = some (content, rest) :=
    tokenAfterOpening_eq_some_iff.mpr ⟨rfl, hne, hclosed⟩
  rw [pieces]
  split
  · next content' rest' h =>
    rw [htoken] at h
    cases h
    rfl
  · next h =>
    rw [htoken] at h
    cases h

/-- A character is literal if no token begins with it. -/
theorem pieces_literal (h : ∀ content rest, content ≠ [] → '\x7d' ∉ content →
      c :: cs ≠ '$' :: '\x7b' :: (content ++ '\x7d' :: rest)) :
    pieces (c :: cs) = .literal c :: pieces cs := by
  -- only the branch of a token could read more than this character
  rw [pieces.eq_def]
  split
  · next heq => cases heq
  · next cs' heq =>
    split
    · next content rest htoken =>
      obtain ⟨rfl, hne, hclosed⟩ := tokenAfterOpening_eq_some_iff.mp htoken
      exact absurd heq (h content rest hne hclosed)
    · cases heq
      rfl
  · next heq =>
    cases heq
    rfl

/-- A token stands somewhere in the text. -/
def HasToken (cs : List Char) : Prop :=
  ∃ content, content ≠ [] ∧ '\x7d' ∉ content ∧ '$' :: '\x7b' :: (content ++ ['\x7d']) <:+: cs

theorem HasToken.cons (h : HasToken cs) (c : Char) : HasToken (c :: cs) := by
  obtain ⟨content, hne, hclosed, htoken⟩ := h
  exact ⟨content, hne, hclosed, List.infix_cons htoken⟩

/-- A text without tokens is literal throughout. -/
theorem pieces_of_not_hasToken (h : ¬ HasToken cs) : pieces cs = cs.map .literal := by
  induction cs with
  | nil => rw [pieces, List.map_nil]
  | cons c cs ih =>
    rw [pieces_literal, ih fun hcs => h (hcs.cons c), List.map_cons]
    intro content rest hne hclosed hc
    refine h ⟨content, hne, hclosed, [], rest, ?_⟩
    rw [hc]
    simp

/-- What holds no opening of a token is literal in front of what does not make one with it. -/
theorem pieces_append (hplain : ¬ ['$', '\x7b'] <:+: cs) (hrest : rest.head? ≠ some '\x7b') :
    pieces (cs ++ rest) = cs.map .literal ++ pieces rest := by
  induction cs with
  | nil => rfl
  | cons c cs ih =>
    have hcs : ¬ ['$', '\x7b'] <:+: cs := fun hcs => hplain (List.infix_cons hcs)
    rw [List.cons_append, pieces_literal, ih hcs, List.map_cons, List.cons_append]
    -- a token would have its second character in the literal, or at the front of the rest
    intro content after _ _ htoken
    obtain ⟨rfl, hsecond⟩ := List.cons.inj htoken
    cases cs with
    | nil =>
      rw [List.nil_append] at hsecond
      exact hrest (by rw [hsecond, List.head?_cons])
    | cons d cs =>
      obtain ⟨rfl, -⟩ := List.cons.inj hsecond
      exact hplain ⟨[], cs, rfl⟩

end Reading

/-! ### Templates -/

/-- A text in which no token opens. -/
structure Literal where
  chars : List Char
  plain : ¬ ['$', '\x7b'] <:+: chars

/-- A token: what stands between its braces, at least one character and no closing brace. -/
structure Token where
  content : List Char
  ne_nil : content ≠ []
  closed : '\x7d' ∉ content

/-- A token as it is written. -/
def Token.chars (t : Token) : List Char :=
  '$' :: '\x7b' :: (t.content ++ ['\x7d'])

/-- Literals with tokens between them. -/
structure Template where
  opening : Literal
  /-- The tokens, each with the literal that follows it. -/
  rest : List (Token × Literal)

/-- Tokens and literals as they are written. -/
def charsOf : List (Token × Literal) → List Char
  | [] => []
  | (t, l) :: rest => t.chars ++ l.chars ++ charsOf rest

/-- Tokens and literals as pieces. -/
def piecesOf : List (Token × Literal) → List Piece
  | [] => []
  | (t, l) :: rest => .token t.content :: (l.chars.map .literal ++ piecesOf rest)

/-- What tokens and literals become: each token gives way to what fills it. -/
inductive Becomes (env : Bindings) : List (Token × Literal) → List Char → Prop
  | nil : Becomes env [] []
  | cons {t : Token} {l : Literal} {rest : List (Token × Literal)} {value out : List Char}
    (hvalue : Fills env t.content value) (hout : Becomes env rest out) :
    Becomes env ((t, l) :: rest) (value ++ l.chars ++ out)

namespace Template

/-- A template as it is written. -/
def text (s : Template) : String :=
  String.ofList (s.opening.chars ++ charsOf s.rest)

/-- What a template becomes. -/
def Becomes (env : Bindings) (s : Template) (out : String) : Prop :=
  ∃ cs, Expansion.Becomes env s.rest cs ∧ out = String.ofList (s.opening.chars ++ cs)

end Template

section Templates

variable {rest : List (Token × Literal)} {out : List Char} {e : Failure}

/-- A literal goes on with a token or ends. -/
theorem head?_charsOf (rest : List (Token × Literal)) : (charsOf rest).head? ≠ some '\x7b' := by
  cases rest with
  | nil => simp [charsOf]
  | cons p rest => simp [charsOf, Token.chars]

theorem pieces_charsOf (rest : List (Token × Literal)) : pieces (charsOf rest) = piecesOf rest := by
  induction rest with
  | nil => rw [charsOf, pieces, piecesOf]
  | cons p rest ih =>
    obtain ⟨t, l⟩ := p
    have htext : charsOf ((t, l) :: rest) =
        '$' :: '\x7b' :: (t.content ++ '\x7d' :: (l.chars ++ charsOf rest)) := by
      simp [charsOf, Token.chars]
    rw [htext, pieces_token t.ne_nil t.closed, pieces_append l.plain (head?_charsOf rest), ih,
      piecesOf]

/-- Reading a template gives its literals and tokens back. -/
theorem Template.pieces_text (s : Template) :
    pieces s.text.toList = s.opening.chars.map .literal ++ piecesOf s.rest := by
  rw [Template.text, String.toList_ofList, pieces_append s.opening.plain (head?_charsOf s.rest),
    pieces_charsOf]

/-- Literals are left alone. -/
theorem expandPieces_append (cs : List Char) (ps : List Piece) :
    expandPieces env (cs.map .literal ++ ps) = (expandPieces env ps).map (cs ++ ·) := by
  induction cs with
  | nil =>
    rw [List.map_nil, List.nil_append]
    cases expandPieces env ps <;> rfl
  | cons c cs ih =>
    rw [List.map_cons, List.cons_append, expandPieces, Piece.expand, ih]
    cases expandPieces env ps <;> rfl

/-- A token gives way to its replacement, and the literal after it stays. -/
theorem expandPieces_cons (t : Token) (l : Literal) (rest : List (Token × Literal)) :
    expandPieces env (piecesOf ((t, l) :: rest)) =
      (replacement env t.content).bind fun value =>
        (expandPieces env (piecesOf rest)).map fun out => value ++ l.chars ++ out := by
  rw [piecesOf, expandPieces, Piece.expand, expandPieces_append]
  cases replacement env t.content with
  | error e => rfl
  | ok value =>
    cases expandPieces env (piecesOf rest) with
    | error e => rfl
    | ok out => simp [Except.map, Except.bind]

theorem Becomes.expandPieces (h : Becomes env rest out) :
    expandPieces env (piecesOf rest) = .ok out := by
  induction h with
  | nil => rfl
  | cons hvalue _ ih =>
    rw [expandPieces_cons, hvalue.replacement, ih]
    rfl

/-- Tokens before this one are filled, and this one is not. -/
def FirstLacking (env : Bindings) (rest : List (Token × Literal)) (t : Token) : Prop :=
  ∃ before l after, rest = before ++ (t, l) :: after ∧
    (∀ p ∈ before, ¬ Lacks env p.1.content) ∧ Lacks env t.content

theorem FirstLacking.expandPieces {t : Token} (h : FirstLacking env rest t) :
    expandPieces env (piecesOf rest) = .error (.missingVariable (String.ofList t.content)) := by
  obtain ⟨before, l, after, rfl, hbefore, ht⟩ := h
  -- tokens before this one are filled, so none of them fails earlier
  induction before with
  | nil =>
    rw [List.nil_append, expandPieces_cons, ht.replacement]
    rfl
  | cons p before ih =>
    obtain ⟨u, m⟩ := p
    obtain ⟨value, hu⟩ := (fills_or_lacks env u.content).resolve_right
      (hbefore (u, m) List.mem_cons_self)
    rw [List.cons_append, expandPieces_cons, hu.replacement,
      ih fun p hp => hbefore p (List.mem_cons_of_mem (u, m) hp)]
    rfl

/-- All tokens are filled, or there is a first one that is not. -/
theorem becomes_or_firstLacking (env : Bindings) (rest : List (Token × Literal)) :
    (∃ out, Becomes env rest out) ∨ ∃ t, FirstLacking env rest t := by
  induction rest with
  | nil => exact .inl ⟨[], .nil⟩
  | cons p rest ih =>
    obtain ⟨t, l⟩ := p
    -- a token that is not filled is the first one if those before it are filled
    by_cases ht : Lacks env t.content
    · exact .inr ⟨t, [], l, rest, rfl, fun p hp => absurd hp List.not_mem_nil, ht⟩
    · obtain ⟨value, hvalue⟩ := (fills_or_lacks env t.content).resolve_right ht
      rcases ih with ⟨out, hout⟩ | ⟨u, before, m, after, rfl, hbefore, hu⟩
      · exact .inl ⟨value ++ l.chars ++ out, .cons hvalue hout⟩
      · refine .inr ⟨u, (t, l) :: before, m, after, rfl, fun p hp => ?_, hu⟩
        rcases List.mem_cons.mp hp with rfl | hp
        · exact ht
        · exact hbefore p hp

theorem Becomes.not_lacks (h : Becomes env rest out) : ∀ p ∈ rest, ¬ Lacks env p.1.content := by
  induction h with
  | nil => exact fun p hp => absurd hp List.not_mem_nil
  | cons hvalue _ ih =>
    intro p hp
    rcases List.mem_cons.mp hp with rfl | hp
    · exact hvalue.not_lacks
    · exact ih p hp

/-- There is a first token that is not filled as soon as there is one that is not. -/
theorem exists_firstLacking_iff :
    (∃ t, FirstLacking env rest t) ↔ ∃ p ∈ rest, Lacks env p.1.content := by
  constructor
  · rintro ⟨t, before, l, after, rfl, -, ht⟩
    exact ⟨(t, l), by simp, ht⟩
  · rintro ⟨p, hp, hlacks⟩
    refine (becomes_or_firstLacking env rest).resolve_left ?_
    rintro ⟨out, hout⟩
    exact hout.not_lacks p hp hlacks

theorem expandPieces_eq_ok_iff :
    expandPieces env (piecesOf rest) = .ok out ↔ Becomes env rest out := by
  refine ⟨fun h => ?_, Becomes.expandPieces⟩
  rcases becomes_or_firstLacking env rest with ⟨out', hout⟩ | ⟨t, ht⟩
  · rw [hout.expandPieces] at h
    obtain rfl := Except.ok.inj h
    exact hout
  · rw [ht.expandPieces] at h
    cases h

theorem expandPieces_eq_error_iff :
    expandPieces env (piecesOf rest) = .error e ↔
      ∃ t, FirstLacking env rest t ∧ e = .missingVariable (String.ofList t.content) := by
  constructor
  · intro h
    rcases becomes_or_firstLacking env rest with ⟨out, hout⟩ | ⟨t, ht⟩
    · rw [hout.expandPieces] at h
      cases h
    · rw [ht.expandPieces] at h
      exact ⟨t, ht, (Except.error.inj h).symm⟩
  · rintro ⟨t, ht, rfl⟩
    exact ht.expandPieces

end Templates

theorem expandText_text (s : Template) :
    expandText env s.text = (expandPieces env (piecesOf s.rest)).map fun out =>
      String.ofList (s.opening.chars ++ out) := by
  rw [expandText, s.pieces_text, expandPieces_append]
  cases expandPieces env (piecesOf s.rest) <;> rfl

/-- The text of a template is expanded to what the template becomes. -/
theorem expandText_eq_ok_iff {s : Template} {out : String} :
    expandText env s.text = .ok out ↔ s.Becomes env out := by
  rw [expandText_text, Template.Becomes]
  simp only [← expandPieces_eq_ok_iff]
  cases expandPieces env (piecesOf s.rest) with
  | error e => simp [Except.map]
  | ok cs => simp [Except.map, eq_comm]

/-- Expanding the text of a template fails at the first token that is not filled. -/
theorem expandText_eq_error_iff {s : Template} {e : Failure} :
    expandText env s.text = .error e ↔
      ∃ t, FirstLacking env s.rest t ∧ e = .missingVariable (String.ofList t.content) := by
  rw [expandText_text, ← expandPieces_eq_error_iff]
  cases expandPieces env (piecesOf s.rest) <;> simp [Except.map]

/-- A text without tokens is left alone. -/
theorem expandText_of_not_hasToken {s : String} (h : ¬ HasToken s.toList) :
    expandText env s = .ok s := by
  rw [expandText, pieces_of_not_hasToken h, ← List.append_nil (List.map _ _), expandPieces_append]
  simp [expandPieces, Except.map]

/-- **Expansion replaces the tokens, once, and nothing else.**  A text is expanded to what its
template becomes.  It fails exactly if a token lacks its variable, and then it names the variable of
the first one that does.  A text without tokens stays what it is. -/
theorem expandText_template (env : Bindings) :
    (∀ (s : Template) (out : String), expandText env s.text = .ok out ↔ s.Becomes env out) ∧
    (∀ (s : Template) (e : Failure), expandText env s.text = .error e ↔
      ∃ t, FirstLacking env s.rest t ∧ e = .missingVariable (String.ofList t.content) ∧
        e.fault = .coded .profile
          (some ("missing environment variable: " ++ String.ofList t.content)) none) ∧
    (∀ s : Template,
      (∃ e, expandText env s.text = .error e ∧ e.fault.className = "ProfileError") ↔
        ∃ p ∈ s.rest, Lacks env p.1.content) ∧
    ∀ s : String, ¬ HasToken s.toList → expandText env s = .ok s := by
  refine ⟨fun s out => expandText_eq_ok_iff, fun s e => ?_, fun s => ?_,
    fun s h => expandText_of_not_hasToken h⟩
  · rw [expandText_eq_error_iff]
    constructor
    · rintro ⟨t, ht, rfl⟩
      exact ⟨t, ht, rfl, rfl⟩
    · rintro ⟨t, ht, he, -⟩
      exact ⟨t, ht, he⟩
  · rw [← exists_firstLacking_iff]
    constructor
    · rintro ⟨e, he, -⟩
      obtain ⟨t, ht, -⟩ := expandText_eq_error_iff.mp he
      exact ⟨t, ht⟩
    · rintro ⟨t, ht⟩
      exact ⟨_, expandText_eq_error_iff.mpr ⟨t, ht, rfl⟩, rfl⟩

/-- A dollar sign, a token, a hyphen, and a token with a default. -/
def nested : Template where
  opening := ⟨['$'], by decide⟩
  rest :=
    [(⟨['A'], by decide, by decide⟩, ⟨['-'], by decide⟩),
      (⟨['B', ':', '-', 'd'], by decide, by decide⟩, ⟨[], by decide⟩)]

/-- What is put in for a token is not read again, a variable that is blank gives way to the default,
and a token that is not closed is none. -/
theorem expandText_template_of_nested :
    let env := Bindings.ofPairs [("A", "$\x7bB\x7d"), ("B", " ")]
    nested.text = "$$\x7bA\x7d-$\x7bB:-d\x7d" ∧ nested.Becomes env "$$\x7bB\x7d-d" ∧
      expandText env nested.text = .ok "$$\x7bB\x7d-d" ∧
      ¬ HasToken "$\x7bA".toList ∧ expandText env "$\x7bA" = .ok "$\x7bA" := by
  intro env
  have hA : Holds env ['A'] ['$', '\x7b', 'B', '\x7d'] := ⟨rfl, '$', by decide, by decide⟩
  have hB : ∀ value, ¬ Holds env ['B'] value := forall_not_holds_iff.mpr (by decide)
  have hfirst : Fills env ['A'] ['$', '\x7b', 'B', '\x7d'] := .required (by decide) hA
  have hsecond : Fills env ['B', ':', '-', 'd'] ['d'] := .default (by decide) hB
  have hbecomes : nested.Becomes env "$$\x7bB\x7d-d" :=
    ⟨_, .cons hfirst (.cons hsecond .nil), rfl⟩
  have hopen : ¬ HasToken "$\x7bA".toList := by
    rintro ⟨content, -, -, htoken⟩
    have hclosing : '\x7d' ∈ "$\x7bA".toList := htoken.subset (by simp)
    exact absurd hclosing (by decide)
  obtain ⟨htemplates, -, -, hplain⟩ := expandText_template env
  exact ⟨rfl, hbecomes, (htemplates nested _).mpr hbecomes, hopen, hplain _ hopen⟩

end Timebox.Expansion
