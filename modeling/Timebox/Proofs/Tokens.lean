import Timebox.Proofs.Blocks

/-!
# Tokens work once

A history is a program without blocks that starts from some arguments and holds no token yet.  Its
positions tell tokens apart: the token that is made at a position is restored at a later one if it
is restored there by its name, and the name has not been given to another token in between.

Whatever else happens in a history, the token kept under a name is the one that was made last under
it.  It holds the arguments as they were at that position, and it is used up once it has been
restored (`History.keeps`).  So the first time that a token is restored puts back what there was
when it was made, any other time changes nothing, and a history that restores its tokens last in,
first out, ends where it started (`History.token_discipline`).
-/

namespace Timebox

/-! ### Operations and tokens -/

theorem ArgumentState.token?_keep (s : ArgumentState) (name name' : String) (token : Token) :
    (s.keep name token).token? name' = if name' = name then some token else s.token? name' := by
  unfold keep token?
  by_cases h : name' = name
  · rw [if_pos h, h]
    exact List.lookup_cons_self
  · have hne : (name' == name) = false := beq_eq_false_iff_ne.mpr h
    rw [if_neg h, List.lookup_cons, hne]
    -- what is filtered out is kept under the other name
    induction s.tokens with
    | nil => rfl
    | cons t ts ih =>
      by_cases ht : t.1 = name
      · have hn : (name' == t.1) = false := by rw [ht]; exact hne
        rw [List.filter_cons_of_neg (by simp [ht]), List.lookup_cons, hn]
        exact ih
      · rw [List.filter_cons_of_pos (by simp [ht]), List.lookup_cons, List.lookup_cons]
        cases name' == t.1 with
        | true => rfl
        | false => exact ih

namespace ArgumentOp

/-- The operation is no block. -/
def IsPlain : ArgumentOp → Prop
  | block .. => False
  | _ => True

/-- The operation makes a token and keeps it under a name: it saves the arguments, or overrides them
with pairs. -/
inductive Makes (name : String) : ArgumentOp → Prop
  | save : Makes name (save name)
  | override {items : WrittenItems} {ps : List (String × String)} (h : items.pairs = .ok ps) :
    Makes name (override items name)

variable {op : ArgumentOp} {name : String} (s : ArgumentState)

/-- A token that is made holds the arguments as they were before. -/
theorem token?_run_of_makes (h : op.Makes name) :
    (op.run s).2.token? name = some s.arguments.save := by
  cases h with
  | save => exact (s.token?_keep name name _).trans (if_pos rfl)
  | override h =>
    rw [run, Arguments.overrideWritten_eq, h]
    exact (ArgumentState.token?_keep _ name name _).trans (if_pos rfl)

/-- A token that is restored is used up. -/
theorem token?_run_restore (name : String) :
    ((restore name).run s).2.token? name =
      (s.token? name).map fun token => { token with restored := true } := by
  rw [run, ArgumentState.restoreNamed]
  cases htoken : s.token? name with
  | none => exact htoken
  | some token =>
    refine (ArgumentState.token?_keep _ name name _).trans ?_
    rw [if_pos rfl, Arguments.restore]
    cases hused : token.restored with
    | true =>
      obtain ⟨snapshot, restored⟩ := token
      cases hused
      rfl
    | false => rfl

/-- Restoring a token that is not used up puts back the arguments that it holds. -/
theorem arguments_run_restore (name : String) :
    ((restore name).run s).2.arguments =
      match s.token? name with
      | none => s.arguments
      | some token => if token.restored then s.arguments else token.snapshot := by
  rw [run, ArgumentState.restoreNamed]
  cases s.token? name with
  | none => rfl
  | some token =>
    show (Arguments.restore s.arguments token).1 = _
    rw [Arguments.restore]
    dsimp only
    split <;> rfl

/-- Tokens under other names are left alone. -/
theorem token?_run_of_not (hplain : op.IsPlain) (hmakes : ¬ op.Makes name)
    (hrestore : op ≠ restore name) : (op.run s).2.token? name = s.token? name := by
  -- three kinds of operation keep tokens, and this one does so under another name if at all
  cases op with
  | save name' =>
    have hne : name ≠ name' := by
      rintro rfl
      exact hmakes .save
    exact (s.token?_keep name' name _).trans (if_neg hne)
  | override items name' =>
    rw [run, Arguments.overrideWritten_eq]
    cases hitems : items.pairs with
    | error f => rfl
    | ok ps =>
      have hne : name ≠ name' := by
        rintro rfl
        exact hmakes (.override hitems)
      exact (ArgumentState.token?_keep _ name' name _).trans (if_neg hne)
  | restore name' =>
    have hne : name ≠ name' := by
      rintro rfl
      exact hrestore rfl
    rw [run, ArgumentState.restoreNamed]
    cases s.token? name' with
    | none => rfl
    | some token => exact (ArgumentState.token?_keep _ name' name _).trans (if_neg hne)
  | integer key default =>
    rw [run]
    cases Arguments.integer s.arguments key default <;> rfl
  | block items body fault => exact hplain.elim
  | get key default => rfl
  | contains key => rfl
  | size => rfl
  | sameTexts other => rfl
  | sameArguments other => rfl

/-- Only making and restoring tokens can change the arguments. -/
theorem arguments_run_of_not (hplain : op.IsPlain) (hmakes : ∀ name, ¬ op.Makes name)
    (hrestore : ∀ name, op ≠ restore name) : (op.run s).2.arguments = s.arguments := by
  cases op with
  | override items name =>
    rw [run, Arguments.overrideWritten_eq]
    cases hitems : items.pairs with
    | error f => rfl
    | ok ps => exact absurd (.override hitems) (hmakes name)
  | restore name => exact absurd rfl (hrestore name)
  | integer key default =>
    rw [run]
    cases Arguments.integer s.arguments key default <;> rfl
  | block items body fault => exact hplain.elim
  | get key default => rfl
  | contains key => rfl
  | size => rfl
  | save name => rfl
  | sameTexts other => rfl
  | sameArguments other => rfl

/-- Running one program after the other. -/
theorem runAll_append (ops ops' : List ArgumentOp) (s : ArgumentState) :
    (runAll (ops ++ ops') s).2 = (runAll ops' (runAll ops s).2).2 := by
  induction ops generalizing s with
  | nil => rfl
  | cons op ops ih =>
    rw [List.cons_append, runAll, runAll]
    exact ih _

end ArgumentOp

/-! ### Histories -/

/-- A program without blocks, and the arguments that it starts from. -/
structure History where
  start : Arguments
  ops : List ArgumentOp
  plain : ∀ op ∈ ops, op.IsPlain

namespace History

variable (h : History)

/-- The state in which a history comes to a position. -/
def state (n : Nat) : ArgumentState :=
  (ArgumentOp.runAll (h.ops.take n) { arguments := h.start }).2

/-- The arguments with which a history comes to a position. -/
def contents (n : Nat) : Arguments :=
  (h.state n).arguments

/-- A token is made at a position and kept under a name. -/
def Makes (i : Nat) (name : String) : Prop :=
  ∃ op, h.ops[i]? = some op ∧ op.Makes name

/-- The token that is made at the position `i` is the one that is restored at the position `j`. -/
def Restores (i j : Nat) : Prop :=
  ∃ name, h.Makes i name ∧ h.ops[j]? = some (.restore name) ∧ i < j ∧
    ∀ k, i < k → k < j → ¬ h.Makes k name

/-- What is kept under a name when a history comes to a position. -/
inductive Keeps (n : Nat) (name : String) : Option Token → Prop
  /-- No token has been made under this name. -/
  | none (hnone : ∀ i < n, ¬ h.Makes i name) : Keeps n name none
  /-- The last one to be made under it is kept.  It holds what there was when it was made, and is
  used up if it has been restored. -/
  | some (i : Nat) (token : Token) (hi : i < n) (hmakes : h.Makes i name)
    (hlast : ∀ k, i < k → k < n → ¬ h.Makes k name) (hsnapshot : token.snapshot = h.contents i)
    (hrestored : token.restored = true ↔ ∃ k < n, h.Restores i k) : Keeps n name (some token)

variable {h} {i j k n : Nat} {name name' : String}

/-! ### What is kept -/

theorem state_of_some {op : ArgumentOp} (hop : h.ops[n]? = .some op) :
    h.state (n + 1) = (op.run (h.state n)).2 := by
  unfold state
  rw [List.take_add_one, hop, ArgumentOp.runAll_append]
  rfl

theorem state_of_none (hop : h.ops[n]? = .none) : h.state (n + 1) = h.state n := by
  unfold state
  rw [List.take_add_one, hop, Option.toList_none, List.append_nil]

theorem plain_of_some {op : ArgumentOp} (hop : h.ops[n]? = .some op) : op.IsPlain :=
  h.plain op (List.mem_of_getElem? hop)

theorem Makes.name_eq (hi : h.Makes i name) (hi' : h.Makes i name') : name = name' := by
  obtain ⟨op, hop, hmakes⟩ := hi
  obtain ⟨op', hop', hmakes'⟩ := hi'
  obtain rfl := Option.some.inj (hop.symm.trans hop')
  cases hmakes <;> cases hmakes' <;> rfl

theorem Makes.ne_restore (hi : h.Makes i name) : h.ops[i]? ≠ .some (.restore name') := by
  obtain ⟨op, hop, hmakes⟩ := hi
  intro hrestore
  obtain rfl := Option.some.inj (hop.symm.trans hrestore)
  cases hmakes

/-- The token that was made last under a name remains so if none is made at the position. -/
theorem last_succ (hlast : ∀ k, i < k → k < n → ¬ h.Makes k name) (hmakes : ¬ h.Makes n name) :
    ∀ k, i < k → k < n + 1 → ¬ h.Makes k name := by
  intro k hik hk
  rcases Nat.lt_succ_iff_lt_or_eq.mp hk with hk | rfl
  · exact hlast k hik hk
  · exact hmakes

/-- What happens under other names leaves what is kept under this one. -/
theorem Keeps.of_not {token : Option Token} (hk : h.Keeps n name token)
    (hmakes : ¬ h.Makes n name) (hrestore : h.ops[n]? ≠ .some (.restore name)) :
    h.Keeps (n + 1) name token := by
  cases hk with
  | none hnone => exact .none (Nat.forall_lt_succ_right.mpr ⟨hnone, hmakes⟩)
  | some i token hi hmade hlast hsnapshot hrestored =>
    refine .some i token (by omega) hmade (last_succ hlast hmakes) hsnapshot ?_
    rw [hrestored]
    constructor
    · rintro ⟨k, hk, hr⟩
      exact ⟨k, by omega, hr⟩
    · rintro ⟨k, hk, hr⟩
      refine ⟨k, ?_, hr⟩
      rcases Nat.lt_succ_iff_lt_or_eq.mp hk with hk | rfl
      · exact hk
      · -- the position would restore this very name
        obtain ⟨name', hmade', hop, -⟩ := hr
        rw [hmade'.name_eq hmade] at hop
        exact absurd hop hrestore

/-- A token that has just been made is the last one, and has not been restored. -/
theorem keeps_of_makes (hmakes : h.Makes n name) :
    h.Keeps (n + 1) name (.some (h.contents n).save) := by
  refine .some n _ (Nat.lt_succ_self n) hmakes (fun k _ _ => by omega) rfl ?_
  refine iff_of_false Bool.false_ne_true ?_
  rintro ⟨k, hk, name', -, -, hnk, -⟩
  omega

/-- A token that has just been restored is used up. -/
theorem Keeps.restore {token : Option Token} (hk : h.Keeps n name token)
    (hop : h.ops[n]? = .some (.restore name)) :
    h.Keeps (n + 1) name (token.map fun token => { token with restored := true }) := by
  have hmakes : ¬ h.Makes n name := fun hm => hm.ne_restore hop
  cases hk with
  | none hnone => exact .none (Nat.forall_lt_succ_right.mpr ⟨hnone, hmakes⟩)
  | some i token hi hmade hlast hsnapshot hrestored =>
    refine .some i _ (by omega) hmade (last_succ hlast hmakes) hsnapshot ?_
    exact iff_of_true rfl ⟨n, Nat.lt_succ_self n, name, hmade, hop, hi, hlast⟩

/-- What is kept under a name is the token that was made last under it. -/
theorem keeps (h : History) (n : Nat) (name : String) :
    h.Keeps n name ((h.state n).token? name) := by
  induction n with
  | zero => exact .none fun i hi => absurd hi (Nat.not_lt_zero i)
  | succ n ih =>
    cases hop : h.ops[n]? with
    | none =>
      rw [state_of_none hop]
      refine ih.of_not ?_ (by rw [hop]; nofun)
      rintro ⟨op, hop', -⟩
      cases hop.symm.trans hop'
    | some op =>
      rw [state_of_some hop]
      -- the last operation has made the token, used it, or left it alone
      by_cases hmakes : op.Makes name
      · rw [ArgumentOp.token?_run_of_makes _ hmakes]
        exact keeps_of_makes ⟨op, hop, hmakes⟩
      · by_cases hrestore : op = .restore name
        · subst hrestore
          rw [ArgumentOp.token?_run_restore]
          exact ih.restore hop
        · rw [ArgumentOp.token?_run_of_not _ (plain_of_some hop) hmakes hrestore]
          refine ih.of_not ?_ fun hop' => hrestore (Option.some.inj (hop.symm.trans hop'))
          rintro ⟨op', hop', hmakes'⟩
          obtain rfl := Option.some.inj (hop.symm.trans hop')
          exact hmakes hmakes'

/-! ### What is put back -/

/-- A token that is about to be restored holds what there was when it was made. -/
theorem Restores.token (hr : h.Restores i j) : ∃ name token,
    h.ops[j]? = .some (.restore name) ∧ (h.state j).token? name = .some token ∧
      token.snapshot = h.contents i ∧ (token.restored = true ↔ ∃ k < j, h.Restores i k) := by
  obtain ⟨name, hmade, hop, hij, hlast⟩ := hr
  have hkeeps := h.keeps j name
  cases htoken : (h.state j).token? name with
  | none =>
    rw [htoken] at hkeeps
    cases hkeeps with
    | none hnone => exact absurd hmade (hnone i hij)
  | some token =>
    rw [htoken] at hkeeps
    cases hkeeps with
    | some i' _ hi' hmade' hlast' hsnapshot hrestored =>
      -- both are the last position at which a token was made under the name
      obtain rfl : i' = i := by
        rcases Nat.lt_trichotomy i' i with hlt | heq | hgt
        · exact absurd hmade (hlast' i hlt hij)
        · exact heq
        · exact absurd hmade' (hlast i' hgt hi')
      exact ⟨name, token, hop, htoken, hsnapshot, hrestored⟩

/-- The first time that a token is restored puts back what there was when it was made. -/
theorem Restores.contents_of_first (hr : h.Restores i j) (hfirst : ∀ k < j, ¬ h.Restores i k) :
    h.contents (j + 1) = h.contents i := by
  obtain ⟨name, token, hop, htoken, hsnapshot, hrestored⟩ := hr.token
  have hunused : ¬ token.restored = true := by
    rw [hrestored]
    rintro ⟨k, hk, hk'⟩
    exact hfirst k hk hk'
  unfold contents
  rw [state_of_some hop, ArgumentOp.arguments_run_restore, htoken]
  dsimp only
  rw [if_neg hunused, hsnapshot]
  rfl

/-- Any other time changes nothing. -/
theorem Restores.contents_of_again (hr : h.Restores i j) (hk : h.Restores i k) (hkj : k < j) :
    h.contents (j + 1) = h.contents j := by
  obtain ⟨name, token, hop, htoken, -, hrestored⟩ := hr.token
  have hused : token.restored = true := hrestored.mpr ⟨k, hkj, hk⟩
  unfold contents
  rw [state_of_some hop, ArgumentOp.arguments_run_restore, htoken]
  dsimp only
  rw [if_pos hused]

/-- Nothing else changes the arguments than that a token is made or restored. -/
theorem contents_succ (hmakes : ∀ name, ¬ h.Makes n name) (hrestores : ∀ i, ¬ h.Restores i n) :
    h.contents (n + 1) = h.contents n := by
  unfold contents
  cases hop : h.ops[n]? with
  | none => rw [state_of_none hop]
  | some op =>
    rw [state_of_some hop]
    by_cases hrestore : ∃ name, op = .restore name
    · obtain ⟨name, rfl⟩ := hrestore
      rw [ArgumentOp.arguments_run_restore]
      have hkeeps := h.keeps n name
      cases htoken : (h.state n).token? name with
      | none => rfl
      | some token =>
        rw [htoken] at hkeeps
        -- the name keeps a token, and the operation restores it, against what is assumed
        cases hkeeps with
        | some i _ hi hmade hlast => exact absurd ⟨name, hmade, hop, hi, hlast⟩ (hrestores i)
    · refine ArgumentOp.arguments_run_of_not _ (plain_of_some hop) (fun name hm => ?_)
        fun name hop' => hrestore ⟨name, hop'⟩
      exact hmakes name ⟨op, hop, hm⟩

/-! ### Last in, first out -/

/-- Every token is restored once, and tokens that are held at the same time are restored in the
order opposite to that in which they were made. -/
structure LastInFirstOut (h : History) : Prop where
  restored : ∀ i name, h.Makes i name → ∃ j, h.Restores i j
  once : ∀ i j k, h.Restores i j → h.Restores i k → j = k
  order : ∀ i j i' j', h.Restores i j → h.Restores i' j' → i < i' → i' < j → j' < j

/-- No token that was made before a position is restored from there on. -/
def Settled (h : History) (n : Nat) : Prop :=
  ∀ i < n, ∀ j, h.Restores i j → j < n

/-- Where all tokens are settled, the arguments are what they were at the start. -/
theorem LastInFirstOut.contents_of_settled (hl : h.LastInFirstOut) (hn : h.Settled n) :
    h.contents n = h.start := by
  induction n using Nat.strongRecOn with
  | _ n ih =>
  cases n with
  | zero => rfl
  | succ n =>
    by_cases hr : ∃ i, h.Restores i n
    · -- what is put back is from before the token was made, where all earlier ones were settled
      obtain ⟨i, hr⟩ := hr
      obtain ⟨name, hmade, -, hin, -⟩ := id hr
      rw [hr.contents_of_first fun k hk hk' => Nat.ne_of_lt hk (hl.once i k n hk' hr)]
      refine ih i (by omega) fun i' hi' j' hj' => ?_
      have hj'n : j' < n + 1 := hn i' (by omega) j' hj'
      have hne : j' ≠ i := by
        rintro rfl
        obtain ⟨name', -, hop, -⟩ := hj'
        exact hmade.ne_restore hop
      refine Nat.lt_of_not_le fun hle => ?_
      have hnj' : n < j' := hl.order i' j' i n hj' hr hi' (by omega)
      omega
    · have hmakes : ∀ name, ¬ h.Makes n name := by
        intro name hm
        obtain ⟨j, hj⟩ := hl.restored n name hm
        have hjn : j < n + 1 := hn n (Nat.lt_succ_self n) j hj
        obtain ⟨-, -, -, hnj, -⟩ := hj
        omega
      rw [contents_succ hmakes fun i hi => hr ⟨i, hi⟩]
      refine ih n (Nat.lt_succ_self n) fun i hi j hj => ?_
      have hjn : j < n + 1 := hn i (by omega) j hj
      have hne : j ≠ n := by
        rintro rfl
        exact hr ⟨i, hj⟩
      omega

/-- A token is restored within the history. -/
theorem Restores.lt_length (hr : h.Restores i j) : j < h.ops.length := by
  obtain ⟨name, -, hop, -⟩ := hr
  exact (List.getElem?_eq_some_iff.mp hop).1

/-- Tokens work once.  The first time that a token is restored puts back what there was when it was
made, whatever has happened in between, and any other time changes nothing; so a token changes the
arguments at most once.  A history that restores its tokens last in, first out, ends where it
started. -/
theorem token_discipline (h : History) :
    (∀ i j, h.Restores i j → (∀ k < j, ¬ h.Restores i k) → h.contents (j + 1) = h.contents i) ∧
      (∀ i j k, h.Restores i j → h.Restores i k → k < j → h.contents (j + 1) = h.contents j) ∧
      (∀ i j, h.Restores i j → h.contents (j + 1) ≠ h.contents j →
        h.contents (j + 1) = h.contents i ∧
          ∀ k, h.Restores i k → h.contents (k + 1) ≠ h.contents k → k = j) ∧
      (h.LastInFirstOut → h.contents h.ops.length = h.start) := by
  refine ⟨fun i j => Restores.contents_of_first, fun i j k => Restores.contents_of_again,
    fun i j hr hchanged => ⟨hr.contents_of_first fun k hk hk' => ?_, fun k hr' hchanged' => ?_⟩,
    fun hl => hl.contents_of_settled fun i _ j hr => hr.lt_length⟩
  · exact hchanged (hr.contents_of_again hk' hk)
  · rcases Nat.lt_trichotomy k j with hlt | heq | hgt
    · exact absurd (hr.contents_of_again hr' hlt) hchanged
    · exact heq
    · exact absurd (hr'.contents_of_again hr hgt) hchanged'

/-- Two tokens that are held at the same time. -/
def nested : History where
  start := .ofPairs [("k", "before")]
  ops := [.save "outer", .override (.items [.loose (.list [.text "k", .text "during"])]) "inner",
    .restore "inner", .restore "outer"]
  plain := by simp [ArgumentOp.IsPlain]

theorem nested_makes (hi : nested.Makes i name) :
    i = 0 ∧ name = "outer" ∨ i = 1 ∧ name = "inner" := by
  obtain ⟨op, hop, hmakes⟩ := hi
  match i with
  | 0 => cases hop; cases hmakes; exact Or.inl ⟨rfl, rfl⟩
  | 1 => cases hop; cases hmakes; exact Or.inr ⟨rfl, rfl⟩
  | 2 => cases hop; cases hmakes
  | 3 => cases hop; cases hmakes
  | i + 4 => cases hop

theorem nested_restores : nested.Restores i j ↔ i = 0 ∧ j = 3 ∨ i = 1 ∧ j = 2 := by
  constructor
  · rintro ⟨name, hmade, hop, hij, -⟩
    -- four operations are few enough to look at each
    have hj : j < 4 := (List.getElem?_eq_some_iff.mp hop).1
    rcases nested_makes hmade with ⟨rfl, rfl⟩ | ⟨rfl, rfl⟩
    · obtain rfl : j = 3 := by
        match j with
        | 1 => cases hop
        | 2 => simp [nested] at hop
        | 3 => rfl
      exact Or.inl ⟨rfl, rfl⟩
    · obtain rfl : j = 2 := by
        match j with
        | 2 => rfl
        | 3 => simp [nested] at hop
      exact Or.inr ⟨rfl, rfl⟩
  · rintro (⟨rfl, rfl⟩ | ⟨rfl, rfl⟩)
    · refine ⟨"outer", ⟨_, rfl, .save⟩, rfl, by omega, fun k hk _ hmade => ?_⟩
      rcases nested_makes hmade with ⟨rfl, -⟩ | ⟨-, hname⟩
      · omega
      · simp at hname
    · refine ⟨"inner", ⟨_, rfl, .override rfl⟩, rfl, by omega, fun k hk hk' => ?_⟩
      omega

theorem nested_lastInFirstOut : nested.LastInFirstOut where
  restored i name hmade := by
    rcases nested_makes hmade with ⟨rfl, -⟩ | ⟨rfl, -⟩
    · exact ⟨3, nested_restores.mpr (Or.inl ⟨rfl, rfl⟩)⟩
    · exact ⟨2, nested_restores.mpr (Or.inr ⟨rfl, rfl⟩)⟩
  once i j k hj hk := by
    rw [nested_restores] at hj hk
    omega
  order i j i' j' hj hj' := by
    rw [nested_restores] at hj hj'
    omega

/-- The outer token puts back what there was at the start. -/
theorem contents_of_nested : nested.LastInFirstOut ∧ nested.contents 4 = nested.start ∧
    (nested.contents 2).get? "k" = some "during" := by
  obtain ⟨-, -, -, hend⟩ := token_discipline nested
  exact ⟨nested_lastInFirstOut, hend nested_lastInFirstOut, by decide +kernel⟩

end History

end Timebox
