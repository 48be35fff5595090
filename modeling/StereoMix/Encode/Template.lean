import StereoMix.Encode.OutputPath

/-!
# What replacing does

`str::replace` finds the matches of a token from left to right. Two facts about folds over the result: replacing a
token by a text that the fold cannot tell from it changes nothing, and this remains so when another token is
replaced afterwards, as long as the text cannot become part of that token. And two about what the result shows: a
token stays where another one is replaced, and the text of a token that occurs can be read off the result.
-/

namespace StereoMix.Encode

variable {pattern text : List Char}

/-! ## One token -/

theorem replaceFrom_nil (skip : Nat) : replaceFrom pattern text skip [] = [] := by cases skip <;> rfl

theorem replaceFrom_skip (skip : Nat) (s : List Char) :
    replaceFrom pattern text skip s = replaceFrom pattern text 0 (s.drop skip) := by
  induction s generalizing skip with
  | nil => rw [List.drop_nil, replaceFrom_nil, replaceFrom_nil]
  | cons c rest ih =>
    cases skip with
    | zero => rfl
    | succ skip => exact ih skip

/-- At a match the text stands in its place. -/
theorem replaceFrom_match (nonempty : pattern ≠ []) (rest : List Char) :
    replaceFrom pattern text 0 (pattern ++ rest) = text ++ replaceFrom pattern text 0 rest := by
  cases pattern with
  | nil => exact absurd rfl nonempty
  | cons c tail =>
    have here : (c :: tail).isPrefixOf (c :: (tail ++ rest)) = true :=
      List.isPrefixOf_iff_prefix.2 (List.prefix_append (c :: tail) rest)
    rw [List.cons_append, replaceFrom, if_pos here, replaceFrom_skip, List.length_cons, Nat.add_sub_cancel,
      List.drop_left]

/-- Elsewhere a character is kept. -/
theorem replaceFrom_other {c : Char} {rest : List Char} (other : ¬ pattern <+: c :: rest) :
    replaceFrom pattern text 0 (c :: rest) = c :: replaceFrom pattern text 0 rest := by
  rw [replaceFrom, if_neg]
  exact fun here => other (List.isPrefixOf_iff_prefix.1 here)

/-- A list is empty, or begins with a match and the rest, or with a character that begins none. -/
theorem match_induction {motive : List Char → Prop} (nonempty : pattern ≠ []) (nil : motive [])
    (hit : ∀ rest, motive rest → motive (pattern ++ rest))
    (miss : ∀ c rest, ¬ pattern <+: c :: rest → motive rest → motive (c :: rest)) (s : List Char) : motive s := by
  induction bound : s.length using Nat.strong_induction_on generalizing s with
  | _ n ih =>
    subst bound
    by_cases here : pattern <+: s
    · obtain ⟨rest, rfl⟩ := here
      have less : rest.length < (pattern ++ rest).length := by
        have := List.length_pos_of_ne_nil nonempty
        rw [List.length_append]
        omega
      exact hit rest (ih _ less rest rfl)
    · cases s with
      | nil => exact nil
      | cons c rest => exact miss c rest here (ih _ (Nat.lt_succ_self _) rest rfl)

/-- No match reaches over a character that the pattern does not have. -/
theorem replaceFrom_append_cons {c : Char} (nonempty : pattern ≠ []) (absent : c ∉ pattern) (front rest : List Char) :
    replaceFrom pattern text 0 (front ++ c :: rest) =
      replaceFrom pattern text 0 front ++ c :: replaceFrom pattern text 0 rest := by
  have begins {front : List Char} (here : pattern <+: front ++ c :: rest) : pattern <+: front := by
    rcases List.prefix_or_prefix_of_prefix here (List.prefix_append front _) with inside | ⟨more, rfl⟩
    · exact inside
    · cases more with
      | nil => simp
      | cons d more =>
        have same := (List.cons_prefix_cons.1 ((List.prefix_append_right_inj front).1 here)).1
        exact absurd (by simp [same]) absent
  induction front using match_induction nonempty with
  | nil =>
    rw [List.nil_append, replaceFrom_other, replaceFrom_nil]
    · rfl
    · exact fun here => nonempty (List.prefix_nil.1 (@begins [] here))
  | hit rest' ih =>
    rw [List.append_assoc, replaceFrom_match nonempty, replaceFrom_match nonempty, ih, List.append_assoc]
  | miss d rest' other ih =>
    have beyond : ¬ pattern <+: d :: (rest' ++ c :: rest) := fun here => other (@begins (d :: rest') here)
    rw [List.cons_append, replaceFrom_other beyond, ih, replaceFrom_other other, List.cons_append]

section

variable {σ : Type} {f : σ → Char → σ}

/-- A fold that cannot tell the text from the token cannot tell that it was replaced. -/
theorem foldl_replaceFrom (nonempty : pattern ≠ []) (alike : ∀ q, text.foldl f q = pattern.foldl f q) (s : List Char)
    (q : σ) : (replaceFrom pattern text 0 s).foldl f q = s.foldl f q := by
  induction s using match_induction nonempty generalizing q with
  | nil => rfl
  | hit rest ih => rw [replaceFrom_match nonempty, List.foldl_append, List.foldl_append, alike, ih]
  | miss c rest other ih => rw [replaceFrom_other other, List.foldl_cons, List.foldl_cons, ih]

/-! ## Two tokens -/

variable {other value : List Char}

/-- Where a token's first character does not stand, the token is not. -/
theorem replaceFrom_append_of_notMem {c : Char} {tail front rest : List Char} (absent : c ∉ front) :
    replaceFrom (c :: tail) text 0 (front ++ rest) = front ++ replaceFrom (c :: tail) text 0 rest := by
  induction front with
  | nil => rfl
  | cons d front ih =>
    rw [List.mem_cons, not_or] at absent
    rw [List.cons_append, List.cons_append, replaceFrom_other, ih absent.2]
    intro here
    exact absent.1 (List.cons_prefix_cons.1 here).1

/-- Of two tokens in braces of their own neither begins where the other stands. -/
theorem token_begins_no_other {brace : Char} {x y : List Char} (apart : ¬ x <+: y ∧ ¬ y <+: x) (rest : List Char) :
    ¬ brace :: x <+: brace :: (y ++ rest) := by
  intro here
  rcases List.prefix_or_prefix_of_prefix (List.cons_prefix_cons.1 here).2 (List.prefix_append y rest) with xy | yx
  · exact apart.1 xy
  · exact apart.2 yx

/-- So a token is kept where the other one is replaced. -/
theorem replaceFrom_token {brace : Char} {x y : List Char} (apart : ¬ x <+: y ∧ ¬ y <+: x) (own : brace ∉ y)
    (rest : List Char) : replaceFrom (brace :: x) text 0 (brace :: y ++ rest) =
      brace :: y ++ replaceFrom (brace :: x) text 0 rest := by
  rw [List.cons_append, replaceFrom_other (token_begins_no_other apart rest), replaceFrom_append_of_notMem own]
  rfl

/-- What stands at the front after the replacement stood there before, if neither the token nor the text begins with
a character of it. -/
theorem prefix_of_prefix_replaceFrom {front s : List Char} (nonempty : pattern ≠ []) (some_text : text ≠ [])
    (absent : ∀ d ∈ pattern.head?, d ∉ front) (apart : ∀ d ∈ text.head?, d ∉ front)
    (here : front <+: replaceFrom pattern text 0 s) : front <+: s := by
  induction front generalizing s with
  | nil => exact List.nil_prefix
  | cons d front ih =>
    have absent' : ∀ d ∈ pattern.head?, d ∉ front :=
      fun d first inside => absent d first (List.mem_cons_of_mem _ inside)
    have apart' : ∀ d ∈ text.head?, d ∉ front := fun d first inside => apart d first (List.mem_cons_of_mem _ inside)
    by_cases matched : pattern <+: s
    · obtain ⟨rest, rfl⟩ := matched
      rw [replaceFrom_match nonempty] at here
      obtain ⟨first, tail, rfl⟩ := List.exists_cons_of_ne_nil some_text
      have same := (List.cons_prefix_cons.1 here).1
      exact absurd (same ▸ List.mem_cons_self) (apart first rfl)
    · cases s with
      | nil =>
        rw [replaceFrom_nil] at here
        exact absurd here (by simp)
      | cons c rest =>
        rw [replaceFrom_other matched] at here
        obtain ⟨rfl, front_here⟩ := List.cons_prefix_cons.1 here
        exact List.cons_prefix_cons.2 ⟨rfl, ih absent' apart' front_here⟩

/-- A token in braces of its own, and a text that can begin no part of it: replacing one of two such tokens does not
change what a fold says of the result of replacing the other, if it cannot tell the text from the token. -/
theorem foldl_replaceFrom_replaceFrom {brace : Char} {a b : List Char} (own_a : brace ∉ a) (own_b : brace ∉ b)
    (apart : ¬ a <+: b ∧ ¬ b <+: a) (some_text : text ≠ []) (whole : brace ∉ text) (first : ∀ d ∈ text.head?, d ∉ b)
    (alike : ∀ q, text.foldl f q = (brace :: a).foldl f q) (s : List Char) (q : σ) :
    (replaceFrom (brace :: b) value 0 (replaceFrom (brace :: a) text 0 s)).foldl f q =
      (replaceFrom (brace :: b) value 0 s).foldl f q := by
  have nonempty {x : List Char} : brace :: x ≠ [] := List.cons_ne_nil _ _
  induction bound : s.length using Nat.strong_induction_on generalizing s q with
  | _ n ih =>
    subst bound
    by_cases here : brace :: a <+: s
    · obtain ⟨rest, rfl⟩ := here
      have less : rest.length < (brace :: a ++ rest).length := by
        rw [List.length_append, List.length_cons]
        omega
      rw [replaceFrom_match nonempty, replaceFrom_append_of_notMem whole, List.foldl_append, alike,
        ih _ less rest _ rfl, replaceFrom_token apart.symm own_a, List.foldl_append]
    by_cases there : brace :: b <+: s
    · obtain ⟨rest, rfl⟩ := there
      have less : rest.length < (brace :: b ++ rest).length := by
        rw [List.length_append, List.length_cons]
        omega
      rw [replaceFrom_token apart own_b, replaceFrom_match nonempty, replaceFrom_match nonempty, List.foldl_append,
        List.foldl_append, ih _ less rest _ rfl]
    cases s with
    | nil => rfl
    | cons c rest =>
      have nowhere : ¬ brace :: b <+: c :: replaceFrom (brace :: a) text 0 rest := by
        intro begins
        obtain ⟨rfl, body⟩ := List.cons_prefix_cons.1 begins
        apply there
        apply List.cons_prefix_cons.2
        refine ⟨rfl, prefix_of_prefix_replaceFrom nonempty some_text ?_ first body⟩
        intro d same
        cases same
        exact own_b
      rw [replaceFrom_other here, replaceFrom_other nowhere, replaceFrom_other there, List.foldl_cons, List.foldl_cons,
        ih _ (Nat.lt_succ_self _) rest _ rfl]

end

/-! ## What the result shows -/

theorem mem_replaceFrom {c : Char} {skip : Nat} {s : List Char} (member : c ∈ replaceFrom pattern text skip s) :
    c ∈ s ∨ c ∈ text := by
  induction s generalizing skip with
  | nil =>
    rw [replaceFrom_nil] at member
    cases member
  | cons d rest ih =>
    cases skip with
    | succ skip => exact (ih member).imp_left (List.mem_cons_of_mem d)
    | zero =>
      rw [replaceFrom] at member
      split at member
      · rcases List.mem_append.1 member with inside | behind
        · exact .inr inside
        · exact (ih behind).imp_left (List.mem_cons_of_mem d)
      · rcases List.mem_cons.1 member with rfl | behind
        · exact .inl List.mem_cons_self
        · exact (ih behind).imp_left (List.mem_cons_of_mem d)

theorem infix_of_infix_append {c : Char} {b front rest : List Char} (absent : c ∉ front)
    (here : c :: b <:+: front ++ rest) : c :: b <:+: rest := by
  induction front with
  | nil => exact here
  | cons d front ih =>
    rw [List.mem_cons, not_or] at absent
    rcases List.infix_cons_iff.1 here with begins | behind
    · exact absurd (List.cons_prefix_cons.1 begins).1 absent.1
    · exact ih absent.2 behind

/-- Where one token is replaced, another one stays. -/
theorem token_infix_replaceFrom {brace : Char} {a b : List Char} (own_a : brace ∉ a) (own_b : brace ∉ b)
    (apart : ¬ a <+: b ∧ ¬ b <+: a) {s : List Char} (here : brace :: b <:+: s) :
    brace :: b <:+: replaceFrom (brace :: a) text 0 s := by
  have nonempty : brace :: a ≠ [] := List.cons_ne_nil brace a
  induction s using match_induction nonempty with
  | nil => exact absurd (List.infix_nil.1 here) (List.cons_ne_nil brace b)
  | hit rest ih =>
    have behind : brace :: b <:+: rest := by
      rcases List.infix_cons_iff.1 here with begins | later
      · exact absurd begins (token_begins_no_other apart.symm rest)
      · exact infix_of_infix_append own_a later
    rw [replaceFrom_match nonempty]
    exact (ih behind).trans (List.suffix_append text _).isInfix
  | miss c rest other ih =>
    rw [replaceFrom_other other]
    rcases List.infix_cons_iff.1 here with begins | later
    · obtain ⟨rfl, tail, rfl⟩ := List.cons_prefix_cons.1 begins
      rw [replaceFrom_append_of_notMem own_b]
      exact (List.prefix_append (brace :: b) _).isInfix
    · exact List.infix_cons_iff.2 (.inr (ih later))

/-- A token's text stands in the result if the token occurs. -/
theorem text_infix_replaceFrom (nonempty : pattern ≠ []) {s : List Char} (occurs : pattern <:+: s) :
    text <:+: replaceFrom pattern text 0 s := by
  induction s using match_induction nonempty with
  | nil => exact absurd (List.infix_nil.1 occurs) nonempty
  | hit rest ih =>
    rw [replaceFrom_match nonempty]
    exact (List.prefix_append text _).isInfix
  | miss c rest other ih =>
    rw [replaceFrom_other other]
    rcases List.infix_cons_iff.1 occurs with begins | later
    · exact absurd begins other
    · exact List.infix_cons_iff.2 (.inr (ih later))

/-- Every match adds the length of the text. -/
theorem length_replaceFrom (nonempty : pattern ≠ []) (s : List Char) :
    ∃ kept count : Nat, ∀ text, (replaceFrom pattern text 0 s).length = kept + count * text.length := by
  induction s using match_induction nonempty with
  | nil => exact ⟨0, 0, fun text => by simp [replaceFrom_nil]⟩
  | hit rest ih =>
    obtain ⟨kept, count, same⟩ := ih
    refine ⟨kept, count + 1, fun text => ?_⟩
    rw [replaceFrom_match nonempty, List.length_append, same]
    ring
  | miss c rest other ih =>
    obtain ⟨kept, count, same⟩ := ih
    refine ⟨kept + 1, count, fun text => ?_⟩
    rw [replaceFrom_other other, List.length_cons, same]
    ring

/-- The text of a token that occurs can be read off the result: its length from that of the result, and it stands at
the first match. -/
theorem replaceFrom_injective (nonempty : pattern ≠ []) {s : List Char} (occurs : pattern <:+: s) :
    Function.Injective fun text => replaceFrom pattern text 0 s := by
  intro t u same
  dsimp only at same
  induction s using match_induction nonempty with
  | nil => exact absurd (List.infix_nil.1 occurs) nonempty
  | hit rest ih =>
    rw [replaceFrom_match nonempty, replaceFrom_match nonempty] at same
    obtain ⟨kept, count, lengths⟩ := length_replaceFrom nonempty rest
    have total := congrArg List.length same
    rw [List.length_append, List.length_append, lengths, lengths] at total
    have equal : t.length = u.length := by
      rcases Nat.lt_trichotomy t.length u.length with less | equal | more
      · have := Nat.mul_le_mul_left count less.le
        omega
      · exact equal
      · have := Nat.mul_le_mul_left count more.le
        omega
    exact (List.append_inj same equal).1
  | miss c rest other ih =>
    rw [replaceFrom_other other, replaceFrom_other other] at same
    rcases List.infix_cons_iff.1 occurs with begins | later
    · exact absurd begins other
    · exact ih later (List.cons_inj_right c |>.1 same)

end StereoMix.Encode
