import Mathlib.Data.List.Basic

/-!
# Lines of a stream

A stream of pieces that each end with an element of their own, as lines end with a newline. `cut` gives the complete
pieces and what is left behind the last end, `next` the first complete piece. Pieces without the end in them are cut
back from the stream, nothing of a stream is lost, and a reader may be given it in any chunks.
-/

namespace Lines

variable {α : Type} (nl : α)

/-- Pieces as a stream. -/
def ended (ls : List (List α)) : List α := ls.flatMap (· ++ [nl])

@[simp] theorem ended_nil : ended nl ([] : List (List α)) = [] := rfl

@[simp] theorem ended_cons (l : List α) (ls : List (List α)) : ended nl (l :: ls) = l ++ nl :: ended nl ls := by
  rw [ended, List.flatMap_cons, List.append_assoc, List.singleton_append, ← ended]

@[simp] theorem ended_append (ls ls' : List (List α)) : ended nl (ls ++ ls') = ended nl ls ++ ended nl ls' :=
  List.flatMap_append

variable [DecidableEq α]

/-- The complete pieces, and what is left. -/
def cut : List α → List (List α) × List α
  | [] => ([], [])
  | x :: xs =>
    if x = nl then ([] :: (cut xs).1, (cut xs).2)
    else
      match cut xs with
      | ([], rest) => ([], x :: rest)
      | (l :: ls, rest) => ((x :: l) :: ls, rest)

/-- The first complete piece, and the stream behind its end. -/
def next : List α → Option (List α × List α)
  | [] => none
  | x :: xs => if x = nl then some ([], xs) else (next xs).map fun p => (x :: p.1, p.2)

variable {nl} {xs ys l rest : List α} {ls : List (List α)}

theorem cut_nl (xs : List α) : cut nl (nl :: xs) = ([] :: (cut nl xs).1, (cut nl xs).2) := if_pos rfl

/-- A stream without an end in it is no piece. -/
theorem cut_of_not_mem (inside : nl ∉ xs) : cut nl xs = ([], xs) := by
  induction xs with
  | nil => rfl
  | cons x xs ih =>
    rw [List.mem_cons, not_or] at inside
    rw [cut, if_neg (Ne.symm inside.1), ih inside.2]

/-- A piece in front of a stream. -/
theorem cut_piece (clean : nl ∉ l) (xs : List α) : cut nl (l ++ nl :: xs) = (l :: (cut nl xs).1, (cut nl xs).2) := by
  induction l with
  | nil => exact cut_nl xs
  | cons x l ih =>
    rw [List.mem_cons, not_or] at clean
    rw [List.cons_append, cut, if_neg (Ne.symm clean.1), ih clean.2]

/-- **Pieces are cut back from their stream**, and what is behind them is cut on its own. -/
theorem cut_ended (clean : ∀ l ∈ ls, nl ∉ l) (xs : List α) :
    cut nl (ended nl ls ++ xs) = (ls ++ (cut nl xs).1, (cut nl xs).2) := by
  induction ls with
  | nil => rfl
  | cons l ls ih =>
    obtain ⟨here, later⟩ := List.forall_mem_cons.1 clean
    rw [ended_cons, List.append_assoc, List.cons_append, cut_piece here, ih later]
    rfl

theorem cut_of_ended (clean : ∀ l ∈ ls, nl ∉ l) : cut nl (ended nl ls) = (ls, []) := by
  have back := cut_ended clean []
  rw [List.append_nil] at back
  rw [back, cut, List.append_nil]

/-- **Nothing is lost**: the pieces and what is left are the stream. -/
theorem ended_cut (nl : α) (xs : List α) : ended nl (cut nl xs).1 ++ (cut nl xs).2 = xs := by
  induction xs with
  | nil => rfl
  | cons x xs ih =>
    unfold cut
    split
    · rename_i same
      rw [ended_cons, same]
      exact congrArg (nl :: ·) ih
    · split
      · rename_i rest pieces
        rw [pieces] at ih
        exact congrArg (x :: ·) ih
      · rename_i l ls rest pieces
        rw [pieces] at ih
        rw [ended_cons] at ih ⊢
        exact congrArg (x :: ·) ih

theorem cut_clean (nl : α) (xs : List α) : (∀ l ∈ (cut nl xs).1, nl ∉ l) ∧ nl ∉ (cut nl xs).2 := by
  induction xs with
  | nil => exact ⟨nofun, nofun⟩
  | cons x xs ih =>
    unfold cut
    split
    · exact ⟨List.forall_mem_cons.2 ⟨nofun, ih.1⟩, ih.2⟩
    · rename_i other
      split
      · rename_i rest pieces
        rw [pieces] at ih
        exact ⟨nofun, fun inside => (List.mem_cons.1 inside).elim (fun same => other same.symm) ih.2⟩
      · rename_i l ls rest pieces
        rw [pieces] at ih
        obtain ⟨here, later⟩ := List.forall_mem_cons.1 ih.1
        refine ⟨List.forall_mem_cons.2 ⟨?_, later⟩, ih.2⟩
        exact fun inside => (List.mem_cons.1 inside).elim (fun same => other same.symm) here

/-- **Chunks do not matter**: what was left is cut on with what comes. -/
theorem cut_append (xs ys : List α) : cut nl (xs ++ ys) =
    ((cut nl xs).1 ++ (cut nl ((cut nl xs).2 ++ ys)).1, (cut nl ((cut nl xs).2 ++ ys)).2) := by
  conv_lhs => rw [← ended_cut nl xs, List.append_assoc]
  exact cut_ended (cut_clean nl xs).1 _

/-- Complete pieces stay what they are. -/
theorem cut_first (xs ys : List α) : (cut nl xs).1 <+: (cut nl (xs ++ ys)).1 := by
  rw [cut_append]
  exact List.prefix_append _ _

theorem cut_of_prefix (clean : ∀ l ∈ ls, nl ∉ l) (front : xs <+: ended nl ls) : (cut nl xs).1 <+: ls := by
  obtain ⟨ys, same⟩ := front
  have first : (cut nl xs).1 <+: _ := cut_first xs ys
  rwa [same, cut_of_ended clean] at first

theorem next_eq_some : next nl xs = some (l, rest) ↔ nl ∉ l ∧ xs = l ++ nl :: rest := by
  induction xs generalizing l with
  | nil => simp [next]
  | cons x xs ih =>
    unfold next
    split
    · rename_i same
      subst same
      constructor
      · intro found
        cases found
        exact ⟨nofun, rfl⟩
      · rintro ⟨clean, shape⟩
        cases l with
        | nil =>
          cases shape
          rfl
        | cons y l =>
          cases shape
          exact absurd List.mem_cons_self clean
    · rename_i other
      rw [Option.map_eq_some_iff]
      constructor
      · rintro ⟨⟨l', rest'⟩, found, same⟩
        cases same
        obtain ⟨clean, shape⟩ := ih.1 found
        exact ⟨List.not_mem_cons_of_ne_of_not_mem (Ne.symm other) clean, congrArg (x :: ·) shape⟩
      · rintro ⟨clean, shape⟩
        cases l with
        | nil =>
          cases shape
          exact absurd rfl other
        | cons y l =>
          cases shape
          exact ⟨(l, rest), ih.2 ⟨List.not_mem_of_not_mem_cons clean, rfl⟩, rfl⟩

theorem next_eq_none : next nl xs = none ↔ nl ∉ xs := by
  induction xs with
  | nil => simp [next]
  | cons x xs ih =>
    unfold next
    split
    · rename_i same
      simp [same]
    · rename_i other
      simp [ih, Ne.symm other]

/-! ## Readers -/

variable {closed : Bool} {p : List α} {read : List (List α)}

variable (nl) in
/-- What a reader that waits for a whole piece gets from a stream: the first complete piece with its end, or, where the
stream is closed, what there is. -/
def readPiece (closed : Bool) (xs : List α) : Option (List α × List α) :=
  match next nl xs with
  | some (l, rest) => some (l ++ [nl], rest)
  | none => if closed ∧ xs ≠ [] then some (xs, []) else none

variable (nl) in
/-- All that it gets. -/
def pieces (closed : Bool) (xs : List α) : List (List α) :=
  (cut nl xs).1.map (· ++ [nl]) ++ if closed ∧ (cut nl xs).2 ≠ [] then [(cut nl xs).2] else []

theorem pieces_of_read (got : readPiece nl closed xs = some (p, rest)) :
    pieces nl closed xs = p :: pieces nl closed rest := by
  unfold readPiece at got
  split at got
  · rename_i l rest' found
    cases got
    obtain ⟨clean, shape⟩ := next_eq_some.1 found
    unfold pieces
    rw [shape, cut_piece clean]
    rfl
  · rename_i none_there
    obtain ⟨some_left, got⟩ := Option.ite_none_right_eq_some.1 got
    cases got
    unfold pieces
    rw [cut_of_not_mem (next_eq_none.1 none_there)]
    dsimp only
    rw [if_pos some_left]
    simp [cut]

theorem pieces_of_read_none (got : readPiece nl closed xs = none) : pieces nl closed xs = [] := by
  unfold readPiece at got
  split at got
  · cases got
  · rename_i none_there
    unfold pieces
    rw [cut_of_not_mem (next_eq_none.1 none_there)]
    exact if_neg fun some_left => nomatch (if_pos some_left).symm.trans got

/-- The reader of an open stream gets no piece without its end, so what comes later is behind what it left. -/
theorem pieces_append_of_read (got : readPiece nl false xs = some (p, rest)) (later : Bool) (ys : List α) :
    pieces nl later (xs ++ ys) = p :: pieces nl later (rest ++ ys) := by
  unfold readPiece at got
  split at got
  · rename_i l rest' found
    cases got
    obtain ⟨clean, shape⟩ := next_eq_some.1 found
    unfold pieces
    rw [shape, List.append_assoc, List.cons_append, cut_piece clean]
    rfl
  · cases (Option.ite_none_right_eq_some.1 got).1.1

/-- Pieces are read back from their stream. -/
theorem pieces_ended (clean : ∀ l ∈ ls, nl ∉ l) (closed : Bool) :
    pieces nl closed (ended nl ls) = ls.map (· ++ [nl]) := by
  unfold pieces
  rw [cut_of_ended clean]
  simp

variable (nl) in
/-- The pieces `read` were got from the stream `xs`, and `rest` is to be read: whatever still comes, until the stream is
closed, what a reader gets of it all is `read` and what it gets of the rest. -/
def Reads (closed : Bool) (xs : List α) (read : List (List α)) (rest : List α) : Prop :=
  ∀ later ys, (closed = true → later = true ∧ ys = []) →
    pieces nl later (xs ++ ys) = read ++ pieces nl later (rest ++ ys)

namespace Reads

theorem start (closed : Bool) (xs : List α) : Reads nl closed xs [] xs := fun _ _ _ => rfl

theorem all (reads : Reads nl closed xs read rest) : pieces nl closed xs = read ++ pieces nl closed rest := by
  have here := reads closed [] fun ends => ⟨ends, rfl⟩
  rwa [List.append_nil, List.append_nil] at here

/-- More of the stream comes. -/
theorem arrive (reads : Reads nl false xs read rest) (new : List α) :
    Reads nl false (xs ++ new) read (rest ++ new) := by
  intro later ys _
  rw [List.append_assoc, List.append_assoc]
  exact reads later (new ++ ys) nofun

/-- The stream is closed. -/
theorem close (reads : Reads nl closed xs read rest) : Reads nl true xs read rest := by
  intro later ys ends
  exact reads later ys fun _ => ends rfl

/-- The next piece is read. -/
theorem next (reads : Reads nl closed xs read rest) {rest' : List α}
    (got : readPiece nl closed rest = some (p, rest')) : Reads nl closed xs (read ++ [p]) rest' := by
  intro later ys ends
  rw [reads later ys ends, List.append_assoc, List.singleton_append]
  congr 1
  cases closed with
  | false => exact pieces_append_of_read got later ys
  | true =>
    obtain ⟨rfl, rfl⟩ := ends rfl
    rw [List.append_nil, List.append_nil]
    exact pieces_of_read got

end Reads

/-! ## Lines of text -/

def newline : UInt8 := 10

/-- A text as bytes. -/
def utf8 (text : String) : List UInt8 := text.toByteArray.data.toList

/-- The text of bytes, if they are UTF-8. -/
def text? (bytes : List UInt8) : Option String := String.fromUTF8? bytes.toByteArray

theorem toByteArray_utf8 (text : String) : (utf8 text).toByteArray = text.toByteArray := by
  rw [ByteArray.ext_iff, List.data_toByteArray, utf8, Array.toArray_toList]

theorem utf8_append (s t : String) : utf8 (s ++ t) = utf8 s ++ utf8 t := by
  rw [utf8, String.toByteArray_append, ByteArray.data_append, Array.toList_append]
  rfl

/-- A text is read back from its bytes. -/
theorem text?_utf8 (text : String) : text? (utf8 text) = some text := by
  rw [text?, toByteArray_utf8, String.fromUTF8?, dif_pos text.isValidUTF8]
  rfl

theorem utf8_eq (text : String) : utf8 text = text.toList.flatMap String.utf8EncodeChar := by
  rw [← List.toByteArray_inj, toByteArray_utf8]
  conv_lhs => rw [← String.ofList_toList (s := text), String.toByteArray_ofList]
  rfl

/-- The bytes of the other characters of a text are 128 and above. -/
theorem mem_utf8EncodeChar {b : UInt8} {c : Char} (ascii : b.toNat < 128) (inside : b ∈ String.utf8EncodeChar c) :
    c.toNat = b.toNat := by
  have same {n : Nat} (at_b : b = UInt8.ofNat n) : b.toNat = n % 256 := by
    rw [at_b]
    rfl
  unfold String.utf8EncodeChar at inside
  dsimp only at inside
  split at inside
  · rename_i small
    have at_b := same (List.mem_singleton.1 inside)
    change c.val.toNat = _
    omega
  split at inside
  · simp only [List.mem_cons, List.not_mem_nil, or_false] at inside
    rcases inside with at_b | at_b
    all_goals
      have at_b := same at_b
      omega
  split at inside
  · simp only [List.mem_cons, List.not_mem_nil, or_false] at inside
    rcases inside with at_b | at_b | at_b
    all_goals
      have at_b := same at_b
      omega
  · simp only [List.mem_cons, List.not_mem_nil, or_false] at inside
    rcases inside with at_b | at_b | at_b | at_b
    all_goals
      have at_b := same at_b
      omega

/-- A text without a newline has none in its bytes. -/
theorem newline_not_mem_utf8 {text : String} (clean : '\n' ∉ text.toList) : newline ∉ utf8 text := by
  rw [utf8_eq]
  intro inside
  obtain ⟨c, member, inside⟩ := List.mem_flatMap.1 inside
  have same : c = '\n' := Char.toNat_inj.1 (mem_utf8EncodeChar (by decide) inside)
  exact clean (same ▸ member)

theorem text?_line (text : String) : text? (utf8 text ++ [newline]) = some (text ++ "\n") :=
  (congrArg text? (utf8_append text "\n")).symm.trans (text?_utf8 _)

end Lines
