import StereoMix.Lib.FlacFormat

/-!
# Streams cut short

A reader that looks at nothing past the bits it takes (`BitReader.Extends`) rejects every strict prefix of what it
reads. So reading pieces for as long as one is whole (`BitReader.complete`) returns, of a stream cut anywhere, exactly the
pieces that lie before the cut. The readers of the FLAC format are such readers.
-/

namespace BitReader

open BitString

variable {α β : Type}

/-- What comes after the input changes nothing of what `r` reads in it. -/
def Extends (r : BitReader α) : Prop :=
  ∀ s a rest more, r.run s = some (a, rest) → r.run (s ++ more) = some (a, rest ++ more)

namespace Extends

theorem pure (a : α) : Extends (Pure.pure a) := by
  intro s b rest more read
  cases read
  rfl

theorem failure : Extends (failure : BitReader α) := by
  intro s b rest more read
  cases read

theorem bind {r : BitReader α} {f : α → BitReader β} (first : Extends r) (next : ∀ a, Extends (f a)) :
    Extends (r >>= f) := by
  intro s b rest more read
  rw [StateT.run_bind] at read ⊢
  obtain ⟨⟨a, middle⟩, front, back⟩ := Option.bind_eq_some_iff.1 read
  rw [first s a middle more front]
  exact next a middle b rest more back

theorem ite {p : Prop} [Decidable p] {r r' : BitReader α} (yes : Extends r) (no : Extends r') :
    Extends (if p then r else r') := by
  split
  · exact yes
  · exact no

theorem require {p : Prop} [Decidable p] : Extends (require p) := ite (.pure ()) .failure

theorem take (n : Nat) : Extends (take n) := by
  intro s b rest more read
  simp only [StateT.run, BitReader.take] at read ⊢
  split at read
  · rename_i inside
    cases read
    rw [if_pos (by rw [List.length_append]; omega), List.take_append_of_le_length inside,
      List.drop_append_of_le_length inside]
  · cases read

theorem nat (n : Nat) : Extends (nat n) := (take n).bind fun _ => .pure _

theorem int (n : Nat) : Extends (int n) := (nat n).bind fun _ => .pure _

theorem unary : Extends unary := by
  intro s
  induction s with
  | nil => exact nofun
  | cons b s ih =>
    intro q rest more read
    simp only [StateT.run, BitReader.unary] at ih read ⊢
    cases b with
    | true =>
      cases read
      rfl
    | false =>
      rw [unaryGo] at read
      obtain ⟨⟨q', rest'⟩, tail, same⟩ := Option.map_eq_some_iff.1 read
      cases same
      rw [List.cons_append, unaryGo, ih q' rest' more tail]
      rfl

theorem times {r : BitReader α} (each : Extends r) (n : Nat) : Extends (times r n) := by
  induction n with
  | zero => exact .pure []
  | succ n ih => exact each.bind fun _ => ih.bind fun _ => .pure _

theorem consuming {r : BitReader α} (inner : Extends r) : Extends (consuming r) := by
  rintro s ⟨a, bits⟩ rest more read
  simp only [StateT.run, BitReader.consuming] at read ⊢
  obtain ⟨⟨a', rest'⟩, run, same⟩ := Option.map_eq_some_iff.1 read
  cases same
  have longer : r (s ++ more) = some (a', rest' ++ more) := inner s a' rest' more run
  rw [longer, Option.map_some, List.length_append, List.length_append, Nat.add_sub_add_right,
    List.take_append_of_le_length (by omega)]

/-- A strict prefix of what such a reader reads is rejected. -/
theorem run_eq_none {r : BitReader α} {b s : List Bool} {a : α} (ext : Extends r) (reads : Reads r b a)
    (cut : s <+: b) (strict : s.length < b.length) : r.run s = none := by
  obtain ⟨more, rfl⟩ := cut
  rcases run : r.run s with _ | ⟨a', rest⟩
  · rfl
  · have longer := ext s a' rest more run
    have whole := reads []
    rw [List.append_nil, longer] at whole
    obtain ⟨-, nothing⟩ := List.append_eq_nil_iff.1 (Prod.mk.inj (Option.some.inj whole)).2
    rw [nothing, List.append_nil] at strict
    omega

end Extends

/-- The readings of `r` up to the first that is not whole, at most `fuel` of them. -/
def complete (r : BitReader α) : Nat → List Bool → List α
  | 0, _ => []
  | fuel + 1, s =>
    match r.run s with
    | some (a, rest) => a :: complete r fuel rest
    | none => []

/-- **A stream cut anywhere** gives exactly the pieces that lie before the cut. -/
theorem complete_cut {γ : Type} {r : BitReader α} {write : γ → List Bool} {f : γ → α} (ext : Extends r)
    (nothing : r.run [] = none) (xs : List γ) (each : ∀ x ∈ xs, Reads r (write x) (f x)) {s : List Bool} {fuel : Nat}
    (cut : s <+: xs.flatMap write) (enough : s.length ≤ fuel) :
    ∃ n ≤ xs.length, complete r fuel s = (xs.take n).map f ∧ (xs.take n).flatMap write <+: s ∧
      (n < xs.length → s.length < ((xs.take (n + 1)).flatMap write).length) := by
  induction xs generalizing s fuel with
  | nil =>
    cases List.prefix_nil.1 cut
    refine ⟨0, le_rfl, ?_, List.prefix_rfl, nofun⟩
    cases fuel with
    | zero => rfl
    | succ fuel => rw [complete, nothing]; rfl
  | cons x xs ih =>
    have reads := each x (by simp)
    rw [List.flatMap_cons] at cut
    rcases Nat.lt_or_ge s.length (write x).length with short | long
    · -- the cut lies inside the first piece
      refine ⟨0, by simp, ?_, List.nil_prefix, fun _ => by simpa using short⟩
      have inside : s <+: write x := List.prefix_of_prefix_length_le cut (List.prefix_append _ _) short.le
      cases fuel with
      | zero => rfl
      | succ fuel => rw [complete, ext.run_eq_none reads inside short]; rfl
    · obtain ⟨rest, rfl⟩ : write x <+: s := List.prefix_of_prefix_length_le (List.prefix_append _ _) cut long
      have some_bits : write x ≠ [] := by
        intro empty
        have read := reads []
        rw [empty, List.nil_append, nothing] at read
        cases read
      rw [List.length_append] at enough
      have positive := List.length_pos_iff.2 some_bits
      obtain ⟨fuel, rfl⟩ : ∃ k, fuel = k + 1 := ⟨fuel - 1, by omega⟩
      obtain ⟨n, range, pieces, before, last⟩ := ih (fun y member => each y (by simp [member]))
        ((List.prefix_append_right_inj _).1 cut) (show rest.length ≤ fuel by omega)
      refine ⟨n + 1, by simpa using range, ?_, ?_, fun below => ?_⟩
      · rw [complete, reads rest, List.take_succ_cons, List.map_cons, ← pieces]
      · rw [List.take_succ_cons, List.flatMap_cons]
        exact (List.prefix_append_right_inj _).2 before
      · have shorter := last (by simpa using below)
        rw [List.take_succ_cons, List.flatMap_cons, List.length_append, List.length_append]
        omega

end BitReader

/-! ## The readers of the FLAC format -/

namespace FlacFormat

open BitString BitReader

theorem extends_streamInfo : Extends streamInfo :=
  (Extends.nat 16).bind fun _ => (Extends.nat 16).bind fun _ => (Extends.nat 24).bind fun _ => (Extends.nat 24).bind fun _ =>
    (Extends.nat 20).bind fun _ => (Extends.nat 3).bind fun _ => (Extends.nat 5).bind fun _ => (Extends.nat 36).bind fun _ =>
      (Extends.nat 128).bind fun _ => .pure _

theorem extends_preamble : Extends preamble :=
  (Extends.nat 32).bind fun _ => Extends.require.bind fun _ => (Extends.nat 1).bind fun _ => Extends.require.bind fun _ =>
    (Extends.nat 7).bind fun _ => Extends.require.bind fun _ => (Extends.nat 24).bind fun _ => Extends.require.bind fun _ =>
      extends_streamInfo

theorem extends_continuation (n v : Nat) : Extends (continuation n v) := by
  induction n generalizing v with
  | zero => exact .pure v
  | succ n ih => exact (Extends.nat 2).bind fun _ => Extends.require.bind fun _ => (Extends.nat 6).bind fun _ => ih _

theorem extends_codedNumber : Extends codedNumber :=
  (Extends.nat 8).bind fun lead => .ite (.pure lead) <| .ite .failure <| .ite (extends_continuation _ _) <|
    .ite (extends_continuation _ _) <| .ite (extends_continuation _ _) <| .ite (extends_continuation _ _) <|
      .ite (extends_continuation _ _) <| .ite (extends_continuation _ _) .failure

theorem extends_blockSizeField (code : Nat) : Extends (blockSizeField code) :=
  .ite .failure <| .ite (.pure _) <| .ite (.pure _) <| .ite ((Extends.nat 8).bind fun _ => .pure _) <|
    .ite ((Extends.nat 16).bind fun _ => .pure _) (.pure _)

theorem extends_rateField (code : Nat) : Extends (rateField code) :=
  .ite (.pure _) <| .ite (.pure _) <| .ite ((Extends.nat 8).bind fun _ => .pure _) <|
    .ite ((Extends.nat 16).bind fun _ => .pure _) <| .ite ((Extends.nat 16).bind fun _ => .pure _) .failure

theorem extends_header (info : StreamInfo) : Extends (header info) :=
  (Extends.nat 14).bind fun _ => Extends.require.bind fun _ => (Extends.nat 1).bind fun _ => Extends.require.bind fun _ =>
    (Extends.nat 1).bind fun _ => Extends.require.bind fun _ => (Extends.nat 4).bind fun sizeCode =>
      (Extends.nat 4).bind fun rateCode => (Extends.nat 4).bind fun _ => Extends.require.bind fun _ =>
        (Extends.nat 3).bind fun _ => (Extends.nat 1).bind fun _ => Extends.require.bind fun _ =>
          extends_codedNumber.bind fun _ => (extends_blockSizeField sizeCode).bind fun _ =>
            (extends_rateField rateCode).bind fun _ => Extends.require.bind fun _ => .pure _

theorem extends_rice (k : Nat) : Extends (rice k) :=
  Extends.unary.bind fun _ => (Extends.nat k).bind fun _ => .pure _

theorem extends_partition (paramBits n : Nat) : Extends (partition paramBits n) :=
  (Extends.nat paramBits).bind fun k =>
    .ite ((Extends.nat 5).bind fun width => (Extends.int width).times n) ((extends_rice k).times n)

theorem extends_residual (blockSize order : Nat) : Extends (residual blockSize order) :=
  (Extends.nat 2).bind fun _ => Extends.require.bind fun _ => (Extends.nat 4).bind fun _ => Extends.require.bind fun _ =>
    (extends_partition _ _).bind fun _ => ((extends_partition _ _).times _).bind fun _ => .pure _

theorem extends_subframe (bitsPerSample blockSize : Nat) : Extends (subframe bitsPerSample blockSize) :=
  (Extends.nat 1).bind fun _ => Extends.require.bind fun _ => (Extends.nat 6).bind fun _ => (Extends.nat 1).bind fun _ =>
    Extends.require.bind fun _ => .ite ((Extends.int bitsPerSample).bind fun _ => .pure _) <|
      .ite ((Extends.int bitsPerSample).times blockSize) <|
        .ite ((Extends.int bitsPerSample).bind fun _ => (extends_residual blockSize 1).bind fun _ => .pure _) .failure

theorem extends_frameBody (info : StreamInfo) : Extends (frameBody info) :=
  (extends_header info).consuming.bind fun _ => (Extends.nat 8).bind fun _ => Extends.require.bind fun _ =>
    Extends.require.bind fun _ => ((extends_subframe _ _).times _).bind fun _ => .pure _

theorem extends_aligned {α : Type} {r : BitReader α} (inner : Extends r) : Extends (aligned r) :=
  inner.consuming.bind fun _ => (Extends.nat _).bind fun _ => Extends.require.bind fun _ => .pure _

theorem extends_frame (info : StreamInfo) : Extends (frame info) :=
  (extends_aligned (extends_frameBody info)).consuming.bind fun _ => (Extends.nat 16).bind fun _ =>
    Extends.require.bind fun _ => .pure _

/-- What a player gets from a file that ends anywhere: STREAMINFO and the frames that are whole. -/
def salvage (file : List (BitVec 8)) : Option Stream :=
  (preamble.run (ofBytes file)).map fun p => ⟨p.1, complete (frame p.1) p.2.length p.2⟩

end FlacFormat
