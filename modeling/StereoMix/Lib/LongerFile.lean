import StereoMix.Lib.FileSystem

/-!
# Files with bytes behind

A writer that starts at the front of a file which already has bytes writes over them as far as it gets. A run over the
longer file is the run over the empty one, with the bytes behind added to what it leaves (`Lifts`), as long as no seek
goes past what was written.
-/

namespace FileSystem

open ByteFile

variable {ε ε' σ α β : Type} {path : String}

/-! ## The longer file -/

namespace World

/-- The world whose file at `path` has the bytes of `junk` behind it. -/
def overlay (path : String) (junk : Bytes) (world : World) : World :=
  { world with files := fun p => if p = path then (world.files p).map (ByteFile.overlay · junk) else world.files p }

theorem files_overlay {world : World} {c : Bytes} (stored : world.files path = some c) (junk : Bytes) :
    (world.overlay path junk).files path = some (ByteFile.overlay c junk) := by
  unfold overlay
  dsimp only
  rw [if_pos rfl, stored, Option.map_some]

theorem contents_overlay {world : World} {c : Bytes} (junk : Bytes) (stored : world.files path = some c) :
    world.contents path = c ∧ (world.overlay path junk).contents path = ByteFile.overlay c junk := by
  unfold contents
  rw [files_overlay stored, stored]
  exact ⟨rfl, rfl⟩

theorem answer_overlay (world : World) (path : String) (junk : Bytes) :
    (world.overlay path junk).answer = (world.answer.1, world.answer.2.overlay path junk) := by
  obtain ⟨files, answers⟩ := world
  cases answers <;> rfl

theorem answer_store (world : World) (path : String) (b : Bytes) :
    (world.store path b).answer = (world.answer.1, world.answer.2.store path b) := by
  obtain ⟨files, answers⟩ := world
  cases answers <;> rfl

theorem store_overlay (world : World) (path : String) (b junk : Bytes) :
    (world.overlay path junk).store path (ByteFile.overlay b junk) = (world.store path b).overlay path junk := by
  unfold store overlay
  congr 1
  funext p
  by_cases here : p = path
  · simp [here]
  · simp [here]

/-- A world is one with an empty file at `path`, and the bytes of the file behind it. -/
theorem overlay_of_stored {world : World} {junk : Bytes} (stored : world.files path = some junk) :
    world = (world.store path []).overlay path junk := by
  have same : world.store path junk = world := by
    unfold World.store
    congr 1
    funext p
    by_cases here : p = path
    · rw [if_pos here, here, stored]
    · rw [if_neg here]
  rw [← store_overlay]
  conv_lhs => rw [← same]
  unfold store overlay
  congr 1
  funext p
  by_cases here : p = path
  · simp [here, ByteFile.overlay]
  · simp [here]

end World

/-! ## Lifted calls -/

/-- A call that succeeds in a changed state succeeds in the state itself, with the same answer, and what it leaves is
changed the same way; it goes from `I` to `J`. -/
def Lifts (T : σ → σ) (I J : σ → Prop) (call : EStateM ε σ α) : Prop :=
  ∀ ⦃s a t'⦄, I s → call (T s) = .ok a t' → ∃ t, call s = .ok a t ∧ t' = T t ∧ J t

namespace Lifts

variable {T : σ → σ} {I J K : σ → Prop}

theorem bind {x : EStateM ε σ α} {f : α → EStateM ε σ β} (first : Lifts T I J x) (next : ∀ a, Lifts T J K (f a)) :
    Lifts T I K (x >>= f) := by
  intro s b t' start done
  obtain ⟨a, u', ran, rested⟩ := bind_eq_ok.1 done
  obtain ⟨u, run, rfl, between⟩ := first start ran
  obtain ⟨t, rest, same, last⟩ := next a between rested
  exact ⟨t, bind_eq_ok.2 ⟨a, u, run, rest⟩, same, last⟩

theorem adaptExcept {x : EStateM ε σ α} {f : ε → ε'} (lifts : Lifts T I J x) : Lifts T I J (EStateM.adaptExcept f x) := by
  intro s a t' start done
  obtain ⟨t, run, same, last⟩ := lifts start (adaptExcept_eq_ok.1 done)
  exact ⟨t, adaptExcept_eq_ok.2 run, same, last⟩

theorem ite {p : Prop} [Decidable p] {x y : EStateM ε σ α} (yes : Lifts T I J x) (no : Lifts T I J y) :
    Lifts T I J (if p then x else y) := by
  split
  · exact yes
  · exact no

theorem pure (a : α) : Lifts T I I (pure a : EStateM ε σ α) := by
  intro s b t' start done
  cases done
  exact ⟨s, rfl, rfl, start⟩

theorem weaken {I' J' : σ → Prop} {call : EStateM ε σ α} (lifts : Lifts T I J call) (pre : ∀ s, I' s → I s)
    (post : ∀ s, J s → J' s) : Lifts T I' J' call := by
  intro s a t' start done
  obtain ⟨t, run, same, last⟩ := lifts (pre s start) done
  exact ⟨t, run, same, post t last⟩

theorem forM {f : β → EStateM ε σ Unit} (each : ∀ x, Lifts T I I (f x)) (xs : List β) : Lifts T I I (xs.forM f) := by
  induction xs with
  | nil => exact Lifts.pure ()
  | cons x xs ih => exact Lifts.bind (each x) fun _ => ih

end Lifts

/-! ## Writers -/

/-- A writer over the world with more bytes in the file at `path`. -/
def behind (path : String) (junk : Bytes) (s : σ × World) : σ × World := (s.1, s.2.overlay path junk)

/-- The writer of `path` is inside its file, which with the buffer has `n` bytes. -/
structure Inside (path : String) (n : Nat) (s : BufWriter × World) : Prop where
  file : s.1.file.path = path
  stored : ∃ c, s.2.files path = some c ∧ s.1.file.pos ≤ c.length ∧ n ≤ max c.length (s.1.file.pos + s.1.buf.length)

/-- It is inside its file, of `n` bytes, with an empty buffer. -/
structure InsideFlushed (path : String) (n : Nat) (s : BufWriter × World) : Prop where
  file : s.1.file.path = path
  empty : s.1.buf = []
  stored : ∃ c, s.2.files path = some c ∧ s.1.file.pos ≤ c.length ∧ n ≤ c.length

theorem InsideFlushed.inside {n : Nat} {s : BufWriter × World} (h : InsideFlushed path n s) : Inside path n s := by
  obtain ⟨c, stored, inside, long⟩ := h.stored
  exact ⟨h.file, c, stored, inside, by omega⟩

theorem Buffered.inside {w : BufWriter} {world : World} {c : Bytes} (h : Buffered w world path c) :
    Inside path c.length (w, world) := by
  obtain ⟨front, stored, pos, rfl⟩ := h.stored
  refine ⟨h.file, front, stored, pos.le, ?_⟩
  rw [List.length_append, ← pos]
  exact le_max_right _ _

/-- A writer at the front of an empty file. -/
theorem buffered_front (world : World) (path : String) (b : Bytes) : Buffered ⟨⟨path, 0⟩, b⟩ (world.store path []) path b :=
  ⟨rfl, [], World.files_store world path [], rfl, rfl⟩

theorem file_writeAll_overlay {b c junk : Bytes} {f f' : File} {world world' : World} (file : f.path = path)
    (stored : world.files path = some c) (inside : f.pos ≤ c.length)
    (done : File.writeAll b (f, world.overlay path junk) = .ok () (f', world')) :
    ∃ bare, File.writeAll b (f, world) = .ok () (f', bare) ∧ world' = bare.overlay path junk ∧ f'.path = path ∧
      f'.pos = f.pos + b.length ∧ bare.files path = some (writeAt c f.pos b) := by
  subst file
  unfold File.writeAll at *
  dsimp only at *
  split at done
  · rename_i empty
    cases done
    rw [if_pos empty, List.isEmpty_iff.1 empty]
    exact ⟨world, rfl, rfl, rfl, rfl, stored⟩
  · rename_i some_bytes
    rw [if_neg some_bytes]
    rw [World.answer_overlay] at done
    have same := World.files_answer world
    generalize world.answer = answered at done same
    obtain ⟨answer, after⟩ := answered
    dsimp only at done same
    cases answer with
    | failure => cases done
    | success =>
      cases done
      obtain ⟨held, longer⟩ := World.contents_overlay junk (show after.files f.path = some c by rw [same, stored])
      refine ⟨_, rfl, ?_, rfl, rfl, ?_⟩
      · rw [held, longer, writeAt_overlay junk inside, World.store_overlay]
      · rw [World.files_store, held]

namespace Lifts

variable {n : Nat} (junk : Bytes)

theorem flushBuf : Lifts (behind path junk) (Inside path n) (InsideFlushed path n) BufWriter.flushBuf := by
  rintro ⟨w, world⟩ ⟨⟩ t' ⟨file, c, stored, inside, long⟩ done
  unfold BufWriter.flushBuf behind at *
  dsimp only at *
  split at done
  · rename_i f' world' written
    cases done
    obtain ⟨bare, run, rfl, file', pos, stored'⟩ := file_writeAll_overlay file stored inside written
    rw [run]
    have size := length_writeAt inside w.buf
    refine ⟨_, rfl, rfl, file', rfl, _, stored', ?_, ?_⟩
    · dsimp only
      omega
    · omega
  · cases done

theorem store (b : Bytes) : Lifts (behind path junk) (Inside path n) (Inside path n) (BufWriter.store b) := by
  rintro ⟨w, world⟩ ⟨⟩ t' ⟨file, c, stored, inside, long⟩ done
  cases done
  refine ⟨_, rfl, rfl, file, c, stored, inside, ?_⟩
  dsimp only at *
  rw [List.length_append]
  omega

/-- A write past the buffer. -/
theorem fileWriteAll (b : Bytes) :
    Lifts (behind path junk) (InsideFlushed path n) (InsideFlushed path n) (BufWriter.onFile (File.writeAll b)) := by
  rintro ⟨w, world⟩ ⟨⟩ t' ⟨file, empty, c, stored, inside, long⟩ done
  unfold BufWriter.onFile behind at *
  dsimp only at *
  split at done
  · rename_i f' world' written
    cases done
    obtain ⟨bare, run, rfl, file', pos, stored'⟩ := file_writeAll_overlay file stored inside written
    rw [run]
    have size := length_writeAt inside b
    refine ⟨_, rfl, rfl, file', empty, _, stored', ?_, ?_⟩
    · dsimp only
      omega
    · omega
  · cases done

/-- A buffered write. -/
theorem writeAll (b : Bytes) : Lifts (behind path junk) (Inside path n) (Inside path n) (BufWriter.writeAll b) := by
  have last : Lifts (behind path junk) (InsideFlushed path n) (Inside path n)
      (if b.length ≥ BufWriter.capacity then BufWriter.onFile (File.writeAll b) else BufWriter.store b) :=
    Lifts.ite ((fileWriteAll junk b).weaken (fun _ => id) fun _ => InsideFlushed.inside)
      ((store junk b).weaken (fun _ => InsideFlushed.inside) fun _ => id)
  rintro ⟨w, world⟩ a t' start done
  -- which branch is taken depends on the buffer, the same over both worlds
  have branch : ∀ world, BufWriter.writeAll b (w, world) =
      (if b.length < BufWriter.capacity - w.buf.length then BufWriter.store b
      else if b.length > BufWriter.capacity - w.buf.length then
        BufWriter.flushBuf >>= fun _ =>
          if b.length ≥ BufWriter.capacity then BufWriter.onFile (File.writeAll b) else BufWriter.store b
      else if b.length ≥ BufWriter.capacity then BufWriter.onFile (File.writeAll b) else BufWriter.store b)
        (w, world) := fun _ => rfl
  rw [branch]
  rw [behind, branch] at done
  by_cases room : b.length < BufWriter.capacity - w.buf.length
  · rw [if_pos room] at done ⊢
    exact store junk b start done
  · rw [if_neg room] at done ⊢
    by_cases full : b.length > BufWriter.capacity - w.buf.length
    · rw [if_pos full] at done ⊢
      exact Lifts.bind (flushBuf junk) (fun _ => last) start done
    · rw [if_neg full] at done ⊢
      by_cases large : b.length ≥ BufWriter.capacity
      · rw [if_pos large] at done ⊢
        have empty : w.buf = [] := List.eq_nil_of_length_eq_zero (by unfold BufWriter.capacity at *; omega)
        obtain ⟨file, c, stored, inside, long⟩ := start
        have flushed : InsideFlushed path n (w, world) := by
          refine ⟨file, empty, c, stored, inside, ?_⟩
          dsimp only at inside long
          rw [empty, List.length_nil, Nat.add_zero] at long
          omega
        exact (fileWriteAll junk b).weaken (fun _ => id) (fun _ => InsideFlushed.inside) flushed done
      · rw [if_neg large] at done ⊢
        exact store junk b start done

/-- A seek to what was written. -/
theorem seek {pos : Nat} (reach : pos ≤ n) : Lifts (behind path junk) (InsideFlushed path n)
    (fun s => InsideFlushed path n s ∧ s.1.file.pos = pos) (BufWriter.onFile (File.seek pos)) := by
  rintro ⟨w, world⟩ ⟨⟩ t' ⟨file, empty, c, stored, inside, long⟩ done
  unfold BufWriter.onFile File.seek behind at *
  dsimp only at *
  have same := World.files_answer world
  rw [World.answer_overlay] at done
  generalize world.answer = answered at done same
  obtain ⟨answer, after⟩ := answered
  dsimp only at done same
  cases answer with
  | failure => cases done
  | success =>
    cases done
    refine ⟨_, rfl, rfl, ⟨file, empty, c, ?_, le_trans reach long, long⟩, rfl⟩
    dsimp only
    rw [same, stored]

/-- A read of what was written. -/
theorem readExact {pos size : Nat} (reach : pos + size ≤ n) :
    Lifts (behind path junk) (fun s => InsideFlushed path n s ∧ s.1.file.pos = pos) (InsideFlushed path n)
      (BufWriter.onFile (File.readExact size)) := by
  rintro ⟨w, world⟩ b t' ⟨⟨rfl, empty, c, stored, inside, long⟩, rfl⟩ done
  unfold BufWriter.onFile File.readExact behind at *
  dsimp only at *
  have same := World.files_answer world
  rw [World.answer_overlay] at done
  generalize world.answer = answered at done same
  obtain ⟨answer, after⟩ := answered
  dsimp only at done same
  obtain ⟨held, longer⟩ := World.contents_overlay junk (show after.files w.file.path = some c by rw [same, stored])
  cases answer with
  | failure => cases done
  | success =>
    dsimp only at done ⊢
    rw [longer, readExact_overlay junk (le_trans reach long)] at done
    rw [held]
    split at done
    · rename_i read answered
      split at answered
      · rename_i bytes got
        cases answered
        cases done
        refine ⟨_, rfl, rfl, rfl, empty, c, ?_, le_trans reach long, long⟩
        dsimp only
        rw [same, stored]
      · cases answered
    · cases done

end Lifts

/-- Dropping a writer with an empty buffer does nothing. -/
theorem BufWriter.drop_of_empty {w : BufWriter} (empty : w.buf = []) (world : World) : w.drop world = world := by
  simp [drop, flushBuf, File.writeAll, empty]

/-! ## Bytes that fit in the buffer -/

theorem create_success {world : World} (granted : world.answer.1 = .success) :
    create path world = .ok ⟨path, 0⟩ (world.answer.2.store path []) := by
  unfold create
  generalize world.answer = answered at granted
  obtain ⟨answer, after⟩ := answered
  cases granted
  rfl

theorem create_failure {world : World} {text : String} {written : Nat} (refused : world.answer.1 = .failure text written) :
    create path world = .error text world.answer.2 := by
  unfold create
  generalize world.answer = answered at refused
  obtain ⟨answer, after⟩ := answered
  cases refused
  rfl

/-- The call puts `b` into the buffer when it fits, and nothing else. -/
def Holds (call : EStateM ε (BufWriter × World) Unit) (b : Bytes) : Prop :=
  ∀ (w : BufWriter) (world : World), w.buf.length + b.length < BufWriter.capacity →
    call (w, world) = .ok () ({ w with buf := w.buf ++ b }, world)

namespace Holds

theorem writeAll (b : Bytes) : Holds (BufWriter.writeAll b) b := by
  intro w world fits
  have room : b.length < BufWriter.capacity - w.buf.length := by omega
  unfold BufWriter.writeAll
  refine bind_eq_ok.2 ⟨_, _, rfl, ?_⟩
  dsimp only
  rw [if_pos room]
  rfl

theorem adaptExcept {x : EStateM ε (BufWriter × World) Unit} {b : Bytes} {f : ε → ε'} (holds : Holds x b) :
    Holds (EStateM.adaptExcept f x) b :=
  fun w world fits => adaptExcept_eq_ok.2 (holds w world fits)

theorem bind {x : EStateM ε (BufWriter × World) Unit} {f : Unit → EStateM ε (BufWriter × World) Unit} {b b' : Bytes}
    (first : Holds x b) (next : Holds (f ()) b') : Holds (x >>= f) (b ++ b') := by
  intro w world fits
  rw [List.length_append] at fits
  have rest := next { w with buf := w.buf ++ b } world (by rw [List.length_append]; omega)
  rw [List.append_assoc] at rest
  exact bind_eq_ok.2 ⟨(), _, first w world (by omega), rest⟩

end Holds

end FileSystem
