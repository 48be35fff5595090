import StereoMix.Lib.ByteFile

/-!
# Files and buffered writers

`std::fs::File` and `std::io::BufWriter<File>` over a world that holds the bytes of every path. A call is an
`EStateM`: it succeeds or fails with the error's text, and keeps the state it reached either way. What the
operating system answers is in the world too: a failed write has written a part of its bytes.

`Buffered w world path c` says that the file at `path` holds `c` once `w` is flushed. Each successful call is
described by what it does to `c`, so a writer's run is followed without looking into its buffer.
-/

namespace FileSystem

open ByteFile

/-- What the operating system answers to a call. A failed one names its error and has written some bytes. -/
inductive Answer where
  | success
  | failure (text : String) (written : Nat)
  deriving DecidableEq, Repr

/-- The bytes of every path, and the answers to come; calls succeed when they have run out. -/
structure World where
  files : String → Option Bytes
  answers : List Answer

namespace World

/-- The next answer. -/
def answer (world : World) : Answer × World :=
  match world.answers with
  | [] => (.success, world)
  | a :: answers => (a, { world with answers })

def contents (world : World) (path : String) : Bytes := (world.files path).getD []

def store (world : World) (path : String) (b : Bytes) : World :=
  { world with files := fun p => if p = path then some b else world.files p }

@[simp] theorem files_answer (world : World) : world.answer.2.files = world.files := by
  unfold answer
  split <;> rfl

@[simp] theorem files_store (world : World) (path : String) (b : Bytes) :
    (world.store path b).files path = some b := if_pos rfl

end World

/-- An open file: its path and the offset of the next access. -/
structure File where
  path : String
  pos : Nat
  deriving DecidableEq, Repr

/-- Create the file, or truncate the one that is there. -/
def create (path : String) : EStateM String World File := fun world =>
  match world.answer with
  | (.success, world) => .ok ⟨path, 0⟩ (world.store path [])
  | (.failure text _, world) => .error text world

namespace File

/-- `write_all`: no call for no bytes; a failed one wrote a proper part. -/
def writeAll (b : Bytes) : EStateM String (File × World) Unit := fun (f, world) =>
  if b.isEmpty then .ok () (f, world)
  else
    match world.answer with
    | (.success, world) =>
      .ok () ({ f with pos := f.pos + b.length }, world.store f.path (writeAt (world.contents f.path) f.pos b))
    | (.failure text written, world) =>
      let part := b.take (min written (b.length - 1))
      .error text ({ f with pos := f.pos + part.length }, world.store f.path (writeAt (world.contents f.path) f.pos part))

/-- `seek(SeekFrom::Start(pos))`. -/
def seek (pos : Nat) : EStateM String (File × World) Unit := fun (f, world) =>
  match world.answer with
  | (.success, world) => .ok () ({ f with pos }, world)
  | (.failure text _, world) => .error text (f, world)

/-- `read_exact` of `n` bytes. -/
def readExact (n : Nat) : EStateM String (File × World) Bytes := fun (f, world) =>
  match world.answer with
  | (.success, world) =>
    match ByteFile.readExact (world.contents f.path) f.pos n with
    | some b => .ok b ({ f with pos := f.pos + n }, world)
    | none => .error "failed to fill whole buffer" (f, world)
  | (.failure text _, world) => .error text (f, world)

end File

/-- A file with a buffer of bytes still to be written to it. -/
structure BufWriter where
  file : File
  buf : Bytes
  deriving DecidableEq, Repr

namespace BufWriter

def new (file : File) : BufWriter := ⟨file, []⟩

def capacity : Nat := 8192

/-- A call on the file behind the buffer. -/
def onFile {α : Type} (call : EStateM String (File × World) α) : EStateM String (BufWriter × World) α :=
  fun (w, world) =>
    match call (w.file, world) with
    | .ok a (file, world) => .ok a ({ w with file }, world)
    | .error e (file, world) => .error e ({ w with file }, world)

/-- `flush_buf`: the buffer goes to the file; on an error it keeps what was not written. -/
def flushBuf : EStateM String (BufWriter × World) Unit := fun (w, world) =>
  match File.writeAll w.buf (w.file, world) with
  | .ok _ (file, world) => .ok () (⟨file, []⟩, world)
  | .error e (file, world) => .error e (⟨file, w.buf.drop (file.pos - w.file.pos)⟩, world)

/-- Bytes go to the buffer. -/
def store (b : Bytes) : EStateM String (BufWriter × World) Unit := fun (w, world) =>
  .ok () ({ w with buf := w.buf ++ b }, world)

/-- `write_all`: into the buffer when there is room, else after a flush, and past the buffer when the bytes
are as many as it can hold. -/
def writeAll (b : Bytes) : EStateM String (BufWriter × World) Unit := do
  let (w, _) ← get
  if b.length < capacity - w.buf.length then store b
  else
    if b.length > capacity - w.buf.length then flushBuf
    if b.length ≥ capacity then onFile (File.writeAll b) else store b

/-- The bytes that the writer has taken, in the file or in the buffer. -/
def taken (w : BufWriter) : Nat := w.file.pos + w.buf.length

/-- `into_inner` up to the unwrapping: the buffer is flushed. -/
def intoInner : EStateM String (BufWriter × World) Unit := flushBuf

/-- Dropping a writer flushes it; an error is ignored. -/
def drop (w : BufWriter) (world : World) : World :=
  match flushBuf (w, world) with
  | .ok _ (_, world) => world
  | .error _ (_, world) => world

end BufWriter

/-! ## Successful calls -/

section

variable {ε ε' σ α β : Type}

theorem bind_eq_ok {x : EStateM ε σ α} {f : α → EStateM ε σ β} {s t : σ} {b : β} :
    (x >>= f) s = .ok b t ↔ ∃ a u, x s = .ok a u ∧ f a u = .ok b t := by
  show EStateM.bind x f s = _ ↔ _
  unfold EStateM.bind
  cases x s with
  | ok a u => simp
  | error e u => simp

/-- The rule for a loop over a list: what each turn adds to the elements done holds of all of them at the end. -/
theorem forM_induction {f : α → EStateM ε σ Unit} {I : List α → σ → Prop}
    (turn : ∀ done x s t, I done s → f x s = .ok () t → I (done ++ [x]) t) {xs : List α} {s t : σ}
    (start : I [] s) (run : xs.forM f s = .ok () t) : I xs t := by
  suffices later : ∀ (xs done : List α) (s : σ), I done s → xs.forM f s = .ok () t → I (done ++ xs) t from
    later xs [] s start run
  intro xs
  induction xs with
  | nil =>
    intro done s start run
    cases run
    rwa [List.append_nil]
  | cons x xs ih =>
    intro done s start run
    obtain ⟨⟨⟩, u, first, rest⟩ := (bind_eq_ok (x := f x) (f := fun _ => xs.forM f)).1 run
    have after := ih (done ++ [x]) u (turn done x s u start first) rest
    rwa [List.append_assoc] at after

theorem adaptExcept_eq_ok {x : EStateM ε σ α} {f : ε → ε'} {s t : σ} {a : α} :
    EStateM.adaptExcept f x s = .ok a t ↔ x s = .ok a t := by
  unfold EStateM.adaptExcept
  cases x s with
  | ok a u => simp
  | error e u => simp

end

/-- Once `w` is flushed, the file at `path` holds `c`. -/
structure Buffered (w : BufWriter) (world : World) (path : String) (c : Bytes) : Prop where
  file : w.file.path = path
  stored : ∃ front, world.files path = some front ∧ w.file.pos = front.length ∧ c = front ++ w.buf

/-- The file at `path` holds `c`, and `w` holds nothing back. -/
structure Flushed (w : BufWriter) (world : World) (path : String) (c : Bytes) : Prop where
  file : w.file.path = path
  empty : w.buf = []
  stored : world.files path = some c

theorem Buffered.taken {w : BufWriter} {world : World} {path : String} {c : Bytes} (h : Buffered w world path c) :
    w.taken = c.length := by
  obtain ⟨front, -, pos, rfl⟩ := h.stored
  rw [BufWriter.taken, pos, List.length_append]

theorem create_ok {path : String} {world world' : World} {f : File} (done : create path world = .ok f world') :
    Buffered (.new f) world' path [] := by
  unfold create at done
  split at done
  · cases done
    exact ⟨rfl, [], World.files_store _ _ _, rfl, rfl⟩
  · cases done

theorem File.writeAll_ok {b : Bytes} {f f' : File} {world world' : World} {c : Bytes}
    (stored : world.files f.path = some c) (done : File.writeAll b (f, world) = .ok () (f', world')) :
    f'.path = f.path ∧ f'.pos = f.pos + b.length ∧
      world'.files f.path = some (if b.isEmpty then c else writeAt c f.pos b) := by
  unfold File.writeAll at done
  dsimp only at done
  split at done
  · rename_i empty
    cases done
    refine ⟨rfl, ?_, by rw [if_pos empty, stored]⟩
    rw [List.isEmpty_iff.1 empty]
    rfl
  · rename_i some
    split at done
    · rename_i world₁ answered
      cases done
      have same := World.files_answer world
      rw [answered] at same
      refine ⟨rfl, rfl, ?_⟩
      rw [World.files_store, if_neg some, World.contents, same, stored, Option.getD_some]
    · cases done

theorem File.seek_ok {pos : Nat} {f f' : File} {world world' : World}
    (done : File.seek pos (f, world) = .ok () (f', world')) :
    f'.path = f.path ∧ f'.pos = pos ∧ world'.files = world.files := by
  have kept := World.files_answer world
  unfold File.seek at done
  dsimp only at done
  split at done
  · rename_i world₁ answered
    rw [answered] at kept
    cases done
    exact ⟨rfl, rfl, kept⟩
  · cases done

theorem File.readExact_ok {n : Nat} {b c : Bytes} {f f' : File} {world world' : World}
    (stored : world.files f.path = some c) (done : File.readExact n (f, world) = .ok b (f', world')) :
    f'.path = f.path ∧ ByteFile.readExact c f.pos n = some b ∧ world'.files = world.files := by
  have kept := World.files_answer world
  unfold File.readExact at done
  dsimp only at done
  split at done
  · rename_i world₁ answered
    rw [answered] at kept
    split at done
    · rename_i read
      cases done
      rw [World.contents, kept, stored, Option.getD_some] at read
      exact ⟨rfl, read, kept⟩
    · cases done
  · cases done

namespace BufWriter

variable {w w' : BufWriter} {world world' : World} {path : String} {c : Bytes}

theorem flushBuf_ok (start : Buffered w world path c) (done : flushBuf (w, world) = .ok () (w', world')) :
    Flushed w' world' path c ∧ Buffered w' world' path c := by
  obtain ⟨front, stored, pos, rfl⟩ := start.stored
  rw [← start.file] at stored
  unfold flushBuf at done
  dsimp only at done
  split at done
  · rename_i file world₁ written
    cases done
    obtain ⟨samePath, newPos, newFile⟩ := File.writeAll_ok stored written
    have whole : world'.files path = some (front ++ w.buf) := by
      rw [start.file] at newFile
      rw [newFile]
      split
      · rename_i empty
        rw [List.isEmpty_iff.1 empty, List.append_nil]
      · rw [pos, writeAt_end]
    refine ⟨⟨samePath.trans start.file, rfl, whole⟩, ⟨samePath.trans start.file, _, whole, ?_, ?_⟩⟩
    · rw [newPos, pos, List.length_append]
    · rw [List.append_nil]
  · cases done

theorem store_ok {b : Bytes} (start : Buffered w world path c) (done : store b (w, world) = .ok () (w', world')) :
    Buffered w' world' path (c ++ b) := by
  obtain ⟨front, stored, pos, rfl⟩ := start.stored
  cases done
  exact ⟨start.file, front, stored, pos, List.append_assoc _ _ _⟩

theorem onFile_ok {α : Type} {call : EStateM String (File × World) α} {a : α}
    (done : onFile call (w, world) = .ok a (w', world')) :
    w'.buf = w.buf ∧ call (w.file, world) = .ok a (w'.file, world') := by
  unfold onFile at done
  dsimp only at done
  split at done
  · rename_i called
    cases done
    exact ⟨rfl, called⟩
  · cases done

/-- A write past an empty buffer. -/
theorem onFile_writeAll_ok {b : Bytes} (start : Buffered w world path c) (empty : w.buf = [])
    (done : onFile (File.writeAll b) (w, world) = .ok () (w', world')) : Buffered w' world' path (c ++ b) := by
  obtain ⟨front, stored, pos, rfl⟩ := start.stored
  obtain ⟨same, written⟩ := onFile_ok done
  rw [← start.file] at stored
  obtain ⟨samePath, newPos, newFile⟩ := File.writeAll_ok stored written
  have whole : world'.files path = some (front ++ b) := by
    rw [start.file] at newFile
    rw [newFile]
    split
    · rename_i nothing
      rw [List.isEmpty_iff.1 nothing, List.append_nil]
    · rw [pos, writeAt_end]
  refine ⟨samePath.trans start.file, _, whole, ?_, ?_⟩
  · rw [newPos, pos, List.length_append]
  · rw [same, empty, List.append_nil, List.append_nil]

/-- **A buffered write appends.** -/
theorem writeAll_ok {b : Bytes} (start : Buffered w world path c)
    (done : writeAll b (w, world) = .ok () (w', world')) : Buffered w' world' path (c ++ b) := by
  unfold writeAll at done
  obtain ⟨⟨w₀, world₀⟩, s, got, done⟩ := bind_eq_ok.1 done
  cases got
  dsimp only at done
  split at done
  · exact store_ok start done
  · split at done
    · obtain ⟨⟨⟩, ⟨w₁, world₁⟩, flushed, done⟩ := bind_eq_ok.1 done
      obtain ⟨clean, start'⟩ := flushBuf_ok start flushed
      split at done
      · exact onFile_writeAll_ok start' clean.empty done
      · exact store_ok start' done
    · rename_i full exactly
      split at done
      · rename_i large
        have empty : w.buf = [] := List.eq_nil_of_length_eq_zero (by unfold capacity at *; omega)
        exact onFile_writeAll_ok start empty done
      · exact store_ok start done

theorem seek_ok {pos : Nat} (start : Flushed w world path c)
    (done : onFile (File.seek pos) (w, world) = .ok () (w', world')) :
    Flushed w' world' path c ∧ w'.file.pos = pos := by
  obtain ⟨same, called⟩ := onFile_ok done
  obtain ⟨samePath, newPos, kept⟩ := File.seek_ok called
  exact ⟨⟨samePath.trans start.file, same.trans start.empty, by rw [kept, start.stored]⟩, newPos⟩

theorem readExact_ok {n : Nat} {b : Bytes} (start : Flushed w world path c)
    (done : onFile (File.readExact n) (w, world) = .ok b (w', world')) :
    Flushed w' world' path c ∧ ByteFile.readExact c w.file.pos n = some b := by
  obtain ⟨same, called⟩ := onFile_ok done
  have stored := start.stored
  rw [← start.file] at stored
  obtain ⟨samePath, read, kept⟩ := File.readExact_ok stored called
  exact ⟨⟨samePath.trans start.file, same.trans start.empty, by rw [kept, start.stored]⟩, read⟩

/-- A write behind an empty buffer, anywhere in the file. -/
theorem patch_ok {b : Bytes} (start : Flushed w world path c) (some : b ≠ [])
    (done : onFile (File.writeAll b) (w, world) = .ok () (w', world')) :
    Flushed w' world' path (writeAt c w.file.pos b) := by
  obtain ⟨same, called⟩ := onFile_ok done
  have stored := start.stored
  rw [← start.file] at stored
  obtain ⟨samePath, -, newFile⟩ := File.writeAll_ok stored called
  rw [if_neg (by simpa using some), start.file] at newFile
  exact ⟨samePath.trans start.file, same.trans start.empty, newFile⟩

/-- Dropping an empty writer leaves the files alone. -/
theorem files_drop (h : Flushed w world path c) : (w.drop world).files = world.files := by
  simp [drop, flushBuf, File.writeAll, h.empty]

end BufWriter

/-! ## Failed calls -/

section

variable {ε ε' σ α β : Type}

theorem bind_eq_error {x : EStateM ε σ α} {f : α → EStateM ε σ β} {s t : σ} {e : ε} :
    (x >>= f) s = .error e t ↔ x s = .error e t ∨ ∃ a u, x s = .ok a u ∧ f a u = .error e t := by
  show EStateM.bind x f s = _ ↔ _
  unfold EStateM.bind
  cases x s with
  | ok a u => simp
  | error e u => simp

theorem adaptExcept_eq_error {x : EStateM ε σ α} {f : ε → ε'} {s t : σ} {e' : ε'} :
    EStateM.adaptExcept f x s = .error e' t ↔ ∃ e, x s = .error e t ∧ f e = e' := by
  unfold EStateM.adaptExcept
  cases x s with
  | ok a u => simp
  | error e u => simp [and_comm, eq_comm]

end

/-- A failed write has written a part. -/
theorem File.writeAll_error {b : Bytes} {f f' : File} {world world' : World} {c : Bytes} {e : String}
    (stored : world.files f.path = some c) (failed : File.writeAll b (f, world) = .error e (f', world')) :
    ∃ part, part <+: b ∧ f'.path = f.path ∧ f'.pos = f.pos + part.length ∧
      world'.files f.path = some (writeAt c f.pos part) := by
  unfold File.writeAll at failed
  dsimp only at failed
  split at failed
  · cases failed
  · split at failed
    · cases failed
    · rename_i text written world₁ answered
      cases failed
      have same := World.files_answer world
      rw [answered] at same
      refine ⟨_, List.take_prefix _ _, rfl, rfl, ?_⟩
      rw [World.files_store, World.contents, same, stored, Option.getD_some]

namespace BufWriter

variable {w w' : BufWriter} {world world' : World} {path : String} {c : Bytes} {e : String}

/-- A failed flush loses nothing: the buffer keeps what was not written. -/
theorem flushBuf_error (start : Buffered w world path c) (failed : flushBuf (w, world) = .error e (w', world')) :
    Buffered w' world' path c := by
  obtain ⟨front, stored, pos, rfl⟩ := start.stored
  rw [← start.file] at stored
  unfold flushBuf at failed
  dsimp only at failed
  split at failed
  · cases failed
  · rename_i file world₁ written
    cases failed
    obtain ⟨part, ⟨rest, whole⟩, samePath, newPos, newFile⟩ := File.writeAll_error stored written
    rw [start.file, pos, writeAt_end] at newFile
    refine ⟨samePath.trans start.file, _, newFile, ?_, ?_⟩
    · rw [newPos, pos, List.length_append]
    · rw [newPos, Nat.add_sub_cancel_left, ← whole, List.drop_left, List.append_assoc]

/-- A failed write past an empty buffer has appended a part. -/
theorem onFile_writeAll_error {b : Bytes} (start : Buffered w world path c) (empty : w.buf = [])
    (failed : onFile (File.writeAll b) (w, world) = .error e (w', world')) :
    ∃ part, part <+: b ∧ Buffered w' world' path (c ++ part) := by
  obtain ⟨front, stored, pos, rfl⟩ := start.stored
  rw [← start.file] at stored
  unfold onFile at failed
  dsimp only at failed
  split at failed
  · cases failed
  · rename_i file world₁ written
    cases failed
    obtain ⟨part, prefixed, samePath, newPos, newFile⟩ := File.writeAll_error stored written
    rw [start.file, pos, writeAt_end] at newFile
    refine ⟨part, prefixed, samePath.trans start.file, _, newFile, ?_, ?_⟩
    · rw [newPos, pos, List.length_append]
    · rw [empty, List.append_nil, List.append_nil]

/-- A failed buffered write has appended a part. -/
theorem writeAll_error {b : Bytes} (start : Buffered w world path c)
    (failed : writeAll b (w, world) = .error e (w', world')) :
    ∃ part, part <+: b ∧ Buffered w' world' path (c ++ part) := by
  unfold writeAll at failed
  rcases bind_eq_error.1 failed with got | ⟨⟨w₀, world₀⟩, s, got, failed⟩
  · cases got
  cases got
  dsimp only at failed
  split at failed
  · cases failed
  · split at failed
    · rcases bind_eq_error.1 failed with flushed | ⟨⟨⟩, ⟨w₁, world₁⟩, flushed, failed⟩
      · exact ⟨[], List.nil_prefix, by rw [List.append_nil]; exact flushBuf_error start flushed⟩
      · obtain ⟨clean, start'⟩ := flushBuf_ok start flushed
        split at failed
        · exact onFile_writeAll_error start' clean.empty failed
        · cases failed
    · rename_i full exactly
      split at failed
      · rename_i large
        have empty : w.buf = [] := List.eq_nil_of_length_eq_zero (by unfold capacity at *; omega)
        exact onFile_writeAll_error start empty failed
      · cases failed

end BufWriter

/-! ## A file that is written in place -/

theorem create_new {path : String} {world world' : World} {f : File} (done : create path world = .ok f world') :
    f = ⟨path, 0⟩ ∧ world'.files path = some [] := by
  unfold create at done
  split at done
  · cases done
    exact ⟨rfl, World.files_store _ _ _⟩
  · cases done

theorem create_error {path : String} {world world' : World} {e : String} (failed : create path world = .error e world') :
    world'.files = world.files := by
  have same := World.files_answer world
  unfold create at failed
  split at failed
  · cases failed
  · rename_i answered
    cases failed
    rwa [answered] at same

theorem rewrite_ok {path : String} {b : Bytes} {f f' : File} {world world₁ world' : World}
    (created : create path world = .ok f world₁) (done : File.writeAll b (f, world₁) = .ok () (f', world')) :
    world'.files path = some b := by
  obtain ⟨rfl, empty⟩ := create_new created
  obtain ⟨-, -, stored⟩ := File.writeAll_ok empty done
  rw [stored]
  split
  · rename_i nothing
    rw [List.isEmpty_iff.1 nothing]
  · exact congrArg some (writeAt_end [] b)

/-- A failed write leaves a proper part of what it was to write. -/
theorem rewrite_error {path : String} {b : Bytes} {f f' : File} {world world₁ world' : World} {e : String}
    (created : create path world = .ok f world₁) (failed : File.writeAll b (f, world₁) = .error e (f', world')) :
    ∃ part, part <+: b ∧ part.length < b.length ∧ world'.files path = some part := by
  obtain ⟨rfl, empty⟩ := create_new created
  unfold File.writeAll at failed
  dsimp only at failed
  split at failed
  · cases failed
  · rename_i some_bytes
    have some_length : 0 < b.length := List.length_pos_iff.2 fun nothing => some_bytes (List.isEmpty_iff.2 nothing)
    split at failed
    · cases failed
    · rename_i text written world₂ answered
      cases failed
      have same := World.files_answer world₁
      rw [answered] at same
      refine ⟨b.take (min written (b.length - 1)), List.take_prefix _ _, ?_, ?_⟩
      · rw [List.length_take]
        omega
      · rw [World.files_store, World.contents, same, empty, Option.getD_some]
        exact congrArg some (writeAt_end [] _)

/-- A successful run of `call` appends `b` to what the writer's file will hold. -/
def Writes {ε : Type} (call : EStateM ε (BufWriter × World) Unit) (b : Bytes) : Prop :=
  ∀ ⦃w w' world world' path c⦄, Buffered w world path c → call (w, world) = .ok () (w', world') →
    Buffered w' world' path (c ++ b)

namespace Writes

variable {ε ε' : Type}

theorem writeAll (b : Bytes) : Writes (BufWriter.writeAll b) b :=
  fun _ _ _ _ _ _ start done => BufWriter.writeAll_ok start done

theorem adaptExcept {x : EStateM ε (BufWriter × World) Unit} {b : Bytes} {f : ε → ε'} (writes : Writes x b) :
    Writes (EStateM.adaptExcept f x) b :=
  fun _ _ _ _ _ _ start done => writes start (adaptExcept_eq_ok.1 done)

/-- Calls one after the other append their bytes in order. -/
theorem bind {x : EStateM ε (BufWriter × World) Unit} {f : Unit → EStateM ε (BufWriter × World) Unit} {b b' : Bytes}
    (first : Writes x b) (next : Writes (f ()) b') : Writes (x >>= f) (b ++ b') := by
  intro w w' world world' path c start done
  obtain ⟨⟨⟩, ⟨w₁, world₁⟩, run, rest⟩ := bind_eq_ok.1 done
  rw [← List.append_assoc]
  exact next (first start run) rest

end Writes

/-! ## What a writer holds back -/

/-- The buffer holds no more than its capacity. -/
def BufWriter.Within (w : BufWriter) : Prop := w.buf.length ≤ BufWriter.capacity

/-- A successful run of `call` leaves no more in the buffer than fits. -/
def StaysWithin {ε : Type} (call : EStateM ε (BufWriter × World) Unit) : Prop :=
  ∀ ⦃w w' world world'⦄, w.Within → call (w, world) = .ok () (w', world') → w'.Within

namespace StaysWithin

variable {ε ε' : Type}

theorem buf_of_flushBuf {w w' : BufWriter} {world world' : World}
    (done : BufWriter.flushBuf (w, world) = .ok () (w', world')) : w'.buf = [] := by
  unfold BufWriter.flushBuf at done
  dsimp only at done
  split at done
  · cases done
    rfl
  · cases done

theorem onFile (call : EStateM String (File × World) Unit) : StaysWithin (BufWriter.onFile call) := by
  intro w w' world world' within done
  rw [BufWriter.Within, (BufWriter.onFile_ok done).1]
  exact within

theorem store {b : Bytes} {w w' : BufWriter} {world world' : World} (room : w.buf.length + b.length ≤ BufWriter.capacity)
    (done : BufWriter.store b (w, world) = .ok () (w', world')) : w'.Within := by
  cases done
  rw [BufWriter.Within, List.length_append]
  exact room

theorem writeAll (b : Bytes) : StaysWithin (BufWriter.writeAll b) := by
  intro w w' world world' within done
  unfold BufWriter.writeAll at done
  obtain ⟨⟨w₀, world₀⟩, s, got, done⟩ := bind_eq_ok.1 done
  cases got
  have fits : w.buf.length ≤ BufWriter.capacity := within
  dsimp only at done
  split at done
  · exact store (by omega) done
  · split at done
    · obtain ⟨⟨⟩, ⟨w₁, world₁⟩, flushed, done⟩ := bind_eq_ok.1 done
      have empty : w₁.buf.length = 0 := by rw [buf_of_flushBuf flushed, List.length_nil]
      split at done
      · exact onFile _ (empty.le.trans (Nat.zero_le _)) done
      · exact store (by omega) done
    · split at done
      · exact onFile _ within done
      · exact store (by omega) done

theorem adaptExcept {x : EStateM ε (BufWriter × World) Unit} {f : ε → ε'} (stays : StaysWithin x) :
    StaysWithin (EStateM.adaptExcept f x) :=
  fun _ _ _ _ within done => stays within (adaptExcept_eq_ok.1 done)

theorem bind {x : EStateM ε (BufWriter × World) Unit} {f : Unit → EStateM ε (BufWriter × World) Unit}
    (first : StaysWithin x) (next : StaysWithin (f ())) : StaysWithin (x >>= f) := by
  intro w w' world world' within done
  obtain ⟨⟨⟩, ⟨w₁, world₁⟩, run, rest⟩ := bind_eq_ok.1 done
  exact next (first within run) rest

end StaysWithin

/-! ## Calls that only the operating system can fail -/

/-- No failure is to come. -/
def World.Quiet (world : World) : Prop := world.answers = []

theorem World.Quiet.answer {world : World} (quiet : world.Quiet) : world.answer = (.success, world) := by
  unfold World.answer
  rw [show world.answers = [] from quiet]

/-- The call succeeds when no failure is to come. -/
def Total {ε σ α : Type} (call : EStateM ε (σ × World) α) : Prop :=
  ∀ s world, world.Quiet → ∃ a s' world', call (s, world) = .ok a (s', world') ∧ world'.Quiet

namespace Total

variable {ε ε' σ α β : Type}

theorem bind {x : EStateM ε (σ × World) α} {f : α → EStateM ε (σ × World) β} (first : Total x)
    (next : ∀ a, Total (f a)) : Total (x >>= f) := by
  intro s world quiet
  obtain ⟨a, s', world', run, quiet'⟩ := first s world quiet
  obtain ⟨b, s'', world'', run', quiet''⟩ := next a s' world' quiet'
  exact ⟨b, s'', world'', bind_eq_ok.2 ⟨a, _, run, run'⟩, quiet''⟩

theorem adaptExcept {x : EStateM ε (σ × World) α} {f : ε → ε'} (total : Total x) :
    Total (EStateM.adaptExcept f x) := by
  intro s world quiet
  obtain ⟨a, s', world', run, quiet'⟩ := total s world quiet
  exact ⟨a, s', world', adaptExcept_eq_ok.2 run, quiet'⟩

theorem get : Total (MonadState.get : EStateM ε (σ × World) (σ × World)) :=
  fun s world quiet => ⟨(s, world), s, world, rfl, quiet⟩

theorem ite {p : Prop} [Decidable p] {x y : EStateM ε (σ × World) α} (yes : Total x) (no : Total y) :
    Total (if p then x else y) := by
  split
  · exact yes
  · exact no

theorem writeAll (b : Bytes) : Total (File.writeAll b) := by
  intro f world quiet
  unfold File.writeAll
  dsimp only
  split
  · exact ⟨(), f, world, rfl, quiet⟩
  · rw [quiet.answer]
    exact ⟨(), _, _, rfl, quiet⟩

theorem seek (pos : Nat) : Total (File.seek pos) := by
  intro f world quiet
  unfold File.seek
  dsimp only
  rw [quiet.answer]
  exact ⟨(), _, _, rfl, quiet⟩

theorem onFile {call : EStateM String (File × World) α} (total : Total call) : Total (BufWriter.onFile call) := by
  intro w world quiet
  obtain ⟨a, f', world', run, quiet'⟩ := total w.file world quiet
  unfold BufWriter.onFile
  dsimp only
  rw [run]
  exact ⟨a, _, _, rfl, quiet'⟩

theorem flushBuf : Total BufWriter.flushBuf := by
  intro w world quiet
  obtain ⟨⟨⟩, f', world', run, quiet'⟩ := writeAll w.buf w.file world quiet
  unfold BufWriter.flushBuf
  dsimp only
  rw [run]
  exact ⟨(), _, _, rfl, quiet'⟩

theorem store (b : Bytes) : Total (BufWriter.store b) :=
  fun _ _ quiet => ⟨(), _, _, rfl, quiet⟩

theorem bufWriteAll (b : Bytes) : Total (BufWriter.writeAll b) := by
  have last : Total (if b.length ≥ BufWriter.capacity then BufWriter.onFile (File.writeAll b) else BufWriter.store b) :=
    ite (onFile (writeAll b)) (store b)
  unfold BufWriter.writeAll
  refine bind get fun a => ite (store b) ?_
  exact ite (bind flushBuf fun _ => last) last

end Total

theorem create_quiet {world : World} (path : String) (quiet : world.Quiet) :
    ∃ f world', create path world = .ok f world' ∧ world'.Quiet := by
  unfold create
  rw [quiet.answer]
  exact ⟨_, _, rfl, quiet⟩

theorem BufWriter.drop_quiet {world : World} (w : BufWriter) (quiet : world.Quiet) : (w.drop world).Quiet := by
  obtain ⟨⟨⟩, w', world', run, quiet'⟩ := Total.flushBuf w world quiet
  unfold BufWriter.drop
  rw [run]
  exact quiet'

end FileSystem
