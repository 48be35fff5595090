import StereoMix.Encode.AgentIds

/-!
# The files of the sessions

A path is resolved to a name that no file has, and the file is made when the session opens its muxer, so a name is
taken for as long as a Start has resolved it and not opened it. In the runs where no Start resolves a name that is
taken so, a Start never opens a file that is there, and no two sessions have one file.
-/

namespace StereoMix.Encode

open EventSystem

/-- What a step resolves a Start to. -/
def AgentServer.resolves (s : AgentServer) : AgentEvent → Option StartRequest
  | .resolve h clock created =>
    match s.handlers[h]? with
    | some ⟨_, .arrived (.start c)⟩ => (startRequest s.env clock s.files created c).toOption
    | _ => none
  | _ => none

/-- A Start resolves its path to one that no other Start has resolved and not opened. -/
def ResolvesApart (s : AgentServer) (e : AgentEvent) : Prop :=
  ∀ request ∈ s.resolves e, ∀ handler ∈ s.handlers, ∀ pending ∈ handler.pc.request,
    components pending.path ≠ components request.path

instance (s : AgentServer) (e : AgentEvent) : Decidable (ResolvesApart s e) := by
  unfold ResolvesApart
  infer_instance

/-- No two sessions have one file, and a Start that is about to open its file opens that of no session. -/
structure OwnFiles (s : AgentServer) : Prop where
  sessions : ∀ (i j : Nat) (x y : AgentSession), s.sessions[i]? = some x → s.sessions[j]? = some y →
    components x.request.path = components y.request.path → i = j
  opens : ∀ handler ∈ s.handlers, ∀ request, handler.pc = .starting request →
    ∀ session ∈ s.sessions, components session.request.path ≠ components request.path

/-! ## Names that are taken -/

/-- The names that Starts have resolved and not opened are different, and no file has them; the sessions' files are
there, one for each. -/
structure Taken (s : AgentServer) : Prop where
  apart : ∀ (i j : Nat) (x y : Handler) (a b : StartRequest), s.handlers[i]? = some x → s.handlers[j]? = some y →
    x.pc.request = some a → y.pc.request = some b → components a.path = components b.path → i = j
  free : ∀ handler ∈ s.handlers, ∀ request ∈ handler.pc.request, components request.path ∉ s.files
  made : ∀ session ∈ s.sessions, components session.request.path ∈ s.files
  own : ∀ (i j : Nat) (x y : AgentSession), s.sessions[i]? = some x → s.sessions[j]? = some y →
    components x.request.path = components y.request.path → i = j

/-- A step that takes no name and makes no file, with the sessions' requests kept. -/
theorem Taken.kept {s t : AgentServer} (before : Taken s) (files : t.files = s.files)
    (handlers : ∀ (i : Nat) (x : Handler) (a : StartRequest), t.handlers[i]? = some x → x.pc.request = some a →
      ∃ y, s.handlers[i]? = some y ∧ y.pc.request = some a)
    (sessions : ∀ (k : Nat) (x : AgentSession), t.sessions[k]? = some x →
      ∃ y : AgentSession, s.sessions[k]? = some y ∧ y.request = x.request) : Taken t := by
  constructor
  · intro i j x y a b at_i at_j mine yours same
    obtain ⟨x', at_i, mine⟩ := handlers i x a at_i mine
    obtain ⟨y', at_j, yours⟩ := handlers j y b at_j yours
    exact before.apart i j x' y' a b at_i at_j mine yours same
  · intro x member a mine
    obtain ⟨i, at_i⟩ := List.mem_iff_getElem?.1 member
    obtain ⟨x', at_i, mine⟩ := handlers i x a at_i mine
    rw [files]
    exact before.free x' (List.mem_of_getElem? at_i) a mine
  · intro x member
    obtain ⟨k, at_k⟩ := List.mem_iff_getElem?.1 member
    obtain ⟨x', at_k, same⟩ := sessions k x at_k
    rw [files, ← same]
    exact before.made x' (List.mem_of_getElem? at_k)
  · intro i j x y at_i at_j same
    obtain ⟨x', at_i, same_i⟩ := sessions i x at_i
    obtain ⟨y', at_j, same_j⟩ := sessions j y at_j
    rw [← same_i, ← same_j] at same
    exact before.own i j x' y' at_i at_j same

/-- A handler's step to a place without a request takes no name. -/
theorem requests_setPc {s : AgentServer} {h : Nat} {handler : Handler} {pc : HandlerPc}
    (there : s.handlers[h]? = some handler) (kept : pc.request = none ∨ pc.request = handler.pc.request)
    (i : Nat) (x : Handler) (a : StartRequest) (found : (s.setPc h handler pc).handlers[i]? = some x)
    (mine : x.pc.request = some a) : ∃ y, s.handlers[i]? = some y ∧ y.pc.request = some a := by
  rcases getElem?_setPc there found with ⟨rfl, rfl⟩ | ⟨-, found⟩
  · refine ⟨handler, there, ?_⟩
    rcases kept with none | same
    · rw [none] at mine
      cases mine
    · exact same ▸ mine
  · exact ⟨x, found, mine⟩

/-- A Start opens its file. -/
theorem Taken.opened {s t : AgentServer} {h : Nat} {handler : Handler} {request : StartRequest} {pc : HandlerPc}
    (before : Taken s) (there : s.handlers[h]? = some handler) (at_starting : handler.pc = .starting request)
    (none : pc.request = none) (handlers : t.handlers = (s.setPc h handler pc).handlers)
    (files : t.files = components request.path :: s.files)
    (sessions : t.sessions = s.sessions ∨ ∃ session, t.sessions = s.sessions ++ [session] ∧ session.request = request) :
    Taken t := by
  have mine : handler.pc.request = some request := by rw [at_starting]; rfl
  have fresh := before.free handler (List.mem_of_getElem? there) request mine
  constructor
  · intro i j x y a b at_i at_j
    rw [handlers] at at_i at_j
    intro mine_i mine_j same
    obtain ⟨x', at_i, mine_i⟩ := requests_setPc there (.inl none) i x a at_i mine_i
    obtain ⟨y', at_j, mine_j⟩ := requests_setPc there (.inl none) j y b at_j mine_j
    exact before.apart i j x' y' a b at_i at_j mine_i mine_j same
  · intro x member a mine_x
    obtain ⟨i, at_i⟩ := List.mem_iff_getElem?.1 member
    rw [handlers] at at_i
    rw [files, List.mem_cons]
    rcases getElem?_setPc there at_i with ⟨rfl, rfl⟩ | ⟨other, at_i⟩
    · rw [none] at mine_x
      cases mine_x
    · rintro (same | old)
      · exact other (before.apart i h x handler a request at_i there mine_x mine same)
      · exact before.free x (List.mem_of_getElem? at_i) a mine_x old
  · intro x member
    rw [files]
    rcases sessions with same | ⟨session, more, rfl⟩
    · rw [same] at member
      exact List.mem_cons_of_mem _ (before.made x member)
    · rw [more] at member
      rcases List.mem_append.1 member with old | new
      · exact List.mem_cons_of_mem _ (before.made x old)
      · rw [List.mem_singleton.1 new]
        exact List.mem_cons_self
  · rcases sessions with same | ⟨session, more, rfl⟩
    · rw [same]
      exact before.own
    · -- The new session's file was not there, and those of the old ones were.
      have unlike (k : Nat) (x : AgentSession) (at_k : s.sessions[k]? = some x) :
          components x.request.path ≠ components session.request.path := by
        intro same
        exact fresh (same ▸ before.made x (List.mem_of_getElem? at_k))
      intro i j x y at_i at_j same
      rw [more] at at_i at_j
      rcases Parts.of_added at_i with old_i | ⟨rfl, rfl⟩ <;>
        rcases Parts.of_added at_j with old_j | ⟨rfl, rfl⟩
      · exact before.own i j x y old_i old_j same
      · exact absurd same (unlike i x old_i)
      · exact absurd same.symm (unlike j y old_j)
      · rfl

theorem Taken.step {s t : AgentServer} {e : AgentEvent} (before : Taken s) (apart : ResolvesApart s e)
    (moves : s.Moves e t) : Taken t := by
  have same_sessions (k : Nat) (x : AgentSession) (known : s.sessions[k]? = some x) :
      ∃ y : AgentSession, s.sessions[k]? = some y ∧ y.request = x.request := ⟨x, known, rfl⟩
  have modified {k : Nat} {change : AgentSession → AgentSession}
      (kept : ∀ x, (change x).request = x.request) (j : Nat) (x : AgentSession)
      (known : (s.sessions.modify k change)[j]? = some x) :
      ∃ y : AgentSession, s.sessions[j]? = some y ∧ y.request = x.request := by
    rw [List.getElem?_modify] at known
    obtain ⟨y, there, rfl⟩ := Option.map_eq_some_iff.1 known
    refine ⟨y, there, ?_⟩
    split
    · exact (kept y).symm
    · rfl
  cases moves with
  | connected origin cmd =>
    refine before.kept rfl ?_ same_sessions
    intro i x a found mine
    rcases Parts.of_added found with old | ⟨-, rfl⟩
    · exact ⟨x, old, mine⟩
    · cases mine
  | @resolved h handler clock created c request there at_arrived found =>
    have resolves : s.resolves (.resolve h clock created) = some request := by
      obtain ⟨origin, pc⟩ := handler
      cases at_arrived
      unfold AgentServer.resolves
      dsimp only
      rw [there]
      dsimp only
      rw [found]
      rfl
    have others (i : Nat) (x : Handler) (a : StartRequest) (at_i : s.handlers[i]? = some x)
        (mine : x.pc.request = some a) : components a.path ≠ components request.path :=
      apart request resolves x (List.mem_of_getElem? at_i) a mine
    constructor
    · intro i j x y a b at_i at_j mine yours same
      rcases getElem?_setPc there at_i with ⟨rfl, rfl⟩ | ⟨-, old_i⟩ <;>
        rcases getElem?_setPc there at_j with ⟨rfl, rfl⟩ | ⟨-, old_j⟩
      · rfl
      · cases mine
        exact absurd same.symm (others j y b old_j yours)
      · cases yours
        exact absurd same (others i x a old_i mine)
      · exact before.apart i j x y a b old_i old_j mine yours same
    · intro x member a mine
      obtain ⟨i, at_i⟩ := List.mem_iff_getElem?.1 member
      rcases getElem?_setPc there at_i with ⟨rfl, rfl⟩ | ⟨-, old⟩
      · cases mine
        exact (startRequest_ok found).2.1
      · exact before.free x (List.mem_of_getElem? old) a mine
    · exact before.made
    · exact before.own
  | aside pc lock there quiet after unanswered unopened =>
    exact before.kept rfl (requests_setPc there (.inl unopened)) same_sessions
  | @passed h handler request there at_checking =>
    refine before.kept rfl (requests_setPc there (.inr ?_)) same_sessions
    rw [at_checking]
    rfl
  | @failed h handler request opened answer there at_starting =>
    cases opened with
    | true => exact before.opened there at_starting rfl rfl rfl (.inl rfl)
    | false => exact before.kept rfl (requests_setPc there (.inl rfl)) same_sessions
  | began there at_starting => exact before.opened there at_starting rfl rfl rfl (.inr ⟨_, rfl, rfl⟩)
  | clocked there => exact before.kept rfl (requests_setPc there (.inl rfl)) (modified fun _ => rfl)
  | removed there => exact before.kept rfl (requests_setPc there (.inl rfl)) (modified fun _ => rfl)
  | inserted there | reported there | finished _ there =>
    exact before.kept rfl (requests_setPc there (.inl rfl)) same_sessions
  | forwarded | timedOut => exact before.kept rfl (fun i x a found mine => ⟨x, found, mine⟩) (modified fun _ => rfl)

/-- **No two sessions share a file, and none is truncated, in the runs where no Start resolves a path that another
has resolved and not opened.** -/
theorem sessions_own_files {s : AgentServer} (reached : agentSystem.ReachableWhere ResolvesApart s) : OwnFiles s := by
  have taken : Taken s := by
    apply invariant_where (S := agentSystem) (C := ResolvesApart) (I := Taken)
    · rintro s ⟨env, files, rfl⟩
      constructor
      · intro i j x y a b there
        cases there
      · intro x member
        cases member
      · intro x member
        cases member
      · intro i j x y there
        cases there
    · exact fun s e t before apart step => before.step apart (AgentServer.moves_of_step step)
    · exact reached
  constructor
  · exact taken.own
  · intro handler member request at_starting session known same
    have mine : handler.pc.request = some request := by rw [at_starting]; rfl
    exact taken.free handler member request mine (same ▸ taken.made session known)

theorem sessions_own_files_two : ∃ s, agentSystem.run ⟨⟨none, none, none⟩, [], [], none, [], [], []⟩
    (admittedAt 0 5 ++ admittedAt 1 6 ++ clockedAt 0 1000 ++ clockedAt 1 1001) = some s ∧ OwnFiles s :=
  ⟨_, rfl, sessions_own_files ⟨_, admittedAt 0 5 ++ admittedAt 1 6 ++ clockedAt 0 1000 ++ clockedAt 1 1001,
    ⟨⟨none, none, none⟩, [], rfl⟩, by decide +kernel, rfl⟩⟩

/-- Two Starts resolve their paths in one second, before either opens its file: both sessions run, on one file. -/
theorem sessions_share_file : ∃ s, agentSystem.run ⟨⟨none, none, none⟩, [], [], none, [], [], []⟩
    (admittedAt 0 5 ++ admittedAt 1 5 ++ clockedAt 0 1000 ++ clockedAt 1 1001) = some s ∧
      s.sessions.map AgentSession.told = [false, false] ∧ ¬ OwnFiles s := by
  refine ⟨_, rfl, rfl, ?_⟩
  intro own
  exact absurd (own.sessions 0 1 _ _ rfl rfl rfl) (by decide)

end StereoMix.Encode
