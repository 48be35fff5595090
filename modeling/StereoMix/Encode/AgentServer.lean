import StereoMix.Lib.EventSystem
import StereoMix.Encode.OutputPath
import StereoMix.Encode.Session

/-!
# The agent server

`ipc.rs`: every connection is a handler that runs one command. A Start is checked, resolves its output path, counts
the sessions under the lock, starts a session without it, reads the clock for an id and takes the lock again to
insert; its end drops the session's external shutdown sender. A Stop and a Status keep the lock until they have
responded. What the clock, the file system and a session's own start and stop answer is in the events.
-/

namespace StereoMix.Encode

open EventSystem

def MAX_PER_ORIGIN : Nat := 4
def MAX_TOTAL : Nat := 64

/-! ## Commands and responses -/

structure StartCommand where
  token : Option String
  outputDir : String
  filenameTemplate : Option String
  encoder : Option String
  format : Option String
  deriving DecidableEq, Repr

inductive Command where
  | start (c : StartCommand)
  | stop (id : String)
  | status (id : Option String)
  deriving DecidableEq, Repr

inductive ResponseData where
  | started (id output : String)
  | stopped (info : SessionInfo)
  | active (id : String) (active : Bool)
  | sessions (ids : List String)
  deriving DecidableEq, Repr

structure Response where
  status : String
  data : Option ResponseData
  error : Option String
  deriving DecidableEq, Repr

def Response.ok (data : ResponseData) : Response := ⟨"ok", some data, none⟩
def Response.failed (msg : String) : Response := ⟨"error", none, some msg⟩

/-! ## The checks of a Start -/

/-- The variables that the server reads from its environment. -/
structure Environment where
  apiToken : Option String
  outputRoot : Option String
  agentId : Option String
  deriving DecidableEq, Repr

/-- What a Start that passed its checks goes on with. -/
structure StartRequest where
  path : String
  encoder : String
  format : ContainerFormat
  deriving DecidableEq, Repr

def formatOf : Option String → ContainerFormat
  | some "mp3" => .mp3
  | some "flac" => .flac
  | _ => .wav

/-- If a token is set, the command has to carry it. -/
def authenticated (env : Environment) (c : StartCommand) : Bool :=
  match env.apiToken with
  | some expected => c.token = some expected
  | none => true

def validTemplate (template : String) : Bool :=
  !(template.utf8ByteSize > 128 || template.toList.contains '/' || template.toList.contains '\\')

/-- The folder that a Start records into. -/
def outputFolder (env : Environment) (outputDir : String) : String :=
  trimEndSlashes (env.outputRoot.getD "./recordings") ++ "/" ++ outputDir

/-- A Start up to the lock; its error is the text of the response. -/
def startRequest (env : Environment) (clock : Nat → LocalTime) (files : List (List Component))
    (created : Except String Unit) (c : StartCommand) : Except String StartRequest :=
  if !authenticated env c then .error "authentication failed"
  else
    let template := c.filenameTemplate.getD "BSM_\x7bdate\x7d_\x7btime\x7d_\x7bn\x7d"
    if !validTemplate template then .error "invalid filename_template"
    else
      let fmt := formatOf c.format
      if isAbsolute c.outputDir then .error "output_dir must be relative"
      else if components c.outputDir |>.any (· = .parentDir) then .error "output_dir contains parent traversal"
      else
        match resolveOutputPath (fun n => ⟨(clock n).date, (clock n).time, env.agentId⟩) files created
          (outputFolder env c.outputDir) template fmt with
        | .error e => .error s!"resolve output path failed: {e.text}"
        | .ok path => .ok ⟨path, c.encoder.getD "libopus", fmt⟩

/-- The template of a Start. -/
def StartCommand.template (c : StartCommand) : String :=
  c.filenameTemplate.getD "BSM_\x7bdate\x7d_\x7btime\x7d_\x7bn\x7d"

/-- The checks that a Start has to pass before its path is resolved. -/
structure StartCommand.Passes (c : StartCommand) (env : Environment) : Prop where
  authenticated : authenticated env c = true
  template : validTemplate c.template = true
  relative : isAbsolute c.outputDir = false
  inside : Component.parentDir ∉ components c.outputDir

/-- The path of a Start's `n`th try, made at `now`. -/
def outputPath (env : Environment) (c : StartCommand) (now : LocalTime) (n : Nat) : String :=
  join (outputFolder env c.outputDir)
    (expandFilenameTemplate ⟨now.date, now.time, env.agentId⟩ c.template n ++ "." ++ (formatOf c.format).extension)

theorem startRequest_ok {env : Environment} {clock : Nat → LocalTime} {files : List (List Component)}
    {created : Except String Unit} {c : StartCommand} {request : StartRequest}
    (ok : startRequest env clock files created c = .ok request) :
    c.Passes env ∧ components request.path ∉ files ∧ ∃ n, request.path = outputPath env c (clock n) n := by
  unfold startRequest at ok
  dsimp only at ok
  split at ok
  · cases ok
  split at ok
  · cases ok
  split at ok
  · cases ok
  split at ok
  · cases ok
  split at ok
  · cases ok
  · rename_i authenticated template relative inside _ path resolved
    cases ok
    rw [Bool.not_eq_true', Bool.not_eq_false] at authenticated template
    rw [Bool.not_eq_true] at relative
    have inside : Component.parentDir ∉ components c.outputDir := by simpa using inside
    exact ⟨⟨authenticated, template, relative, inside⟩, resolveOutputPath_ok resolved⟩

/-! ## The state -/

/-- The timeout task of a session: not spawned, asleep, or done. -/
inductive TimeoutPc where
  | unset
  | asleep
  | finished
  deriving DecidableEq, Repr

/-- A session the server started: the handler that has its external shutdown sender, what it records, whether its
forwarder has sent, its timeout task, and whether a () was sent on its shutdown channel. -/
structure AgentSession where
  owner : Nat
  request : StartRequest
  forwarded : Bool
  timeout : TimeoutPc
  told : Bool
  deriving DecidableEq, Repr

/-- An entry of the session map; the session's handle and its timeout are known by its number. -/
structure RecordingSessionHandle where
  origin : String
  session : Nat
  deriving DecidableEq, Repr

/-- Where a handler is. -/
inductive HandlerPc where
  | arrived (cmd : Command)
  | checking (request : StartRequest)
  | starting (request : StartRequest)
  | started (session : Nat) (path : String)
  | inserting (session : Nat) (id path : String)
  | stopping (session : Nat)
  | responding (response : Response)
  | ended
  deriving DecidableEq, Repr

structure Handler where
  origin : String
  pc : HandlerPc
  deriving DecidableEq, Repr

/-- An id that a Status gave as active, its session, and whether that had been told to shut down. -/
structure Report where
  id : String
  session : Nat
  told : Bool
  deriving DecidableEq, Repr

/-- The server. The map is a list of entries of different ids, `lock` the handler that keeps the lock over an await,
`files` the files on disk and `reports` the record of what Status reported. -/
structure AgentServer where
  env : Environment
  files : List (List Component)
  map : List (String × RecordingSessionHandle)
  lock : Option Nat
  handlers : List Handler
  sessions : List AgentSession
  reports : List Report
  deriving DecidableEq, Repr

/-- What can happen: a connection with its command, the steps of handler `h`, a forwarder or a timeout waking up. -/
inductive AgentEvent where
  | connect (origin : String) (cmd : Command)
  | resolve (h : Nat) (clock : Nat → LocalTime) (created : Except String Unit)
  | check (h : Nat)
  | start (h : Nat) (opened : Bool) (answer : Except EncodeError Unit)
  | clock (h : Nat) (millis : Int)
  | insert (h : Nat)
  | stop (h : Nat)
  | stopped (h : Nat) (answer : Except EncodeError SessionInfo)
  | status (h : Nat)
  | ends (h : Nat)
  | forward (k : Nat)
  | timeout (k : Nat)

/-! ## Steps -/

def AgentServer.lookup (s : AgentServer) (id : String) : Option RecordingSessionHandle :=
  (s.map.find? fun e => e.1 = id).map Prod.snd

/-- The rate limit's check. -/
def AgentServer.hasRoom (s : AgentServer) (origin : String) : Bool :=
  let perOrigin := s.map.countP fun e => e.2.origin = origin
  !(perOrigin ≥ MAX_PER_ORIGIN || s.map.length ≥ MAX_TOTAL)

def AgentServer.setPc (s : AgentServer) (h : Nat) (handler : Handler) (pc : HandlerPc) : AgentServer :=
  { s with handlers := s.handlers.set h { handler with pc } }

/-- The map after `insert` and after `remove`. -/
def AgentServer.inserted (s : AgentServer) (id : String) (rs : RecordingSessionHandle) :
    List (String × RecordingSessionHandle) := s.map.filter (fun e => e.1 ≠ id) ++ [(id, rs)]

def AgentServer.removed (s : AgentServer) (id : String) : List (String × RecordingSessionHandle) :=
  s.map.filter fun e => e.1 ≠ id

/-- What is sent on the shutdown channel of session `k`. -/
def AgentServer.tell (s : AgentServer) (k : Nat) (change : AgentSession → AgentSession) : List AgentSession :=
  s.sessions.modify k fun session => { change session with told := true }

def AgentServer.told (s : AgentServer) (k : Nat) : Bool := s.sessions[k]?.any AgentSession.told

/-- What a Status answers, and its record. -/
def AgentServer.statusOf (s : AgentServer) : Option String → ResponseData × List Report
  | some id =>
    match s.lookup id with
    | some rs => (.active id true, [⟨id, rs.session, s.told rs.session⟩])
    | none => (.active id false, [])
  | none => (.sessions (s.map.map Prod.fst), s.map.map fun e => ⟨e.1, e.2.session, s.told e.2.session⟩)

/-- A step of handler `h`, which is at `handler.pc`. -/
def handlerStep (s : AgentServer) (h : Nat) (handler : Handler) (e : AgentEvent) : Option AgentServer :=
  match e, handler.pc with
  | .resolve _ clock created, .arrived (.start c) =>
    match startRequest s.env clock s.files created c with
    | .error msg => some (s.setPc h handler (.responding (.failed msg)))
    | .ok request => some (s.setPc h handler (.checking request))
  | .check _, .checking request =>
    if s.lock = none then
      if s.hasRoom handler.origin then some (s.setPc h handler (.starting request))
      else some { s.setPc h handler (.responding (.failed "too many sessions")) with lock := some h }
    else none
  | .start _ opened answer, .starting request =>
    match answer with
    | .error _ => some { s.setPc h handler .ended with
        files := if opened then components request.path :: s.files else s.files }
    | .ok _ => some { s.setPc h handler (.started s.sessions.length request.path) with
        files := components request.path :: s.files
        sessions := s.sessions ++ [⟨h, request, false, .unset, false⟩] }
  | .clock _ millis, .started k path =>
    some { s.setPc h handler (.inserting k s!"session-{millis}" path) with
      sessions := s.sessions.modify k fun session => { session with timeout := .asleep } }
  | .insert _, .inserting k id path =>
    if s.lock = none then
      some { s.setPc h handler (.responding (.ok (.started id path))) with map := s.inserted id ⟨handler.origin, k⟩ }
    else none
  | .stop _, .arrived (.stop id) =>
    if s.lock = none then
      match s.lookup id with
      | none => some { s.setPc h handler (.responding (.failed "id not found")) with lock := some h }
      | some rs => some { s.setPc h handler (.stopping rs.session) with
          lock := some h
          map := s.removed id
          sessions := s.tell rs.session fun session => { session with timeout := .finished } }
    else none
  | .stopped _ answer, .stopping _ =>
    match answer with
    | .ok info => some (s.setPc h handler (.responding (.ok (.stopped info))))
    | .error e => some (s.setPc h handler (.responding (.failed s!"stop failed: {e.text}")))
  | .status _, .arrived (.status id) =>
    if s.lock = none then
      some { s.setPc h handler (.responding (.ok (s.statusOf id).1)) with
        lock := some h
        reports := s.reports ++ (s.statusOf id).2 }
    else none
  | .ends _, .responding _ =>
    some { s.setPc h handler .ended with lock := if s.lock = some h then none else s.lock }
  | _, _ => none

/-- The handler of an event. -/
def AgentEvent.handler : AgentEvent → Option Nat
  | .connect .. => none
  | .resolve h .. => some h
  | .check h => some h
  | .start h .. => some h
  | .clock h _ => some h
  | .insert h => some h
  | .stop h => some h
  | .stopped h _ => some h
  | .status h => some h
  | .ends h => some h
  | .forward _ => none
  | .timeout _ => none

/-- The external shutdown sender of a session is dropped when its handler ends, which wakes the forwarder. -/
def AgentServer.wakes (s : AgentServer) (session : AgentSession) : Bool :=
  !session.forwarded && s.handlers[session.owner]?.any (·.pc = .ended)

def agentStep (s : AgentServer) (e : AgentEvent) : Option AgentServer :=
  match e with
  | .connect origin cmd => some { s with handlers := s.handlers ++ [⟨origin, .arrived cmd⟩] }
  | .forward k =>
    if s.sessions[k]?.any s.wakes then
      some { s with sessions := s.tell k fun session => { session with forwarded := true } }
    else none
  | .timeout k =>
    if s.sessions[k]?.any (·.timeout = .asleep) then
      some { s with sessions := s.tell k fun session => { session with timeout := .finished } }
    else none
  | e =>
    match e.handler with
    | none => none
    | some h =>
      match s.handlers[h]? with
      | none => none
      | some handler => handlerStep s h handler e

/-- The server, from its start in any environment and with any files on disk. -/
def agentSystem : EventSystem AgentServer AgentEvent where
  init s := ∃ env files, s = ⟨env, files, [], none, [], [], []⟩
  step := agentStep

/-! ## What one step does -/

/-- A Start that passed the rate limit's check and has not inserted its session. -/
def HandlerPc.inFlight : HandlerPc → Bool
  | .starting _ => true
  | .started .. => true
  | .inserting .. => true
  | _ => false

/-- The request of a Start that has resolved its path and not opened it. -/
def HandlerPc.request : HandlerPc → Option StartRequest
  | .checking request => some request
  | .starting request => some request
  | _ => none

/-- A response is on its way. -/
def HandlerPc.answers : HandlerPc → Bool
  | .responding _ => true
  | _ => false

/-- The steps of the server, with what they need and what they leave; `aside` is a step of a handler that has not
responded and has no Start in flight, neither before nor after. -/
inductive AgentServer.Moves (s : AgentServer) : AgentEvent → AgentServer → Prop where
  | connected (origin : String) (cmd : Command) :
      s.Moves (.connect origin cmd) { s with handlers := s.handlers ++ [⟨origin, .arrived cmd⟩] }
  | resolved {h : Nat} {handler : Handler} {clock : Nat → LocalTime} {created : Except String Unit} {c : StartCommand}
      {request : StartRequest} (there : s.handlers[h]? = some handler) (at_arrived : handler.pc = .arrived (.start c))
      (found : startRequest s.env clock s.files created c = .ok request) :
      s.Moves (.resolve h clock created) (s.setPc h handler (.checking request))
  | aside {e : AgentEvent} {h : Nat} {handler : Handler} (pc : HandlerPc) (lock : Option Nat)
      (there : s.handlers[h]? = some handler) (before : handler.pc.inFlight = false) (after : pc.inFlight = false)
      (unanswered : handler.pc.answers = false) (unopened : pc.request = none) : s.Moves e { s.setPc h handler pc with lock }
  | passed {h : Nat} {handler : Handler} {request : StartRequest} (there : s.handlers[h]? = some handler)
      (at_checking : handler.pc = .checking request) (room : s.hasRoom handler.origin = true) :
      s.Moves (.check h) (s.setPc h handler (.starting request))
  | failed {h : Nat} {handler : Handler} {request : StartRequest} {opened : Bool} {answer : Except EncodeError Unit}
      (there : s.handlers[h]? = some handler) (at_starting : handler.pc = .starting request) :
      s.Moves (.start h opened answer) { s.setPc h handler .ended with
        files := if opened then components request.path :: s.files else s.files }
  | began {h : Nat} {handler : Handler} {request : StartRequest} {opened : Bool} {answer : Except EncodeError Unit}
      (there : s.handlers[h]? = some handler) (at_starting : handler.pc = .starting request) :
      s.Moves (.start h opened answer) { s.setPc h handler (.started s.sessions.length request.path) with
        files := components request.path :: s.files
        sessions := s.sessions ++ [⟨h, request, false, .unset, false⟩] }
  | clocked {h k : Nat} {handler : Handler} {path : String} {millis : Int} (there : s.handlers[h]? = some handler)
      (at_started : handler.pc = .started k path) :
      s.Moves (.clock h millis) { s.setPc h handler (.inserting k s!"session-{millis}" path) with
        sessions := s.sessions.modify k fun session => { session with timeout := .asleep } }
  | inserted {h k : Nat} {handler : Handler} {id path : String} (there : s.handlers[h]? = some handler)
      (at_inserting : handler.pc = .inserting k id path) :
      s.Moves (.insert h) { s.setPc h handler (.responding (.ok (.started id path))) with
        map := s.inserted id ⟨handler.origin, k⟩ }
  | removed {h : Nat} {handler : Handler} {id : String} {rs : RecordingSessionHandle}
      (there : s.handlers[h]? = some handler) (at_arrived : handler.pc = .arrived (.stop id))
      (found : s.lookup id = some rs) : s.Moves (.stop h) { s.setPc h handler (.stopping rs.session) with
        lock := some h
        map := s.removed id
        sessions := s.tell rs.session fun session => { session with timeout := .finished } }
  | reported {h : Nat} {handler : Handler} {id : Option String} (there : s.handlers[h]? = some handler)
      (at_arrived : handler.pc = .arrived (.status id)) :
      s.Moves (.status h) { s.setPc h handler (.responding (.ok (s.statusOf id).1)) with
        lock := some h
        reports := s.reports ++ (s.statusOf id).2 }
  | finished {h : Nat} {handler : Handler} {response : Response} (lock : Option Nat)
      (there : s.handlers[h]? = some handler) (at_responding : handler.pc = .responding response) :
      s.Moves (.ends h) { s.setPc h handler .ended with lock }
  | forwarded {k : Nat} {session : AgentSession} (there : s.sessions[k]? = some session)
      (wakes : s.wakes session = true) :
      s.Moves (.forward k) { s with sessions := s.tell k fun session => { session with forwarded := true } }
  | timedOut {k : Nat} {session : AgentSession} (there : s.sessions[k]? = some session) :
      s.Moves (.timeout k) { s with sessions := s.tell k fun session => { session with timeout := .finished } }

theorem AgentServer.moves_of_handlerStep {s t : AgentServer} {h : Nat} {handler : Handler} {e : AgentEvent}
    (there : s.handlers[h]? = some handler) (mine : e.handler = some h) (step : handlerStep s h handler e = some t) :
    s.Moves e t := by
  obtain ⟨origin, pc⟩ := handler
  cases e with
  | connect origin cmd => cases mine
  | forward k => cases mine
  | timeout k => cases mine
  | resolve h' clock created =>
    cases pc with
    | arrived cmd =>
      cases cmd with
      | start c =>
        dsimp only [handlerStep] at step
        split at step
        · cases step
          exact .aside _ s.lock there rfl rfl rfl rfl
        · rename_i request found
          cases step
          cases mine
          exact .resolved there rfl found
      | _ => cases step
    | _ => cases step
  | check h' =>
    cases mine
    cases pc with
    | checking request =>
      obtain ⟨-, step⟩ := Option.ite_none_right_eq_some.1 step
      split at step
      · rename_i room
        cases step
        exact .passed there rfl room
      · cases step
        exact .aside _ _ there rfl rfl rfl rfl
    | _ => cases step
  | start h' opened answer =>
    cases mine
    cases pc with
    | starting request =>
      cases answer with
      | error e =>
        cases step
        exact .failed there rfl
      | ok _ =>
        cases step
        exact .began there rfl
    | _ => cases step
  | clock h' millis =>
    cases mine
    cases pc with
    | started k path =>
      cases step
      exact .clocked there rfl
    | _ => cases step
  | insert h' =>
    cases mine
    cases pc with
    | inserting k id path =>
      obtain ⟨-, step⟩ := Option.ite_none_right_eq_some.1 step
      cases step
      exact .inserted there rfl
    | _ => cases step
  | stop h' =>
    cases mine
    cases pc with
    | arrived cmd =>
      cases cmd with
      | stop id =>
        obtain ⟨-, step⟩ := Option.ite_none_right_eq_some.1 step
        split at step
        · cases step
          exact .aside _ _ there rfl rfl rfl rfl
        · rename_i rs found
          cases step
          exact .removed there rfl found
      | _ => cases step
    | _ => cases step
  | stopped h' answer =>
    cases pc with
    | stopping k =>
      cases answer with
      | ok info =>
        cases step
        exact .aside _ s.lock there rfl rfl rfl rfl
      | error e =>
        cases step
        exact .aside _ s.lock there rfl rfl rfl rfl
    | _ => cases step
  | status h' =>
    cases mine
    cases pc with
    | arrived cmd =>
      cases cmd with
      | status id =>
        obtain ⟨-, step⟩ := Option.ite_none_right_eq_some.1 step
        cases step
        exact .reported there rfl
      | _ => cases step
    | _ => cases step
  | ends h' =>
    cases mine
    cases pc with
    | responding response =>
      cases step
      exact .finished _ there rfl
    | _ => cases step

/-- A step of a handler is taken where the handler is. -/
theorem handlerStep_of_agentStep {s t : AgentServer} {e : AgentEvent} {h : Nat} (mine : e.handler = some h)
    (step : agentStep s e = some t) : ∃ handler, s.handlers[h]? = some handler ∧ handlerStep s h handler e = some t := by
  have here : (match s.handlers[h]? with
      | none => none
      | some handler => handlerStep s h handler e) = some t := by
    cases e with
    | connect | forward | timeout => cases mine
    | _ =>
      cases mine
      exact step
  cases there : s.handlers[h]? with
  | none =>
    rw [there] at here
    cases here
  | some handler =>
    rw [there] at here
    exact ⟨handler, rfl, here⟩

theorem AgentServer.moves_of_step {s t : AgentServer} {e : AgentEvent} (step : agentStep s e = some t) :
    s.Moves e t := by
  have by_handler (h : Nat) (mine : e.handler = some h) : s.Moves e t := by
    obtain ⟨handler, there, step⟩ := handlerStep_of_agentStep mine step
    exact moves_of_handlerStep there mine step
  cases e with
  | connect origin cmd =>
    cases step
    exact .connected origin cmd
  | forward k =>
    obtain ⟨wakes, step⟩ := Option.ite_none_right_eq_some.1 step
    obtain ⟨session, there, wakes⟩ := (Option.any_eq_true _ _).1 wakes
    cases step
    exact .forwarded there wakes
  | timeout k =>
    obtain ⟨asleep, step⟩ := Option.ite_none_right_eq_some.1 step
    obtain ⟨session, there, -⟩ := (Option.any_eq_true _ _).1 asleep
    cases step
    exact .timedOut there
  | _ => exact by_handler _ rfl

end StereoMix.Encode
