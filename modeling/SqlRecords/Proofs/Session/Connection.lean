/-
This file says that a session owns at most one connection, over every run. A session begins over
a connection it is given, closed, or opened once, and does any steps after that, while the server
refuses any connection or disconnection it likes.

What each step does to the connection is said first: opening and closing exactly, and all other
steps together, which leave the connection alone and send statements at most. What a whole run
does follows by induction on its steps. The connections that are made and released are read off
what reached the server, apart from the session, so that what the session holds can be compared
with them.
-/

import SqlRecords.Proofs.Session.Submission

namespace SqlRecords

namespace Session

/-! ### Steps that leave the connection alone -/

/-- Whether nothing but statements reached the server between two moments of a session. -/
structure OnlySends (before after : Session) : Prop where
  url : after.url = before.url
  connection : after.connection = before.connection
  events : ∃ sent : List String, after.events = before.events ++ sent.map .statement

theorem OnlySends.of_events_eq {before after : Session} (url : after.url = before.url)
    (connection : after.connection = before.connection) (events : after.events = before.events) :
    OnlySends before after :=
  ⟨url, connection, [], events.trans (List.append_nil _).symm⟩

theorem OnlySends.refl (session : Session) : OnlySends session session :=
  .of_events_eq rfl rfl rfl

theorem OnlySends.trans {first second third : Session} (early : OnlySends first second)
    (late : OnlySends second third) : OnlySends first third := by
  obtain ⟨sent, earlier⟩ := early.events
  obtain ⟨more, later⟩ := late.events
  refine ⟨late.url.trans early.url, late.connection.trans early.connection, sent ++ more, ?_⟩
  rw [later, earlier, List.map_append, List.append_assoc]

section KeepsConnection

variable {First Second : Type}

/-- Whether work sends statements at most. -/
def KeepsConnection (work : Work First) : Prop :=
  ∀ session, OnlySends session (work.run.run session).2

theorem keepsConnection_pure (value : First) : KeepsConnection (pure value) :=
  OnlySends.refl

theorem KeepsConnection.bind {work : Work First} {next : First → Work Second}
    (first : KeepsConnection work) (second : ∀ value, KeepsConnection (next value)) :
    KeepsConnection (work >>= next) := by
  intro session
  have early := first session
  cases ran : work.run.run session with
  | mk result between =>
    rw [ran] at early
    cases result with
    | ok value => rw [run_bind_of_ok next ran]; exact early.trans (second value between)
    | error error => rw [run_bind_of_error next ran]; exact early

theorem KeepsConnection.tryCatch {work : Work First} {handle : Error → Work First}
    (first : KeepsConnection work) (second : ∀ error, KeepsConnection (handle error)) :
    KeepsConnection (tryCatch work handle) := by
  intro session
  have early := first session
  cases ran : work.run.run session with
  | mk result between =>
    rw [ran] at early
    cases result with
    | ok value => rw [run_tryCatch_of_ok handle ran]; exact early
    | error error =>
      rw [run_tryCatch_of_error handle ran]
      exact early.trans (second error between)

theorem keepsConnection_tell (change : Server → Server) :
    KeepsConnection
      (modify fun session => { session with server := change session.server } : Work Unit) :=
  fun _ => .of_events_eq rfl rfl rfl

theorem keepsConnection_noteAll (entries : List LogEntry) : KeepsConnection (noteAll entries) :=
  fun _ => .of_events_eq rfl rfl rfl

theorem keepsConnection_liftResult (result : Except Error First) :
    KeepsConnection (liftResult result) := by
  intro session
  rw [run_liftResult]
  exact .refl session

end KeepsConnection

theorem keepsConnection_compose (writer : Dialect → Writer Unit) (entries : List LogEntry) :
    KeepsConnection (compose writer entries) := by
  intro session
  cases written : (writer session.driver.dialect).toText with
  | ok sql =>
    obtain ⟨log, composed⟩ := run_compose_of_ok written entries
    rw [composed]
    exact .of_events_eq rfl rfl rfl
  | error reason =>
    obtain ⟨log, composed⟩ := run_compose_of_error written entries
    rw [composed]
    exact .of_events_eq rfl rfl rfl

theorem keepsConnection_send (sql : String) : KeepsConnection (send sql) := by
  intro session
  cases opened : session.isOpen with
  | true =>
    rw [run_send_of_open session opened]
    exact ⟨rfl, rfl, [sql], rfl⟩
  | false =>
    obtain ⟨log, sent⟩ := run_send_of_closed session opened sql
    rw [sent]
    exact .of_events_eq rfl rfl rfl

theorem keepsConnection_execute (sql : String) : KeepsConnection (execute sql) :=
  (keepsConnection_send sql).bind fun _ => keepsConnection_liftResult _

theorem keepsConnection_fetch (query : Query) (most : Option Nat) :
    KeepsConnection (fetch query most) := by
  have some : KeepsConnection (fetchSome query most) :=
    (keepsConnection_compose _ _).bind fun sql => (keepsConnection_send sql).bind fun _ =>
      (keepsConnection_noteAll _).bind fun _ => keepsConnection_pure _
  rw [fetch]
  split
  · exact keepsConnection_pure _
  · exact some.tryCatch fun _ => keepsConnection_pure _

theorem keepsConnection_composed {First : Type} {next : String → Work First}
    (keeps : ∀ sql, KeepsConnection (next sql)) (writer : Dialect → Writer Unit)
    (entries : List LogEntry) : KeepsConnection (compose writer entries >>= next) :=
  (keepsConnection_compose writer entries).bind keeps

theorem keepsConnection_perform {step : Step} (notOpen : step ≠ .openConnection)
    (notClose : step ≠ .closeConnection) : KeepsConnection (perform step) := by
  have giving {Result : Type} {work : Work Result} (outcome : Result → Outcome)
      (keeps : KeepsConnection work) :
      KeepsConnection (work >>= fun result => pure (outcome result)) :=
    keeps.bind fun _ => keepsConnection_pure _
  have changing := keepsConnection_composed keepsConnection_execute
  cases step with
  | openConnection => exact absurd rfl notOpen
  | closeConnection => exact absurd rfl notClose
  | queueAnswer items =>
    exact giving (fun _ => .done)
      (keepsConnection_tell fun server => { server with queue := server.queue ++ [items] })
  | failConnect text =>
    exact giving (fun _ => .done)
      (keepsConnection_tell fun server => { server with connectError := some text })
  | failDisconnect text =>
    exact giving (fun _ => .done)
      (keepsConnection_tell fun server => { server with disconnectError := some text })
  | url => exact OnlySends.refl
  | run sql => exact giving .answers (keepsConnection_send sql)
  | rows sql => exact giving _ (keepsConnection_send sql)
  | execute sql => exact giving .affected (keepsConnection_execute sql)
  | scalar sql =>
    exact (keepsConnection_send sql).bind fun _ => giving .value (keepsConnection_liftResult _)
  | fetch query most => exact giving .records (keepsConnection_fetch query most)
  | count query =>
    exact giving .number <| keepsConnection_composed
      (fun sql => (keepsConnection_send sql).bind fun _ => keepsConnection_liftResult _) _ _
  | insert table rows => exact giving .affected (changing _ _)
  | insertWhere table rows column equals => exact giving .affected (changing _ _)
  | update table row => exact giving .affected (changing _ _)
  | delete table row => exact giving .affected (changing _ _)

theorem onlySends_step (session : Session) {step : Step} (notOpen : step ≠ .openConnection)
    (notClose : step ≠ .closeConnection) : OnlySends session (session.step step).2 :=
  keepsConnection_perform notOpen notClose session

/-! ### Opening and closing -/

theorem isOpen_eq_false_iff (session : Session) :
    session.isOpen = false ↔ session.connection = none := by
  rw [isOpen, Option.isSome_eq_false_iff, Option.isNone_iff_eq_none]

section Opening

variable {session : Session}

theorem step_openConnection_of_open (opened : session.isOpen = true) :
    session.step .openConnection = (.ok .done, session) := by
  have ran : openConnection.run.run session = (.ok (), session) := by
    rw [openConnection, run_bind_of_ok _ (run_get session), if_pos opened]
    rfl
  exact run_bind_of_ok _ ran

theorem step_openConnection_of_unknown (closed : session.isOpen = false)
    (unknown : session.url = none) :
    session.step .openConnection = (.error (.missingArgument "url"), session) := by
  have ran : openConnection.run.run session = (.error (.missingArgument "url"), session) := by
    rw [openConnection, run_bind_of_ok _ (run_get session), closed, unknown]
    rfl
  exact run_bind_of_error _ ran

/-- A session after a connection to a url was attempted. -/
def attempted (session : Session) (url : String) : Session :=
  let willing := session.server.connectError.isNone
  { session with
    connection := if willing then some url else none
    events := session.events ++ [.connect url]
    server := { session.server with connectError := none } }

/-- The result of a request to the server that it may have been told to refuse. -/
def refusal : Option String → Except Error Outcome
  | some text => .error (.remote text)
  | none => .ok .done

theorem step_openConnection_of_known {url : String} (closed : session.isOpen = false)
    (known : session.url = some url) :
    ∃ log, session.step .openConnection =
      (refusal session.server.connectError, { session.attempted url with log := log }) := by
  obtain ⟨driver, _, connection, ⟨queue, connectError, disconnectError⟩, events, log⟩ := session
  obtain rfl : connection = none := (isOpen_eq_false_iff _).mp closed
  subst known
  cases connectError <;> exact ⟨_, rfl⟩

theorem step_closeConnection_of_closed (closed : session.isOpen = false) :
    session.step .closeConnection = (.ok .done, session) := by
  obtain ⟨driver, url, connection, server, events, log⟩ := session
  obtain rfl : connection = none := (isOpen_eq_false_iff _).mp closed
  rfl

/-- A session after its connection was released. -/
def released (session : Session) (url : String) : Session :=
  { session with
    connection := none
    events := session.events ++ [.disconnect url]
    server := { session.server with disconnectError := none } }

theorem step_closeConnection_of_open {url : String} (held : session.connection = some url) :
    session.step .closeConnection =
      (refusal session.server.disconnectError, session.released url) := by
  obtain ⟨driver, _, connection, ⟨queue, connectError, disconnectError⟩, events, log⟩ := session
  subst held
  cases disconnectError <;> rfl

end Opening

/-! ### What a step does to the connection -/

/-- What reaches the server in a step. -/
def arrivals (session : Session) (step : Step) : List Event :=
  (session.step step).2.events.drop session.events.length

/-- The steps of a session, with what reaches the server in each and the connection after it. -/
inductive Move (session : Session) : Step → List Event → Option String → Prop where
  | sends {step : Step} (sent : List String) (notOpen : step ≠ .openConnection)
      (notClose : step ≠ .closeConnection) :
      Move session step (sent.map .statement) session.connection
  | keepsOpen (opened : session.isOpen = true) :
      Move session .openConnection [] session.connection
  | knowsNoUrl (closed : session.isOpen = false) (unknown : session.url = none) :
      Move session .openConnection [] session.connection
  | attempts {url : String} (closed : session.isOpen = false) (known : session.url = some url) :
      Move session .openConnection [.connect url] (session.attempted url).connection
  | keepsClosed (closed : session.isOpen = false) :
      Move session .closeConnection [] session.connection
  | releases {url : String} (held : session.connection = some url) :
      Move session .closeConnection [.disconnect url] none

theorem exists_move (session : Session) (step : Step) :
    ∃ sent, (session.step step).2.url = session.url ∧
      (session.step step).2.events = session.events ++ sent ∧
      Move session step sent (session.step step).2.connection := by
  by_cases opening : step = .openConnection
  · subst opening
    cases opened : session.isOpen with
    | true =>
      rw [step_openConnection_of_open opened]
      exact ⟨[], rfl, (List.append_nil _).symm, .keepsOpen opened⟩
    | false =>
      cases known : session.url with
      | none =>
        rw [step_openConnection_of_unknown opened known]
        exact ⟨[], known, (List.append_nil _).symm, .knowsNoUrl opened known⟩
      | some url =>
        obtain ⟨log, stepped⟩ := step_openConnection_of_known opened known
        rw [stepped]
        exact ⟨[.connect url], known, rfl, .attempts opened known⟩
  by_cases closing : step = .closeConnection
  · subst closing
    cases held : session.connection with
    | none =>
      have closed : session.isOpen = false := (isOpen_eq_false_iff session).mpr held
      rw [step_closeConnection_of_closed closed]
      exact ⟨[], rfl, (List.append_nil _).symm, .keepsClosed closed⟩
    | some url =>
      rw [step_closeConnection_of_open held]
      exact ⟨[.disconnect url], rfl, rfl, .releases held⟩
  · obtain ⟨url, connection, sent, events⟩ := onlySends_step session opening closing
    exact ⟨sent.map .statement, url, events, connection ▸ .sends sent opening closing⟩

theorem arrivals_eq {session : Session} {step : Step} {sent : List Event}
    (events : (session.step step).2.events = session.events ++ sent) :
    session.arrivals step = sent := by
  rw [arrivals, events, List.drop_left]

theorem url_step (session : Session) (step : Step) : (session.step step).2.url = session.url := by
  obtain ⟨sent, url, events, move⟩ := exists_move session step
  exact url

theorem events_step (session : Session) (step : Step) :
    (session.step step).2.events = session.events ++ session.arrivals step := by
  obtain ⟨sent, url, events, move⟩ := exists_move session step
  rw [arrivals_eq events, events]

theorem move_step (session : Session) (step : Step) :
    Move session step (session.arrivals step) (session.step step).2.connection := by
  obtain ⟨sent, url, events, move⟩ := exists_move session step
  rwa [arrivals_eq events]

section Move

variable {session : Session} {step : Step} {sent : List Event} {connection : Option String}

theorem Move.of_connect (move : Move session step sent connection) {url : String}
    (connects : .connect url ∈ sent) :
    step = .openConnection ∧ session.isOpen = false ∧ session.url = some url := by
  cases move with
  | sends statements => simp at connects
  | attempts closed known =>
    obtain rfl : url = _ := by simpa using connects
    exact ⟨rfl, closed, known⟩
  | _ => simp at connects

theorem Move.stays_closed (move : Move session step sent connection)
    (closed : session.connection = none)
    (unknown : step = .openConnection → session.url = none) : connection = none := by
  cases move with
  | attempts _ known => rw [unknown rfl] at known; cases known
  | releases => rfl
  | _ => exact closed

end Move

/-! ### Connections made and released -/

/-- A change of what is connected. -/
inductive Link where
  | made (url : String)
  | released (url : String)
deriving DecidableEq

/-- What is connected after a change. A connection is made only where there is none, and only the
one that was made last is released. -/
def Link.follow : Option String → Link → Option (Option String)
  | none, made url => some (some url)
  | some url, released other => if other = url then some none else none
  | _, _ => none

/-- The connections that are made and released when something reaches a server. One that is asked
for is made unless the server was told to refuse it. -/
def links (server : Server) (sent : List Event) : List Link :=
  sent.filterMap fun event =>
    match event with
    | .connect url => if server.connectError.isNone then some (.made url) else none
    | .disconnect url => some (.released url)
    | .statement _ => none

theorem links_statements (server : Server) (sent : List String) :
    links server (sent.map .statement) = [] := by
  rw [links, List.filterMap_eq_nil_iff]
  intro event member
  obtain ⟨sql, -, rfl⟩ := List.mem_map.mp member
  rfl

theorem Move.follow {session : Session} {step : Step} {sent : List Event}
    {connection : Option String} (move : Move session step sent connection) :
    (links session.server sent).foldlM Link.follow session.connection = some connection := by
  cases move with
  | sends statements => rw [links_statements]; rfl
  | attempts closed known =>
    rw [attempted, (isOpen_eq_false_iff session).mp closed]
    cases refused : session.server.connectError <;> simp [links, refused, Link.follow]
  | releases held => simp [links, held, Link.follow]
  | _ => rfl

/-! ### Runs -/

/-- A session after steps. -/
def after (first : Session) (steps : List Step) : Session :=
  steps.foldl (fun session step => (session.step step).2) first

theorem after_append (first : Session) (earlier later : List Step) :
    first.after (earlier ++ later) = (first.after earlier).after later :=
  List.foldl_append

theorem url_after (first : Session) (steps : List Step) : (first.after steps).url = first.url := by
  induction steps generalizing first with
  | nil => rfl
  | cons step steps inductionHypothesis =>
    exact (inductionHypothesis (first.step step).2).trans (url_step first step)

theorem url_of_mem_events {first : Session}
    (begun : ∀ url, .connect url ∈ first.events → first.url = some url) (steps : List Step)
    {url : String} (connects : .connect url ∈ (first.after steps).events) :
    first.url = some url := by
  induction steps generalizing first with
  | nil => exact begun url connects
  | cons step steps inductionHypothesis =>
    rw [← url_step first step]
    refine inductionHypothesis (fun url connects => ?_) connects
    rw [url_step]
    rw [events_step] at connects
    rcases List.mem_append.mp connects with earlier | now
    · exact begun url earlier
    · exact ((move_step first step).of_connect now).2.2

theorem after_closed {first : Session} (closed : first.isOpen = false) {steps : List Step}
    (unknown : .openConnection ∈ steps → first.url = none) :
    (first.after steps).isOpen = false := by
  induction steps generalizing first with
  | nil => exact closed
  | cons step steps inductionHypothesis =>
    refine inductionHypothesis ?_ fun member => ?_
    · rw [isOpen_eq_false_iff] at closed ⊢
      exact (move_step first step).stays_closed closed fun opening =>
        unknown (opening ▸ List.mem_cons_self)
    · rw [url_step]
      exact unknown (List.mem_cons_of_mem step member)

/-- The connections made and released in a run. -/
def history (first : Session) : List Step → List Link
  | [] => []
  | step :: rest =>
    links first.server (first.arrivals step) ++ history (first.step step).2 rest

theorem follow_history (first : Session) (steps : List Step) :
    (first.history steps).foldlM Link.follow first.connection =
      some (first.after steps).connection := by
  induction steps generalizing first with
  | nil => rfl
  | cons step steps inductionHypothesis =>
    rw [history, List.foldlM_append, (move_step first step).follow]
    exact inductionHypothesis (first.step step).2

theorem Link.follow_eq_some_iff (before : Option String) (link : Link)
    (connection : Option String) :
    link.follow before = some connection ↔
      (∃ url, before = none ∧ link = .made url ∧ connection = some url) ∨
        ∃ url, before = some url ∧ link = .released url ∧ connection = none := by
  cases before <;> cases link <;> simp [follow, eq_comm]

theorem eq_some_iff_getLast?_eq_made {history : List Link} {connection : Option String}
    (followed : history.foldlM Link.follow none = some connection) (url : String) :
    connection = some url ↔ history.getLast? = some (.made url) := by
  rcases List.eq_nil_or_concat history with rfl | ⟨earlier, link, rfl⟩
  · obtain rfl : none = connection := Option.some.inj followed
    simp
  · rw [List.concat_eq_append, List.foldlM_append] at followed
    obtain ⟨between, -, last⟩ := Option.bind_eq_some_iff.mp followed
    have ended : link.follow between = some connection := by simpa using last
    rw [List.concat_eq_append, List.getLast?_concat]
    obtain ⟨other, -, rfl, rfl⟩ | ⟨other, -, rfl, rfl⟩ :=
      (Link.follow_eq_some_iff between link connection).mp ended
    · simp
    · simp

/-- The connections made and released in a run, the one at its beginning counted. -/
def wholeHistory (first : Session) (steps : List Step) : List Link :=
  first.connection.toList.map Link.made ++ first.history steps

theorem follow_wholeHistory (first : Session) (steps : List Step) :
    (first.wholeHistory steps).foldlM Link.follow none = some (first.after steps).connection := by
  have begun : (first.connection.toList.map Link.made).foldlM Link.follow none =
      some first.connection := by
    cases first.connection <;> rfl
  rw [wholeHistory, List.foldlM_append, begun]
  exact follow_history first steps

-- A refused connection, one that is made, a refused disconnection, and one more connection.
example :
    (Session.ofUrl (.recording .standard) "recording://h/d" ⟨[], some "busy", none⟩).wholeHistory
        [.openConnection, .openConnection, .run "SELECT 1", .failDisconnect "gone",
          .closeConnection, .closeConnection, .openConnection] =
      [.made "recording://h/d", .released "recording://h/d", .made "recording://h/d"] := rfl

/-! ### One connection at most -/

/-- The session owns at most one connection in every run: what a step may do to it after any
steps, and what the connections made and released in a run have to do with it. -/
structure OwnsOneConnection (first : Session) : Prop where
  /-- Only opening a closed session asks for a connection, to the url that the session knows. -/
  attempts : ∀ steps step url, .connect url ∈ (first.after steps).arrivals step →
    step = .openConnection ∧ (first.after steps).isOpen = false ∧ first.url = some url
  /-- All connections that were ever asked for go to the url that the session knows. -/
  sameUrl : ∀ steps url, .connect url ∈ (first.after steps).events → first.url = some url
  /-- Opening a closed session that knows a url asks for one connection each time. -/
  connects : ∀ steps url, first.url = some url → (first.after steps).isOpen = false →
    (first.after steps).arrivals .openConnection = [.connect url] ∧
      ((first.after steps).step .openConnection).1 =
        refusal (first.after steps).server.connectError ∧
      (first.after (steps ++ [.openConnection])).connection =
        if (first.after steps).server.connectError.isNone then some url else none
  /-- After a failure to open, the session is closed, and is opened by asking again. -/
  retries : ∀ steps between error,
    ((first.after steps).step .openConnection).1 = .error error → .openConnection ∉ between →
      (first.after (steps ++ .openConnection :: between)).isOpen = false ∧
      ∀ url, first.url = some url →
        (first.after (steps ++ .openConnection :: between)).arrivals .openConnection =
          [.connect url]
  /-- Opening an open session does nothing. -/
  keepsOpen : ∀ steps, (first.after steps).isOpen = true →
    (first.after steps).step .openConnection = (.ok .done, first.after steps)
  /-- Closing a closed session does nothing. -/
  keepsClosed : ∀ steps, (first.after steps).isOpen = false →
    (first.after steps).step .closeConnection = (.ok .done, first.after steps)
  /-- Closing an open session releases its connection, which may fail. -/
  releases : ∀ steps url, (first.after steps).connection = some url →
    (first.after steps).arrivals .closeConnection = [.disconnect url] ∧
      ((first.after steps).step .closeConnection).1 =
        refusal (first.after steps).server.disconnectError
  /-- After closing, the session is closed, whether or not that failed. -/
  closes : ∀ steps, (first.after (steps ++ [.closeConnection])).isOpen = false
  /-- Connections are made and released in turn, the one at the beginning counted, and what is
  left of them is what the session holds. -/
  alternates : ∀ steps,
    (first.wholeHistory steps).foldlM Link.follow none = some (first.after steps).connection
  /-- The session is open exactly if the last of them was made. -/
  openIff : ∀ steps, (first.after steps).isOpen = true ↔
    ∃ url, (first.wholeHistory steps).getLast? = some (.made url)

/-- The session never asks for a connection, and cannot be opened again after it is closed. -/
structure NeverConnects (first : Session) : Prop where
  attempts : ∀ steps url, .connect url ∉ (first.after steps).events
  staysClosed : ∀ steps later,
    (first.after (steps ++ .closeConnection :: later)).isOpen = false ∧
      ((first.after (steps ++ .closeConnection :: later)).step .openConnection).1 =
        .error (.missingArgument "url")

theorem arrivals_openConnection {session : Session} {url : String}
    (closed : session.isOpen = false) (known : session.url = some url) :
    session.arrivals .openConnection = [.connect url] := by
  obtain ⟨log, stepped⟩ := step_openConnection_of_known closed known
  exact arrivals_eq (by rw [stepped]; rfl)

theorem closed_of_openConnection_error {session : Session} {error : Error}
    (failed : (session.step .openConnection).1 = .error error) :
    (session.step .openConnection).2.isOpen = false := by
  cases opened : session.isOpen with
  | true => rw [step_openConnection_of_open opened] at failed; cases failed
  | false =>
    cases known : session.url with
    | none => rw [step_openConnection_of_unknown opened known]; exact opened
    | some url =>
      obtain ⟨log, stepped⟩ := step_openConnection_of_known opened known
      rw [stepped] at failed ⊢
      cases refused : session.server.connectError with
      | none => rw [refused] at failed; cases failed
      | some text => simp [isOpen, attempted, refused]

theorem closed_of_closeConnection (session : Session) :
    (session.step .closeConnection).2.isOpen = false := by
  cases held : session.connection with
  | none =>
    have closed := (isOpen_eq_false_iff session).mpr held
    rwa [step_closeConnection_of_closed closed]
  | some url => rw [step_closeConnection_of_open held]; rfl

theorem ownsOneConnection_of_begun {first : Session}
    (begun : ∀ url, .connect url ∈ first.events → first.url = some url) :
    OwnsOneConnection first where
  attempts steps step url connects := by
    rw [← url_after first steps]
    exact (move_step _ step).of_connect connects
  sameUrl steps url connects := url_of_mem_events begun steps connects
  connects steps url known closed := by
    rw [← url_after first steps] at known
    obtain ⟨log, stepped⟩ := step_openConnection_of_known closed known
    refine ⟨arrivals_openConnection closed known, by rw [stepped], ?_⟩
    rw [after_append]
    exact congrArg (fun ended => ended.2.connection) stepped
  retries steps between error failed idle := by
    have closed : (first.after (steps ++ .openConnection :: between)).isOpen = false := by
      rw [after_append]
      exact after_closed (closed_of_openConnection_error failed) fun member => absurd member idle
    refine ⟨closed, fun url known => arrivals_openConnection closed ?_⟩
    rwa [url_after]
  keepsOpen steps := step_openConnection_of_open
  keepsClosed steps := step_closeConnection_of_closed
  releases steps url held := by
    have stepped := step_closeConnection_of_open held
    exact ⟨arrivals_eq (by rw [stepped]; rfl), by rw [stepped]⟩
  closes steps := by
    rw [after_append]
    exact closed_of_closeConnection _
  alternates := follow_wholeHistory first
  openIff steps := by
    have holds := eq_some_iff_getLast?_eq_made (follow_wholeHistory first steps)
    rw [isOpen, Option.isSome_iff_exists]
    exact exists_congr holds

theorem neverConnects_of_begun {first : Session} (begun : ∀ url, .connect url ∉ first.events)
    (unknown : first.url = none) : NeverConnects first where
  attempts steps url connects := by
    have known := url_of_mem_events (fun url earlier => absurd earlier (begun url)) steps connects
    rw [unknown] at known
    cases known
  staysClosed steps later := by
    have closed : (first.after (steps ++ .closeConnection :: later)).isOpen = false := by
      rw [after_append]
      refine after_closed (closed_of_closeConnection _) fun _ => ?_
      rw [url_step, url_after, unknown]
    refine ⟨closed, ?_⟩
    rw [step_openConnection_of_unknown closed (by rw [url_after, unknown])]

/-! ### Beginnings -/

/-- The ways in which a session begins: over a connection, closed with a url or an endpoint, and
connected to an endpoint at once. -/
inductive Start where
  | ofConnection (connection : String)
  | ofUrl (url : String)
  | ofEndpoint (endpoint : Endpoint)
  | connect (endpoint : Endpoint)

/-- The session at the beginning. Where it is to be connected at once and that fails, there is
none. -/
def Start.session (driver : Driver) (server : Server) : Start → Except Error Session
  | ofConnection connection => .ok (Session.ofConnection driver connection server)
  | ofUrl url => .ok (Session.ofUrl driver url server)
  | ofEndpoint endpoint => Session.ofEndpoint driver endpoint server
  | connect endpoint => do
    let closed ← Session.ofEndpoint driver endpoint server
    let (result, opened) := closed.step .openConnection
    let _ ← result
    return opened

theorem exists_url_of_ofEndpoint {driver : Driver} {endpoint : Endpoint} {server : Server}
    {session : Session} (started : Session.ofEndpoint driver endpoint server = .ok session) :
    ∃ url, session = Session.ofUrl driver url server := by
  rw [Session.ofEndpoint] at started
  cases made : endpoint.toUrl driver.name with
  | error error => rw [made] at started; cases started
  | ok url =>
    rw [made] at started
    exact ⟨url.text, (Except.ok.inj started).symm⟩

theorem exists_url_of_connect {driver : Driver} {endpoint : Endpoint} {server : Server}
    {session : Session} (started : (Start.connect endpoint).session driver server = .ok session) :
    ∃ url, session.url = some url ∧ session.connection = some url ∧
      session.events = [.connect url] := by
  obtain ⟨closed, ended, opening⟩ := (bind_eq_ok_iff _ _ _).mp started
  obtain ⟨url, rfl⟩ := exists_url_of_ofEndpoint ended
  have isClosed : (Session.ofUrl driver url server).isOpen = false := rfl
  obtain ⟨log, stepped⟩ := step_openConnection_of_known isClosed rfl
  rw [stepped] at opening
  obtain ⟨_, willing, same⟩ := (bind_eq_ok_iff _ _ _).mp opening
  obtain rfl := Except.ok.inj same
  cases refused : server.connectError with
  | none => exact ⟨url, rfl, by simp [attempted, Session.ofUrl, refused], rfl⟩
  | some text =>
    have failed : refusal server.connectError = .ok _ := willing
    rw [refused] at failed
    cases failed

/-- A session that was not given its connection begins with one that it asked for, to the url that
it knows, or with none. -/
structure BeginsByItself (first : Session) : Prop where
  events : first.events = first.connection.toList.map .connect
  known : ∀ url, first.connection = some url → first.url = some url

theorem Start.beginsByItself {driver : Driver} {server : Server} {start : Start} {first : Session}
    (started : start.session driver server = .ok first)
    (asked : ∀ connection, start ≠ .ofConnection connection) : BeginsByItself first := by
  cases start with
  | ofConnection connection => exact absurd rfl (asked connection)
  | ofUrl url =>
    obtain rfl : Session.ofUrl driver url server = first := Except.ok.inj started
    exact ⟨rfl, nofun⟩
  | ofEndpoint endpoint =>
    obtain ⟨url, rfl⟩ := exists_url_of_ofEndpoint started
    exact ⟨rfl, nofun⟩
  | connect endpoint =>
    obtain ⟨url, known, held, events⟩ := exists_url_of_connect started
    exact ⟨by rw [held, events]; rfl, fun _ same => known.trans (held.symm.trans same)⟩

theorem BeginsByItself.begun {first : Session} (begins : BeginsByItself first) (url : String)
    (connects : .connect url ∈ first.events) : first.url = some url := by
  rw [begins.events] at connects
  obtain ⟨held, member, same⟩ := List.mem_map.mp connects
  obtain rfl := Event.connect.inj same
  exact begins.known held (Option.mem_toList.mp member)

/-- A session owns at most one connection, however it begins and whatever is done with it. -/
theorem ownsOneConnection (start : Start) (driver : Driver) (server : Server) (first : Session)
    (started : start.session driver server = .ok first) :
    OwnsOneConnection first ∧
      match start with
      | .ofConnection _ => NeverConnects first
      | _ => BeginsByItself first := by
  cases start with
  | ofConnection connection =>
    obtain rfl : Session.ofConnection driver connection server = first := Except.ok.inj started
    exact ⟨ownsOneConnection_of_begun fun _ => nofun,
      neverConnects_of_begun (fun _ => List.not_mem_nil) rfl⟩
  | _ =>
    have begins : BeginsByItself first := Start.beginsByItself started nofun
    exact ⟨ownsOneConnection_of_begun begins.begun, begins⟩

theorem ownsOneConnection_recording :
    (∃ first,
      (Start.ofUrl "recording://h/d").session (.recording .standard) ⟨[], some "busy", none⟩ =
        .ok first ∧ OwnsOneConnection first ∧ BeginsByItself first) ∧
    ∃ first,
      (Start.ofConnection "recording://h/d").session (.recording .mysql) .fresh = .ok first ∧
        OwnsOneConnection first ∧ NeverConnects first :=
  ⟨⟨_, rfl, ownsOneConnection (.ofUrl _) _ _ _ rfl⟩,
    ⟨_, rfl, ownsOneConnection (.ofConnection _) _ _ _ rfl⟩⟩

end Session

end SqlRecords
