/-
This file holds sessions with a database server: one connection that is opened and closed, and
the statements that are sent over it.

A session owns at most one connection. Opening an open session and closing a closed one do
nothing. A session that was given a connection knows no url, so once it is closed it cannot be
opened again. A statement is written completely before anything is sent; one that cannot be
written is never sent, and one that is sent while the session is closed fails there.

The server is the in-memory one that records are tried out against. It keeps the answers it was
told to give, one for each statement, and the failures it was told to report. Everything that
reaches it is noted in order.
-/

import SqlRecords.Session.Results
import SqlRecords.Sql.Modify
import SqlRecords.Sql.Select
import SqlRecords.Text.Excerpt

namespace SqlRecords

/-! ### Drivers and servers -/

/-- A way to talk to servers: its name, which is also the scheme of its urls, and the dialect its
servers read. -/
structure Driver where
  name : String
  dialect : Dialect
deriving DecidableEq, Repr

/-- The driver of the in-memory server. -/
def Driver.recording (dialect : Dialect) : Driver :=
  ⟨"recording", dialect⟩

/-- What the in-memory server was told to do. -/
structure Server where
  /-- the answers to the next statements -/
  queue : List (List Answer)
  /-- how the next connection attempt fails, if it does -/
  connectError : Option String
  /-- how the next disconnection fails, if it does -/
  disconnectError : Option String

/-- A server that was told nothing. -/
def Server.fresh : Server :=
  ⟨[], none, none⟩

/-- The answer to a statement for which none was queued. -/
def Server.defaultAnswer : List Answer :=
  [.ok (.affected .none)]

/-- What reaches a server. -/
inductive Event where
  | connect (url : String)
  | disconnect (url : String)
  | statement (sql : String)
deriving DecidableEq, Repr

/-! ### Sessions -/

/-- A session, with the server it talks to, everything that reached the server and the log. -/
structure Session where
  driver : Driver
  /-- the url to connect to, if the session knows one -/
  url : Option String
  /-- the url of the open connection, if there is one -/
  connection : Option String
  server : Server
  events : List Event
  log : List LogEntry

/-- A step of work in a session. The session as it is at a failure is kept. -/
abbrev Work := ExceptT Error (StateM Session)

namespace Session

/-- A session over a connection that is already open. -/
def ofConnection (driver : Driver) (connection : String) (server : Server) : Session :=
  ⟨driver, none, some connection, server, [], []⟩

/-- A closed session that connects to a url when it is opened. -/
def ofUrl (driver : Driver) (url : String) (server : Server) : Session :=
  ⟨driver, some url, none, server, [], []⟩

/-- A closed session that connects to an endpoint when it is opened. -/
def ofEndpoint (driver : Driver) (endpoint : Endpoint) (server : Server) : Except Error Session :=
  (endpoint.toUrl driver.name).map (fun url => ofUrl driver url.text server)
    |>.mapError Error.endpoint

/-- Whether a session is open. -/
def isOpen (session : Session) : Bool :=
  session.connection.isSome

/-! ### Opening and closing -/

/-- Adds a line to the log. -/
def note (level : LogLevel) (text : String) : Work Unit :=
  modify fun session => { session with log := session.log ++ [⟨level, text⟩] }

/-- Adds lines to the log. -/
def noteAll (entries : List LogEntry) : Work Unit :=
  modify fun session => { session with log := session.log ++ entries }

/-- Connects to a url. The failure the server was told to report is used up. -/
def connect (url : String) : Work Unit := do
  let session ← get
  let attempted := { session with events := session.events ++ [Event.connect url] }
  match session.server.connectError with
  | some text =>
    set { attempted with server := { session.server with connectError := none } }
    throw (.remote text)
  | none => set { attempted with connection := some url }

/-- Opens a session. -/
def openConnection : Work Unit := do
  let session ← get
  if session.isOpen then
    return
  match session.url with
  | none => throw (.missingArgument "url")
  | some url =>
    note .debug ("Opening a " ++ session.driver.name ++ " connection")
    connect url

/-- Closes a session. It is closed even when the disconnection fails; the failure the server was
told to report is used up. -/
def closeConnection : Work Unit := do
  let session ← get
  match session.connection with
  | none => return
  | some url =>
    let closed := { session with
      connection := none
      events := session.events ++ [Event.disconnect url]
      server := { session.server with disconnectError := none } }
    set closed
    match session.server.disconnectError with
    | some text => throw (.remote text)
    | none => return

/-! ### Statements -/

/-- Sends a statement and takes the answer that the server was told to give next. -/
def send (sql : String) : Work (List Answer) := do
  let session ← get
  if session.isOpen then
    set { session with
      events := session.events ++ [Event.statement sql]
      server := { session.server with queue := session.server.queue.tail } }
    return session.server.queue.headD Server.defaultAnswer
  else
    note .error Error.connectionClosed.message
    return [.error .connectionClosed]

/-- Writes a statement, or fails without sending anything. -/
def compose (writer : Dialect → Writer Unit) (written : List LogEntry) : Work String := do
  let session ← get
  match (writer session.driver.dialect).toText with
  | .ok sql =>
    noteAll written
    note .debug (Text.excerpt sql)
    return sql
  | .error error =>
    noteAll error.log
    throw (.statement error)

/-- Lifts a result into the work of a session. -/
def liftResult {Result : Type} (result : Except Error Result) : Work Result :=
  match result with
  | .ok value => return value
  | .error error => throw error

/-- Sends a statement that changes rows. -/
def execute (sql : String) : Work RowsAffected := do
  liftResult (Answer.affected (← send sql))

/-- Sends a query and builds the records of its answer, at most a number of them. The records
end with the first error. -/
def fetchSome (query : Query) (most : Option Nat) :
    Work (List (Except Error (List Value))) := do
  let sql ← compose (·.writeQuery query) []
  let rows := Answer.rows (← send sql)
  let records := untilError (query.source.materializeAll rows)
  let pulled := match most with
    | some most => records.take most
    | none => records
  noteAll (query.source.materializeAllLog (rows.take pulled.length))
  return pulled

/-- Fetches the records of a query, at most a number of them. Nothing happens when none is asked
for. A query that cannot be written gives its error in place of records. -/
def fetch (query : Query) (most : Option Nat) : Work (List (Except Error (List Value))) :=
  if most = some 0 then
    return []
  else
    tryCatch (fetchSome query most) fun error => return [.error error]

/-- Fetches the number of records of a query. -/
def fetchCount (query : Query) : Work Nat := do
  let sql ← compose (·.writeQuery query.count) []
  liftResult (Answer.number (← send sql))

/-- Inserts records. -/
def insert (table : Table) (rows : List (List Value)) : Work RowsAffected := do
  execute (← compose (·.writeInsert table rows) [])

/-- Inserts the records that pass a test. -/
def insertWhere (table : Table) (rows : List (List Value)) (keep : List Value → Bool) :
    Work RowsAffected :=
  insert table (rows.filter keep)

/-- Updates a record. -/
def update (table : Table) (row : List Value) : Work RowsAffected := do
  execute (← compose (·.writeUpdate table row) table.updateLog)

/-- Deletes a record. -/
def delete (table : Table) (row : List Value) : Work RowsAffected := do
  execute (← compose (·.writeDelete table row) [])

/-! ### Steps -/

/-- What can be done with a session, and what its server can be told in between. -/
inductive Step where
  | queueAnswer (items : List Answer)
  | failConnect (text : String)
  | failDisconnect (text : String)
  | openConnection
  | closeConnection
  | url
  | run (sql : String)
  | rows (sql : String)
  | execute (sql : String)
  | scalar (sql : String)
  | fetch (query : Query) (most : Option Nat)
  | count (query : Query)
  | insert (table : Table) (rows : List (List Value))
  | insertWhere (table : Table) (rows : List (List Value)) (column : Nat) (equals : Value)
  | update (table : Table) (row : List Value)
  | delete (table : Table) (row : List Value)

/-- What a step gives. -/
inductive Outcome where
  | done
  | url (url : Option String)
  | answers (items : List Answer)
  | rows (items : List (Except Error ResultRow))
  | records (items : List (Except Error (List Value)))
  | affected (counts : RowsAffected)
  | value (value : Value)
  | number (number : Nat)

/-- Whether a row has a value at a position that equals a given one. -/
def hasValueAt (position : Nat) (value : Value) (row : List Value) : Bool :=
  match row[position]? with
  | some found => found.same value
  | none => false

/-- Does a step. -/
def perform : Step → Work Outcome
  | .queueAnswer items => do
    modify fun session =>
      { session with server := { session.server with queue := session.server.queue ++ [items] } }
    return .done
  | .failConnect text => do
    modify fun session =>
      { session with server := { session.server with connectError := some text } }
    return .done
  | .failDisconnect text => do
    modify fun session =>
      { session with server := { session.server with disconnectError := some text } }
    return .done
  | .openConnection => do
    openConnection
    return .done
  | .closeConnection => do
    closeConnection
    return .done
  | .url => return .url (← get).connection
  | .run sql => return .answers (← send sql)
  | .rows sql => return .rows (Answer.rows (← send sql))
  | .execute sql => return .affected (← execute sql)
  | .scalar sql => return .value (← liftResult (Answer.scalar (← send sql)))
  | .fetch query most => return .records (← fetch query most)
  | .count query => return .number (← fetchCount query)
  | .insert table rows => return .affected (← insert table rows)
  | .insertWhere table rows column equals =>
    return .affected (← insertWhere table rows (hasValueAt column equals))
  | .update table row => return .affected (← update table row)
  | .delete table row => return .affected (← delete table row)

/-- Does a step in a session and gives the session after it. -/
def step (session : Session) (step : Step) : Except Error Outcome × Session :=
  (perform step).run.run session

end Session

end SqlRecords
