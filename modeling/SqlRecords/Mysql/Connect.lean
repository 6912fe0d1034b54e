/-
This file checks the urls that a MySQL connection is made to, as far as that goes before the
server is asked.

A url has to begin with the name of the driver, has to be a url, has to name a host, and may
carry parameters in its query. Every parameter is known by its name and has a form of its own,
and the limits of the pool of connections must leave room for one. A url of another driver is
reported in the log.
-/

import SqlRecords.Endpoint
import SqlRecords.Log
import SqlRecords.Text.Excerpt
import SqlRecords.Text.Utf8

namespace SqlRecords.Mysql

/-! ### Parameters -/

/-- The forms of the values of parameters. -/
inductive ParameterForm where
  | word64
  | word32
  | boolean
  | compression
  | text
deriving DecidableEq, Repr

/-- The parameters that a url may carry. -/
def parameterForms : List (String × ParameterForm) :=
  [("pool_min", .word64), ("pool_max", .word64), ("inactive_connection_ttl", .word64),
    ("ttl_check_interval", .word64), ("conn_ttl", .word64), ("abs_conn_ttl", .word64),
    ("abs_conn_ttl_jitter", .word64), ("tcp_keepalive", .word32),
    ("max_allowed_packet", .word64), ("wait_timeout", .word64),
    ("enable_cleartext_plugin", .boolean), ("reset_connection", .boolean),
    ("tcp_nodelay", .boolean), ("stmt_cache_size", .word64), ("prefer_socket", .boolean),
    ("secure_auth", .boolean), ("client_found_rows", .boolean), ("socket", .text),
    ("compression", .compression), ("require_ssl", .boolean), ("verify_ca", .boolean),
    ("verify_identity", .boolean), ("built_in_roots", .boolean)]

/-- Whether a value has a form. -/
def ParameterForm.accepts (value : String) : ParameterForm → Bool
  | word64 => (Integer.ofText .uint64 value.toList).isOk
  | word32 => (Integer.ofText .uint32 value.toList).isOk
  | boolean => value == "true" || value == "false"
  | compression =>
    ["fast", "on", "true", "best", "0", "1", "2", "3", "4", "5", "6", "7", "8", "9"].contains value
  | text => true

/-- The parameters in a query, each with its value: pairs between ampersands, with plus signs
for blanks and percent-encoded bytes. -/
def parameters (query : List Char) : List (String × String) :=
  let decode (characters : List Char) : String :=
    let spaced := characters.map fun character => if character = '+' then ' ' else character
    Text.decodeUtf8Lossy (Url.decodeBytes spaced)
  let pairs := (Text.splitAt '&' query).filter (!·.isEmpty)
  pairs.map fun pair =>
    (decode (pair.takeWhile (· != '=')), decode ((pair.dropWhile (· != '=')).drop 1))

/-- The last number that a query gives for a parameter, or the number it has when none is
given. -/
def numberOf (name : String) (otherwise : Nat) (parameters : List (String × String)) : Nat :=
  let given := parameters.filterMap fun parameter =>
    if parameter.1 = name then (Integer.ofText .uint64 parameter.2.toList).toOption else none
  (given.getLast?.map fun number => number.value.toNat).getD otherwise

/-- The limits of the pool of connections. -/
structure PoolLimits where
  least : Nat
  greatest : Nat
deriving DecidableEq, Repr

/-- The limits that a query sets: from ten to a hundred connections when it does not say. -/
def poolLimits (parameters : List (String × String)) : PoolLimits :=
  ⟨numberOf "pool_min" 10 parameters, numberOf "pool_max" 100 parameters⟩

/-- Whether limits leave room for a connection. -/
def PoolLimits.haveRoom (limits : PoolLimits) : Bool :=
  limits.least ≤ limits.greatest && 0 < limits.greatest

/-! ### Errors -/

/-- Why a url is refused. -/
inductive ConnectError where
  | foreignScheme
  | url (reason : Url.TextError)
  | incomplete
  | unknownParameter (name : String)
  | invalidValue (name value : String)
  | invalidPool (limits : PoolLimits)
deriving DecidableEq, Repr

/-- What the urls of the driver begin with. -/
def schemeMark : String := "mysql://"

/-- The wording of the reason. -/
def ConnectError.reason : ConnectError → String
  | foreignScheme => "MySQL connection url must start with `" ++ schemeMark ++ "`"
  | url reason => reason.message
  | incomplete => "Invalid or incomplete connection URL"
  | unknownParameter name => "Unknown connection URL parameter `" ++ name ++ "'"
  | invalidValue name value =>
    "Invalid value `" ++ value ++ "' for connection URL parameter `" ++ name ++ "'"
  | invalidPool limits =>
    "Invalid pool constraints: pool_min (" ++ toString limits.least ++ ") > pool_max (" ++
      toString limits.greatest ++ ")"

/-- The wording of the error for a url. -/
def ConnectError.message (error : ConnectError) (url : String) : String :=
  "While trying to connect to `" ++ Text.excerpt url ++ "`: " ++ error.reason

/-- What the log says about a refused url. -/
def ConnectError.log (error : ConnectError) (url : String) : List LogEntry :=
  match error with
  | foreignScheme => [⟨.error, error.message url⟩]
  | _ => []

/-! ### The check -/

/-- Checks a parameter. -/
def checkParameter (parameter : String × String) : Except ConnectError Unit :=
  match parameterForms.lookup parameter.1 with
  | none => .error (.unknownParameter parameter.1)
  | some form =>
    if form.accepts parameter.2 then .ok ()
    else .error (.invalidValue parameter.1 parameter.2)

/-- Checks a url. -/
def checkUrl (url : String) : Except ConnectError Unit := do
  if !schemeMark.toList.isPrefixOf url.toList then throw .foreignScheme
  let parsed ← (Url.ofText url.toList).mapError .url
  if parsed.host.isNone then throw .incomplete
  let given := parameters (parsed.query.getD [])
  given.forM checkParameter
  if !(poolLimits given).haveRoom then throw (.invalidPool (poolLimits given))

end SqlRecords.Mysql
