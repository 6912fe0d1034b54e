/-
This file holds the place and the credentials of a database server, and the url that a driver
connects to.

A server is given as a host, or as a host and a port with a colon between them. The split is at
the last colon; when another colon stands right before it, the text is taken for an address
without a port.
-/

import SqlRecords.Number.Integer
import SqlRecords.Url

namespace SqlRecords

/-- The place and the credentials of a database server. -/
structure Endpoint where
  host : String
  port : Option (Integer .uint16)
  user : String
  password : String
  database : String
deriving DecidableEq

namespace Endpoint

/-! ### Errors -/

/-- What a url cannot have in its place. -/
inductive UrlPart where
  | port
  | username
  | password
deriving DecidableEq, Repr

/-- Why a url cannot be built. -/
inductive UrlError where
  | text (reason : Url.TextError)
  | refused (part : UrlPart)
deriving DecidableEq, Repr

/-- The wording of the reason. -/
def UrlError.message : UrlError → String
  | text reason => reason.message
  | refused .port => "The url cannot have a port"
  | refused .username => "The url cannot have a username"
  | refused .password => "The url cannot have a password"

/-- Why an endpoint is refused. -/
inductive Error where
  | missingArgument (name : String)
  | invalidPort (server : String) (reason : Integer.TextError)
  | url (scheme host : String) (reason : UrlError)
deriving DecidableEq, Repr

/-- The wording of the reason. -/
def Error.message : Error → String
  | missingArgument name => "Argument `" ++ name ++ "` is required"
  | invalidPort server reason => "Invalid port in server `" ++ server ++ "`: " ++ reason.message
  | url scheme host reason =>
    "While building the `" ++ scheme ++ "` url for `" ++ host ++ "`: " ++ reason.message

/-! ### Servers -/

/-- The endpoint of a server given as a host, or as a host and a port. -/
def ofServer (server user password database : String) : Except Error Endpoint :=
  let place := Text.trim server
  if place.isEmpty then
    .error (.missingArgument "server")
  else if (Text.trim database).isEmpty then
    .error (.missingArgument "database")
  else
    let whole : Except Error Endpoint := .ok ⟨place, none, user, password, database⟩
    match Text.splitAtLast? ':' place.toList with
    | none => whole
    | some (host, port) =>
      if host.getLast? = some ':' then
        whole
      else
        match Integer.ofText .uint16 port with
        | .ok port => .ok ⟨String.ofList host, some port, user, password, database⟩
        | .error reason => .error (.invalidPort place reason)

/-! ### Urls -/

/-- A changed url, or the error that it cannot have the part. -/
def orRefused (part : UrlPart) : Option Url → Except UrlError Url
  | some url => .ok url
  | none => .error (.refused part)

/-- The url of an endpoint: the scheme and the host are read as the beginning of a url, then the
port, the user, the password and the path are set. -/
def buildUrl (endpoint : Endpoint) (scheme : String) : Except UrlError Url := do
  let url ← (Url.ofText (scheme ++ "://" ++ endpoint.host).toList).mapError .text
  let url ← orRefused .port (url.setPort? (endpoint.port.map fun port => port.value.toNat))
  let url ←
    if endpoint.user.isEmpty then pure url
    else orRefused .username (url.setUser? endpoint.user.toList)
  let url ←
    if endpoint.password.isEmpty then pure url
    else orRefused .password (url.setPassword? endpoint.password.toList)
  return url.setPath endpoint.database.toList

/-- The url of an endpoint for a driver that connects to urls of a scheme. -/
def toUrl (endpoint : Endpoint) (scheme : String) : Except Error Url :=
  (endpoint.buildUrl scheme).mapError (.url scheme endpoint.host)

end Endpoint

end SqlRecords
