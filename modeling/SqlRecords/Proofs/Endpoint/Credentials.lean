/-
This file follows the credentials of an endpoint into the url that a driver connects to. The host
is read as the beginning of a url and the other parts are set, each in its own encoding. The reader
of a url decodes them all, and the percent sign is the one character that the encodings leave
alone: credentials reach the reader as they are unless two hex digits follow a percent sign in
them, and then they never do.
-/

import SqlRecords.Endpoint
import SqlRecords.Proofs.Results
import SqlRecords.Proofs.Url.Path
import SqlRecords.Proofs.Url.PlainHost

namespace SqlRecords.Endpoint

open Url (percentEncode keptInUser pathOf decodeBytes HasEscape)

variable {url changed : Url}

/-! ### Setting the parts -/

/-- Setting a part to a text that may be empty, where an empty text leaves the url as it is. -/
theorem bind_unlessEmpty {Result : Type} {text : String} {part : UrlPart} {set : Option Url}
    (sets : set = some changed) (unchanged : text = "" → changed = url)
    (next : Url → Except UrlError Result) :
    (if text.isEmpty then pure url >>= next else orRefused part set >>= next) = next changed := by
  split
  case isTrue isEmpty =>
    rw [unchanged (String.isEmpty_iff.mp isEmpty)]
    rfl
  case isFalse =>
    rw [sets]
    rfl

theorem setPort_eq (hasAuthority : url.hasAuthority = true)
    (noDefault : Url.defaultPort url.scheme = none) (port : Option Nat) :
    orRefused .port (url.setPort? port) = .ok { url with port := port } := by
  rw [Url.setPort?, if_pos hasAuthority, noDefault]
  cases port with
  | none => rfl
  | some => rfl

/-! ### Urls -/

variable (endpoint : Endpoint)

/-- The url of an endpoint with a plain host. -/
theorem buildUrl_eq (nonempty : endpoint.host ≠ "")
    (isName : ∀ character ∈ endpoint.host.toList, Url.isNameCharacter character = true) :
    endpoint.buildUrl "mysql" = .ok {
      scheme := "mysql".toList
      user := percentEncode keptInUser endpoint.user.toList
      password := percentEncode keptInUser endpoint.password.toList
      host := some endpoint.host.toList
      port := endpoint.port.map fun port => port.value.toNat
      path := pathOf "mysql".toList endpoint.database.toList
      query := none
      fragment := none } := by
  have hasHost : endpoint.host.toList ≠ [] :=
    fun empty => nonempty (String.toList_eq_nil_iff.mp empty)
  have joined : ("mysql" ++ "://" ++ endpoint.host).toList =
      "mysql://".toList ++ endpoint.host.toList := String.toList_append
  have ordinary : ∀ character ∈ endpoint.host.toList, Url.IsOrdinary character :=
    fun character member => Url.isOrdinary_of_isNameCharacter (isName character member)
  have reads : (Url.ofText ("mysql" ++ "://" ++ endpoint.host).toList).mapError UrlError.text =
      .ok ⟨"mysql".toList, [], [], some endpoint.host.toList, none, [], none, none⟩ := by
    rw [joined, Url.ofText_of_forall hasHost ordinary]
    rfl
  unfold buildUrl
  refine (bind_eq_ok_iff _ _ _).mpr ⟨_, reads, ?_⟩
  refine (bind_eq_ok_iff _ _ _).mpr ⟨_, setPort_eq rfl rfl _, ?_⟩
  refine (bind_unlessEmpty rfl ?_ _).trans ((bind_unlessEmpty rfl ?_ _).trans rfl)
  · intro isEmpty
    rw [isEmpty]
    rfl
  · intro isEmpty
    rw [isEmpty]
    rfl

/-- The url of an endpoint with a plain host has its host and its port, and stands for its
credentials and for its database exactly if they have no escapes. -/
theorem toUrl_standsFor (nonempty : endpoint.host ≠ "")
    (isName : ∀ character ∈ endpoint.host.toList, Url.isNameCharacter character = true)
    (seen : ∀ character ∈ endpoint.database.toList, ¬Url.isPassedOver character = true)
    (noDots : ∀ segment ∈ Text.splitAt '/' endpoint.database.toList,
      segment ≠ ['.'] ∧ segment ≠ ['.', '.']) :
    ∃ url path, endpoint.toUrl "mysql" = .ok url ∧
      url.host = some endpoint.host.toList ∧
      url.port = (endpoint.port.map fun port => port.value.toNat) ∧
      (decodeBytes url.user = Text.encodeUtf8 endpoint.user ↔
        ¬HasEscape endpoint.user.toList) ∧
      (decodeBytes url.password = Text.encodeUtf8 endpoint.password ↔
        ¬HasEscape endpoint.password.toList) ∧
      url.path = '/' :: path ∧
      (decodeBytes path = Text.encodeUtf8 endpoint.database ↔
        ¬HasEscape endpoint.database.toList) := by
  obtain ⟨path, pathOf_eq, standsFor⟩ :=
    Url.exists_pathOf_eq (by decide : Url.isSpecial "mysql".toList = false) seen noDots
  rw [Url.ownBytes_toList] at standsFor
  have builds := congrArg (Except.mapError (Error.url "mysql" endpoint.host))
    (buildUrl_eq endpoint nonempty isName)
  exact ⟨_, path, builds, rfl, rfl, Url.decodeBytes_user_eq_iff _, Url.decodeBytes_user_eq_iff _,
    pathOf_eq, standsFor⟩

/-- An endpoint whose password has an escape. -/
def escapedLogin : Endpoint :=
  ⟨"db.local", some ⟨3307, by decide, by decide⟩, "root", "100%25", "shop"⟩

/-- The user of such an endpoint reaches the reader of its url, and the password does not. -/
theorem toUrl_standsFor_escapedLogin :
    ∃ url, escapedLogin.toUrl "mysql" = .ok url ∧
      decodeBytes url.user = Text.encodeUtf8 "root" ∧
      decodeBytes url.password ≠ Text.encodeUtf8 "100%25" := by
  have nonempty : escapedLogin.host ≠ "" := by decide
  have isName : ∀ character ∈ escapedLogin.host.toList, Url.isNameCharacter character = true :=
    List.all_eq_true.mp (by decide)
  have seen : ∀ character ∈ escapedLogin.database.toList, ¬Url.isPassedOver character = true :=
    List.any_eq_false.mp (by decide)
  have noDots : ∀ segment ∈ Text.splitAt '/' escapedLogin.database.toList,
      segment ≠ ['.'] ∧ segment ≠ ['.', '.'] := by decide
  have noEscape : ¬HasEscape escapedLogin.user.toList := Url.not_hasEscape_of_not_mem (by decide)
  have hasEscape : HasEscape escapedLogin.password.toList :=
    ⟨'2', '5', by decide, by decide, by decide⟩
  obtain ⟨url, path, builds, -, -, user, password, -⟩ :=
    toUrl_standsFor escapedLogin nonempty isName seen noDots
  exact ⟨url, builds, user.mpr noEscape, fun equal => password.mp equal hasEscape⟩

end SqlRecords.Endpoint
