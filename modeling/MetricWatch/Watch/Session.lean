import MetricWatch.Error
import MetricWatch.Text.Blank
import MetricWatch.Text.Base64

/-!
# Sessions

A session holds an access token, which is never blank, or none. The token is sent as the user name
of basic authorization, with the word `token` as the password.
-/

namespace MetricWatch

/-- A session, logged in or not. -/
structure Session where
  token : Option String
  deriving DecidableEq, Repr

namespace Session

/-- The session that is logged out. -/
def loggedOut : Session := ⟨none⟩

/-- The session after a login, which a blank token does not achieve. -/
def login (_ : Session) (token : String) : Except Error Session :=
  if Text.isBlank token then .error ⟨.invalidInput, "access token must not be empty"⟩
  else .ok ⟨some token⟩

/-- A session logged in from the start. -/
def withToken (token : String) : Except Error Session := loggedOut.login token

/-- The session after a logout. -/
def logout (_ : Session) : Session := loggedOut

/-- Whether a token is held. -/
def isLoggedIn (s : Session) : Bool := s.token.isSome

/-- The token for a call. -/
def accessToken (s : Session) : Except Api.Error String :=
  match s.token with
  | some token => .ok token
  | none => .error (.auth "not logged in")

/-- What may be shown of a session. -/
def text (s : Session) : String :=
  "SessionStore \x7b logged_in: " ++ (if s.isLoggedIn then "true" else "false") ++ " \x7d"

end Session

/-- The value of the authorization header for a token. -/
def basicAuthorization (token : String) : String :=
  "Basic " ++ Text.Base64.encode (token ++ ":token")

end MetricWatch
