import MetricWatch.Watch.Session
import MetricWatch.Proofs.Text.Base64
import MetricWatch.Proofs.Text.Utf8
import MetricWatch.Proofs.Url.Below

/-!
# Tokens as user names

A server reads the user name of basic authorization up to the first colon and the password after
it. The header of a session carries its token, a colon and the password, so the server reads the
token as the user name just when there is no colon in the token. A login refuses blank tokens only.
The main statement is `Session.login_carries`, and `Session.login_with_colon` shows a token that is
not read as the user name.
-/

namespace MetricWatch

/-- The user name and the password in the value of an authorization header, as a server reads
them. -/
def credentials? (authorization : String) : Option (String × String) := do
  let digits ← authorization.toList.dropPrefix? "Basic ".toList
  let pair ← Text.Utf8.decode? (← Text.Base64.decodeBytes? digits)
  match Text.cut (· = ':') pair.toList with
  | (user, some password) => some (.ofList user, .ofList password)
  | (_, none) => none

/-- The text before the first colon is the user name. -/
lemma credentials?_encode {front : String} (noColon : ':' ∉ front.toList) (back : String) :
    credentials? ("Basic " ++ Text.Base64.encode (front ++ ":" ++ back)) = some (front, back) := by
  have digits : ("Basic " ++ Text.Base64.encode (front ++ ":" ++ back)).toList.dropPrefix?
      "Basic ".toList = some (Text.Base64.encode (front ++ ":" ++ back)).toList := by
    rw [String.toList_append]
    exact List.dropPrefix?_append_of_beq _ (beq_self_eq_true _)
  have isCut : Text.cut (· = ':') (front ++ ":" ++ back).toList
      = (front.toList, some back.toList) := by
    have pair : (front ++ ":" ++ back).toList = front.toList ++ ':' :: back.toList := by simp
    rw [pair]
    refine Text.cut_append_cons (by decide) (fun ch mem => ?_) _
    exact decide_eq_false fun isColon => noColon (isColon ▸ mem)
  rw [credentials?, digits]
  simp only [Option.bind_eq_bind, Option.bind_some, Text.Base64.encode, String.toList_ofList,
    Text.Base64.decodeBytes?_encodeBytes, Text.Utf8.decode?_encode, isCut, String.ofList_toList]

namespace Session

/-- What the header says of a token that a session holds. -/
structure Carries (s : Session) (token : String) : Prop where
  /-- Calls are made with the token. -/
  held : s.accessToken = .ok token
  /-- The token is read as the user name just when it has no colon. -/
  whole : credentials? (basicAuthorization token) = some (token, "token") ↔ ':' ∉ token.toList
  /-- Otherwise it is read up to its first colon, and the rest belongs to the password. -/
  split {front back : String} (isToken : token = front ++ ":" ++ back)
    (first : ':' ∉ front.toList) :
    credentials? (basicAuthorization token) = some (front, back ++ ":token")

/-- Every token that a login accepts is carried so. -/
theorem login_carries {s s' : Session} {token : String} (accepted : s.login token = .ok s') :
    s'.Carries token := by
  have held : s'.accessToken = .ok token := by
    unfold login at accepted
    split at accepted
    · cases accepted
    · cases accepted
      rfl
  have split {front back : String} (isToken : token = front ++ ":" ++ back)
      (first : ':' ∉ front.toList) :
      credentials? (basicAuthorization token) = some (front, back ++ ":token") := by
    have whole : token ++ ":token" = front ++ ":" ++ (back ++ ":token") := by
      rw [isToken, String.append_assoc]
    rw [basicAuthorization, whole, credentials?_encode first]
  refine ⟨held, ⟨fun read colon => ?_, fun noColon => ?_⟩, split⟩
  · obtain ⟨front, back, isToken, first⟩ := List.eq_append_cons_of_mem colon
    have parts : token = String.ofList front ++ ":" ++ String.ofList back := by
      apply String.toList_inj.mp
      simp [isToken]
    have cut := (split parts (by rwa [String.toList_ofList])).symm.trans read
    -- The password would be as long as the word and yet have a colon in front of it.
    have length := congrArg (fun pair => pair.2.length) (Option.some.inj cut)
    simp only [String.length_append] at length
    have shorter : "token".length < ":token".length := by decide
    omega
  · have whole : token ++ ":token" = token ++ ":" ++ "token" := by
      rw [String.append_assoc]
      rfl
    rw [basicAuthorization, whole, credentials?_encode noColon]

/-- A token with a colon is accepted. -/
theorem login_carries_with_colon :
    ∃ s : Session, loggedOut.login "a:b" = .ok s ∧ s.Carries "a:b" :=
  ⟨⟨some "a:b"⟩, by decide, login_carries (s := loggedOut) (by decide)⟩

/-- A server does not read every accepted token as the user name: of `a:b` it reads `a`. -/
theorem login_with_colon :
    ¬ ∀ (s s' : Session) (token : String), s.login token = .ok s' →
      credentials? (basicAuthorization token) = some (token, "token") := by
  intro reads
  have read := reads loggedOut ⟨some "a:b"⟩ "a:b" (by decide)
  have cut : credentials? (basicAuthorization "a:b") = some ("a", "b:token") := by decide +kernel
  rw [cut] at read
  exact absurd read (by decide)

end Session

end MetricWatch
