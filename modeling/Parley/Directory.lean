/-
What other services know of users: who is a friend of whom, and profiles.

Each of them is asked over the web, once for each question. Everything but
a well-formed answer is a failure, so nobody counts as a friend by
accident.
-/
import Parley.Conversation
import Parley.Failure
import Parley.Http.Phrase
import Parley.Json.Record
import Parley.Program
import Parley.Text.Utf8

namespace Parley

open Text (showInt)
open Text.Utf8 (Octets)

/-- Answers about users. -/
structure Directory where
  areFriends : UserId → UserId → Except Failure Bool
  profile : UserId → Except Failure Profile

namespace Web

/-- A web address with the numbers that are passed to it. -/
structure Request where
  url : String
  query : List (String × Int) := []
deriving DecidableEq, Repr

/-- What a web service answered. -/
structure Response where
  status : Nat
  body : Octets

/-- The one question: to fetch what stands at an address. No answer comes
for a reason. -/
abbrev signature : Signature := ⟨Request, fun _ => Except String Response⟩

/-- Whether a status means success. -/
def Response.succeeded (r : Response) : Bool := 200 ≤ r.status && r.status < 300

end Web

namespace Directory

open Web (Request Response)

/-- The address of a service, without the slashes at its end. -/
def base (url : String) : String :=
  String.ofList (url.toList.reverse.dropWhile (· = '/')).reverse

/-- A failure of a service. -/
def failed (service text : String) : Failure := .remote (service ++ text)

/-- What is said of a body that does not tell what was asked for. -/
def unreadable : String := "error decoding response body"

/-! ## Friends -/

/-- How an answer of the friend service is read: whether it means yes. -/
def friendForm : Json.Form Bool := ⟨["is_friend"], fun r => r.required "is_friend" Json.bool?⟩

def friendRequest (url : String) (user target : UserId) : Request :=
  ⟨base url ++ "/friend/v1/internal/check", [("user_id", user), ("target_user_id", target)]⟩

/-- What an answer of the friend service says. -/
def readFriend : Except String Response → Except Failure Bool
  | .error reason => .error (failed "friend-service: " reason)
  | .ok r =>
    if !r.succeeded then .error (failed "friend-service returned " (Http.statusText r.status))
    else match friendForm.ofOctets? r.body with
      | some answer => .ok answer
      | none => .error (failed "friend-service body: " unreadable)

/-- Asks the friend service whether a user may write to another. -/
def askFriend (url : String) (user target : UserId) :
    Program Web.signature (Except Failure Bool) := do
  return readFriend (← Program.query (S := Web.signature) (friendRequest url user target))

/-! ## Profiles -/

def profileRequest (url : String) (user : UserId) : Request :=
  ⟨base url ++ "/usercenter/v1/internal/users/" ++ showInt user, []⟩

/-- What an answer of the user service says. -/
def readProfile : Except String Response → Except Failure Profile
  | .error reason => .error (failed "user-service: " reason)
  | .ok r =>
    if r.succeeded then
      match Profile.form.ofOctets? r.body with
      | some profile => .ok profile
      | none => .error (failed "user-service body: " unreadable)
    else if r.status = 404 then .error .notFound
    else .error (failed "user-service returned " (Http.statusText r.status))

/-- Asks the user service for a profile. -/
def askProfile (url : String) (user : UserId) :
    Program Web.signature (Except Failure Profile) := do
  return readProfile (← Program.query (S := Web.signature) (profileRequest url user))

/-! ## Both -/

/-- A directory whose services answer by a function. -/
def overWeb (friendUrl userUrl : String) (fetch : Request → Except String Response) : Directory :=
  let answer : Program.Handler Web.signature Unit := fun q _ => (fetch q, ())
  { areFriends := fun user target => ((askFriend friendUrl user target).run answer ()).1
    profile := fun user => ((askProfile userUrl user).run answer ()).1 }

end Directory
end Parley
