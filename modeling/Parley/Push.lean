/-
Events that other services push to a user.
-/
import Parley.Surroundings

namespace Parley

/-- An event for a user. -/
structure PushRequest where
  user : UserId
  kind : String
  content : Json
deriving Inhabited, Repr

namespace PushRequest

/-- How a request is read; its content may be missing. -/
def form : Json.Form PushRequest := ⟨["user_id", "type", "content"], fun r => do
  let user ← r.required "user_id" Json.int64?
  let kind ← r.required "type" Json.str?
  let content ← r.defaulted "content" .null some
  pure ⟨user, kind, content.normal⟩⟩

end PushRequest

/-- Offers an event to the sessions of its user: whether one took it. -/
def push (request : PushRequest) : Action Bool :=
  if request.user ≤ 0 then throw (.invalidUserId request.user)
  else if Text.blank request.kind then throw (.badRequest "type must not be empty")
  else Action.offer request.user ⟨request.kind, request.content⟩

end Parley
