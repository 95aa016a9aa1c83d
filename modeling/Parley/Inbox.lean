/-
A user's conversations, page by page, with the profiles of the peers.

A row whose profile cannot be found is left out of its page and still
counted.
-/
import Parley.Surroundings
import Parley.Text.Decimal

namespace Parley.Inbox

open Text (IntRange)

/-- The number of a page, from 1. -/
def pageNumber (page : Option Int) : Int := (page.filter (0 < ·)).getD 1

/-- The number of rows on a page. -/
def pageLimit (limit : Option Int) : Int := ((limit.filter (0 < ·)).map (min · 50)).getD 20

/-- The number of rows before a page, at most what 64 bits hold. -/
def pageOffset (page limit : Int) : Int := IntRange.int64.clamp ((page - 1) * limit)

/-- The rows whose profile is found. -/
def views : List Conversation → Action (List ConversationView)
  | [] => pure []
  | row :: rows => do
    let profile ← Action.tryProfile row.peer
    let rest ← views rows
    match profile with
    | .ok p => pure (⟨row, p.nickname, p.avatar⟩ :: rest)
    | .error _ => pure rest

/-- A page of the conversations of a user, the latest first. -/
def conversations (user : UserId) (page limit : Option Int) : Action ConversationPage := do
  let page := pageNumber page
  let limit := pageLimit limit
  let (rows, total) ← Action.archive (.rows user (pageOffset page limit) limit)
  let views ← views rows
  pure ⟨views, total, page, limit⟩

end Parley.Inbox
