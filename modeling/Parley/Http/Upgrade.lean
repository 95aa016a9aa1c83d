/-
The handshake of a websocket.
-/
import Parley.Http.Headers
import Parley.Text.Pieces

namespace Parley.Http

open Text (pieces)

/-- Whether a text holds a word. -/
def containsWord (word : List Char) : List Char → Bool
  | [] => word.isEmpty
  | c :: s => word.isPrefixOf (c :: s) || containsWord word s

/-- Whether a header field has a text that holds a word in letters of any case. -/
def mentions (headers : Headers) (name : String) (word : String) : Bool :=
  (headers.text? name).any fun value => containsWord word.toList (value.toList.map Char.toLower)

/-- Whether the connection field names a word, in letters of any case. -/
def connectionNames (headers : Headers) (word : String) : Bool :=
  (headers.text? "connection").any fun value =>
    (pieces ',' (value.toList.map Char.toLower)).any fun name => Text.trim name = word.toList

/-- Whether the connection is to be used for something else from now on.
One that is to be closed is not. -/
def wantsUpgrade (headers : Headers) : Bool :=
  connectionNames headers "upgrade" && !connectionNames headers "close"

/-- The protocol versions that are spoken. -/
def versions : List String := ["13", "8", "7"]

/-- The status of the answer to a handshake that fails. -/
def handshakeFault? (headers : Headers) : Option Nat :=
  if !mentions headers "upgrade" "websocket" then some 400
  else if !wantsUpgrade headers then some 400
  else match headers.raw? "sec-websocket-version" with
    | none => some 400
    | some version =>
      if !versions.contains version then some 426
      else if (headers.raw? "sec-websocket-key").isNone then some 400
      else none

end Parley.Http
