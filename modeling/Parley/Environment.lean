/-
Settings from the environment.

A variable that is missing or holds blanks only counts as unset, and
blanks around a value do not matter. `optional?` also passes over a value
that cannot be read; `required` tells what is wrong.
-/
import Parley.Text.Blank
import Parley.Text.Decimal

namespace Parley

open Text (IntRange trimmed blank)

/-- The variables that are set. -/
structure Environment where
  get? : String → Option String

namespace Environment

def ofList (settings : List (String × String)) : Environment :=
  ⟨fun name => (settings.find? fun v => v.1 == name).map (·.2)⟩

/-- The value of a variable, if it can be read. -/
def optional? {α : Type} (read : String → Option α) (env : Environment) (name : String) :
    Option α := do
  let raw ← env.get? name
  if blank raw then none else read (trimmed raw)

/-- The value of a variable, or another one. -/
def withDefault {α : Type} (read : String → Option α) (env : Environment) (name : String)
    (absent : α) : α :=
  (env.optional? read name).getD absent

/-- The value of a variable that has to be set. -/
def required {α : Type} (read : String → Option α) (env : Environment) (name : String) :
    Except String α :=
  match env.get? name with
  | none => .error (name ++ " must be set")
  | some raw =>
    if blank raw then .error (name ++ " must not be empty")
    else match read (trimmed raw) with
      | some value => .ok value
      | none => .error ("Failed to parse environment variable " ++ name)

/-! ## Readers -/

/-- A number of a range. -/
def number (r : IntRange) (s : String) : Option Int := r.read s.toList

/-- A number of a range without negative numbers. -/
def natural (r : IntRange) (s : String) : Option Nat := (number r s).map (·.toNat)

/-- One of the words `true` and `false`. -/
def flag (s : String) : Option Bool :=
  if s = "true" then some true else if s = "false" then some false else none

/-- Any text. -/
def text (s : String) : Option String := some s

end Environment
end Parley
