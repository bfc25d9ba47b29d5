import Excerpt.Number.Integer

/-!
The size limit that the environment may set in place of the configured one.
-/

namespace Excerpt

namespace Limit

/-- The environment variable that holds the limit. -/
def variableName : String := "MD_QUERY_MAX_FILE_SIZE"

inductive Fault where
  | notInteger (written : Text)
  | notPositive (n : Int)
  deriving DecidableEq, Repr

def Fault.message : Fault → String
  | notInteger t =>
    s!"Invalid value for {variableName}: " ++ String.ofList t ++ " (expected positive integer)"
  | notPositive n => s!"{variableName} must be a positive integer, got {n}."

/-- The limit in force: the one of the environment, else the given one. -/
def ofEnvironment (given : Option Text) (default : Int) : Except Fault Int :=
  match given with
  | none => .ok default
  | some t =>
    match Numeral.read? t with
    | none => .error (.notInteger t)
    | some n => if 0 < n then .ok n else .error (.notPositive n)

end Limit

end Excerpt
