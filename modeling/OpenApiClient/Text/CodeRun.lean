/-!
# Runs of code points

A character property of the Unicode standard is kept as an ascending list of runs.  A run has a
stride, because the scripts with two letter cases alternate them.  Main function: `CodeRun.mem`,
which decides membership and stops at the first run that starts too late.
-/

namespace OpenApiClient.Text

/-- The code points `first`, `first + step`, and so on up to `last`. -/
structure CodeRun where
  first : Nat
  last : Nat
  step : Nat
  deriving DecidableEq, Repr

def CodeRun.holds (run : CodeRun) (code : Nat) : Bool :=
  run.first ≤ code && code ≤ run.last && (code - run.first) % run.step == 0

def CodeRun.mem : List CodeRun → Nat → Bool
  | [], _ => false
  | run :: runs, code => run.first ≤ code && (run.holds code || CodeRun.mem runs code)

/-- Code points that change by the same amount: every member of the run maps to itself plus
`shift`. -/
structure CaseRun where
  first : Nat
  last : Nat
  step : Nat
  shift : Int
  deriving DecidableEq, Repr

/-- The image of a code point under the first of the ascending runs that holds it. -/
def CaseRun.image? : List CaseRun → Nat → Option Nat
  | [], _ => none
  | run :: runs, code =>
    if code < run.first then none
    else if CodeRun.holds ⟨run.first, run.last, run.step⟩ code then some (code + run.shift).toNat
    else CaseRun.image? runs code

end OpenApiClient.Text
