/-!
# Sets and maps of code points

Character properties are kept as ascending lists of closed ranges, case maps as ascending runs of
code points that are shifted together. Both look-ups stop at the first entry past the code point.
-/

namespace WireErrors.Text

/-- An ascending list of closed, disjoint ranges of code points. -/
abbrev Ranges := List (Nat × Nat)

/-- Whether a code point lies in one of the ranges. -/
def Ranges.has : Ranges → Nat → Bool
  | [], _ => false
  | (lo, hi) :: rest, n => Nat.ble lo n && (Nat.ble n hi || Ranges.has rest n)

/-- The code points `first, first + stride, …, last`, of which `first` maps to `image` and all are
shifted by the same distance. -/
structure CaseRun where
  first : Nat
  last : Nat
  stride : Nat
  image : Nat

/-- The image of a code point under an ascending list of runs. -/
def CaseRun.image? : List CaseRun → Nat → Option Nat
  | [], _ => none
  | run :: rest, n =>
    if n < run.first then none
    else if n ≤ run.last && (n - run.first) % run.stride == 0 then
      some (run.image + (n - run.first))
    else CaseRun.image? rest n

/-- The image of a code point in an ascending list of single entries. -/
def expansion? : List (Nat × List Nat) → Nat → Option (List Nat)
  | [], _ => none
  | (m, image) :: rest, n => if n < m then none else if n = m then some image else expansion? rest n

end WireErrors.Text
