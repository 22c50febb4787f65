import Logworks.Number.Decimal

/-!
# Grades of health

Three grades, and the rule that gives one to a value: at or above the second threshold it is
unhealthy, else above the first it is degraded, else it is healthy. A value that is no number is
above nothing, so it is healthy.
-/

namespace Logworks.Health

open Logworks.Number

inductive Grade where
  | healthy | degraded | unhealthy
  deriving DecidableEq, Repr, Inhabited

namespace Grade

def name : Grade → String
  | healthy => "healthy"
  | degraded => "degraded"
  | unhealthy => "unhealthy"

def capitalName : Grade → String
  | healthy => "HEALTHY"
  | degraded => "DEGRADED"
  | unhealthy => "UNHEALTHY"

def rank : Grade → Nat
  | healthy => 0
  | degraded => 1
  | unhealthy => 2

def worse (a b : Grade) : Grade := if a.rank < b.rank then b else a

/-- The worst of some grades; nothing is healthy. -/
def worst (gs : List Grade) : Grade := gs.foldl worse healthy

theorem rank_worse (a b : Grade) : (worse a b).rank = max a.rank b.rank := by
  cases a <;> cases b <;> rfl

end Grade

/-- The grade of a value between two thresholds. -/
def tier (value first second : Binary64) : Grade :=
  if second.le value then .unhealthy
  else if first.lt value then .degraded
  else .healthy

end Logworks.Health
