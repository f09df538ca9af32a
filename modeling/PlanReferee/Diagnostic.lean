import Std.Data.ExtTreeSet

/-! Findings as they are reported: a severity and a text. Only errors decide a verdict. -/

namespace PlanReferee

inductive Severity where
  | info
  | warning
  | error
deriving DecidableEq, Repr

namespace Severity

def rank : Severity → Nat
  | info => 0
  | warning => 1
  | error => 2

theorem rank_injective {a b : Severity} (h : a.rank = b.rank) : a = b := by
  cases a <;> cases b <;> simp_all [rank]

instance : Ord Severity := ⟨compareOn rank⟩

instance : Std.TransOrd Severity := inferInstanceAs (Std.TransCmp (compareOn rank))

instance : Std.LawfulEqOrd Severity where
  compare_self := Std.ReflCmp.compare_self
  eq_of_compare {a b} h := rank_injective (Std.compare_eq_iff_eq.mp (h : compare a.rank b.rank = .eq))

def label : Severity → String
  | info => "info"
  | warning => "warning"
  | error => "error"

/-- The terminal code that colours a message: yellow, red, or none. -/
def colour? : Severity → Option String
  | info => none
  | warning => some "\x1b[33m"
  | error => some "\x1b[31m"

end Severity

structure Diagnostic where
  severity : Severity
  message : String
deriving DecidableEq, Repr

namespace Diagnostic

def info (message : String) : Diagnostic := ⟨.info, message⟩

def warning (message : String) : Diagnostic := ⟨.warning, message⟩

def error (message : String) : Diagnostic := ⟨.error, message⟩

def isError (d : Diagnostic) : Bool := d.severity == .error

/-- One line for a listing, the severity in front. -/
def line (d : Diagnostic) : String := s!"[{d.severity.label}] {d.message}"

/-- The message in its colour, which ends with it. -/
def coloured (d : Diagnostic) : String :=
  match d.severity.colour? with
  | none => d.message
  | some code => code ++ d.message ++ "\x1b[0m"

end Diagnostic

end PlanReferee
