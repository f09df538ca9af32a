import Std.Data.ExtTreeMap
import PlanReferee.Event
import PlanReferee.Text.Lines

/-! Headers of test programs: lines of the form `%%% key=value`. The key `MODELS` sets the number of
models to ask for, every other key a constant. -/

namespace PlanReferee

open Std (ExtTreeMap)
open Text

inductive HeaderLine where
  | binding (key value : String)
  | models (count : UInt32)
  /-- A header line with no equals sign. -/
  | withoutValue (line : String)
  | modelsNotNumeric (value : String)
  /-- No header line at all. -/
  | other
deriving DecidableEq, Repr

namespace HeaderLine

def marker : List Char := "%%% ".toList

def modelsKey : List Char := "MODELS".toList

/-- Reads one line. White space at its end does not count. -/
def read (line : List Char) : HeaderLine :=
  match after? marker (trimEnd line) with
  | none => other
  | some declared =>
    match cut? '=' declared with
    | none => withoutValue (String.ofList line)
    | some (key, value) =>
      if key = modelsKey then
        match readUInt32? (trim value) with
        | some count => models count
        | none => modelsNotNumeric (String.ofList value)
      else binding (String.ofList key) (String.ofList value)

def event? : HeaderLine → Option Event
  | withoutValue line => some (.headerWithoutValue line)
  | modelsNotNumeric value => some (.modelsNotNumeric value)
  | _ => none

end HeaderLine

structure Header where
  models : Option UInt32 := none
  constants : ExtTreeMap String String := ∅
deriving DecidableEq

namespace Header

/-- Takes one more line into account. A later line overrides an earlier one. -/
def add (header : Header) : HeaderLine → Header
  | .binding key value => { header with constants := header.constants.insert key value }
  | .models count => { header with models := some count }
  | _ => header

def headerLines (source : String) : List HeaderLine := (lines source.toList).map HeaderLine.read

def read (source : String) : Logged Header :=
  ⟨(headerLines source).foldl add {}, (headerLines source).filterMap HeaderLine.event?⟩

end Header

end PlanReferee
