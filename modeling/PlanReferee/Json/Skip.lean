import PlanReferee.Json.Number
import PlanReferee.Json.Text

/-! Passing over values that nobody asked for. They have to be well formed, but numbers may be of any
size and surrogate halves may stand alone. -/

namespace PlanReferee.Json

def skipEscape : List Char → Except Flaw (List Char)
  | [] => .error .ended
  | 'u' :: cs => (hexCode cs).map (·.2)
  | c :: cs => if (shortEscape? c).isSome then .ok cs else .error .malformed

theorem skipEscape_shorter {cs rest : List Char} (h : skipEscape cs = .ok rest) :
    rest.length < cs.length := by
  unfold skipEscape at h
  split at h
  · contradiction
  · rename_i more
    cases code : hexCode more with
    | error flaw => simp [code, Except.map] at h
    | ok found =>
      simp only [code, Except.map, Except.ok.injEq] at h
      subst h
      have := hexCode_shorter code
      simp only [List.length_cons]
      omega
  · split at h
    · cases h
      simp
    · contradiction

def skipChars (cs : List Char) : Except Flaw (List Char) :=
  match cs with
  | [] => .error .ended
  | '"' :: rest => .ok rest
  | '\\' :: rest =>
    match _h : skipEscape rest with
    | .error flaw => .error flaw
    | .ok rest => skipChars rest
  | c :: rest => if isControl c then .error .malformed else skipChars rest
termination_by cs.length
decreasing_by
  · have := skipEscape_shorter _h
    simp only [List.length_cons]
    omega
  · simp

def skipKey (cs : List Char) : Except Flaw (List Char) :=
  match skipGap cs with
  | [] => .error .ended
  | '"' :: rest => (skipChars rest).bind colon
  | _ => .error .malformed

mutual

/-- Passes over a value. Each level and each member takes one unit of fuel. -/
def skipValue : Nat → List Char → Except Flaw (List Char)
  | 0, _ => .error .ended
  | fuel + 1, cs =>
    match skipGap cs with
    | [] => .error .ended
    | 'n' :: rest => keyword "ull".toList rest
    | 't' :: rest => keyword "rue".toList rest
    | 'f' :: rest => keyword "alse".toList rest
    | '"' :: rest => skipChars rest
    | '[' :: rest =>
      match skipGap rest with
      | ']' :: rest => .ok rest
      | rest => skipElements fuel rest
    | '{' :: rest =>
      match skipGap rest with
      | '}' :: rest => .ok rest
      | rest => skipMembers fuel rest
    | c :: rest =>
      if isNumberStart c then (numeral .malformed (c :: rest)).map (·.2) else .error .malformed

def skipElements : Nat → List Char → Except Flaw (List Char)
  | 0, _ => .error .ended
  | fuel + 1, cs =>
    match skipValue fuel cs with
    | .error flaw => .error flaw
    | .ok rest =>
      match skipGap rest with
      | [] => .error .ended
      | ',' :: rest => skipElements fuel rest
      | ']' :: rest => .ok rest
      | _ => .error .malformed

def skipMembers : Nat → List Char → Except Flaw (List Char)
  | 0, _ => .error .ended
  | fuel + 1, cs =>
    match (skipKey cs).bind (skipValue fuel) with
    | .error flaw => .error flaw
    | .ok rest =>
      match skipGap rest with
      | [] => .error .ended
      | ',' :: rest => skipMembers fuel rest
      | '}' :: rest => .ok rest
      | _ => .error .malformed

end

/-- Passes over a value. A text has at most one level or member for each of its characters. -/
def skip (cs : List Char) : Except Flaw (List Char) := skipValue (2 * cs.length + 1) cs

end PlanReferee.Json
