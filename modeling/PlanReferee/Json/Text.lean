import PlanReferee.Json.Reader

/-! JSON strings. Characters outside the basic plane may be written as two escapes, one for each half
of a surrogate pair; a half alone is refused. -/

namespace PlanReferee.Json

def hexDigit? (c : Char) : Option Nat :=
  if c.isDigit then some (c.toNat - '0'.toNat)
  else if 'a' ≤ c ∧ c ≤ 'f' then some (c.toNat - 'a'.toNat + 10)
  else if 'A' ≤ c ∧ c ≤ 'F' then some (c.toNat - 'A'.toNat + 10)
  else none

def byteCount (cs : List Char) : Nat := cs.foldl (fun n c => n + c.utf8Size) 0

/-- Takes four hexadecimal digits. Fewer than four bytes cannot hold them, whatever they are. -/
def hexCode (cs : List Char) : Except Flaw (Nat × List Char) :=
  match cs with
  | a :: b :: c :: d :: rest =>
    match hexDigit? a, hexDigit? b, hexDigit? c, hexDigit? d with
    | some a, some b, some c, some d => .ok (((a * 16 + b) * 16 + c) * 16 + d, rest)
    | _, _, _, _ => .error .malformed
  | _ => .error (if byteCount cs < 4 then .ended else .malformed)

/-- What an escape of a single character stands for. -/
def shortEscape? : Char → Option Char
  | '"' => some '"'
  | '\\' => some '\\'
  | '/' => some '/'
  | 'b' => some '\x08'
  | 'f' => some '\x0c'
  | 'n' => some '\n'
  | 'r' => some '\r'
  | 't' => some '\t'
  | _ => none

def isHighHalf (n : Nat) : Bool := 0xD800 ≤ n && n ≤ 0xDBFF

def isLowHalf (n : Nat) : Bool := 0xDC00 ≤ n && n ≤ 0xDFFF

/-- The character that two halves of a surrogate pair stand for. -/
def joinHalves (high low : Nat) : Char :=
  Char.ofNat (0x10000 + (high - 0xD800) * 0x400 + (low - 0xDC00))

def lowHalf (high : Nat) (cs : List Char) : Except Flaw (Char × List Char) :=
  match keyword ['\\', 'u'] cs with
  | .error flaw => .error flaw
  | .ok cs =>
    match hexCode cs with
    | .error flaw => .error flaw
    | .ok (low, rest) =>
      if isLowHalf low then .ok (joinHalves high low, rest) else .error .malformed

def escape : Reader Char
  | [] => .error .ended
  | 'u' :: cs =>
    match hexCode cs with
    | .error flaw => .error flaw
    | .ok (n, rest) =>
      if isLowHalf n then .error .malformed
      else if isHighHalf n then lowHalf n rest
      else .ok (Char.ofNat n, rest)
  | c :: cs =>
    match shortEscape? c with
    | some meant => .ok (meant, cs)
    | none => .error .malformed

theorem hexCode_shorter {cs rest : List Char} {n : Nat} (h : hexCode cs = .ok (n, rest)) :
    rest.length < cs.length := by
  unfold hexCode at h
  split at h
  · split at h
    · cases h
      simp only [List.length_cons]
      omega
    · contradiction
  · contradiction

theorem keyword_length {ks cs rest : List Char} (h : keyword ks cs = .ok rest) :
    rest.length ≤ cs.length := by
  fun_induction keyword ks cs with
  | case1 => simp_all
  | case2 => contradiction
  | case3 _ _ _ ih => exact Nat.le_succ_of_le (ih h)
  | case4 => contradiction

theorem lowHalf_shorter {high : Nat} {cs rest : List Char} {c : Char}
    (h : lowHalf high cs = .ok (c, rest)) : rest.length < cs.length := by
  unfold lowHalf at h
  split at h
  · contradiction
  · rename_i begun
    split at h
    · contradiction
    · rename_i code
      split at h
      · obtain ⟨_, rfl⟩ := Prod.mk.inj (Except.ok.inj h)
        exact Nat.lt_of_lt_of_le (hexCode_shorter code) (keyword_length begun)
      · contradiction

theorem escape_shorter {cs rest : List Char} {c : Char} (h : escape cs = .ok (c, rest)) :
    rest.length < cs.length := by
  unfold escape at h
  split at h
  · contradiction
  · split at h
    · contradiction
    · rename_i code
      have shorter := hexCode_shorter code
      split at h
      · contradiction
      · split at h
        · have := lowHalf_shorter h
          simp only [List.length_cons]
          omega
        · obtain ⟨_, rfl⟩ := Prod.mk.inj (Except.ok.inj h)
          simp only [List.length_cons]
          omega
  · split at h
    · obtain ⟨_, rfl⟩ := Prod.mk.inj (Except.ok.inj h)
      simp
    · contradiction

/-- Control characters have to be escaped. -/
def isControl (c : Char) : Bool := c.toNat < 0x20

/-- Takes the characters of a string and the quote that ends it. -/
def chars (cs : List Char) : Except Flaw (List Char × List Char) :=
  match cs with
  | [] => .error .ended
  | '"' :: rest => .ok ([], rest)
  | '\\' :: rest =>
    match _h : escape rest with
    | .error flaw => .error flaw
    | .ok (c, rest) => (chars rest).map fun (read, rest) => (c :: read, rest)
  | c :: rest =>
    if isControl c then .error .malformed
    else (chars rest).map fun (read, rest) => (c :: read, rest)
termination_by cs.length
decreasing_by
  · have := escape_shorter _h
    simp only [List.length_cons]
    omega
  · simp

def hexChar (n : Nat) : Char := Nat.digitChar n

/-- A character as it is written inside a string: escaped if it has to be, and then by a single
character if it can be. -/
def writeChar (c : Char) : List Char :=
  match c with
  | '"' => ['\\', '"']
  | '\\' => ['\\', '\\']
  | '\x08' => ['\\', 'b']
  | '\x0c' => ['\\', 'f']
  | '\n' => ['\\', 'n']
  | '\r' => ['\\', 'r']
  | '\t' => ['\\', 't']
  | c =>
    if isControl c then ['\\', 'u', '0', '0', hexChar (c.toNat / 16), hexChar (c.toNat % 16)]
    else [c]

def writeChars (cs : List Char) : List Char := '"' :: cs.flatMap writeChar ++ ['"']

end PlanReferee.Json
