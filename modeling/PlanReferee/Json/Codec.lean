import Std.Data.ExtTreeMap
import Std.Data.ExtTreeSet
import PlanReferee.Json.Number
import PlanReferee.Json.Text

/-! Codecs: how values of a type are written as JSON, and read again from any JSON of the same
meaning. Writing puts in no gaps; reading passes over them. -/

namespace PlanReferee.Json

open Std (ExtTreeMap ExtTreeSet)

structure Codec (α : Type) where
  write : α → List Char
  read : Reader α

/-- Keys of objects stand in quotes. Reading begins after the first one and takes the second. -/
structure KeyCodec (κ : Type) where
  write : κ → List Char
  read : Reader κ

variable {α β κ : Type}

def commas : List (List Char) → List Char := List.intercalate [',']

/-- What is wrong with a value that is not of the wanted kind. A list or an object is not looked into,
any other value has to be well formed to be merely unfit. -/
def mismatch : List Char → Flaw
  | [] => .ended
  | 'n' :: cs => unfitAfter (keyword "ull".toList cs)
  | 't' :: cs => unfitAfter (keyword "rue".toList cs)
  | 'f' :: cs => unfitAfter (keyword "alse".toList cs)
  | '"' :: cs => unfitAfter (chars cs)
  | '[' :: _ => .unfit
  | '{' :: _ => .unfit
  | c :: cs => if isNumberStart c then unfitAfter (number (c :: cs)) else .malformed
where
  unfitAfter {γ : Type} : Except Flaw γ → Flaw
    | .error flaw => flaw
    | .ok _ => .unfit

namespace Codec

def text : Codec String where
  write s := writeChars s.toList
  read cs :=
    match skipGap cs with
    | '"' :: rest => (chars rest).map fun (read, rest) => (String.ofList read, rest)
    | other => .error (mismatch other)

def bool : Codec Bool where
  write b := if b then "true".toList else "false".toList
  read cs :=
    match skipGap cs with
    | 't' :: rest => (keyword "rue".toList rest).map fun rest => (true, rest)
    | 'f' :: rest => (keyword "alse".toList rest).map fun rest => (false, rest)
    | other => .error (mismatch other)

/-- Nothing, written as `null`. -/
def null : Codec Unit where
  write _ := "null".toList
  read cs :=
    match skipGap cs with
    | 'n' :: rest => (keyword "ull".toList rest).map fun rest => ((), rest)
    | other => .error (mismatch other)

def readNatural (limit : Nat) : Reader Nat := fun cs =>
  match number cs with
  | .error flaw => .error flaw
  | .ok (some n, rest) => if n ≤ limit then .ok (n, rest) else .error .unfit
  | .ok (none, _) => .error .unfit

def natural (limit : Nat) : Codec Nat where
  write n := Nat.toDigits 10 n
  read cs :=
    match skipGap cs with
    | [] => .error .ended
    | c :: rest =>
      if isNumberStart c then readNatural limit (c :: rest) else .error (mismatch (c :: rest))

def along (codec : Codec α) (make : α → β) (view : β → α) : Codec β where
  write b := codec.write (view b)
  read cs := (codec.read cs).map fun (a, rest) => (make a, rest)

def uint32 : Codec UInt32 := (natural (UInt32.size - 1)).along UInt32.ofNat UInt32.toNat

def uint64 : Codec UInt64 := (natural (UInt64.size - 1)).along UInt64.ofNat UInt64.toNat

/-- A value that may be missing and is then written as `null`. -/
def option (codec : Codec α) : Codec (Option α) where
  write
    | none => "null".toList
    | some a => codec.write a
  read cs :=
    match skipGap cs with
    | 'n' :: rest => (keyword "ull".toList rest).map fun rest => (none, rest)
    | other => (codec.read other).map fun (a, rest) => (some a, rest)

/-- Takes the elements of a list and the bracket that ends it. Each element takes one unit of fuel. -/
def elements (read : Reader α) : Nat → Reader (List α)
  | 0, _ => .error .ended
  | fuel + 1, cs =>
    match read cs with
    | .error flaw => .error flaw
    | .ok (a, rest) =>
      match skipGap rest with
      | [] => .error .ended
      | ']' :: rest => .ok ([a], rest)
      | ',' :: rest =>
        match skipGap rest with
        | [] => .error .ended
        | ']' :: _ => .error .malformed
        | rest => (elements read fuel rest).map fun (as, rest) => (a :: as, rest)
      | _ => .error .malformed

def list (codec : Codec α) : Codec (List α) where
  write as := '[' :: commas (as.map codec.write) ++ [']']
  read cs :=
    match skipGap cs with
    | '[' :: rest =>
      match skipGap rest with
      | [] => .error .ended
      | ']' :: rest => .ok ([], rest)
      | rest => elements codec.read rest.length rest
    | other => .error (mismatch other)

/-- A set, written in its order and read in any. -/
def set [Ord α] [Std.TransOrd α] (codec : Codec α) : Codec (ExtTreeSet α) :=
  (list codec).along (fun as => .ofList as) (·.toList)

/-- A choice between names. The form of an object with the name as its only key and no value is read
too, and anything but a string in the place of that key is malformed. -/
def choice (all : List α) (name : α → String) : Codec α where
  write a := text.write (name a)
  read cs :=
    let named : Reader α := fun cs => do
      let (key, rest) ← chars cs
      match all.find? fun a => name a == String.ofList key with
      | some a => .ok (a, rest)
      | none => .error .unfit
    match skipGap cs with
    | [] => .error .ended
    | '"' :: rest => named rest
    | '{' :: rest =>
      match skipGap rest with
      | [] => .error .ended
      | '"' :: rest => do
        let (a, rest) ← named rest
        let rest ← colon rest
        let (_, rest) ← null.read rest
        match skipGap rest with
        | [] => .error .ended
        | '}' :: rest => .ok (a, rest)
        | _ => .error .malformed
      | _ => .error .malformed
    | _ => .error .malformed

end Codec

/-- Takes the members of an object, the first one already begun by its quote, and the brace that ends
it. What a member says goes into a draft. Each member takes one unit of fuel. -/
def members {δ : Type} (member : δ → Reader δ) : Nat → δ → Reader δ
  | 0, _, _ => .error .ended
  | fuel + 1, draft, cs =>
    match member draft cs with
    | .error flaw => .error flaw
    | .ok (draft, rest) =>
      match skipGap rest with
      | [] => .error .ended
      | '}' :: rest => .ok (draft, rest)
      | ',' :: rest =>
        match skipGap rest with
        | [] => .error .ended
        | '"' :: rest => members member fuel draft rest
        | _ => .error .malformed
      | _ => .error .malformed

/-- Takes what follows the brace that begins an object. -/
def object {δ : Type} (member : δ → Reader δ) (draft : δ) : Reader δ := fun cs =>
  match skipGap cs with
  | [] => .error .ended
  | '}' :: rest => .ok (draft, rest)
  | '"' :: rest => members member (rest.length + 1) draft rest
  | _ => .error .malformed

def writeMember (key value : List Char) : List Char := '"' :: key ++ '"' :: ':' :: value

def writeObject (written : List (List Char)) : List Char := '{' :: commas written ++ ['}']

namespace KeyCodec

def text : KeyCodec String where
  write s := s.toList.flatMap writeChar
  read cs := (chars cs).map fun (read, rest) => (String.ofList read, rest)

/-- Natural numbers of 32 bits. The number has to begin right after the quote. -/
def uint32 : KeyCodec UInt32 where
  write n := Nat.toDigits 10 n.toNat
  read cs :=
    match cs with
    | [] => .error .malformed
    | c :: rest =>
      if isNumberStart c then
        match Codec.readNatural (UInt32.size - 1) (c :: rest) with
        | .error flaw => .error flaw
        | .ok (n, '"' :: rest) => .ok (UInt32.ofNat n, rest)
        | .ok _ => .error .malformed
      else .error .malformed

def along (codec : KeyCodec α) (make : α → β) (view : β → α) : KeyCodec β where
  write b := codec.write (view b)
  read cs := (codec.read cs).map fun (a, rest) => (make a, rest)

end KeyCodec

/-- Takes an entry into a map, from after the quote that begins its key. -/
def readEntry [Ord κ] [Std.TransOrd κ] (key : KeyCodec κ) (value : Codec α)
    (known : ExtTreeMap κ α) : Reader (ExtTreeMap κ α) := fun cs => do
  let (k, rest) ← key.read cs
  let rest ← colon rest
  let (a, rest) ← value.read rest
  .ok (known.insert k a, rest)

/-- A map, written in the order of its keys and read in any. The last value of a key counts. -/
def Codec.map [Ord κ] [Std.TransOrd κ] (key : KeyCodec κ) (value : Codec α) :
    Codec (ExtTreeMap κ α) where
  write entries :=
    writeObject (entries.toList.map fun (k, a) => writeMember (key.write k) (value.write a))
  read cs :=
    match skipGap cs with
    | '{' :: rest => object (readEntry key value) ∅ rest
    | other => .error (mismatch other)

/-- Reads a text that holds a value and nothing else. -/
def decode (codec : Codec α) (text : String) : Except Flaw α :=
  match codec.read text.toList with
  | .error flaw => .error flaw
  | .ok (a, rest) => if (skipGap rest).isEmpty then .ok a else .error .malformed

def encode (codec : Codec α) (a : α) : String := String.ofList (codec.write a)

end PlanReferee.Json
