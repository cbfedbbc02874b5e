import PgJinja.Text.Digit

/-! Reading bytes as UTF-8. A sequence that is not valid is reported with the bytes up to the first
one that rules it out; at the end of the data these are all that is left. -/
namespace PgJinja.Text

inductive Utf8.Reason where
  | invalidStart
  | invalidContinuation
  | unexpectedEnd
  deriving DecidableEq, Repr

structure Utf8.Fault where
  start : Nat
  count : Nat
  first : Nat
  reason : Utf8.Reason
  deriving DecidableEq, Repr

def Utf8.Reason.message : Utf8.Reason → String
  | .invalidStart => "invalid start byte"
  | .invalidContinuation => "invalid continuation byte"
  | .unexpectedEnd => "unexpected end of data"

def Utf8.Fault.message (f : Utf8.Fault) : String :=
  let place :=
    if f.count = 1 then
      "byte 0x" ++ String.ofList (hex 2 f.first) ++ " in position " ++ f.start.repr
    else "bytes in position " ++ f.start.repr ++ "-" ++ (f.start + f.count - 1).repr
  "'utf-8' codec can't decode " ++ place ++ ": " ++ f.reason.message

/-- How many continuation bytes follow a first byte, and the range of the first of them. -/
def Utf8.follow? (b : Nat) : Option (Nat × Nat × Nat) :=
  if 0xC2 ≤ b ∧ b ≤ 0xDF then some (1, 0x80, 0xBF)
  else if b = 0xE0 then some (2, 0xA0, 0xBF)
  else if b = 0xED then some (2, 0x80, 0x9F)
  else if 0xE1 ≤ b ∧ b ≤ 0xEF then some (2, 0x80, 0xBF)
  else if b = 0xF0 then some (3, 0x90, 0xBF)
  else if b = 0xF4 then some (3, 0x80, 0x8F)
  else if 0xF1 ≤ b ∧ b ≤ 0xF3 then some (3, 0x80, 0xBF)
  else none

inductive Utf8.Run where
  | bits (n : Nat)
  | ended (good : Nat)
  | broken (good : Nat)
  deriving DecidableEq, Repr

def Utf8.run (low high : Nat) (good acc : Nat) : Nat → List UInt8 → Utf8.Run
  | 0, _ => .bits acc
  | _ + 1, [] => .ended good
  | k + 1, b :: bs =>
    if low ≤ b.toNat ∧ b.toNat ≤ high then
      Utf8.run 0x80 0xBF (good + 1) (acc * 64 + b.toNat % 64) k bs
    else .broken good

/-- Reads the bytes from position `pos` on. `skip` bytes belong to a character already read. -/
def Utf8.decodeFrom (pos : Nat) : Nat → List UInt8 → Except Utf8.Fault (List Char)
  | _, [] => .ok []
  | skip + 1, _ :: bs => Utf8.decodeFrom (pos + 1) skip bs
  | 0, b :: bs =>
    let n := b.toNat
    if n < 0x80 then (Utf8.decodeFrom (pos + 1) 0 bs).map (Char.ofNat n :: ·)
    else
      match Utf8.follow? n with
      | none => .error ⟨pos, 1, n, .invalidStart⟩
      | some (k, low, high) =>
        match Utf8.run low high 0 (n % 2 ^ (6 - k)) k bs with
        | .bits v => (Utf8.decodeFrom (pos + 1) k bs).map (Char.ofNat v :: ·)
        | .ended good => .error ⟨pos, good + 1, n, .unexpectedEnd⟩
        | .broken good => .error ⟨pos, good + 1, n, .invalidContinuation⟩

def Utf8.decode (bytes : List UInt8) : Except Utf8.Fault String :=
  (Utf8.decodeFrom 0 0 bytes).map String.ofList

def newlines : List Char → List Char
  | [] => []
  | '\r' :: '\n' :: cs => '\n' :: newlines cs
  | c :: cs => (if c = '\r' then '\n' else c) :: newlines cs

end PgJinja.Text
