import PgJinja.Failure
import PgJinja.Text.Digit

/-! JSON texts, indented by two spaces. Empty lists and objects stay on one line. -/
namespace PgJinja.Json

inductive Charset where
  /-- Every character but control characters. -/
  | unicode
  /-- Visible ASCII only; a character beyond the first plane becomes a surrogate pair. -/
  | ascii
  deriving DecidableEq, Repr

def unitEscape (n : Nat) : List Char := '\\' :: 'u' :: Text.hex 4 n

def scalarEscape (n : Nat) : List Char :=
  if n < 0x10000 then unitEscape n
  else unitEscape (0xD800 + (n - 0x10000) / 0x400) ++ unitEscape (0xDC00 + (n - 0x10000) % 0x400)

def writeChar (charset : Charset) (c : Char) : List Char :=
  if c = '"' then ['\\', '"']
  else if c = '\\' then ['\\', '\\']
  else if c = '\n' then ['\\', 'n']
  else if c = '\r' then ['\\', 'r']
  else if c = '\t' then ['\\', 't']
  else if c = Char.ofNat 8 then ['\\', 'b']
  else if c = Char.ofNat 12 then ['\\', 'f']
  else if c.toNat < 0x20 then unitEscape c.toNat
  else if charset = .ascii ∧ 0x7E < c.toNat then scalarEscape c.toNat
  else [c]

def writeString (charset : Charset) (s : String) : List Char :=
  '"' :: (s.toList.flatMap (writeChar charset) ++ ['"'])

def newLine (depth : Nat) : List Char := '\n' :: List.replicate (2 * depth) ' '

mutual
def writeAt (charset : Charset) (depth : Nat) : Json → List Char
  | null => "null".toList
  | bool true => "true".toList
  | bool false => "false".toList
  | int n => (intText n).toList
  | float x => (Layout.document.text x).toList
  | str s => writeString charset s
  | arr [] => ['[', ']']
  | arr (v :: vs) =>
    '[' :: (newLine (depth + 1) ++ writeAt charset (depth + 1) v
      ++ (writeItems charset (depth + 1) vs ++ (newLine depth ++ [']'])))
  | obj [] => ['\x7b', '\x7d']
  | obj ((k, v) :: fs) =>
    '\x7b' :: (newLine (depth + 1) ++ writeString charset k ++ (':' :: ' ' :: writeAt charset (depth + 1) v)
      ++ (writeFields charset (depth + 1) fs ++ (newLine depth ++ ['\x7d'])))
def writeItems (charset : Charset) (depth : Nat) : List Json → List Char
  | [] => []
  | v :: vs => ',' :: (newLine depth ++ writeAt charset depth v ++ writeItems charset depth vs)
def writeFields (charset : Charset) (depth : Nat) : List (String × Json) → List Char
  | [] => []
  | (k, v) :: fs =>
    ',' :: (newLine depth ++ writeString charset k ++ (':' :: ' ' :: writeAt charset depth v)
      ++ writeFields charset depth fs)
end

/-- The indented text of a value, however long its integers are. -/
def layout (charset : Charset) (v : Json) : String := String.ofList (writeAt charset 0 v)

def write (charset : Charset) (v : Json) : Except Limit String :=
  if v.isShort then .ok (v.layout charset) else .error .digits

end PgJinja.Json
