/-! Decimal digits of every script, and hexadecimal ones. Each script has its ten digits in order, so a table of the
zeros is enough. -/
namespace PgJinja.Text

def zeros : List Nat :=
  [48, 1632, 1776, 1984, 2406, 2534, 2662, 2790, 2918, 3046, 3174, 3302, 3430, 3558, 3664, 3792,
   3872, 4160, 4240, 6112, 6160, 6470, 6608, 6784, 6800, 6992, 7088, 7232, 7248, 42528, 43216,
   43264, 43472, 43504, 43600, 44016, 65296, 66720, 68912, 69734, 69872, 69942, 70096, 70384,
   70736, 70864, 71248, 71360, 71472, 71904, 72016, 72784, 73040, 73120, 92768, 92864, 93008,
   120782, 120792, 120802, 120812, 120822, 123200, 123632, 125264, 130032]

def digitValue? (c : Char) : Option Nat :=
  (zeros.find? fun z => z ≤ c.toNat && c.toNat < z + 10).map (c.toNat - ·)

/-- Digits with single underscores between them, without the underscores, and what follows. -/
def digitRun (ok : Char → Bool) : List Char → List Char × List Char
  | [] => ([], [])
  | [c] => if ok c then ([c], []) else ([], [c])
  | c :: d :: cs =>
    if ok c then
      if d = '_' then
        match cs with
        | e :: _ => if ok e then let r := digitRun ok cs; (c :: r.1, r.2) else ([c], d :: cs)
        | [] => ([c], d :: cs)
      else
        let r := digitRun ok (d :: cs)
        (c :: r.1, r.2)
    else ([], c :: d :: cs)

def splitSign : List Char → Bool × List Char
  | '-' :: cs => (true, cs)
  | '+' :: cs => (false, cs)
  | cs => (false, cs)

def hexDigit (n : Nat) : Char := if n < 10 then Char.ofNat (48 + n) else Char.ofNat (87 + n)

def hex : Nat → Nat → List Char
  | 0, _ => []
  | width + 1, n => hex width (n / 16) ++ [hexDigit (n % 16)]

def hexValue? (c : Char) : Option Nat :=
  if '0' ≤ c ∧ c ≤ '9' then some (c.toNat - 48)
  else if 'a' ≤ c ∧ c ≤ 'f' then some (c.toNat - 87)
  else if 'A' ≤ c ∧ c ≤ 'F' then some (c.toNat - 55)
  else none

def hexNumber (cs : List Char) : Nat := cs.foldl (fun n c => n * 16 + (hexValue? c).getD 0) 0

def hexBytes : List Char → List UInt8
  | a :: b :: rest =>
    ((hexValue? a).getD 0 * 16 + (hexValue? b).getD 0).toUInt8 :: hexBytes rest
  | _ => []

end PgJinja.Text
