import PgJinja.Text.Digit
import PgJinja.Text.Printable

/-! Quoted texts: between quotation marks, with escapes for the mark, the backslash and every
character without a visible form. -/
namespace PgJinja.Text

/-- Single quotes, unless the text has some and no double ones. -/
def quoteMark (cs : List Char) : Char :=
  if cs.contains '\x27' && !cs.contains '"' then '"' else '\x27'

def quotedChar (mark c : Char) : List Char :=
  if c = mark || c = '\\' then ['\\', c]
  else if c = '\t' then ['\\', 't']
  else if c = '\n' then ['\\', 'n']
  else if c = '\r' then ['\\', 'r']
  else if isPrintable c then [c]
  else if c.toNat < 0x100 then '\\' :: 'x' :: hex 2 c.toNat
  else if c.toNat < 0x10000 then '\\' :: 'u' :: hex 4 c.toNat
  else '\\' :: 'U' :: hex 8 c.toNat

def quotedChars (cs : List Char) : List Char :=
  let mark := quoteMark cs
  mark :: (cs.flatMap (quotedChar mark) ++ [mark])

def quoted (s : String) : String := String.ofList (quotedChars s.toList)

end PgJinja.Text
