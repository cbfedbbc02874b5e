import PgJinja.Terminal.SymbolTable
import PgJinja.Text.Basic
import PgJinja.Text.Digit
import PgJinja.Text.Lower

/-! Symbols that are written as a name between colons. A name may end in a word that asks for the
plain or for the colourful form of its symbol. -/
namespace PgJinja.Terminal

def symbolOf (code : List Char) : List Char :=
  (Text.splitAtChar '-' code).map fun digits => Char.ofNat (Text.hexNumber digits)

def symbolRows : List (List Char) → List (List Char × List Char)
  | name :: code :: rest => (name, symbolOf code) :: symbolRows rest
  | _ => []

def plainRows : List (List Char × List Char) := symbolRows (Text.words plainSymbols.toList)

def tonedRows : List (List Char × List Char) := symbolRows (Text.words tonedSymbols.toList)

def tones : List (String × Char) :=
  [("_medium-light_skin_tone", Char.ofNat 0x1F3FC), ("_medium-dark_skin_tone", Char.ofNat 0x1F3FE),
   ("_light_skin_tone", Char.ofNat 0x1F3FB), ("_medium_skin_tone", Char.ofNat 0x1F3FD),
   ("_dark_skin_tone", Char.ofNat 0x1F3FF)]

def colorful : Char := Char.ofNat 0xFE0F

/-- A skin tone stands after the first character of a symbol and takes the place of a selector there. -/
def withTone (tone : Char) : List Char → List Char
  | [] => []
  | c :: cs => c :: tone :: cs.dropWhile (· == colorful)

def tonedSymbol? (name : List Char) : Option (List Char) :=
  tones.findSome? fun (ending, tone) =>
    if ending.toList.isSuffixOf name then
      (tonedRows.lookup (name.take (name.length - ending.length))).map (withTone tone)
    else none

def numberRows : List (List Char × List Char) :=
  [("100".toList, [Char.ofNat 0x1F4AF]), ("1234".toList, [Char.ofNat 0x1F522])]

/-- The symbol of a name. Most names between colons are the numbers of lines, so those come first. -/
def symbol? (name : List Char) : Option (List Char) :=
  if name.all Char.isDigit then numberRows.lookup name
  else plainRows.lookup name <|> tonedRows.lookup name <|> tonedSymbol? name

def forms : List (String × Char) :=
  [("-text", Char.ofNat 0xFE0E), ("-emoji", colorful)]

def splitForm (name : List Char) : List Char × List Char :=
  match forms.find? fun f => f.1.toList.isSuffixOf name with
  | some f => (name.take (name.length - f.1.length), [f.2])
  | none => (name, [])

def named (name : List Char) : List Char :=
  let (base, form) := splitForm name
  match symbol? (Text.lower base) with
  | some symbol => symbol ++ form
  | none => ':' :: (name ++ [':'])

def nameBeforeColon? (cs : List Char) : Option (List Char) :=
  let name := cs.takeWhile fun c => c != ':' && !Text.isBlank c
  match cs.drop name.length with
  | ':' :: _ => some name
  | _ => none

/-- Replaces the names of symbols. Two colons without a blank between them are always taken together.
`skip` characters are already written. -/
def replaceSymbols : Nat → List Char → List Char
  | _, [] => []
  | skip + 1, _ :: cs => replaceSymbols skip cs
  | 0, c :: cs =>
    if c = ':' then
      match nameBeforeColon? cs with
      | some name => named name ++ replaceSymbols (name.length + 1) cs
      | none => ':' :: replaceSymbols 0 cs
    else c :: replaceSymbols 0 cs

end PgJinja.Terminal
