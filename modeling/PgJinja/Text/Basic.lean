/-! Texts: classes of characters given by ranges of code points, blanks, lines and words, occurrences of one
text in another, and joining. -/
namespace PgJinja.Text

def inRanges (ranges : List (Nat × Nat)) (c : Char) : Bool :=
  ranges.any fun r => r.1 ≤ c.toNat && c.toNat ≤ r.2

def blankRanges : List (Nat × Nat) :=
  [(0x9, 0xD), (0x1C, 0x20), (0x85, 0x85), (0xA0, 0xA0), (0x1680, 0x1680), (0x2000, 0x200A),
   (0x2028, 0x2029), (0x202F, 0x202F), (0x205F, 0x205F), (0x3000, 0x3000)]

def isBlank (c : Char) : Bool := inRanges blankRanges c

def trimLeft (cs : List Char) : List Char := cs.dropWhile isBlank

def trimRight (cs : List Char) : List Char := (trimLeft cs.reverse).reverse

def trim (cs : List Char) : List Char := trimRight (trimLeft cs)

def strip (s : String) : String := String.ofList (trim s.toList)

/-- Cuts at every occurrence of a character; there is one piece more than there are cuts. -/
def splitAtChar (cut : Char) : List Char → List (List Char)
  | [] => [[]]
  | c :: cs =>
    if c = cut then [] :: splitAtChar cut cs
    else
      match splitAtChar cut cs with
      | [] => [[c]]
      | piece :: rest => (c :: piece) :: rest

def lines (s : String) : List String := (splitAtChar '\n' s.toList).map String.ofList

def words (cs : List Char) : List (List Char) :=
  (splitAtChar ' ' (cs.map fun c => if isBlank c then ' ' else c)).filter (!·.isEmpty)

/-- The first word, and what follows the blanks after it, if there is something. -/
def splitOnce (cs : List Char) : List (List Char) :=
  let text := trimLeft cs
  if text.isEmpty then []
  else
    let word := text.takeWhile fun c => !isBlank c
    let rest := trimLeft (text.drop word.length)
    if rest.isEmpty then [word] else [word, rest]

def join (separator : String) : List String → String
  | [] => ""
  | [s] => s
  | s :: rest => s ++ separator ++ join separator rest

def unlines (ls : List String) : String := join "\n" ls

def occurs (needle : List Char) : List Char → Bool
  | [] => needle.isEmpty
  | c :: cs => needle.isPrefixOf (c :: cs) || occurs needle cs

def contains (s needle : String) : Bool := occurs needle.toList s.toList

def copies (n : Nat) (c : Char) : String := String.ofList (List.replicate n c)

def padLeft (width : Nat) (s : String) : String := copies (width - s.length) ' ' ++ s

end PgJinja.Text
