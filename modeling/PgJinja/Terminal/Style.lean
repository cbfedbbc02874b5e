import PgJinja.Text.Basic
import PgJinja.Text.Lower
import PgJinja.Text.Numeral

/-! Styles of printed text: attributes that are on or off, two colours and a link. Two descriptions mean
the same style if they have the same spelling. -/
namespace PgJinja.Terminal

def colorNames : List String :=
  ["black", "red", "green", "yellow", "blue", "magenta", "cyan", "white", "bright_black", "bright_red",
   "bright_green", "bright_yellow", "bright_blue", "bright_magenta", "bright_cyan", "bright_white",
   "grey0", "gray0", "navy_blue", "dark_blue", "blue3", "blue1", "dark_green", "deep_sky_blue4",
   "dodger_blue3", "dodger_blue2", "green4", "spring_green4", "turquoise4", "deep_sky_blue3",
   "dodger_blue1", "green3", "spring_green3", "dark_cyan", "light_sea_green", "deep_sky_blue2",
   "deep_sky_blue1", "spring_green2", "cyan3", "dark_turquoise", "turquoise2", "green1",
   "spring_green1", "medium_spring_green", "cyan2", "cyan1", "dark_red", "deep_pink4", "purple4",
   "purple3", "blue_violet", "orange4", "grey37", "gray37", "medium_purple4", "slate_blue3",
   "royal_blue1", "chartreuse4", "dark_sea_green4", "pale_turquoise4", "steel_blue", "steel_blue3",
   "cornflower_blue", "chartreuse3", "cadet_blue", "sky_blue3", "steel_blue1", "pale_green3",
   "sea_green3", "aquamarine3", "medium_turquoise", "chartreuse2", "sea_green2", "sea_green1",
   "aquamarine1", "dark_slate_gray2", "dark_magenta", "dark_violet", "purple", "light_pink4", "plum4",
   "medium_purple3", "slate_blue1", "yellow4", "wheat4", "grey53", "gray53", "light_slate_grey",
   "light_slate_gray", "medium_purple", "light_slate_blue", "dark_olive_green3", "dark_sea_green",
   "light_sky_blue3", "sky_blue2", "dark_sea_green3", "dark_slate_gray3", "sky_blue1", "chartreuse1",
   "light_green", "pale_green1", "dark_slate_gray1", "red3", "medium_violet_red", "magenta3",
   "dark_orange3", "indian_red", "hot_pink3", "medium_orchid3", "medium_orchid", "medium_purple2",
   "dark_goldenrod", "light_salmon3", "rosy_brown", "grey63", "gray63", "medium_purple1", "gold3",
   "dark_khaki", "navajo_white3", "grey69", "gray69", "light_steel_blue3", "light_steel_blue",
   "yellow3", "dark_sea_green2", "light_cyan3", "light_sky_blue1", "green_yellow", "dark_olive_green2",
   "dark_sea_green1", "pale_turquoise1", "deep_pink3", "magenta2", "hot_pink2", "orchid",
   "medium_orchid1", "orange3", "light_pink3", "pink3", "plum3", "violet", "light_goldenrod3", "tan",
   "misty_rose3", "thistle3", "plum2", "khaki3", "light_goldenrod2", "light_yellow3", "grey84",
   "gray84", "light_steel_blue1", "yellow2", "dark_olive_green1", "honeydew2", "light_cyan1", "red1",
   "deep_pink2", "deep_pink1", "magenta1", "orange_red1", "indian_red1", "hot_pink", "dark_orange",
   "salmon1", "light_coral", "pale_violet_red1", "orchid2", "orchid1", "orange1", "sandy_brown",
   "light_salmon1", "light_pink1", "pink1", "plum1", "gold1", "navajo_white1", "misty_rose1",
   "thistle1", "yellow1", "light_goldenrod1", "khaki1", "wheat1", "cornsilk1", "grey100", "gray100",
   "grey3", "gray3", "grey7", "gray7", "grey11", "gray11", "grey15", "gray15", "grey19", "gray19",
   "grey23", "gray23", "grey27", "gray27", "grey30", "gray30", "grey35", "gray35", "grey39", "gray39",
   "grey42", "gray42", "grey46", "gray46", "grey50", "gray50", "grey54", "gray54", "grey58", "gray58",
   "grey62", "gray62", "grey66", "gray66", "grey70", "gray70", "grey74", "gray74", "grey78", "gray78",
   "grey82", "gray82", "grey85", "gray85", "grey89", "gray89", "grey93", "gray93"]

def callBody? (name : String) (cs : List Char) : Option (List Char) :=
  let opening := name.toList ++ ['(']
  if opening.isPrefixOf cs && cs.getLast? == some ')' then
    some (cs.drop opening.length).dropLast
  else none

def isTriple (body : List Char) : Except Text.NumeralFault Bool :=
  let parts := Text.splitAtChar ',' body
  if parts.length == 3 && body.all fun c => c = ',' || (Text.digitValue? c).isSome then do
    let values ← parts.mapM Text.numeral
    return values.all (· ≤ 255)
  else .ok false

/-- A colour has a name, a number, or three parts that are written in hexadecimal or one by one. -/
def isColor (cs : List Char) : Except Text.NumeralFault Bool :=
  match callBody? "rgb" cs with
  | some body => isTriple body
  | none =>
    .ok <| String.ofList cs == "default" || colorNames.contains (String.ofList cs)
      || (cs.length == 7 && cs.head? == some '#'
        && cs.tail.all fun c => c.isDigit || ('a' ≤ c && c ≤ 'f'))
      || (match callBody? "color" cs with
        | some body =>
          !body.isEmpty && body.length ≤ 3 && body.all Char.isDigit
            && Text.digitsValue (body.filterMap Text.digitValue?) ≤ 255
        | none => false)

def attributes : List (String × Option String) :=
  [("bold", some "b"), ("dim", some "d"), ("italic", some "i"), ("underline", some "u"),
   ("blink", none), ("blink2", none), ("reverse", some "r"), ("conceal", some "c"),
   ("strike", some "s"), ("underline2", some "uu"), ("frame", none), ("encircle", none),
   ("overline", some "o")]

def attribute? (word : List Char) : Option String :=
  let word := String.ofList word
  (attributes.find? fun a => a.1 == word || a.2 == some word).map (·.1)

/-- A style. Of several settings of one attribute the last one counts, and it stands first. -/
structure Style where
  settings : List (String × Bool) := []
  color : Option (List Char) := none
  background : Option (List Char) := none
  link : Option (List Char) := none

inductive StyleFault where
  | unknown
  | numeral (fault : Text.NumeralFault)
  deriving DecidableEq, Repr

def readColor (word : List Char) : Except StyleFault (List Char) :=
  match isColor word with
  | .ok true => .ok word
  | .ok false => .error .unknown
  | .error fault => .error (.numeral fault)

namespace Style

def withWord (s : Style) (word : List Char) : Except StyleFault Style :=
  match attribute? word with
  | some name => .ok { s with settings := (name, true) :: s.settings }
  | none => do return { s with color := some (← readColor word) }

def withWords (s : Style) : List (List Char) → Except StyleFault Style
  | [] => .ok s
  | [word] => s.withWord (Text.lower word)
  | word :: next :: rest =>
    match String.ofList (Text.lower word) with
    | "on" =>
      match readColor (Text.lower next) with
      | .ok color => { s with background := some color }.withWords rest
      | .error fault => .error fault
    | "not" =>
      match attribute? next with
      | some name => { s with settings := (name, false) :: s.settings }.withWords rest
      | none => .error .unknown
    | "link" => { s with link := some next }.withWords rest
    | _ =>
      match s.withWord (Text.lower word) with
      | .ok s => s.withWords (next :: rest)
      | .error fault => .error fault

def read (description : List Char) : Except StyleFault Style :=
  if Text.trim description == "none".toList then .ok {}
  else withWords {} (Text.words description)

def text (s : Style) : String :=
  let settings := attributes.filterMap fun a =>
    (s.settings.find? (·.1 == a.1)).map fun x => if x.2 then x.1 else "not " ++ x.1
  let part (lead : String) (value : Option (List Char)) : List String :=
    value.toList.map fun cs => lead ++ String.ofList cs
  match settings ++ part "" s.color ++ part "on " s.background ++ part "link " s.link with
  | [] => "none"
  | parts => Text.join " " parts

/-- What two descriptions of one style have in common. A text that describes no style stands for itself,
in small letters and without blanks around it. -/
def normal (description : List Char) : Except Text.NumeralFault String :=
  match read description with
  | .ok s => .ok s.text
  | .error .unknown => .ok (String.ofList (Text.lower (Text.trim description)))
  | .error (.numeral fault) => .error fault

end Style
end PgJinja.Terminal
