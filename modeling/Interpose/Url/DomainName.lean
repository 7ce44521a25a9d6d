import Interpose.Unicode.HostMapping
import Interpose.Unicode.Composed
import Interpose.Unicode.BidiClass
import Interpose.Unicode.JoiningType
import Interpose.Unicode.Mark
import Interpose.Url.Punycode
import Interpose.Text.Utf8

/-!
# Domain names in ASCII

A domain name may be written in any script; what is looked up is its ASCII form. `toAscii?` maps
and composes the name, checks each label, and writes a label that is not ASCII in Punycode after
the mark `xn--`. A label that already carries the mark must decode to something that is itself
valid and not ASCII.

The last step admits a result only if it consists of ASCII characters that may stand in a host
(`isHostChar`), so whatever came in, no separator of URLs or file paths comes out.
-/

namespace Interpose.DomainName

open Unicode

/-- Whether an ASCII character may stand in a domain name. -/
def isHostChar (c : Char) : Bool :=
  0x20 < c.toNat && c.toNat < 0x7F && !("%#/:<>?@[\\]^|".toList.contains c)

/-- Whether a character is ASCII. -/
def isAscii (c : Char) : Bool := c.toNat < 0x80

/-! ## Mapping -/

/-- What a character of a name becomes; none if it is not allowed. -/
def mapChar? (c : Char) : Option (List Char) :=
  if isAscii c then some [c.toLower]
  else
    match hostMapping.row? c with
    | none => none
    | some row =>
      match row.content with
      | '=' :: _ => some [c]
      | '.' :: _ => some []
      | '/' :: _ => some [if (c.toNat - row.first) % 2 = 0 then Char.ofNat (c.toNat + 1) else c]
      | _ =>
        match row.codes with
        | [n] => some [Char.ofNat (n + (c.toNat - row.first))]
        | codes => some (codes.map Char.ofNat)

/-- Whether the mapping leaves a character as it is. -/
def isFixed (c : Char) : Bool := mapChar? c == some [c]

/-! ## Labels -/

/-- The first letter of a character's joining type. -/
def joiningType (c : Char) : Char :=
  match joiningTypes.row? c with
  | some row => (row.content.getD 1 'U')
  | none => 'U'

/-- Whether the characters before or after a non-joiner, nearest first, join towards it. -/
def joins (types : List Char) (chars : List Char) : Bool :=
  match (chars.map joiningType).dropWhile (· == 'T') with
  | t :: _ => types.contains t
  | [] => false

/-- Whether each joiner and non-joiner of a label stands where scripts need it: after a virama, or
for a non-joiner between two letters that would otherwise join. `before` is last first. -/
def joinersFit (before : List Char) : List Char → Bool
  | [] => true
  | c :: rest =>
    let afterVirama := match before with
      | b :: _ => combiningClass b == 9
      | [] => false
    let fits :=
      if c.toNat = 0x200C then
        afterVirama || (joins ['L', 'D'] before && joins ['R', 'D'] rest)
      else if c.toNat = 0x200D then afterVirama
      else true
    fits && joinersFit (c :: before) rest

/-- Whether a decoded or mapped label beyond ASCII is valid. -/
def isValidLabel (label : List Char) : Bool :=
  label.all isFixed && composed label == label && joinersFit [] label &&
    match label with
    | c :: _ => (marks.row? c).isNone
    | [] => true

/-- The mark of an encoded label. -/
def encodedMark : List Char := "xn--".toList

/-- The text of a label: an encoded one is decoded. None if the label is not valid. -/
def labelText? (label : List Char) : Option (List Char) :=
  if encodedMark.isPrefixOf label then
    if label.all isAscii then
      match Punycode.decode? (label.drop 4) with
      | some text => if !text.all isAscii && isValidLabel text then some text else none
      | none => none
    else none
  else if label.all isAscii then some label
  else if isValidLabel label then some label
  else none

/-! ## Direction -/

/-- The directional class of a character. -/
def bidiClass (c : Char) : String :=
  match bidiClasses.row? c with
  | some row => String.ofList (row.content.drop 1)
  | none => "L"

/-- Whether a label holds a character that runs from right to left. -/
def isRightToLeft (label : List Char) : Bool :=
  label.any fun c => ["R", "AL", "AN"].contains (bidiClass c)

/-- Whether a label of a name with right-to-left parts keeps to one direction: it starts with a
letter of its direction, holds only what may stand in it, and ends with a letter or number. -/
def keepsDirection (label : List Char) : Bool :=
  let classes := label.map bidiClass
  match classes with
  | [] => true
  | first :: _ =>
    let last := (classes.reverse.dropWhile (· == "NSM")).head?.getD ""
    if first == "R" || first == "AL" then
      classes.all (["R", "AL", "AN", "EN", "ES", "CS", "ET", "ON", "BN", "NSM"].contains ·) &&
        ["R", "AL", "EN", "AN"].contains last &&
        !(classes.contains "EN" && classes.contains "AN")
    else if first == "L" then
      classes.all (["L", "EN", "ES", "CS", "ET", "ON", "BN", "NSM"].contains ·) &&
        ["L", "EN"].contains last
    else false

/-! ## Names -/

/-- The ASCII form of a label. -/
def labelAscii? (label : List Char) : Option (List Char) :=
  if label.all isAscii then some label
  else (Punycode.encode? label).map (encodedMark ++ ·)

/-- The ASCII form of a mapped and composed name. -/
def labelsAscii? (name : List Char) : Option (List Char) :=
  let labels := name.splitOn '.'
  match labels.mapM labelText? with
  | none => none
  | some texts =>
    if texts.any isRightToLeft && !texts.all keepsDirection then none
    else (labels.mapM labelAscii?).map (['.'].intercalate ·)

/-- Whether a name needs no mapping beyond letter case: it is ASCII and no label is encoded. -/
def isPlain (name : List Char) : Bool :=
  name.all isAscii && !((name.map Char.toLower).splitOn '.').any encodedMark.isPrefixOf

/-- The ASCII form of a name, before the check of its characters. -/
def convert? (name : List Char) : Option (List Char) :=
  if isPlain name then some (name.map Char.toLower)
  else
    match name.mapM mapChar? with
    | none => none
    | some mapped => labelsAscii? (composed mapped.flatten)

/-- The ASCII form of a domain name. -/
def toAscii? (name : List Char) : Option (List Char) :=
  match convert? name with
  | none => none
  | some ascii => if ascii.all isHostChar then some ascii else none

end Interpose.DomainName
