import CaptureTheFlag.Regex.Syntax
import CaptureTheFlag.Unicode.Age
import CaptureTheFlag.Unicode.Break
import CaptureTheFlag.Unicode.Category
import CaptureTheFlag.Unicode.Property
import CaptureTheFlag.Unicode.Script

/-!
# Classes of characters

The characters that a letter stands for, and those with a property.  In the names of properties and
of their values letters may be large or small, and blanks, hyphens and underscores do not count.

* `LetterClass.chars`, `LetterClass.asciiChars`: the characters that a letter stands for.
* `PropertyName.chars?`: the characters with a property.
-/

namespace CaptureTheFlag.Regex

/-! ## Letters -/

namespace LetterClass

/-- The characters of the categories and properties with these names. -/
def charsOf (categories properties : List String) : CharSet :=
  CharSet.unionAll
    (categories.filterMap Unicode.category? ++ properties.filterMap Unicode.property?)

/-- The decimal digits of all scripts. -/
def digits : CharSet := charsOf ["nd"] []

/-- White space. -/
def spaces : CharSet := charsOf [] ["whitespace"]

/-- What words are made of: letters, marks, decimal digits, connectors and joiners. -/
def wordChars : CharSet := charsOf ["m", "nd", "pc"] ["alphabetic", "joincontrol"]

/-- The characters that a letter stands for. -/
def chars : LetterClass → CharSet
  | digit => digits
  | space => spaces
  | word => wordChars

/-- The ASCII characters that a letter stands for. -/
def asciiChars : LetterClass → CharSet
  | digit => ⟨[(0x30, 0x39)]⟩
  | space => ⟨[(9, 0xD), (0x20, 0x20)]⟩
  | word => ⟨[(0x30, 0x39), (0x41, 0x5A), (0x5F, 0x5F), (0x61, 0x7A)]⟩

end LetterClass

/-! ## Properties -/

namespace PropertyName

/-- The characters of a name that count, with small letters. -/
def lettersOf (name : List Char) : List Char :=
  (name.filter fun c => c.toNat < 128 && c ∉ [' ', '_', '-']).map Char.toLower

/-- A name as it stands in the tables.  The word "is" before it does not count, except that the name
"isc" is not "c". -/
def normalize (name : String) : String :=
  match name.toList with
  | a :: b :: r =>
    if a.toLower = 'i' && b.toLower = 's' then
      let letters := lettersOf r
      if letters = ['c'] then "isc" else String.ofList letters
    else String.ofList (lettersOf (a :: b :: r))
  | cs => String.ofList (lettersOf cs)

/-- These names are those of categories, though properties have them too. -/
def categoryNames : List String := ["cf", "sc", "lc"]

/-- The characters with a property, of a category or of a script. -/
def plainChars? (name : String) : Option CharSet :=
  let property := if name ∈ categoryNames then none else Unicode.property? name
  (property <|> Unicode.category? name) <|> Unicode.script? name

/-- The characters for which a property has a value. -/
def valuedChars? (name value : String) : Option CharSet :=
  if name ∈ ["gc", "generalcategory"] then Unicode.category? value
  else if name ∈ ["sc", "script"] then Unicode.script? value
  else if name ∈ ["scx", "scriptextensions"] then Unicode.scriptExtension? value
  else if name = "age" then Unicode.age? value
  else if name ∈ ["gcb", "graphemeclusterbreak"] then Unicode.signBreak? value
  else if name ∈ ["wb", "wordbreak"] then Unicode.wordBreak? value
  else if name ∈ ["sb", "sentencebreak"] then Unicode.sentenceBreak? value
  else none

/-- The characters with a property, if there is such a property. -/
def chars? : PropertyName → Option CharSet
  | plain name => plainChars? (normalize name)
  | valued name value => valuedChars? (normalize name) (normalize value)

end PropertyName

end CaptureTheFlag.Regex
