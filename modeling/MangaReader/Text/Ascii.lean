/-!
# Letters of ASCII

* `lowerAscii`, `upperAscii` : a text with its ASCII letters in one case.
* `sameAscii` : whether two texts are equal up to the case of ASCII letters.
-/

namespace MangaReader.Text

def lowerAscii (text : String) : String := String.ofList (text.toList.map Char.toLower)

def upperAscii (text : String) : String := String.ofList (text.toList.map Char.toUpper)

def sameAscii (a b : String) : Bool := a.toList.map Char.toLower == b.toList.map Char.toLower

end MangaReader.Text
