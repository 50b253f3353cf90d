/-!
Blank characters and trimming. A character is blank when Unicode gives it the property
`White_Space`; trimming removes blanks at the ends and nothing else.
-/

namespace Registrar.Text

/-- The characters with the Unicode property `White_Space`. -/
def isBlank (c : Char) : Bool :=
  (0x09 ≤ c.toNat && c.toNat ≤ 0x0D) || c.toNat == 0x20 || c.toNat == 0x85 || c.toNat == 0xA0 ||
    c.toNat == 0x1680 || (0x2000 ≤ c.toNat && c.toNat ≤ 0x200A) || c.toNat == 0x2028 ||
    c.toNat == 0x2029 || c.toNat == 0x202F || c.toNat == 0x205F || c.toNat == 0x3000

def skipBlanks (chars : List Char) : List Char :=
  chars.dropWhile isBlank

def trimChars (chars : List Char) : List Char :=
  (skipBlanks (skipBlanks chars).reverse).reverse

def trim (text : String) : String :=
  String.ofList (trimChars text.toList)

def trimStart (text : String) : String :=
  String.ofList (skipBlanks text.toList)

def isBlankText (text : String) : Bool :=
  text.toList.all isBlank

end Registrar.Text
