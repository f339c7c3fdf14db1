import Dalvik.Text.Category

/-!
# Characters of identifiers

What identifiers may start with and go on with. The strict classes stay the same when text is brought to a normal
form, and so lack a few characters.
-/

namespace Dalvik.Text
open Category

/-- The characters kept for the syntax of patterns. -/
def patternSyntax : CharSet := .ofText
  "21-2f 3a-40 5b-5e 60 7b-7e a1-a7 a9 ab-ac ae b0-b1 b6 bb bf d7 f7 2010-2027 2030-203e 2041-2053 2055-205e
  2190-245f 2500-2775 2794-2bff 2e00-2e7f 3001-3003 3008-3020 3030 fd3e-fd3f fe45-fe46"

def patternBlank : CharSet := .ofText "9-d 20 85 200e-200f 2028-2029"

def otherIdStart : CharSet := .ofText "1885-1886 2118 212e 309b-309c"

def otherIdContinue : CharSet := .ofText "b7 387 1369-1371 19da 200c-200d 30fb ff65"

def idStart : CharSet := ((CharSet.ofSets [letters, letterNumber, otherIdStart]).diff patternSyntax).diff patternBlank

def idContinue : CharSet :=
  ((CharSet.ofSets [idStart, nonspacingMark, spacingMark, decimalNumber, connectorPunctuation, otherIdContinue]).diff
    patternSyntax).diff patternBlank

/-- The characters of identifiers that turn into something else in a normal form. -/
def unstableId : CharSet := .ofText "37a 309b-309c fc5e-fc63 fdfa-fdfb fe70-fe7e/2"

def strictIdStart : CharSet := idStart.diff (unstableId.union (.ofText "e33 eb3 ff9e-ff9f"))

def strictIdContinue : CharSet := idContinue.diff unstableId

/-- The mathematical symbols that may start an identifier where these are allowed. -/
def mathIdStart : CharSet := .ofText
  "2202 2207 221e 1d6c1 1d6db 1d6fb 1d715 1d735 1d74f 1d76f 1d789 1d7a9 1d7c3"

/-- The raised and lowered signs that may follow in an identifier where these are allowed. -/
def mathIdMark : CharSet := .ofText "b2-b3 b9 2070 2074-207e 2080-208e"

def mathIdContinue : CharSet := .ofSets [mathIdStart, mathIdMark]

end Dalvik.Text
