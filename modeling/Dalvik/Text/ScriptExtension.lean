import Dalvik.Text.Script

/-!
# Characters of several scripts

A character may be in use with other scripts than its own. Those that are common to all scripts or inherit the one of the
character before them are used with any script, unless they are listed here.
-/

namespace Dalvik.Text

/-- The characters in use with each script beside its own. -/
def sharedByScript : List (String × CharSet) := [
  ("adlm", .ofText "61f 640 204f 2e41"),
  ("aghb", .ofText "304 331 35e"),
  ("arab", .ofText "60c 61b 61f 640 64b-655 670 204f 2e41 fd3e-fd3f 102e0-102fb"),
  ("armn", .ofText "308"),
  ("avst", .ofText "b7 2e30-2e31"),
  ("beng", .ofText "2bc 951-952 964-965 1cd0 1cd2 1cd5-1cd6 1cd8 1ce1 1cea 1ced 1cf2 1cf5-1cf7 a8f1"),
  ("bopo", .ofText
    "2c7 2c9-2cb 2d9 3001-3003 3008-3011 3013-301f 302a-302d 3030 3037 30fb fe45-fe46 ff61-ff65"),
  ("bugi", .ofText "a9cf"),
  ("buhd", .ofText "1735-1736"),
  ("cakm", .ofText "9e6-9ef 1040-1049"),
  ("cari", .ofText "b7 205a 205d 2e31"),
  ("cher", .ofText "300-302 304 30b-30c 323-324 330-331"),
  ("copt", .ofText "b7 300 304-305 307 374-375 2e17 102e0-102fb"),
  ("cpmn", .ofText "10100-10101"),
  ("cprt", .ofText "10100-10102 10107-10133 10137-1013f"),
  ("cyrl", .ofText "2bc 300-302 304-308/2 30b 311 485-486 1df8 2e43"),
  ("deva", .ofText "2bc 951-952 964-965 1cd0-1cf6 1cf8-1cf9 20f0 a830-a839"),
  ("dogr", .ofText "964-96f a830-a839"),
  ("dupl", .ofText "b7 307-308 30a 323-324 2e3c 1bca0-1bca3"),
  ("elba", .ofText "b7 305"),
  ("ethi", .ofText "30e"),
  ("gara", .ofText "60c 61b 61f"),
  ("geor", .ofText "b7 589 10fb 205a 2e31"),
  ("glag", .ofText "b7 303 305 484 487 589 10fb 205a 2e43 a66f"),
  ("gong", .ofText "b7 964-965"),
  ("gonm", .ofText "964-965"),
  ("goth", .ofText "b7 304-305 308 331"),
  ("gran", .ofText "951-952 964-965 be6-bf3 1cd0 1cd2-1cd3 1cf2-1cf4 1cf8-1cf9 20f0 1133b 11fd0-11fd1 11fd3"),
  ("grek", .ofText "b7 300-301 304-308/2 313 342 345 374 1dc0-1dc1 205d"),
  ("gujr", .ofText "951-952 964-965 a830-a839"),
  ("gukh", .ofText "965"),
  ("guru", .ofText "951-952 964-965 a830-a839"),
  ("hang", .ofText "3001-3003 3008-3011 3013-301f 3030 3037 30fb fe45-fe46 ff61-ff65"),
  ("hani", .ofText
    "b7 2ff0-2fff 3001-3003 3006 3008-3011 3013-301f 302a-302d 3030 3037 303c-303f 30fb 3190-319f 31c0-31e5
    31ef 3220-3247 3280-32b0 32c0-32cb 32ff 3358-3370 337b-337f 33e0-33fe a700-a707 fe45-fe46 ff61-ff65
    1d360-1d371 1f250-1f251"),
  ("hano", .ofText "1735-1736"),
  ("hebr", .ofText "307-308"),
  ("hira", .ofText
    "3001-3003 3008-3011 3013-301f 3030-3035 3037 303c-303d 3099-309c 30a0 30fb-30fc fe45-fe46 ff61-ff65
    ff70 ff9e-ff9f"),
  ("hung", .ofText "205a 205d 2e31 2e41"),
  ("java", .ofText "a9cf"),
  ("kali", .ofText "a92e"),
  ("kana", .ofText
    "305 323 3001-3003 3008-3011 3013-301f 3030-3035 3037 303c-303d 3099-309c 30a0 30fb-30fc fe45-fe46
    ff61-ff65 ff70 ff9e-ff9f"),
  ("khoj", .ofText "ae6-aef a830-a839"),
  ("knda", .ofText "951-952 964-965 1cd0 1cd2-1cd3 1cda 1cf2 1cf4 a830-a835"),
  ("kthi", .ofText "966-96f 2e31 a830-a839"),
  ("latn", .ofText
    "b7 2bc 2c7 2c9-2cb 2cd 2d7 2d9 300-30e 310-311 313 323-325 32d-32e 330-331 358 35e 363-36f 485-486
    951-952 10fb 1df8 202f 20f0 2e17 a700-a707 a92e"),
  ("limb", .ofText "965"),
  ("lina", .ofText "10107-10133"),
  ("linb", .ofText "10100-10102 10107-10133 10137-1013f"),
  ("lisu", .ofText "2bc 2cd 300a-300b"),
  ("lyci", .ofText "205a"),
  ("lydi", .ofText "b7 2e31"),
  ("mahj", .ofText "b7 964-96f a830-a839"),
  ("mand", .ofText "640"),
  ("mani", .ofText "640"),
  ("mero", .ofText "205d"),
  ("mlym", .ofText "951-952 964-965 1cda 1cf2 a830-a832"),
  ("modi", .ofText "a830-a839"),
  ("mong", .ofText "1802-1803 1805 202f 3001-3002 3008-300b"),
  ("mult", .ofText "a66-a6f"),
  ("mymr", .ofText "a92e"),
  ("nand", .ofText "951 964-965 ce6-cef 1ce9 1cf2 1cfa a830-a835"),
  ("newa", .ofText "951-952 1cd5 1cd7-1cd8 1ce2 1ce9-1ced/2"),
  ("nkoo", .ofText "60c 61b 61f fd3e-fd3f"),
  ("onao", .ofText "964-965"),
  ("orkh", .ofText "205a 2e30"),
  ("orya", .ofText "951-952 964-965 1cda 1cf2"),
  ("osge", .ofText "301 304 30b 358"),
  ("ougr", .ofText "640 10af2"),
  ("perm", .ofText "b7 300 306-308 313 483"),
  ("phag", .ofText "1802-1803 1805 202f 3002"),
  ("phlp", .ofText "640"),
  ("rohg", .ofText "60c 61b 61f 640 6d4"),
  ("runr", .ofText "16eb-16ed"),
  ("samr", .ofText "2e31"),
  ("shaw", .ofText "b7"),
  ("shrd", .ofText "951 1cd7 1cd9 1cdc-1cdd 1ce0 1cea 1ced a830-a835 a838"),
  ("sind", .ofText "964-965 a830-a839"),
  ("sinh", .ofText "964-965 1cf2"),
  ("sogd", .ofText "640"),
  ("sunu", .ofText "300-301 303 30d 310 32d 331"),
  ("sylo", .ofText "964-965 9e6-9ef"),
  ("syrc", .ofText "303-304 307-308 30a 323-325 32d-32e 330-331 60c 61b-61c 61f 640 64b-655 670 1df8 1dfa"),
  ("tagb", .ofText "1735-1736"),
  ("takr", .ofText "964-965 a830-a839"),
  ("tale", .ofText "300-301 307-308 30c 1040-1049"),
  ("taml", .ofText "951-952 964-965 1cda a8f3 11301 11303 1133b-1133c"),
  ("tang", .ofText "2ff0-2fff 31ef"),
  ("telu", .ofText "951-952 964-965 1cd5-1cd6 1cd8 1cda 1cf2"),
  ("tfng", .ofText "302 304 306-309 323"),
  ("tglg", .ofText "1735-1736"),
  ("thaa", .ofText "60c 61b-61c 61f 660-669 fdf2 fdfd"),
  ("thai", .ofText "2bc 2d7 303 331"),
  ("tibt", .ofText "3008-300b"),
  ("tirh", .ofText "951-952 964-965 1cd5 1ce2 1cf2 a830-a839"),
  ("todr", .ofText "301 304 307 311 313 35e"),
  ("toto", .ofText "2bc"),
  ("tutg", .ofText "ce6-cef 1cf2 1cf4 a830-a835 a8f1"),
  ("yezi", .ofText "60c 61b 61f 660-669"),
  ("yiii", .ofText "3001-3002 3008-3011 3014-301b 30fb ff61-ff65")]

def shared : CharSet := .ofSets (sharedByScript.map Prod.snd)

/-- The characters in use with the script of the given name. -/
def scriptExtension? (name : String) : Option CharSet := do
  let (names, own) ← scripts.find? (·.1.contains name)
  if names.contains "common" || names.contains "inherited" then return own.diff shared
  return (sharedByScript.filter (names.contains ·.1)).foldl (fun s (_, more) => s.union more) own

end Dalvik.Text
