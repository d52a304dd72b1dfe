/-!
# Script extensions

The characters that are used in a script besides those of the script itself, in the Unicode character database.
Each class stands under its names, in small letters without separators. Its characters are listed as ranges of
hexadecimal numbers in ascending order.
-/

namespace Throttle.Pattern.Unicode

/-- The further characters of each script. -/
def scriptExtensions : List (List String × List String) := [
  (["adlam", "adlm"], [
      "61F 640"]),
  (["arab", "arabic"], [
      "60C 61B 61F 640 64B-655 670 FD3E-FD3F 102E0-102FB"]),
  (["beng", "bengali"], [
      "951-952 964-965 1CD0 1CD2 1CD5-1CD6 1CD8 1CE1 1CEA 1CED 1CF2 1CF5-1CF7 A8F1"]),
  (["bopo", "bopomofo"], [
      "3001-3003 3008-3011 3013-301F 302A-302D 3030 3037 30FB FE45-FE46 FF61-FF65"]),
  (["bugi", "buginese"], [
      "A9CF"]),
  (["buhd", "buhid"], [
      "1735-1736"]),
  (["cakm", "chakma"], [
      "9E6-9EF 1040-1049"]),
  (["copt", "coptic", "qaac"], [
      "102E0-102FB"]),
  (["cpmn", "cyprominoan"], [
      "10100-10101"]),
  (["cprt", "cypriot"], [
      "10100-10102 10107-10133 10137-1013F"]),
  (["cyrillic", "cyrl"], [
      "485-486 1DF8 2E43"]),
  (["deva", "devanagari"], [
      "951-952 964-965 1CD0-1CF6 1CF8-1CF9 20F0 A830-A839"]),
  (["dogr", "dogra"], [
      "964-96F A830-A839"]),
  (["dupl", "duployan"], [
      "1BCA0-1BCA3"]),
  (["geor", "georgian"], [
      "10FB"]),
  (["glag", "glagolitic"], [
      "484 487 2E43 A66F"]),
  (["gong", "gunjalagondi"], [
      "964-965"]),
  (["gonm", "masaramgondi"], [
      "964-965"]),
  (["gran", "grantha"], [
      "951-952 964-965 BE6-BF3 1CD0 1CD2-1CD3 1CF2-1CF4 1CF8-1CF9 20F0 1133B 11FD0-11FD1 11FD3"]),
  (["greek", "grek"], [
      "342 345 1DC0-1DC1"]),
  (["gujarati", "gujr"], [
      "951-952 964-965 A830-A839"]),
  (["gurmukhi", "guru"], [
      "951-952 964-965 A830-A839"]),
  (["hang", "hangul"], [
      "3001-3003 3008-3011 3013-301F 3030 3037 30FB FE45-FE46 FF61-FF65"]),
  (["han", "hani"], [
      "3001-3003 3006 3008-3011 3013-301F 302A-302D 3030 3037 303C-303F 30FB 3190-319F 31C0-31E3 3220-3247",
      "3280-32B0 32C0-32CB 32FF 3358-3370 337B-337F 33E0-33FE A700-A707 FE45-FE46 FF61-FF65 1D360-1D371",
      "1F250-1F251"]),
  (["hano", "hanunoo"], [
      "1735-1736"]),
  (["hira", "hiragana"], [
      "3001-3003 3008-3011 3013-301F 3030-3035 3037 303C-303D 3099-309C 30A0 30FB-30FC FE45-FE46 FF61-FF65 FF70",
      "FF9E-FF9F"]),
  (["java", "javanese"], [
      "A9CF"]),
  (["kali", "kayahli"], [
      "A92E"]),
  (["kana", "katakana"], [
      "3001-3003 3008-3011 3013-301F 3030-3035 3037 303C-303D 3099-309C 30A0 30FB-30FC FE45-FE46 FF61-FF65 FF70",
      "FF9E-FF9F"]),
  (["khoj", "khojki"], [
      "AE6-AEF A830-A839"]),
  (["kannada", "knda"], [
      "951-952 964-965 1CD0 1CD2 1CDA 1CF2 1CF4 A830-A835"]),
  (["kaithi", "kthi"], [
      "966-96F A830-A839"]),
  (["latin", "latn"], [
      "363-36F 485-486 951-952 10FB 202F 20F0 A700-A707 A92E"]),
  (["limb", "limbu"], [
      "965"]),
  (["lina", "lineara"], [
      "10107-10133"]),
  (["linb", "linearb"], [
      "10100-10102 10107-10133 10137-1013F"]),
  (["mahajani", "mahj"], [
      "964-96F A830-A839"]),
  (["mand", "mandaic"], [
      "640"]),
  (["mani", "manichaean"], [
      "640"]),
  (["malayalam", "mlym"], [
      "951-952 964-965 1CDA A830-A832"]),
  (["modi"], [
      "A830-A839"]),
  (["mong", "mongolian"], [
      "1802-1803 1805 202F"]),
  (["mult", "multani"], [
      "A66-A6F"]),
  (["myanmar", "mymr"], [
      "A92E"]),
  (["nand", "nandinagari"], [
      "964-965 CE6-CEF 1CE9 1CF2 1CFA A830-A835"]),
  (["nko", "nkoo"], [
      "60C 61B 61F FD3E-FD3F"]),
  (["oriya", "orya"], [
      "951-952 964-965 1CDA 1CF2"]),
  (["olduyghur", "ougr"], [
      "640 10AF2"]),
  (["oldpermic", "perm"], [
      "483"]),
  (["phag", "phagspa"], [
      "1802-1803 1805"]),
  (["phlp", "psalterpahlavi"], [
      "640"]),
  (["hanifirohingya", "rohg"], [
      "60C 61B 61F 640 6D4"]),
  (["sharada", "shrd"], [
      "951 1CD7 1CD9 1CDC-1CDD 1CE0"]),
  (["khudawadi", "sind"], [
      "964-965 A830-A839"]),
  (["sinh", "sinhala"], [
      "964-965"]),
  (["sogd", "sogdian"], [
      "640"]),
  (["sylo", "sylotinagri"], [
      "964-965 9E6-9EF"]),
  (["syrc", "syriac"], [
      "60C 61B-61C 61F 640 64B-655 670 1DF8 1DFA"]),
  (["tagb", "tagbanwa"], [
      "1735-1736"]),
  (["takr", "takri"], [
      "964-965 A830-A839"]),
  (["taile", "tale"], [
      "1040-1049"]),
  (["tamil", "taml"], [
      "951-952 964-965 1CDA A8F3 11301 11303 1133B-1133C"]),
  (["telu", "telugu"], [
      "951-952 964-965 1CDA 1CF2"]),
  (["tagalog", "tglg"], [
      "1735-1736"]),
  (["thaa", "thaana"], [
      "60C 61B-61C 61F 660-669 FDF2 FDFD"]),
  (["tirh", "tirhuta"], [
      "951-952 964-965 1CF2 A830-A839"]),
  (["yezi", "yezidi"], [
      "60C 61B 61F 660-669"]),
  (["yi", "yiii"], [
      "3001-3002 3008-3011 3014-301B 30FB FF61-FF65"])]

end Throttle.Pattern.Unicode
