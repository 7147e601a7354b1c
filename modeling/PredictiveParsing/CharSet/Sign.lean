import PredictiveParsing.CharSet.Category

/-!
# Signs

The sets that have to do with punctuation, numbers and symbols, white space among them, and with the
direction of writing.
-/

namespace PredictiveParsing
namespace CharSet

/-- White space. -/
def whiteSpace : CharSet :=
  .ofHex "9-d 20 85 a0 1680 2000-200a 2028-2029 202f 205f 3000"

/-- The white space of formal languages. -/
def patternWhiteSpace : CharSet :=
  .ofHex "9-d 20 85 200e-200f 2028-2029"

/-- Signs that formal languages may use. -/
def patternSyntax : CharSet :=
  .ofHexLines
    ["21-2f 3a-40 5b-5e 60 7b-7e a1-a7 a9 ab-ac ae b0-b1 b6 bb bf d7 f7 2010-2027 2030-203e",
     "2041-2053 2055-205e 2190-245f 2500-2775 2794-2bff 2e00-2e7f 3001-3003 3008-3020 3030",
     "fd3e-fd3f fe45-fe46"]

/-- Dashes and hyphens. -/
def dash : CharSet :=
  unions [Category.dashPunctuation, .ofHex "2053 207b 208b 2212"]

/-- Signs that join the parts of a word. -/
def hyphen : CharSet :=
  .ofHex "2d ad 58a 1806 2010-2011 2e17 30fb fe63 ff0d ff65"

/-- Quotation marks. -/
def quotationMark : CharSet :=
  .ofHex "22 27 ab bb 2018-201f 2039-203a 2e42 300c-300f 301d-301f fe41-fe44 ff02 ff07 ff62-ff63"

/-- Punctuation that ends a sentence. -/
def sentenceTerminal : CharSet :=
  .ofHexLines
    ["21 2e 3f 589 61d-61f 6d4 700-702 7f9 837 839 83d-83e 964-965 104a-104b 1362 1367-1368 166e",
     "1735-1736 17d4-17d5 1803 1809 1944-1945 1aa8-1aab 1b4e-1b4f 1b5a-1b5b 1b5e-1b5f 1b7d-1b7f",
     "1c3b-1c3c 1c7e-1c7f 2024 203c-203d 2047-2049 2cf9-2cfb 2e2e 2e3c 2e53-2e54 3002 a4ff",
     "a60e-a60f a6f3 a6f7 a876-a877 a8ce-a8cf a92f a9c8-a9c9 aa5d-aa5f aaf0-aaf1 abeb fe12",
     "fe15-fe16 fe52 fe56-fe57 ff01 ff0e ff1f ff61 10a56-10a57 10f55-10f59 10f86-10f89",
     "11047-11048 110be-110c1 11141-11143 111c5-111c6 111cd 111de-111df 11238-11239 1123b-1123c",
     "112a9 113d4-113d5 1144b-1144c 115c2-115c3 115c9-115d7 11641-11642 1173c-1173e 11944 11946",
     "11a42-11a43 11a9b-11a9c 11c41-11c42 11ef7-11ef8 11f43-11f44 16a6e-16a6f 16af5 16b37-16b38",
     "16b44 16d6e-16d6f 16e98 1bc9f 1da88"]

/-- Punctuation that ends a part of a text. -/
def terminalPunctuation : CharSet :=
  unions
    [sentenceTerminal,
      .ofHexLines
        ["2c 3a-3b 37e 387 5c3 60c 61b 703-70a 70c 7f8 830-835 838 83a-83c 85e e5a-e5b f08",
         "f0d-f12 1361 1363-1366 16eb-16ed 17d6 17da 1802 1804-1805 1808 1b5d 1c3d-1c3f 2e41",
         "2e4c 2e4e-2e4f 3001 a4fe a60d a6f4-a6f6 a9c7 aadf fe50-fe51 fe54-fe55 ff0c ff1a-ff1b",
         "ff64 1039f 103d0 10857 1091f 10af0-10af5 10b3a-10b3f 10b99-10b9c 11049-1104d 1123a",
         "1144d 1145a-1145b 115c4-115c5 11aa1-11aa2 11c43 11c71 12470-12474 16b39 16e97 1da87",
         "1da89-1da8a"]]

/-- Punctuation that stands inside words. -/
def midLetter : CharSet :=
  .ofHex "3a b7 387 55f 5f4 2027 fe13 fe55 ff1a"

/-- Punctuation that stands inside words and numbers. -/
def midNumLet : CharSet :=
  .ofHex "2e 2018-2019 2024 fe52 ff07 ff0e"

/-- Punctuation that stands inside numbers. -/
def midNum : CharSet :=
  .ofHex "2c 3b 37e 589 60c-60d 66c 7f8 2044 fe50 fe54 ff0c ff1b"

/-- The apostrophe. -/
def singleQuote : CharSet :=
  .ofHex "27"

/-- Characters that a change of case at the end of words takes no notice of. -/
def caseIgnorable : CharSet :=
  unions
    [Category.nonspacingMark, Category.enclosingMark, Category.format, Category.modifierLetter,
      Category.modifierSymbol, midLetter, midNumLet, singleQuote]

/-- Signs of mathematics that are no mathematical symbols by category. -/
def otherMath : CharSet :=
  .ofHexLines
    ["5e 3d0-3d2 3d5 3f0-3f1 3f4-3f5 2016 2032-2034 2040 2061-2064 207d-207e 208d-208e 20d0-20dc",
     "20e1 20e5-20e6 20eb-20ef 2102 2107 210a-2113 2115 2119-211d 2124 2128-2129 212c-212d",
     "212f-2131 2133-2138 213c-213f 2145-2149 2195-2199 219c-219f 21a1-21a2 21a4-21a5 21a7",
     "21a9-21ad 21b0-21b1 21b6-21b7 21bc-21cd 21d0-21d1 21d3 21d5-21db 21dd 21e4-21e5 2308-230b",
     "23b4-23b5 23b7 23d0 23e2 25a0-25a1 25ae-25b6 25bc-25c0 25c6-25c7 25ca-25cb 25cf-25d3 25e2",
     "25e4 25e7-25ec 2605-2606 2640 2642 2660-2663 266d-266e 27c5-27c6 27e6-27ef 2983-2998",
     "29d8-29db 29fc-29fd fe61 fe63 fe68 ff3c ff3e 1d400-1d454 1d456-1d49c 1d49e-1d49f 1d4a2",
     "1d4a5-1d4a6 1d4a9-1d4ac 1d4ae-1d4b9 1d4bb 1d4bd-1d4c3 1d4c5-1d505 1d507-1d50a 1d50d-1d514",
     "1d516-1d51c 1d51e-1d539 1d53b-1d53e 1d540-1d544 1d546 1d54a-1d550 1d552-1d6a5 1d6a8-1d6c0",
     "1d6c2-1d6da 1d6dc-1d6fa 1d6fc-1d714 1d716-1d734 1d736-1d74e 1d750-1d76e 1d770-1d788",
     "1d78a-1d7a8 1d7aa-1d7c2 1d7c4-1d7cb 1d7ce-1d7ff 1ee00-1ee03 1ee05-1ee1f 1ee21-1ee22 1ee24",
     "1ee27 1ee29-1ee32 1ee34-1ee37 1ee39 1ee3b 1ee42 1ee47 1ee49 1ee4b 1ee4d-1ee4f 1ee51-1ee52",
     "1ee54 1ee57 1ee59 1ee5b 1ee5d 1ee5f 1ee61-1ee62 1ee64 1ee67-1ee6a 1ee6c-1ee72 1ee74-1ee77",
     "1ee79-1ee7c 1ee7e 1ee80-1ee89 1ee8b-1ee9b 1eea1-1eea3 1eea5-1eea9 1eeab-1eebb"]

/-- Signs of mathematics. -/
def math : CharSet :=
  unions [Category.mathSymbol, otherMath]

/-- Hexadecimal digits. -/
def asciiHexDigits : CharSet :=
  .ofHex "30-39 41-46 61-66"

/-- Hexadecimal digits, also those of full width. -/
def hexDigits : CharSet :=
  unions [asciiHexDigits, .ofHex "ff10-ff19 ff21-ff26 ff41-ff46"]

/-- Invisible characters that set the direction of writing. -/
def bidiControl : CharSet :=
  .ofHex "61c 200e-200f 202a-202e 2066-2069"

/-- Signs that are mirrored where writing runs from right to left. -/
def bidiMirrored : CharSet :=
  .ofHexLines
    ["28-29 3c 3e 5b 5d 7b 7d ab bb f3a-f3d 169b-169c 2039-203a 2045-2046 207d-207e 208d-208e",
     "2140 2201-2204 2208-220d 2211 2215-2216 221a-221d 221f-2222 2224 2226 222b-2233 2239",
     "223b-224c 2252-2255 225f-2260 2262 2264-226b 226d-228c 228f-2292 2298 22a2-22a3 22a6-22b8",
     "22be-22bf 22c9-22cd 22d0-22d1 22d6-22ed 22f0-22ff 2308-230b 2320-2321 2329-232a 2768-2775",
     "27c0 27c3-27c6 27c8-27c9 27cb-27cd 27d3-27d6 27dc-27de 27e2-27ef 2983-2998 299b-29a0",
     "29a2-29af 29b8 29c0-29c5 29c9 29ce-29d2 29d4-29d5 29d8-29dc 29e1 29e3-29e5 29e8-29e9",
     "29f4-29f9 29fc-29fd 2a0a-2a1c 2a1e-2a21 2a24 2a26 2a29 2a2b-2a2e 2a34-2a35 2a3c-2a3e",
     "2a57-2a58 2a64-2a65 2a6a-2a6d 2a6f-2a70 2a73-2a74 2a79-2aa3 2aa6-2aad 2aaf-2ad6 2adc 2ade",
     "2ae2-2ae6 2aec-2aee 2af3 2af7-2afb 2afd 2bfe 2e02-2e05 2e09-2e0a 2e0c-2e0d 2e1c-2e1d",
     "2e20-2e29 2e55-2e5c 3008-3011 3014-301b fe59-fe5e fe64-fe65 ff08-ff09 ff1c ff1e ff3b ff3d",
     "ff5b ff5d ff5f-ff60 ff62-ff63 1d6db 1d715 1d74f 1d789 1d7c3"]

end CharSet
end PredictiveParsing
