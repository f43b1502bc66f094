import BlogDesk.Collation.Element

/-!
# Contractions

Sequences of characters that count as one letter, and vowel signs that are
written before the consonant behind which they are sorted.
-/

namespace BlogDesk.Collation

open Text (parseChars parseSequence splitOnce? words)

def contractionRows : List String :=
  ["4c.b7=4c.+b7 6c.b7=4c.+b7 418.306=419 438.306=419 627.653=622 627.654=623 627.655=fe87",
   "648.654=fe85 64a.654=fe89 9c7.9be=9cb 9c7.9d7=9cc b47.b3e=b4b b47.b56=b48 b47.b57=b4c",
   "b92.bd7=b94 bc6.bbe=bca bc6.bd7=bcc bc7.bbe=bcb c46.c56=c48 cbf.cd5=cc0 cc6.cc2=cca",
   "cc6.cc2.cd5=ccb cc6.cd5=cc7 cc6.cd6=cc8 d46.d3e=d4a d46.d57=d4c d47.d3e=d4b dd9.dca=dda",
   "dd9.dcf=ddc dd9.dcf.dca=ddd dd9.ddf=dde e4d.e32=e33 ecd.eb2=eb3 f71.f72=f73 f71.f74=f75",
   "f71.f80=f81 fb2.f71=fb2.f71 fb2.f71.f72=fb2.f73 fb2.f71.f74=fb2.f75 fb2.f71.f80=f77",
   "fb2.f80=f76 fb3.f71=fb3.f71 fb3.f71.f72=fb3.f73 fb3.f71.f74=fb3.f75 fb3.f71.f80=f79",
   "fb3.f80=f78 1025.102e=1026 1b05.1b35=1b06 1b07.1b35=1b08 1b09.1b35=1b0a 1b0b.1b35=1b0c",
   "1b0d.1b35=1b0e 1b11.1b35=1b12 1b3a.1b35=1b3b 1b3c.1b35=1b3d 1b3e.1b35=1b40 1b3f.1b35=1b41",
   "1b42.1b35=1b43 105d2.307=105c9 105da.307=105e4 11131.11127=1112e 11132.11127=1112f",
   "11347.1133e=1134b 11347.11357=1134c 11382.113c9=11383 11384.113bb=11385 1138b.113c2=1138e",
   "11390.113c9=11391 113c2.113b8=113c7 113c2.113c2=113c5 113c2.113c9=113c8 114b9.114b0=114bc",
   "114b9.114ba=114bb 114b9.114bd=114be 115b8.115af=115ba 115b9.115af=115bb 11935.11930=11938",
   "1611e.1611e=16121 1611e.1611e.1611f=16126 1611e.1611e.16120=16128 1611e.1611f=16123",
   "1611e.16120=16125 1611e.16129=16122 1611e.16129.1611f=16127 16129.1611f=16124",
   "16d63.16d67=16d69 16d63.16d67.16d67=16d6a 16d67.16d67=16d68"]

@[irreducible] def contractions : Std.HashMap (List Char) (List Element) :=
  Std.HashMap.ofList (contractionRows.flatMap fun row =>
    (words row.toList).filterMap fun word =>
      (splitOnce? '=' word).map fun (chars, elements) =>
        (parseSequence chars, parseElements elements))

def longestContraction : Nat := 3

/-- Vowel signs written first, with the consonants that they follow: Thai, Lao,
New Tai Lue and Tai Viet. -/
def leadingVowels : List (List Char × List Char) :=
  [(parseChars ["e40-e44"],
    parseChars ["e01-e2e"]),
  (parseChars ["ec0-ec4"],
    parseChars ["e81-e82 e84 e86-e8a e8c-ea3 ea5 ea7-eae edc-edf"]),
  (parseChars ["19b5-19b7 19ba"],
    parseChars ["1980-19ab"]),
  (parseChars ["aab5-aab6 aab9 aabb-aabc"],
    parseChars ["aa80-aaaf"])]

def standsExchanged (vowel consonant : Char) : Bool :=
  leadingVowels.any fun (vowels, consonants) =>
    vowels.contains vowel && consonants.contains consonant

end BlogDesk.Collation
