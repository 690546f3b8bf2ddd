/-! Hangul: a syllable is made of a leading consonant, a vowel and, perhaps, a trailing consonant.
The syllables are numbered in this order from U+AC00 on. -/
namespace Stencil.Text.Hangul

/-- The leading consonants, in order. -/
def leads : List Char := "ㄱㄲㄴㄷㄸㄹㅁㅂㅃㅅㅆㅇㅈㅉㅊㅋㅌㅍㅎ".toList

/-- The vowels, in order. -/
def vowels : List Char := "ㅏㅐㅑㅒㅓㅔㅕㅖㅗㅘㅙㅚㅛㅜㅝㅞㅟㅠㅡㅢㅣ".toList

/-- The trailing consonants, in order, the first of which has the number one. -/
def tails : List Char := "ㄱㄲㄳㄴㄵㄶㄷㄹㄺㄻㄼㄽㄾㄿㅀㅁㅂㅄㅅㅆㅇㅈㅊㅋㅌㅍㅎ".toList

def firstSyllable : Nat := 0xac00

/-- How many syllables there are. -/
def syllables : Nat := 11172

/-- The syllable of a lead, a vowel and a tail by their numbers, zero standing for no tail. -/
def syllable (lead vowel tail : Nat) : Char :=
  Char.ofNat (firstSyllable + (lead * 21 + vowel) * 28 + tail)

end Stencil.Text.Hangul
