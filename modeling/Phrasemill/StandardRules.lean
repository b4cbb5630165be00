/-!
# Standard rules

Digits, letters and words: the rules that every text can use unless it is told otherwise. They are a
grammar text themselves and are loaded before the text that uses them.
-/

namespace Phrasemill

def standardRules : String :=
  r#"// Standard rules available to every grammar file.

digit = number.upto(9)
nonzero_digit = number.between(1, 9)
coin = one_of(["heads", "tails"])
boolean = one_of(["true", "false"])

vowel = one_of(["a", "e", "i", "o", "u"])
consonant = one_of(["b", "c", "d", "f", "g", "h", "j", "k", "l", "m",
                    "n", "p", "q", "r", "s", "t", "v", "w", "x", "y", "z"])
lowercase_letter = one_of([vowel, consonant])
uppercase_letter = one_of(["A", "B", "C", "D", "E", "F", "G", "H", "I", "J", "K", "L", "M",
                           "N", "O", "P", "Q", "R", "S", "T", "U", "V", "W", "X", "Y", "Z"])
letter = one_of([lowercase_letter, uppercase_letter])

syllable = append(consonant, vowel)
word = append(syllable, syllable, one_of(["", syllable]))
"#

end Phrasemill
