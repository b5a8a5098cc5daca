import SafeMarkup.Text.Property

/-!
Contract: the classes of characters by which names are read and text is lower-cased and shown, and
text in double quotes for people to read, as trace lines and audit rules show it.

The classes know one edition of Unicode more than the names in patterns do.
-/

namespace SafeMarkup.Text
namespace Latest

open Property

/-- The characters that are newer than the names in patterns. -/
def added : Thunk Ranges := table
  "88F C5C CDC 1ACF-1ADD 1AE0-1AEB 20C1 2B96 A7CE-A7CF A7D2 A7D4 A7F1 FBC3-FBD2 FD90-FD91
    FDC8-FDCE 10940-10959 10EC5-10EC7 10ED0-10ED8 10EFA-10EFB 11B60-11B67 11DB0-11DDB
    11DE0-11DE9 16EA0-16EB8 16EBB-16ED3 16FF2-16FF6 187F8-187FF 18D09-18D1E 18D80-18DF2
    1CCFA-1CCFC 1CEBA-1CED0 1CEE0-1CEF0 1E6C0-1E6DE 1E6E0-1E6F5 1E6FE-1E6FF 1F6D8 1F777-1F77A
    1F8D0-1F8D8 1FA54-1FA57 1FA8A 1FA8E 1FAC8 1FACD 1FAEA 1FAEF 1FBFA 2B73A-2B73F 2CEA2-2CEAD
    323B0-33479"

/-- Characters that have a case; one letter has lost its. -/
def cased : Thunk Ranges := without
  (anyOf [] [Property.cased, table "A7CE-A7CF A7D2 A7D4 A7F1 16EA0-16EB8 16EBB-16ED3"])
  (table "295")

/-- Characters that the case of a word is read past. -/
def caseIgnorable : Thunk Ranges := anyOf [] [Property.caseIgnorable, table
    "1ACF-1ADD 1AE0-1AEB A7F1 10EC5 10EFA-10EFB 11B60 11B62-11B64 11B66 11DD9 16FF2-16FF3 1E6E3
    1E6E6 1E6EE-1E6EF 1E6F5 1E6FF"]

/-- Marks that are written on the character before them. -/
def graphemeExtend : Thunk Ranges := anyOf [] [Property.graphemeExtend, table
    "1ACF-1ADD 1AE0-1AEB 10EFA-10EFB 11B60 11B62-11B64 11B66 1E6E3 1E6E6 1E6EE-1E6EF 1E6F5"]

def alphabetic : Thunk Ranges := anyOf [] [Property.alphabetic, table
    "88F C5C CDC A7CE-A7CF A7D2 A7D4 A7F1 10940-10959 10EC5-10EC7 10EFA-10EFB 11B60-11B67
    11DB0-11DDB 16EA0-16EB8 16EBB-16ED3 16FF2-16FF6 187F8-187FF 18D09-18D1E 18D80-18DF2
    1E6C0-1E6DE 1E6E0-1E6F5 1E6FE-1E6FF 2B73A-2B73F 2CEA2-2CEAD 323B0-33479"]

def alphanumeric : Thunk Ranges :=
  anyOf [.decimalNumber, .letterNumber, .otherNumber] [alphabetic, table "11DE0-11DE9 16FF4-16FF6"]

/-- Characters that say nothing when they are shown as they are: marks without a letter, blanks
other than the space, and what has no form. -/
def hidden : Thunk Ranges := anyOf []
  [without
    (anyOf [.control, .format, .privateUse, .unassigned, .spaceSeparator, .lineSeparator,
      .paragraphSeparator] [])
    (anyOf [] [added, table "20"]),
   graphemeExtend, defaultIgnorable]

end Latest

/-! ## Quoted text -/

/-- A character by its code point, `\u` and braces around small hexadecimal digits. -/
def codePointEscape (c : Char) : Text := "\\u\x7b" ++ ofNatHex c.toNat ++ "\x7d".toList

/-- A character in double quotes. Quotes and backslashes are escaped, the usual control characters
have letters, and every other hidden character is written by its code point. -/
def quotedChar (c : Char) : Text :=
  if c = '\x00' then "\\0"
  else if c = '\t' then "\\t"
  else if c = '\r' then "\\r"
  else if c = '\n' then "\\n"
  else if c = '\\' then "\\\\"
  else if c = '"' then "\\\""
  else if 32 ≤ c.toNat && c.toNat < 127 then [c]
  else if Latest.hidden.get.member c.toNat then codePointEscape c
  else [c]

def quoted (text : Text) : Text := '"' :: (text.flatMap quotedChar ++ ['"'])

end SafeMarkup.Text
