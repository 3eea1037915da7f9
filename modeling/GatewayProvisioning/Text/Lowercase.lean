import GatewayProvisioning.Text.CaseTable

/-!
The lower case of a text, by the full Unicode mapping. Two characters are special: a capital I with a
dot becomes two characters, and a capital sigma is written as a final sigma at the end of a word.
-/

namespace GatewayProvisioning.Text

/-- The lower case of one character by itself. -/
def lowerChar (c : Char) : List Char :=
  if c.toNat < 0x80 then [asciiLower c]
  else if c == 'İ' then ['i', Char.ofNat 0x307]
  else
    match lowerCaseRuns.findSome? (·.image? c.toNat) with
    | some n => [Char.ofNat n]
    | none => [c]

/-- Whether a letter with a case comes next, once ignorable characters are passed over. -/
def reachesCased (cs : List Char) : Bool :=
  match cs.dropWhile caseIgnorable.hasChar with
  | [] => false
  | c :: _ => casedLetters.hasChar c

/-- The lower case of the characters `cs` that follow `before`, which is given backwards. -/
def lowerFrom : List Char → List Char → List Char
  | _, [] => []
  | before, c :: rest =>
    let image :=
      if c == 'Σ' then
        if reachesCased before && !reachesCased rest then ['ς'] else ['σ']
      else lowerChar c
    image ++ lowerFrom (c :: before) rest

/-- A text in lower case. -/
def lowercase (s : String) : String :=
  String.ofList (lowerFrom [] s.toList)

end GatewayProvisioning.Text
