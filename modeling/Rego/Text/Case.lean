import Rego.Text.CaseTable

/-!
# Letter case

The full case mappings of Unicode: a character may become several, and a capital sigma at the end of
a word becomes the final small sigma.  A word end is where a cased character precedes the sigma and
none follows it, in both directions looking past characters that case ignores.
-/

namespace Rego.Text

set_option autoImplicit false

/-- Whether a code point lies in one of several ranges. -/
def inRanges (code : Nat) (ranges : List (Nat × Nat)) : Bool :=
  ranges.any fun range => range.1 ≤ code && code ≤ range.2

/-- Whether a run covers a code point. -/
def CaseRun.covers (run : CaseRun) (code : Nat) : Bool :=
  run.first ≤ code && code ≤ run.last && (code - run.first) % run.stride == 0

/-- The code points that a table maps a code point to. -/
def mapCase (runs : List CaseRun) (expansions : List (Nat × List Nat)) (code : Nat) : List Nat :=
  match expansions.lookup code with
  | some codes => codes
  | none =>
    match runs.find? fun run => run.covers code with
    | some run => [((code : Int) + run.offset).toNat]
    | none => [code]

/-- The upper case of a character. -/
def upperChar (character : Char) : List Char :=
  (mapCase upperRuns upperExpansions character.toNat).map Char.ofNat

/-- The lower case of a character outside any context. -/
def lowerChar (character : Char) : List Char :=
  (mapCase lowerRuns lowerExpansions character.toNat).map Char.ofNat

/-- Whether a cased character comes first, past characters that case ignores. -/
def startsCased (characters : List Char) : Bool :=
  match characters.dropWhile fun character => inRanges character.toNat caseIgnorableRanges with
  | [] => false
  | character :: _ => inRanges character.toNat casedRanges

/-- The lower case of characters, given those before them in reverse order. -/
def lowerAfter (before : List Char) : List Char → List Char
  | [] => []
  | character :: rest =>
    let lowered :=
      if character = 'Σ' then
        if startsCased before && !startsCased rest then ['ς'] else ['σ']
      else lowerChar character
    lowered ++ lowerAfter (character :: before) rest

/-- The lower case of a text. -/
def lower (text : String) : String := String.ofList (lowerAfter [] text.toList)

/-- The upper case of a text. -/
def upper (text : String) : String := String.ofList (text.toList.flatMap upperChar)

/-- The lower case of a basic Latin letter. -/
def lowerBasic (character : Char) : Char :=
  if 65 ≤ character.toNat ∧ character.toNat ≤ 90 then Char.ofNat (character.toNat + 32)
  else character

end Rego.Text
