import Lineation.Text.Casing

/-!
# Lower case

Full lower case conversion. Two characters need more than the simple map: a capital I with a dot
above becomes two characters, and a capital sigma depends on the letters around it.
-/

namespace Lineation.Text

/-- The progression of the table that has a character. -/
def progression? (c : Char) : Option (Nat × Nat × Nat × Int) :=
  lowerProgressions.find? fun (lo, hi, step, _) =>
    lo ≤ c.toNat && c.toNat ≤ hi && (c.toNat - lo) % step == 0

/-- The simple lower case map. -/
def lowerSimple (c : Char) : Char :=
  if c.toNat < 0x80 then c.toLower
  else
    match progression? c with
    | some (_, _, _, shift) => Char.ofNat ((c.toNat : Int) + shift).toNat
    | none => c

/-- Whether the first character that is not ignored is a letter with a case. -/
def startsCased (cs : List Char) : Bool :=
  match cs.dropWhile caseIgnorable.contains with
  | [] => false
  | c :: _ => casedLetters.contains c

/-- Lower case of the rest of a text, `before` holding the characters already seen, latest first.
A capital sigma is final when a letter precedes it and none follows. -/
def lowerFrom (before : List Char) : List Char → List Char
  | [] => []
  | c :: rest =>
    let lowered : List Char :=
      if c = 'Σ' then
        if startsCased before && !startsCased rest then ['ς'] else ['σ']
      else if c = 'İ' then ['i', Char.ofNat 0x307]
      else [lowerSimple c]
    lowered ++ lowerFrom (c :: before) rest

/-- Full lower case conversion. -/
def toLower (text : String) : String :=
  String.ofList (lowerFrom [] text.toList)

end Lineation.Text
