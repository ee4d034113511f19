import Scaffold.Text.Category

namespace Scaffold
namespace Text

/-!
# Quoted text in messages

A text shown in a message stands between double quotes; what would not be seen, or would be seen as
part of its neighbour, is written by its code point.
-/

/-- The categories whose members show as a character of their own. -/
def shownCategories : List (List Stride) := [
  categoryLu, categoryLl, categoryLt, categoryLm, categoryLo, categoryMc, categoryNd, categoryNl, categoryNo,
  categoryPc, categoryPd, categoryPs, categoryPe, categoryPi, categoryPf, categoryPo,
  categorySm, categorySc, categorySk, categorySo]

/-- Whether a character is visible and does not join the one before it. -/
def isShown (c : Char) : Bool :=
  if c.toNat < 128 then 32 ≤ c.toNat && c.toNat < 127
  else shownCategories.any (fun table => Stride.covers table c.toNat)

/-- One character of a quoted text. -/
def quotedChar (c : Char) : List Char :=
  if c == '"' then ['\\', '"']
  else if c == '\\' then ['\\', '\\']
  else if c == '\t' then ['\\', 't']
  else if c == '\r' then ['\\', 'r']
  else if c == '\n' then ['\\', 'n']
  else if c == '\x00' then ['\\', '0']
  else if isShown c then [c]
  else '\\' :: 'u' :: '\x7b' :: Nat.toDigits 16 c.toNat ++ ['\x7d']

/-- A text as a message shows it. -/
def quoted (s : String) : String :=
  String.ofList ('"' :: s.toList.flatMap quotedChar ++ ['"'])

end Text
end Scaffold
