import MarkupTree.Text.LowercaseTable
import MarkupTree.Text.CasedTable

namespace MarkupTree.Text

def isCaseIgnorable (c : Char) : Bool := inRanges caseIgnorableRanges c

def isCased (c : Char) : Bool := inRanges casedRanges c

/-- The lowercase form of one character, apart from its neighbours. Only the dotted capital I
takes two characters. -/
def lowerChar (c : Char) : List Char :=
  if c.toNat < 128 then [c.toLower]
  else if c = '\u0130' then ['i', '\u0307']
  else [mapCase lowercaseRanges c]

def meetsCased (cs : List Char) : Bool :=
  match cs.dropWhile isCaseIgnorable with
  | c :: _ => isCased c
  | [] => false

/-- A capital sigma ends a word when a letter stands before it and none after it. `before` is
read from the sigma backwards. -/
def endsWord (before after : List Char) : Bool := meetsCased before && !meetsCased after

def lowerFrom (before : List Char) : List Char → List Char
  | [] => []
  | c :: rest =>
    (if c = '\u03a3' then [if endsWord before rest then '\u03c2' else '\u03c3'] else lowerChar c) ++
      lowerFrom (c :: before) rest

def lowercase (s : String) : String := String.ofList (lowerFrom [] s.toList)

end MarkupTree.Text
