import RemoteConsole.Url.Label
import RemoteConsole.Url.Mapping
import RemoteConsole.Url.Punycode
import RemoteConsole.Text.Normal

/-!
# Domains

* `canonical?`: the characters of a domain, mapped and in normal form.
* `readable?`: a label as it is read, which may be written in ASCII.
* `domainInAscii?`: the domain in ASCII, if it is one.
-/

namespace RemoteConsole.Url

open Text

/-- The characters that no domain holds. -/
def isForbiddenInDomain (c : Char) : Bool :=
  c.toNat ≤ 0x20 || c.toNat = 0x7f ||
    ['%', '#', '/', ':', '<', '>', '?', '@', '[', '\\', ']', '^', '|'].contains c

/-- A text mapped and in normal form, if all its characters may stand in a domain. -/
def canonical? (cs : List Char) : Option (List Char) :=
  (cs.mapM mapChar?).map fun parts => Text.normalize parts.flatten

/-- What a label written in ASCII begins with. -/
def codedStart : List Char := ['x', 'n', '-', '-']

/-- The length of the longest code of a label that is read. -/
def longestCode : Nat := 2000

/-- The length of the longest label beyond ASCII, as it is read. -/
def longestLabel : Nat := 1000

/-- The label is written in ASCII. -/
def isCoded (label : List Char) : Bool := codedStart.isPrefixOf label

/-- A label as it is read. One that is written in ASCII stands for a label in normal form. -/
def readable? (label : List Char) : Option (List Char) :=
  if isCoded label then
    let code := label.drop codedStart.length
    if label.any (!Punycode.isAscii ·) || label.getLast? = some '-' || longestCode < code.length then
      none
    else do
      let text ← Punycode.decode? code
      if canonical? text = some text && text.length ≤ longestLabel then some text else none
  else if label.all Punycode.isAscii || label.length ≤ longestLabel then some label
  else none

/-- A label in ASCII. -/
def labelInAscii (label : List Char) : List Char :=
  if label.all Punycode.isAscii then label else codedStart ++ Punycode.encode label

/-- The parts of a text between its points. -/
def splitPoints (cs : List Char) : List (List Char) :=
  ((String.ofList cs).splitOn ".").map String.toList

/-- The domain in ASCII: the mapped labels, if none holds a forbidden character, all can be read, and
they are proper. -/
def domainInAscii? (cs : List Char) : Option String := do
  let labels := splitPoints (← canonical? cs)
  let texts ← labels.mapM readable?
  if labels.any (·.any isForbiddenInDomain) then none
  else if !texts.all fun t => t.all Punycode.isAscii || Label.isProper t then none
  else if texts.any Label.turnsLeft && !texts.all Label.runsOneWay then none
  else some (".".intercalate (labels.map fun l => String.ofList (labelInAscii l)))

end RemoteConsole.Url
