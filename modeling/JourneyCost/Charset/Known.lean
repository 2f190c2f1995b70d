import JourneyCost.Charset.Dos
import JourneyCost.Charset.Ebcdic
import JourneyCost.Charset.Iso
import JourneyCost.Charset.Mac
import JourneyCost.Charset.National
import JourneyCost.Charset.Switched
import JourneyCost.Charset.Traditional
import JourneyCost.Charset.Unicode
import JourneyCost.Charset.Windows

/-!
# Known character sets

A set is found by its name or a further name.  Names are compared in a common form: small letters,
digits and points, with one low line in place of anything else between them.  In a further name a
point may stand for the low line.
-/

namespace JourneyCost.Charset

/-- All known sets. -/
def known : List Charset :=
  unicodeSets ++ refusingSets ++ isoSets ++ windowsSets ++ dosSets ++ macSets ++ ebcdicSets ++
    nationalSets ++ japaneseSets ++ chineseSets ++ traditionalSets ++ koreanSets ++ switchedSets

/-- The common form of a name; `gap` tells whether something else was passed over. -/
def commonNameFrom (begun gap : Bool) : List Char → List Char
  | [] => []
  | c :: rest =>
    if c.isAlphanum || c == '.' then
      let small := c.toLower :: commonNameFrom true false rest
      if begun && gap then '_' :: small else small
    else commonNameFrom begun true rest

/-- The common form of a name. -/
def commonName (name : String) : String := String.ofList (commonNameFrom false false name.toList)

/-- A name with low lines in place of points. -/
def withoutPoints (name : String) : String :=
  String.ofList (name.toList.map fun c => if c == '.' then '_' else c)

/-- Whether a set has a name. -/
def hasName (name : String) (set : Charset) : Bool :=
  let common := commonName name
  set.name == common || set.aliases.contains common || set.aliases.contains (withoutPoints common)

/-- The set with a name, if it is known. -/
def named? (name : String) : Option Charset := known.find? (hasName name)

end JourneyCost.Charset
