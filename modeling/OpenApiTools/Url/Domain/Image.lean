import OpenApiTools.Text.Case
import OpenApiTools.Url.Domain.Admission
import OpenApiTools.Url.Domain.ImageTable
import OpenApiTools.Url.Syntax

/-!
# What characters of a domain name are read as

Most characters stand for themselves. Capital letters are read as small ones, compatibility forms as
the characters that they are forms of, and some characters as nothing.
-/

namespace OpenApiTools.Url.Domain

/-- The listed rows of characters, each with what its characters are replaced by. -/
def images : List (Nat × Array (List Char)) :=
  let single (c : Char) : List Char := if c == ' ' then [] else [c]
  imageRows.map (fun (first, row) => (first, (row.toList.map single).toArray)) ++
    longImageRows.map fun (first, row) => (first, (pieces '|' row.toList).toArray)

/-- What a character of a run is replaced by. -/
def runImage? (c : Char) : Option (List Char) :=
  imageRuns.findSome? fun (first, last, image) =>
    if first ≤ c.toNat && c.toNat ≤ last then some [Char.ofNat (image + (c.toNat - first))]
    else none

/-- What a character of a row is replaced by. -/
def rowImage? (c : Char) : Option (List Char) :=
  images.findSome? fun (first, row) =>
    if first ≤ c.toNat then row[c.toNat - first]?.filter (!·.isEmpty) else none

/-- Capital letters that stay what they are: of Cherokee, where the small letters are read as
capital ones. -/
def steadyCapitals : Text.Ranges := [(0x13A0, 0x13F5)]

/-- What a character of a domain name is read as; none if no domain name may hold it. ASCII
characters are all admitted here. -/
def image? (c : Char) : Option (List Char) :=
  if c.toNat < 0x80 then
    some [c.toLower]
  else if ignoredRanges.has c then
    some []
  else
    match (runImage? c).or (rowImage? c) with
    | some image => some image
    | none =>
      if disallowedRanges.has c then none
      else if steadyCapitals.has c then some [c]
      else some [Text.lowercaseChar c]

end OpenApiTools.Url.Domain
