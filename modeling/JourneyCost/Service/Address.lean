import JourneyCost.Fault
import JourneyCost.Json.Token
import JourneyCost.Text.Split

/-!
# Addresses of requests

The address of a request is a path with perhaps a question mark and a query after it.  A scheme
and a host may come before the path and a fragment after the query; they count for nothing, but a
host that is no host makes the address malformed.
-/

namespace JourneyCost.Service

/-- What counts of an address. -/
structure Address where
  /-- The path. -/
  path : String
  /-- The query. -/
  query : String

/-- Whether a character can be in a scheme. -/
def isSchemeChar (c : Char) : Bool := c.isAlphanum || c == '+' || c == '-' || c == '.'

/-- An address without its scheme. -/
def dropScheme (cs : List Char) : List Char :=
  match Text.cutChars ':' cs with
  | (c :: scheme, some rest) => if c.isAlpha && scheme.all isSchemeChar then rest else cs
  | _ => cs

/-- Whether a text is a number of an address in four numbers. -/
def isOctet (cs : List Char) : Bool :=
  cs.all Char.isDigit && 1 ≤ cs.length && cs.length ≤ 3 && (cs == ['0'] || cs.head? != some '0') &&
    cs.foldl (fun n c => n * 10 + (c.toNat - 48)) 0 ≤ 255

/-- Whether a text is an address in four numbers. -/
def isDotted (cs : List Char) : Bool :=
  let octets := Text.splitChars '.' cs
  octets.length == 4 && octets.all isOctet

/-- Whether a text is a group of an address in eight groups. -/
def isGroup (cs : List Char) : Bool :=
  1 ≤ cs.length && cs.length ≤ 4 && cs.all fun c => (Json.hexDigit? c).isSome

/-- The groups with two in place of four numbers at the end, if these are an address. -/
def withoutDotted? (groups : List (List Char)) : Option (List (List Char)) :=
  match groups.getLast? with
  | some last =>
    if !last.contains '.' then some groups
    else if isDotted last then some (groups.dropLast ++ [['0'], ['0']])
    else none
  | none => some groups

/-- Whether the groups before or after a gap are well formed; a lone empty one is none. -/
def isSide (groups : List (List Char)) : Bool := groups == [[]] || groups.all isGroup

/-- The number of groups before or after a gap. -/
def sideLength (groups : List (List Char)) : Nat := if groups == [[]] then 0 else groups.length

/-- Whether texts between colons are an address in eight groups.  An empty text that is neither
the first nor the last is a gap, which stands for at least one group. -/
def areGroups (groups : List (List Char)) : Bool :=
  let inner := (groups.drop 1).dropLast
  if 9 < groups.length then false
  else if !inner.contains [] then groups.length == 8 && groups.all isGroup
  else
    let before := groups.take 1 ++ inner.takeWhile (· != [])
    let after := (inner.dropWhile (· != [])).drop 1 ++ groups.drop (groups.length - 1)
    isSide before && isSide after && sideLength before + sideLength after ≤ 7

/-- Whether a text is an address in eight groups, perhaps with a zone. -/
def isGrouped (cs : List Char) : Bool :=
  let (address, zone) := Text.cutChars '%' cs
  let groups := Text.splitChars ':' address
  zone.all (fun name => !name.isEmpty && !name.contains '%') && 3 ≤ groups.length &&
    (withoutDotted? groups).any areGroups

/-- Whether a text is an address of a later version. -/
def isLaterVersion (cs : List Char) : Bool :=
  match cs with
  | 'v' :: rest =>
    match Text.cutChars '.' rest with
    | (version, some address) =>
      !version.isEmpty && version.all (fun c => (Json.hexDigit? c).isSome) && !address.isEmpty
    | _ => false
  | _ => false

/-- Whether the part of a host in brackets, if there is one, is an address. -/
def hasSoundBrackets (host : List Char) : Bool :=
  if host.contains '[' != host.contains ']' then false
  else if !host.contains '[' then true
  else
    let bracketed := ((host.dropWhile (· != '[')).drop 1).takeWhile (· != ']')
    if bracketed.head? == some 'v' then isLaterVersion bracketed else isGrouped bracketed

/-- Characters whose compatible forms have one of the marks around a host. -/
def unsoundChars : List Nat :=
  [0x2047, 0x2048, 0x2049, 0x2100, 0x2101, 0x2105, 0x2106, 0x2A74, 0xFE13, 0xFE16, 0xFE55, 0xFE56,
   0xFE5F, 0xFE6B, 0xFF03, 0xFF0F, 0xFF1A, 0xFF1F, 0xFF20]

/-- Whether a text can be a host. -/
def isHost (host : List Char) : Bool :=
  hasSoundBrackets host && host.all fun c => !unsoundChars.contains c.toNat

/-- An address without its host, if that is one. -/
def dropHost (cs : List Char) : Except Fault (List Char) :=
  match cs with
  | '/' :: '/' :: rest =>
    let isEnd := fun c => c == '/' || c == '?' || c == '#'
    if isHost (rest.takeWhile (!isEnd ·)) then .ok (rest.dropWhile (!isEnd ·))
    else .error .malformed
  | cs => .ok cs

/-- The address in a text.  Blanks and control characters before it and line ends and tabs in it
are passed over. -/
def Address.ofText (s : String) : Except Fault Address := do
  let cs := (s.toList.dropWhile (·.toNat ≤ 32)).filter fun c => c != '\t' && c != '\n' && c != '\r'
  let (whole, _) := Text.cutChars '#' (← dropHost (dropScheme cs))
  let (path, query) := Text.cutChars '?' whole
  return ⟨String.ofList path, String.ofList (query.getD [])⟩

end JourneyCost.Service
