import SheetAudit.Text.Hex

/-!
# Internet addresses

Whether a text is an address of version 4 (four numbers below 256, without leading zeros) or of
version 6 (eight groups of hexadecimal digits, of which one run may be left out, the last two
perhaps written as a version 4 address, and perhaps a zone behind a percent sign).
-/

namespace SheetAudit.Url

open SheetAudit.Text

/-- Whether a text is one of the numbers of a version 4 address. -/
def isOctet (cs : List Char) : Bool :=
  !cs.isEmpty && cs.all isDigit && cs.length ≤ 3 && (cs == ['0'] || cs.head? != some '0') &&
    cs.foldl (fun n c => 10 * n + (c.toNat - 48)) 0 ≤ 255

/-- Whether a text is a version 4 address. -/
def isVersion4 (cs : List Char) : Bool :=
  let octets := cs.splitOn '.'
  octets.length == 4 && octets.all isOctet

/-- Whether a text is one of the groups of a version 6 address. -/
def isGroup (cs : List Char) : Bool :=
  !cs.isEmpty && cs.length ≤ 4 && cs.all isHexDigit

/-- Whether the groups on one side of the left-out run are groups. -/
def isSide (groups : List (List Char)) : Bool :=
  groups == [[]] || groups.all isGroup

/-- The number of groups on one side of the left-out run. -/
def sideLength (groups : List (List Char)) : Nat :=
  if groups == [[]] then 0 else groups.length

/-- Whether groups make an address: all eight, or fewer with one run left out between two colons. -/
def areGroups (groups : List (List Char)) : Bool :=
  if groups.length < 3 || 9 < groups.length then false
  else
    let inner := (groups.drop 1).dropLast
    match inner.countP (·.isEmpty) with
    | 0 => groups.length == 8 && groups.all isGroup
    | 1 =>
      let before := groups.take 1 ++ inner.takeWhile (!·.isEmpty)
      let after := groups.drop (before.length + 1)
      isSide before && isSide after && sideLength before + sideLength after < 8
    | _ => false

/-- Whether a text is a version 6 address. -/
def isVersion6 (cs : List Char) : Bool :=
  let address := cs.takeWhile (· != '%')
  let zoneOk := match cs.dropWhile (· != '%') with
    | [] => true
    | _ :: zone => !zone.isEmpty && !zone.contains '%'
  let groups := address.splitOn ':'
  let last := groups.getLast?.getD []
  zoneOk &&
    if last.contains '.' then
      3 ≤ groups.length && isVersion4 last && areGroups (groups.dropLast ++ [['0'], ['0']])
    else areGroups groups

/-- Whether a text is a bracketed address of a version yet to come, without the brackets. -/
def isFutureVersion (cs : List Char) : Bool :=
  match cs with
  | 'v' :: rest =>
    !(rest.takeWhile isHexDigit).isEmpty &&
      match rest.dropWhile isHexDigit with
      | '.' :: address => !address.isEmpty
      | _ => false
  | _ => false

end SheetAudit.Url
