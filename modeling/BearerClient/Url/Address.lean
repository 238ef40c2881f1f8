/-!
# Addresses as hosts

IPv4 addresses in the forms that URLs allow: one to four numbers with points between them, each
decimal, octal or hexadecimal, the last one filling what the others leave.  IPv6 addresses in
groups of hexadecimal digits, with one run of zeros left out and, at the end, an IPv4 address in
plain decimal.
-/

namespace BearerClient.Url

/-- Cuts a list at every element that is a separator; there is always one part more than there are
separators. -/
def cutAt (isSeparator : α → Bool) : List α → List (List α)
  | [] => [[]]
  | a :: rest =>
    if isSeparator a then [] :: cutAt isSeparator rest
    else match cutAt isSeparator rest with
      | [] => [[a]]
      | part :: parts => (a :: part) :: parts

/-- The value of a digit in bases up to sixteen. -/
def digitValue? (c : Char) : Option Nat :=
  if '0' ≤ c ∧ c ≤ '9' then some (c.toNat - '0'.toNat)
  else if 'a' ≤ c ∧ c ≤ 'f' then some (c.toNat - 'a'.toNat + 10)
  else if 'A' ≤ c ∧ c ≤ 'F' then some (c.toNat - 'A'.toNat + 10)
  else none

/-- The value of a run of digits in a base. -/
def numeral? (base : Nat) (digits : List Char) : Option Nat :=
  digits.foldlM (fun n c =>
    match digitValue? c with
    | some d => if d < base then some (n * base + d) else none
    | none => none) 0

/-! ## IPv4 -/

/-- A number in one of three bases, which its first characters tell. -/
def ipv4Number? : List Char → Option Nat
  | [] => none
  | '0' :: 'x' :: digits => numeral? 16 digits
  | '0' :: 'X' :: digits => numeral? 16 digits
  | ['0'] => some 0
  | '0' :: digits => numeral? 8 digits
  | digits => numeral? 10 digits

/-- Whether a host has to be an IPv4 address: its last part, apart from an empty one at the end,
is a number. -/
def endsInNumber (host : List Char) : Bool :=
  let parts := (cutAt (· = '.') host).reverse
  let last := match parts with
    | [] => none
    | [] :: before => before.head?
    | part :: _ => some part
  match last with
  | none => false
  | some part => (!part.isEmpty && part.all Char.isDigit) || (ipv4Number? part).isSome

def ipv4? (host : List Char) : Option Nat :=
  let parts := cutAt (· = '.') host
  let parts := if parts.getLast? = some [] then parts.dropLast else parts
  if parts.length ≤ 4 then
    match parts.mapM ipv4Number? with
    | none => none
    | some numbers =>
      match numbers.getLast? with
      | none => none
      | some last =>
        let leading := numbers.dropLast
        let limit := Nat.pow 256 (4 - leading.length)
        if last < limit ∧ leading.all (· < 256) then
          some (leading.foldl (fun n part => n * 256 + part) 0 * limit + last)
        else none
  else none

def ipv4Text (address : Nat) : List Char :=
  let part (i : Nat) := Nat.toDigits 10 (address / Nat.pow 256 i % 256)
  part 3 ++ '.' :: part 2 ++ '.' :: part 1 ++ '.' :: part 0

/-! ## IPv6 -/

/-- A group of one to four hexadecimal digits. -/
def group? (digits : List Char) : Option Nat :=
  if digits.isEmpty || 4 < digits.length then none else numeral? 16 digits

/-- A decimal number below 256 without leading zeros. -/
def octet? (digits : List Char) : Option Nat :=
  match digits with
  | [] => none
  | '0' :: _ :: _ => none
  | _ =>
    match numeral? 10 digits with
    | some n => if n < 256 then some n else none
    | none => none

/-- The two groups of an IPv4 address in plain decimal. -/
def embedded? (part : List Char) : Option (List Nat) :=
  match (cutAt (· = '.') part).map octet? with
  | [some a, some b, some c, some d] => some [a * 256 + b, c * 256 + d]
  | _ => none

/-- Groups with colons between them; the last part may be an IPv4 address. -/
def groups? (last : List Char → Option (List Nat)) : List (List Char) → Option (List Nat)
  | [] => none
  | [part] => last part
  | part :: rest =>
    match group? part, groups? last rest with
    | some group, some groups => some (group :: groups)
    | _, _ => none

/-- Groups of hexadecimal digits alone, or no text at all. -/
def leadingGroups? (text : List Char) : Option (List Nat) :=
  if text.isEmpty then some []
  else groups? (fun part => (group? part).map ([·])) (cutAt (· = ':') text)

/-- Groups that may end in an IPv4 address. -/
def finalGroups? (text : List Char) : Option (List Nat) :=
  groups? (fun part => if part.contains '.' then embedded? part else (group? part).map ([·]))
    (cutAt (· = ':') text)

/-- The text before and after the first pair of colons. -/
def splitDouble : List Char → Option (List Char × List Char)
  | [] => none
  | c :: rest =>
    match c, rest with
    | ':', ':' :: after => some ([], after)
    | _, _ => (splitDouble rest).map fun (before, after) => (c :: before, after)

/-- The eight groups of an address. -/
def ipv6? (text : List Char) : Option (List Nat) :=
  match splitDouble text with
  | none =>
    match finalGroups? text with
    | some groups => if groups.length = 8 then some groups else none
    | none => none
  | some (before, after) =>
    match leadingGroups? before, if after.isEmpty then some [] else finalGroups? after with
    | some left, some right =>
      let zeros := 8 - (left.length + right.length)
      if left.length + right.length ≤ 7 then some (left ++ List.replicate zeros 0 ++ right)
      else none
    | _, _ => none

/-- The number of zeros at the front. -/
def zeroRun (groups : List Nat) : Nat := (groups.takeWhile (· = 0)).length

/-- The start and length of the first of the longest runs of zeros; `at_` groups stand before. -/
def longestRun : (at_ : Nat) → List Nat → Nat × Nat
  | _, [] => (0, 0)
  | at_, group :: rest =>
    let here := zeroRun (group :: rest)
    let (start, length) := longestRun (at_ + 1) rest
    if length ≤ here then (at_, here) else (start, length)

def colonSeparated (groups : List Nat) : List Char :=
  (groups.map (Nat.toDigits 16)).intersperse [':'] |>.flatten

/-- An address with its longest run of zeros, if that is two or more, left out. -/
def ipv6Text (groups : List Nat) : List Char :=
  let (start, length) := longestRun 0 groups
  if length < 2 then colonSeparated groups
  else colonSeparated (groups.take start) ++ [':', ':'] ++
    colonSeparated (groups.drop (start + length))

end BearerClient.Url
