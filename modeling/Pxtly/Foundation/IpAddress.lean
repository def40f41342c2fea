/-
This file gives the Internet addresses and networks that Python's `ipaddress` reads.
-/

import Mathlib.Data.List.TakeDrop
import Pxtly.Foundation.Bytes
import Pxtly.Foundation.Timestamps

namespace Pxtly.Foundation

inductive IpVersion where
  | four
  | six
  deriving DecidableEq

def IpVersion.width : IpVersion → Nat
  | .four => 32
  | .six => 128

structure IpAddress where
  version : IpVersion
  value : Nat
  deriving DecidableEq

/-- The bits of the address behind the prefix are zero. -/
structure IpNetwork where
  version : IpVersion
  networkAddress : Nat
  prefixLength : Nat
  deriving DecidableEq

/-- A sequence of digits is read to the base. -/
def ofDigits (base : Nat) (digits : List Nat) : Nat := digits.foldl (fun value digit => value * base + digit) 0

/-- A leading zero is refused, since some programs read it as octal. -/
def parseOctet (text : List Char) : Option Nat :=
  if text = [] ∨ ¬ text.all Char.isDigit ∨ text.length > 3 ∨ (text ≠ ['0'] ∧ text.head? = some '0') then none
  else (readDigits text).filter (· ≤ 255)

def parseIPv4 (text : List Char) : Option Nat :=
  let octets := text.splitOn '.'
  if octets.length = 4 then (octets.mapM parseOctet).map (ofDigits 256) else none

def parseHextet (text : List Char) : Option Nat :=
  if text = [] ∨ text.length > 4 then none else (text.mapM hexValue).map (ofDigits 16)

/-- A last part in the notation of the old version counts as two parts. -/
def splitHextets (text : List Char) : Option (List (List Char)) :=
  let parts := text.splitOn ':'
  if parts.length < 3 then none
  else match parts.getLast? with
    | none => none
    | some last =>
        if '.' ∈ last then
          (parseIPv4 last).map fun value =>
            parts.dropLast ++ [Nat.toDigits 16 (value / 2 ^ 16), Nat.toDigits 16 (value % 2 ^ 16)]
        else some parts

/-- The parts before and behind a double colon are given apart. -/
def expandHextets (parts : List (List Char)) : Option (List (List Char) × Nat × List (List Char)) :=
  let inner := parts.tail.dropLast
  match inner.findIdxs (· = []) with
  | [] => if parts.length = 8 then some (parts, 0, []) else none
  | [index] =>
      let high := parts.take (index + 1)
      let low := parts.drop (index + 2)
      if (high.head? = some [] ∧ high.length ≠ 1) ∨ (low.getLast? = some [] ∧ low.length ≠ 1) then none
      else
        let high := if high = [[]] then [] else high
        let low := if low = [[]] then [] else low
        if high.length + low.length < 8 then some (high, 8 - (high.length + low.length), low) else none
  | _ => none

/-- A zone behind a percent sign is not part of the number. -/
def parseIPv6 (text : List Char) : Option Nat :=
  let (address, zone) := text.span (· ≠ '%')
  if zone = ['%'] ∨ '%' ∈ zone.tail then none
  else do
    let parts ← splitHextets address
    if parts.length > 9 then none
    else do
      let (high, skipped, low) ← expandHextets parts
      let high ← high.mapM parseHextet
      let low ← low.mapM parseHextet
      return ofDigits (2 ^ 16) (high ++ List.replicate skipped 0 ++ low)

/-- This is `ipaddress.ip_address`. -/
def ipAddress (text : String) : Option IpAddress :=
  if '/' ∈ text.toList then none
  else ((parseIPv4 text.toList).map (IpAddress.mk .four)).or ((parseIPv6 text.toList).map (IpAddress.mk .six))

/-- The length of a prefix is written as a number. -/
def parsePrefix (version : IpVersion) (text : List Char) : Option Nat :=
  if text = [] ∨ ¬ text.all Char.isDigit then none else (readDigits text).filter (· ≤ version.width)

/-- A netmask has its ones in front of its zeros. -/
def prefixOfMask (mask : Nat) : Option Nat :=
  (List.range 33).find? fun length => mask = (2 ^ length - 1) * 2 ^ (32 - length)

def parseMask (version : IpVersion) (text : List Char) : Option Nat :=
  match version with
  | .six => parsePrefix .six text
  | .four => (parsePrefix .four text).or ((parseIPv4 text).bind fun mask =>
      (prefixOfMask mask).or (prefixOfMask (2 ^ 32 - 1 - mask)))

def networkOf (version : IpVersion) (parse : List Char → Option Nat) (text : List Char) : Option IpNetwork := do
  let (address, length) ← match text.splitOn '/' with
    | [address] => some (address, some version.width)
    | [address, mask] => some (address, parseMask version mask)
    | _ => none
  let address ← parse address
  let length ← length
  return ⟨version, address / 2 ^ (version.width - length) * 2 ^ (version.width - length), length⟩

/-- This is `ipaddress.ip_network` with host bits allowed. -/
def ipNetwork (text : String) : Option IpNetwork :=
  (networkOf .four parseIPv4 text.toList).or (networkOf .six parseIPv6 text.toList)

/-- An address is in a network of its version that has its leading bits. -/
def IpNetwork.contains (network : IpNetwork) (address : IpAddress) : Bool :=
  address.version = network.version &&
    address.value / 2 ^ (network.version.width - network.prefixLength) ==
      network.networkAddress / 2 ^ (network.version.width - network.prefixLength)

example : ipAddress "::ffff:10.0.0.1" = some ⟨.six, 0xffff0a000001⟩ := by decide +kernel
example : ipNetwork "172.16.9.1/12" = some ⟨.four, 0xac100000, 12⟩ := by decide +kernel

section Characters

theorem mem_intercalate {separator part : List Char} {parts : List (List Char)} {c : Char} (member : part ∈ parts)
    (inside : c ∈ part) : c ∈ separator.intercalate parts := by
  induction parts with
  | nil => cases member
  | cons first rest inductionHypothesis =>
      cases rest with
      | nil =>
          obtain rfl := List.mem_singleton.mp member
          simpa [List.intercalate] using inside
      | cons second rest =>
          rw [List.intercalate_cons_cons]
          rcases List.mem_cons.mp member with rfl | later
          · exact List.mem_append_left _ (List.mem_append_left _ inside)
          · exact List.mem_append_right _ (inductionHypothesis later)

theorem mem_of_mem_splitOn {text part : List Char} {separator c : Char} (member : part ∈ text.splitOn separator)
    (inside : c ∈ part) : c ∈ text := by
  have whole : [separator].intercalate (text.splitOn separator) = text := List.intercalate_splitOn separator
  rw [← whole]
  exact mem_intercalate member inside

/-- An octet begins with a digit. -/
theorem digit_of_parseIPv4 {text : List Char} {value : Nat} (read : parseIPv4 text = some value) :
    ∃ c ∈ text, c.isDigit = true := by
  unfold parseIPv4 at read
  dsimp only at read
  split at read
  · rename_i four
    obtain ⟨octets, parsed, _⟩ := Option.map_eq_some_iff.mp read
    cases parts : text.splitOn '.' with
    | nil => simp [parts] at four
    | cons first rest =>
        rw [parts, List.mapM_cons] at parsed
        obtain ⟨octet, known, _⟩ := Option.bind_eq_some_iff.mp parsed
        unfold parseOctet at known
        split at known
        · cases known
        · rename_i wellFormed
          simp only [not_or, not_not] at wellFormed
          obtain ⟨c, others, rfl⟩ := List.exists_cons_of_ne_nil wellFormed.1
          have digit := List.all_eq_true.mp wellFormed.2.1 c List.mem_cons_self
          exact ⟨c, mem_of_mem_splitOn (by rw [parts]; exact List.mem_cons_self) List.mem_cons_self, digit⟩
  · cases read

theorem colon_of_parseIPv6 {text : List Char} {value : Nat} (read : parseIPv6 text = some value) : ':' ∈ text := by
  unfold parseIPv6 at read
  rw [List.span_eq_takeWhile_dropWhile] at read
  dsimp only at read
  split at read
  · cases read
  · obtain ⟨parts, known, _⟩ := Option.bind_eq_some_iff.mp read
    by_contra absent
    have none : ':' ∉ text.takeWhile (· ≠ '%') := fun member => absent ((List.takeWhile_prefix _).subset member)
    rw [splitHextets, List.splitOn_eq_singleton none] at known
    simp at known

/-- A text without digits and colons is no address. -/
theorem marked_of_ipAddress {text : String} {address : IpAddress} (read : ipAddress text = some address) :
    ∃ c ∈ text.toList, c.isDigit = true ∨ c = ':' := by
  unfold ipAddress at read
  split at read
  · cases read
  · rcases Option.or_eq_some_iff.mp read with four | ⟨_, six⟩
    · obtain ⟨value, parsed, _⟩ := Option.map_eq_some_iff.mp four
      obtain ⟨c, member, digit⟩ := digit_of_parseIPv4 parsed
      exact ⟨c, member, .inl digit⟩
    · obtain ⟨value, parsed, _⟩ := Option.map_eq_some_iff.mp six
      exact ⟨':', colon_of_parseIPv6 parsed, .inr rfl⟩

end Characters

end Pxtly.Foundation
