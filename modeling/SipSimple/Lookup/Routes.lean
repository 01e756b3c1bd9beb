import Mathlib.Algebra.Group.Nat.Defs
import SipSimple.Core.SIPURI
import SipSimple.Library.Patterns

/-!
# Routes

`Route` of `core/_helpers.py`: what its properties accept, and the addresses that `socket.inet_aton` accepts. The
transports that a route may have are those that the lookup knows.
-/

namespace SipSimple.Lookup

open SipSimple.Core

scoped instance : LawfulBEq Str := inferInstance

/-- `text.lower()` -/
def lower (text : Str) : Str := text.map Char.toLower

/-! ### Addresses -/

def digitValue (char : Char) : Nat :=
  if char.isDigit then char.toNat - 48 else char.toLower.toNat - 87

/-- A number in the base, or nothing where a character is no digit of it. -/
def readDigits (base : Nat) (digits : Str) : Option Nat :=
  if digits ≠ [] ∧ digits.all (fun char => (char.isDigit || ('a' ≤ char.toLower && char.toLower ≤ 'f')) &&
      decide (digitValue char < base))
  then some (digits.foldl (fun number char => base * number + digitValue char) 0)
  else none

/-- `strtoul(word, NULL, 0)`, for a word that is read to its end and starts with a digit. -/
def readNumber : Str → Option Nat
  | '0' :: 'x' :: digits => readDigits 16 digits
  | '0' :: 'X' :: digits => readDigits 16 digits
  | '0' :: digits => if digits = [] then some 0 else readDigits 8 digits
  | digits => readDigits 10 digits

def isSpace (char : Char) : Bool := [' ', '\t', '\n', '\x0b', '\x0c', '\r'].contains char

/-- The address as a number: the last part fills the bytes that the others leave. -/
def joinParts : List Nat → Option Nat
  | [last] => if last < 2 ^ 32 then some last else none
  | [first, last] => if first < 256 ∧ last < 2 ^ 24 then some (first * 2 ^ 24 + last) else none
  | [first, second, last] =>
      if first < 256 ∧ second < 256 ∧ last < 2 ^ 16 then some (first * 2 ^ 24 + second * 2 ^ 16 + last) else none
  | [first, second, third, last] =>
      if first < 256 ∧ second < 256 ∧ third < 256 ∧ last < 256 then
        some (first * 2 ^ 24 + second * 2 ^ 16 + third * 2 ^ 8 + last)
      else none
  | _ => none

/-- `socket.inet_aton(address)`: what follows white space is not read. -/
def inetAton (address : Str) : Option Nat :=
  (((address.takeWhile fun char => !isSpace char).splitOn '.').mapM readNumber).bind joinParts

/-! ### Routes -/

inductive Transport where
  | udp | tcp | tls
  deriving DecidableEq, Repr

namespace Transport

def name : Transport → Str
  | udp => "udp".toList
  | tcp => "tcp".toList
  | tls => "tls".toList

/-- The transport with the name, which is in lower case. -/
def ofName (text : Str) : Option Transport := [udp, tcp, tls].find? fun transport => transport.name = text

/-- `5061 if transport == 'tls' else 5060` -/
def defaultPort : Transport → Nat
  | tls => 5061
  | _ => 5060

theorem ofName_eq_some {text : Str} {transport : Transport} (h : ofName text = some transport) :
    transport.name = text := by
  simpa using List.find?_some h

@[simp] theorem ofName_name (transport : Transport) : ofName transport.name = some transport := by
  cases transport <;> rfl

end Transport

structure Route where
  address : Str
  port : Nat
  transport : Transport
  legal_address : (inetAton address).isSome
  legal_port : 0 < port ∧ port < 65536
  deriving DecidableEq

/-- `Route(address, port, transport)`, or nothing for the `ValueError` of an illegal value. -/
def Route.new (address : Str) (port : Nat) (transport : Transport) : Option Route :=
  if haddress : (inetAton address).isSome then
    if hport : 0 < port ∧ port < 65536 then some ⟨address, port, transport, haddress, hport⟩ else none
  else none

theorem Route.new_eq_some {address : Str} {port : Nat} {transport : Transport} {route : Route}
    (h : Route.new address port transport = some route) :
    route.address = address ∧ route.port = port ∧ route.transport = transport := by
  rw [Route.new] at h
  split at h
  · split at h
    · cases h
      exact ⟨rfl, rfl, rfl⟩
    · cases h
  · cases h

theorem Route.new_isSome {address : Str} {port : Nat} (haddress : (inetAton address).isSome)
    (hport : 0 < port ∧ port < 65536) (transport : Transport) : (Route.new address port transport).isSome := by
  rw [Route.new, dif_pos haddress, dif_pos hport]
  rfl

end SipSimple.Lookup
