import SipSimple.Configuration.Settings
import SipSimple.Core.SIPURI
import SipSimple.Library.Patterns

/-!
# Addresses that match a URI

`BaseSIPURI.matches` takes an address apart with a regular expression of its own and compares the parts with the URI.
An address is a text; what it gives is said by the parts that it is put together from.
-/

namespace SipSimple.Core

/-! ### The regular expression -/

/-- `.` -/
def isDot (char : Char) : Bool := char != '\n'

/-- `(?P<scheme>sip|sips):` -/
def schemePattern : Pattern Str := do
  let scheme ← Pattern.orElse (do Pattern.literal "sip".toList; return "sip".toList)
    (do Pattern.literal "sips".toList; return "sips".toList)
  Pattern.literal [':']
  return scheme

/-- `:(?P<port>\d+?)` -/
def portRe : Pattern Str := do
  Pattern.literal [':']
  Pattern.shortestOne Char.isDigit

/-- `;(?P<parameters>.+?)` -/
def parametersRe : Pattern Str := do
  Pattern.literal [';']
  Pattern.shortestOne isDot

/-- `\?(?P<headers>.+?)` -/
def headersRe : Pattern Str := do
  Pattern.literal ['?']
  Pattern.shortestOne isDot

/-- The groups of a match. -/
@[ext] structure Components where
  scheme : Option Str
  username : Str
  domain : Option Str
  port : Option Str
  parameters : Option Str
  headers : Option Str
  deriving DecidableEq

/-- What the expression matches after the parameters. -/
def headersTail (components : Components) : Pattern Components := do
  let headers ← Pattern.optional headersRe
  Pattern.atEnd
  return { components with headers := headers }

/-- What it matches after the domain. -/
def parametersTail (components : Components) : Pattern Components := do
  let parameters ← Pattern.optional parametersRe
  headersTail { components with parameters := parameters }

/-- What it matches in a domain, and after it. -/
def domainTail (components : Components) : Pattern Components := do
  let domain ← Pattern.shortestOne isDot
  let port ← Pattern.optional portRe
  parametersTail { components with domain := some domain, port := port }

/-- What it matches after the user. -/
def usernameTail (components : Components) : Pattern Components := do
  match ← Pattern.optional (Pattern.literal ['@']) with
  | some _ => domainTail components
  | none => parametersTail components

/-- `((?P<scheme>sip|sips):)?(?P<username>.+?)(@(?P<domain>.+?)(:(?P<port>\d+?))?)?(;...)?(\?...)?$` -/
def matchRe : Pattern Components := do
  let scheme ← Pattern.optional schemePattern
  let username ← Pattern.shortestOne isDot
  usernameTail ⟨scheme, username, none, none, none, none⟩

/-! ### Comparisons -/

/-- `dict([(name, value) for name, sep, value in [part.partition('=') ...]])` -/
def readPairs (separator : Char) (text : Str) : Dict :=
  (text.splitOn separator).foldl
    (fun dict part => dict.set (partition '=' part).1 (.str (partition '=' part).2)) Dict.empty

/-- `str(value) if value is not None else None` -/
def Value.text : Value → Value
  | .none => .none
  | .str value => .str value
  | .int value => .str (Configuration.unicodeInt value)

/-- The own items with the names that are given. -/
def expectedItems (own given : Dict) : Dict where
  items := (own.items.filter fun item => (given.get item.1).isSome).map fun item => (item.1, item.2.text)
  nodup := by
    rw [List.map_map]
    exact own.nodup.sublist (List.filter_sublist.map _)

/-- The group, if it was found, has the own values for all names. -/
def agrees (separator : Char) (own : Dict) : Option Str → Bool
  | none => true
  | some text => (readPairs separator text).eq (expectedItems own (readPairs separator text))

/-- `matches` -/
def SIPURI.matches (uri : SIPURI) (address : Str) : Bool :=
  match matchRe.run address with
  | none => false
  | some components =>
      components.scheme.all (· == if uri.secure then "sips".toList else "sip".toList) &&
        some components.username == uri.user &&
        components.domain.all (· == uri.host) &&
        components.port.all (fun digits => Configuration.intDigits digits == uri.port) &&
        agrees ';' uri.parameters components.parameters &&
        agrees '&' uri.headers components.headers

end SipSimple.Core
