import SipSimple.Configuration.Settings
import SipSimple.Core.SIPURI
import SipSimple.Library.Patterns

/-!
# Session descriptions

The classes of `core/_core.sdp.pxi` that hold a session description, as far as they are made from a native
one. Native numbers of attributes, formats and streams are within the limits that the setters check.
-/

namespace SipSimple.Core

structure SDPConnection where
  address : Str
  netType : Str
  addressType : Str
  deriving DecidableEq

structure SDPAttribute where
  name : Str
  value : Str
  deriving DecidableEq

structure SDPBandwidthInfo where
  modifier : Str
  value : Int
  deriving DecidableEq

structure MediaCodec where
  name : Str
  rate : Nat
  deriving DecidableEq

namespace MediaCodec

/-- `__eq__` of two codecs, which does not look at the case of the names. -/
def Matches (codec other : MediaCodec) : Prop :=
  codec.name.map Char.toLower = other.name.map Char.toLower ∧ codec.rate = other.rate

instance (codec other : MediaCodec) : Decidable (codec.Matches other) := inferInstanceAs (Decidable (_ ∧ _))

@[simp] theorem matches_refl (codec : MediaCodec) : codec.Matches codec := ⟨rfl, rfl⟩

/-- `MediaCodec('Unknown', 0)` -/
def unknown : MediaCodec := ⟨"Unknown".toList, 0⟩

end MediaCodec

/-! ## The rtpmap attributes -/

/-- `\w`, `\s` of an expression on byte strings. -/
def isWordChar (char : Char) : Bool := char.isAlphanum || char = '_'
def isSpaceChar (char : Char) : Bool :=
  char = ' ' || char = '\t' || char = '\n' || char = '\r' || char = '\x0b' || char = '\x0c'

/-- `$` where every line has an end. -/
def lineEnd : Pattern Unit := fun text => if text = [] ∨ text.head? = some '\n' then [((), text)] else []

/-- `rtpmap_re`, from the start of a line: the groups of the type, the name and the rate. -/
def rtpmapRe : Pattern (Str × Str × Str) := do
  let type ← Pattern.greedyOne Char.isDigit
  let _ ← Pattern.greedyOne isSpaceChar
  let name ← Pattern.greedyOne fun char => char = '-' || isWordChar char
  Pattern.literal ['/']
  let rate ← Pattern.greedyOne Char.isDigit
  let _ ← Pattern.optional (do Pattern.literal ['/']; Pattern.greedyOne isWordChar)
  lineEnd
  return (type, name, rate)

/-- `findall`: the matches at the starts of lines, each one after the one before. The count is of the
characters and the end that may still be looked at. -/
def findLines {α : Type} (pattern : Pattern α) : Nat → Bool → Str → List α
  | 0, _, _ => []
  | count + 1, lineStart, text =>
      match if lineStart then (pattern text).head? else none with
      | some (value, rest) => value :: findLines pattern count false rest
      | none =>
          match text with
          | [] => []
          | char :: text => findLines pattern count (char = '\n') text

def findRtpmaps (text : Str) : List (Str × Str × Str) := findLines rtpmapRe (text.length + 1) true text

/-- `'\n'.join` -/
def joinLines : List Str → Str
  | [] => []
  | [line] => line
  | line :: next :: lines => line ++ '\n' :: joinLines (next :: lines)

def rtpMappings : List (Nat × MediaCodec) :=
  [(0, ⟨"PCMU".toList, 8000⟩), (3, ⟨"GSM".toList, 8000⟩), (4, ⟨"G723".toList, 8000⟩),
    (5, ⟨"DVI4".toList, 8000⟩), (6, ⟨"DVI4".toList, 16000⟩), (7, ⟨"LPC".toList, 8000⟩),
    (8, ⟨"PCMA".toList, 8000⟩), (9, ⟨"G722".toList, 8000⟩), (10, ⟨"L16".toList, 44100⟩),
    (11, ⟨"L16".toList, 44100⟩), (12, ⟨"QCELP".toList, 8000⟩), (13, ⟨"CN".toList, 8000⟩),
    (14, ⟨"MPA".toList, 90000⟩), (15, ⟨"G728".toList, 8000⟩), (16, ⟨"DVI4".toList, 11025⟩),
    (17, ⟨"DVI4".toList, 22050⟩), (18, ⟨"G729".toList, 8000⟩)]

/-- The codec of a payload type: that of its last rtpmap, or the static one. -/
def codecOf (attributes : List SDPAttribute) (type : Int) : MediaCodec :=
  let lines := joinLines ((attributes.filter fun attr => attr.name = "rtpmap".toList).map SDPAttribute.value)
  let codecs := (findRtpmaps lines).map fun (type, name, rate) =>
    (Nat.ofDigitChars 10 type 0, (⟨name, Nat.ofDigitChars 10 rate 0⟩ : MediaCodec))
  (((rtpMappings ++ codecs).reverse.find? fun entry => (entry.1 : Int) = type).map Prod.snd).getD .unknown

/-- `int(format)` of a byte string. Between the sign and the digits there may be blanks. -/
def intFormat (format : Str) : Option Int :=
  let digits := fun (text : Str) => Configuration.intDigits (text.dropWhile isSpaceChar)
  match (format.dropWhile isSpaceChar).rdropWhile isSpaceChar with
  | '-' :: rest => (digits rest).map Int.negOfNat
  | '+' :: rest => (digits rest).map Int.ofNat
  | rest => (digits rest).map Int.ofNat

/-- `format.isdigit()` -/
def isdigit (format : Str) : Bool := format ≠ [] && format.all Char.isDigit

def hasCodecs (media : Str) : Bool := media = "audio".toList || media = "video".toList

/-- The codecs that `SDPMediaStream` computes when its attributes are set; `none` where a format is not a
number. -/
def mutableCodecs (media : Str) (formats : List Str) (attributes : List SDPAttribute) :
    Option (List MediaCodec) :=
  if hasCodecs media then formats.mapM fun format => (intFormat format).map (codecOf attributes)
  else some []

/-- `rtp_mappings.get(int(format) if format.isdigit() else None, MediaCodec('Unknown', 0))` -/
def frozenCodec (attributes : List SDPAttribute) (format : Str) : MediaCodec :=
  match if isdigit format then intFormat format else none with
  | some type => codecOf attributes type
  | none => .unknown

/-- The codecs that `FrozenSDPMediaStream` computes. -/
def frozenCodecs (media : Str) (formats : List Str) (attributes : List SDPAttribute) : List MediaCodec :=
  if hasCodecs media then formats.map (frozenCodec attributes) else []

/-- `pjmedia_sdp_media`, which is also what a media line says. -/
structure PjMedia where
  media : Str
  port : Nat
  transport : Str
  portCount : Nat
  formats : List Str
  connection : Option SDPConnection
  attributes : List SDPAttribute
  bandwidthInfo : List SDPBandwidthInfo
  deriving DecidableEq

/-- `SDPMediaStream`; `_codec_list` is kept from when the attributes were set. -/
structure SDPMediaStream extends PjMedia where
  codecList : List MediaCodec

/-- `SDPMediaStream_create` -/
def SDPMediaStream.create (native : PjMedia) : Option SDPMediaStream :=
  (mutableCodecs native.media native.formats native.attributes).map fun codecList =>
    { native with codecList := codecList }

structure FrozenSDPMediaStream extends PjMedia where
  codecList : List MediaCodec

/-- `FrozenSDPMediaStream.new` of a stream that is not frozen. -/
def FrozenSDPMediaStream.new (stream : SDPMediaStream) : FrozenSDPMediaStream :=
  { stream.toPjMedia with codecList := frozenCodecs stream.media stream.formats stream.attributes }

end SipSimple.Core
