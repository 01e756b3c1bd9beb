import SipSimple.Core.SDP

/-!
# Copies of a session description

A frozen stream is made from one that is not, and a session that was negotiated is brought up to date with
the native one. Both are copies that should agree with the original. The frozen stream computes its codecs
in a way of its own; the update writes the fields one by one and computes no codecs at all, and it may
find only on the way that it has to stop.
-/

namespace SipSimple.Core

/-- Codec lists are compared codec by codec. -/
def MatchingCodecs (codecs others : List MediaCodec) : Prop := List.Forall₂ MediaCodec.Matches codecs others

/-! ## Frozen streams -/

/-- The stream can be made, and the frozen one made from it has the same codecs. -/
def CodecListsAgree (line : PjMedia) : Prop :=
  ∃ stream, SDPMediaStream.create line = some stream ∧
    MatchingCodecs stream.codecList (FrozenSDPMediaStream.new stream).codecList

/-- A format that both ways of reading it take for the same codec. -/
def PlainFormat (attributes : List SDPAttribute) (format : Str) : Prop :=
  ∃ type, intFormat format = some type ∧
    (isdigit format = true ∨ (codecOf attributes type).Matches .unknown)

theorem formats_agree_iff (attributes : List SDPAttribute) (formats : List Str) :
    (∃ codecs, (formats.mapM fun format => (intFormat format).map (codecOf attributes)) = some codecs ∧
      MatchingCodecs codecs (formats.map (frozenCodec attributes))) ↔
      ∀ format ∈ formats, PlainFormat attributes format := by
  induction formats with
  | nil => exact ⟨fun _ _ h => (nomatch h), fun _ => ⟨[], rfl, .nil⟩⟩
  | cons format formats ih =>
      rw [List.forall_mem_cons, ← ih, List.map_cons, List.mapM_cons]
      constructor
      · rintro ⟨codecs, hcodecs, hmatching⟩
        obtain ⟨codec, hcodec, hrest⟩ := Option.bind_eq_some_iff.mp hcodecs
        obtain ⟨others, hothers, hcons⟩ := Option.bind_eq_some_iff.mp hrest
        obtain rfl : codec :: others = codecs := Option.some.inj hcons
        obtain ⟨type, htype, rfl⟩ := Option.map_eq_some_iff.mp hcodec
        obtain ⟨hfirst, hmatching⟩ := List.forall₂_cons.mp hmatching
        refine ⟨⟨type, htype, ?_⟩, others, hothers, hmatching⟩
        by_cases hdigit : isdigit format = true
        · exact .inl hdigit
        · rw [frozenCodec, if_neg hdigit] at hfirst
          exact .inr hfirst
      · rintro ⟨⟨type, htype, hsame⟩, codecs, hcodecs, hmatching⟩
        refine ⟨codecOf attributes type :: codecs, ?_, List.forall₂_cons.mpr ⟨?_, hmatching⟩⟩
        · rw [htype, hcodecs]
          rfl
        · by_cases hdigit : isdigit format = true
          · rw [frozenCodec, if_pos hdigit, htype]
            exact MediaCodec.matches_refl _
          · rw [frozenCodec, if_neg hdigit]
            exact hsame.resolve_left hdigit

/-- **The codecs of a stream and of its frozen copy agree** exactly when every format of an audio or video
stream is a plain number, or one that stands for no codec. -/
theorem codecListsAgree_iff (line : PjMedia) :
    CodecListsAgree line ↔
      hasCodecs line.media = false ∨ ∀ format ∈ line.formats, PlainFormat line.attributes format := by
  have hstream : CodecListsAgree line ↔
      ∃ codecs, mutableCodecs line.media line.formats line.attributes = some codecs ∧
        MatchingCodecs codecs (frozenCodecs line.media line.formats line.attributes) := by
    constructor
    · rintro ⟨stream, hcreate, hmatching⟩
      obtain ⟨codecs, hcodecs, rfl⟩ := Option.map_eq_some_iff.mp hcreate
      exact ⟨codecs, hcodecs, hmatching⟩
    · rintro ⟨codecs, hcodecs, hmatching⟩
      exact ⟨{ line with codecList := codecs }, by rw [SDPMediaStream.create, hcodecs]; rfl, hmatching⟩
  rw [hstream]
  by_cases hmedia : hasCodecs line.media = true
  · rw [mutableCodecs, frozenCodecs, if_pos hmedia, if_pos hmedia, formats_agree_iff, hmedia]
    simp
  · rw [mutableCodecs, frozenCodecs, if_neg hmedia, if_neg hmedia]
    exact ⟨fun _ => .inl (Bool.eq_false_iff.mpr hmedia), fun _ => ⟨[], rfl, .nil⟩⟩

/-- A line `m=audio 9 RTP/AVP *`. -/
def starLine : PjMedia where
  media := "audio".toList
  port := 9
  transport := "RTP/AVP".toList
  portCount := 1
  formats := ["*".toList]
  connection := none
  attributes := []
  bandwidthInfo := []

theorem starLine_disagrees : ¬ CodecListsAgree starLine := by
  rintro ⟨stream, hcreate, -⟩
  have hnone : SDPMediaStream.create starLine = none := by decide
  rw [hnone] at hcreate
  cases hcreate

/-! ## The negotiated session -/

inductive SDPError
  | valueError (text : String)
  | attributeError
  deriving DecidableEq

/-- The loop that writes the items of a list into an older one: an item is replaced if it differs, and
appended if there is none at its place. -/
def patch {α : Type} [DecidableEq α] : List α → List α → List α
  | old, [] => old
  | [], item :: items => item :: patch [] items
  | first :: old, item :: items => (if first ≠ item then item else first) :: patch old items

/-- The connection is set if there was none, or another one. -/
def patchConnection (old new : Option SDPConnection) : Option SDPConnection :=
  if new = none then none else if old = none ∨ old ≠ new then new else old

namespace SDPMediaStream

/-- `SDPMediaStream._update`. None of the setters but that of the attributes, which is not called, computes
the codecs. -/
def update (self media : SDPMediaStream) : SDPMediaStream × Option SDPError :=
  if self.attributes.length > media.attributes.length then
    (self, some (.valueError "Number of attributes in SDPMediaStream got reduced"))
  else if self.bandwidthInfo.length > media.bandwidthInfo.length then
    (self, some (.valueError "Number of bandwidth info attributes in SDPMediaStream got reduced"))
  else
    ({ self with
        media := media.media
        port := media.port
        transport := media.transport
        portCount := media.portCount
        formats := media.formats
        connection := patchConnection self.connection media.connection
        attributes := patch self.attributes media.attributes
        bandwidthInfo := patch self.bandwidthInfo media.bandwidthInfo }, none)

end SDPMediaStream

/-- The fields of a session that are set one by one, and the connection. -/
structure SDPHeader where
  address : Str
  id : Nat
  version : Nat
  user : Str
  netType : Str
  addressType : Str
  name : Str
  startTime : Nat
  stopTime : Nat
  connection : Option SDPConnection
  deriving DecidableEq

/-- `pjmedia_sdp_session`; a stream may be `NULL`. -/
structure PjSession extends SDPHeader where
  attributes : List SDPAttribute
  bandwidthInfo : List SDPBandwidthInfo
  media : List (Option PjMedia)

structure SDPSession extends SDPHeader where
  attributes : List SDPAttribute
  bandwidthInfo : List SDPBandwidthInfo
  media : List (Option SDPMediaStream)

namespace SDPSession

def createMedia : Option PjMedia → Option (Option SDPMediaStream)
  | some media => (SDPMediaStream.create media).map some
  | none => some none

/-- `SDPSession_create`; `none` where a stream cannot be made. -/
def create (native : PjSession) : Option SDPSession :=
  (native.media.mapM createMedia).map fun media =>
    { native.toSDPHeader with
      attributes := native.attributes
      bandwidthInfo := native.bandwidthInfo
      media := media }

/-- The loop over the streams. A new stream that is `None` has no attributes. -/
def updateMedia : List (Option SDPMediaStream) → List (Option SDPMediaStream) →
    List (Option SDPMediaStream) × Option SDPError
  | old, [] => (old, none)
  | [], _ :: _ => ([], none)
  | none :: old, _ :: new =>
      let rest := updateMedia old new
      (none :: rest.1, rest.2)
  | some stream :: old, none :: _ => (some stream :: old, some .attributeError)
  | some stream :: old, some media :: new =>
      match stream.update media with
      | (stream, some error) => (some stream :: old, some error)
      | (stream, none) =>
          let rest := updateMedia old new
          (some stream :: rest.1, rest.2)

/-- `SDPSession._update`, with the native session that the negotiator has left. -/
def update (self : SDPSession) (native : PjSession) : SDPSession × Option SDPError :=
  match create native with
  | none => (self, some (.valueError "invalid literal for int() with base 10"))
  | some session =>
      if self.media.length ≠ session.media.length then
        (self, some (.valueError "Number of media streams in SDPSession got changed"))
      else if self.attributes.length > session.attributes.length then
        (self, some (.valueError "Number of attributes in SDPSession got reduced"))
      else
        let media := updateMedia self.media session.media
        ({ session.toSDPHeader with
            connection := patchConnection self.connection session.connection
            attributes := patch self.attributes session.attributes
            bandwidthInfo := patch self.bandwidthInfo session.bandwidthInfo
            media := media.1 }, media.2)

end SDPSession

/-- Two streams with the same fields, whose codecs are the same. -/
def SDPMediaStream.Same (stream other : SDPMediaStream) : Prop :=
  stream.toPjMedia = other.toPjMedia ∧ MatchingCodecs stream.codecList other.codecList

inductive SameMedia : Option SDPMediaStream → Option SDPMediaStream → Prop
  | none : SameMedia none none
  | some {stream other : SDPMediaStream} (h : stream.Same other) : SameMedia (some stream) (some other)

structure SDPSession.Same (session other : SDPSession) : Prop where
  header : session.toSDPHeader = other.toSDPHeader
  attributes : session.attributes = other.attributes
  bandwidthInfo : session.bandwidthInfo = other.bandwidthInfo
  media : List.Forall₂ SameMedia session.media other.media

/-- The session is the same as a new one made from the native one, or there is an error and nothing has
changed. -/
def SDPSession.Follows (self : SDPSession) (native : PjSession) : Prop :=
  match (self.update native).2 with
  | none => ∃ fresh, SDPSession.create native = some fresh ∧ (self.update native).1.Same fresh
  | some _ => (self.update native).1 = self

/-! ### What the update writes -/

theorem patch_eq {α : Type} [DecidableEq α] (old new : List α) :
    patch old new = new ++ old.drop new.length := by
  induction new generalizing old with
  | nil => cases old <;> rfl
  | cons item items ih =>
      cases old with
      | nil =>
          rw [patch, ih]
          simp
      | cons first old =>
          rw [patch, ih]
          by_cases hne : first = item <;> simp [hne]

theorem patch_of_le {α : Type} [DecidableEq α] {old new : List α} (h : old.length ≤ new.length) :
    patch old new = new := by
  rw [patch_eq, List.drop_eq_nil_of_le h, List.append_nil]

/-- The new items are all there, and none of the old ones is left over, exactly if there are not fewer. -/
theorem patch_eq_new_iff {α : Type} [DecidableEq α] {old new : List α} :
    patch old new = new ↔ old.length ≤ new.length := by
  rw [patch_eq, List.append_right_eq_self, List.drop_eq_nil_iff]

theorem patch_eq_old_iff {α : Type} [DecidableEq α] {old new : List α} :
    patch old new = old ↔ new <+: old := by
  rw [patch_eq]
  constructor
  · intro h
    exact ⟨_, h⟩
  · rintro ⟨rest, rfl⟩
    rw [List.drop_left]

@[simp] theorem patchConnection_eq (old new : Option SDPConnection) : patchConnection old new = new := by
  unfold patchConnection
  split_ifs with hnone hother
  · exact hnone.symm
  · rfl
  · exact not_not.mp fun hne => hother (.inr hne)

namespace SDPMediaStream

/-- The native stream has not fewer attributes and not fewer bandwidth lines. -/
def Grows (self media : SDPMediaStream) : Prop :=
  self.attributes.length ≤ media.attributes.length ∧
    self.bandwidthInfo.length ≤ media.bandwidthInfo.length

theorem update_of_grows {self media : SDPMediaStream} (h : self.Grows media) :
    self.update media = ({ media with codecList := self.codecList }, none) := by
  obtain ⟨hattributes, hbandwidth⟩ := h
  rw [update, if_neg (by omega), if_neg (by omega), patchConnection_eq, patch_of_le hattributes,
    patch_of_le hbandwidth]

theorem update_of_not_grows {self media : SDPMediaStream} (h : ¬ self.Grows media) :
    ∃ error, self.update media = (self, some error) := by
  unfold Grows at h
  unfold update
  split_ifs with hattributes hbandwidth
  · exact ⟨_, rfl⟩
  · exact ⟨_, rfl⟩
  · omega

end SDPMediaStream

/-- The update of the stream ends in an error. -/
def Refused : Option SDPMediaStream → Option SDPMediaStream → Prop
  | some stream, some media => ¬ stream.Grows media
  | some _, none => True
  | none, _ => False

/-- The stream after an update that is not refused. -/
def followed : Option SDPMediaStream → Option SDPMediaStream → Option SDPMediaStream
  | some stream, some media => some { media with codecList := stream.codecList }
  | stream, _ => stream

namespace SDPSession

theorem updateMedia_cons {stream media : Option SDPMediaStream} (h : ¬ Refused stream media)
    (old new : List (Option SDPMediaStream)) :
    updateMedia (stream :: old) (media :: new) =
      (followed stream media :: (updateMedia old new).1, (updateMedia old new).2) := by
  cases stream with
  | none => rfl
  | some stream =>
      cases media with
      | none => exact absurd trivial h
      | some media =>
          rw [updateMedia, SDPMediaStream.update_of_grows (not_not.mp h)]
          rfl

theorem updateMedia_refused {stream media : Option SDPMediaStream} (h : Refused stream media)
    (old new : List (Option SDPMediaStream)) :
    ∃ error, updateMedia (stream :: old) (media :: new) = (stream :: old, some error) := by
  cases stream with
  | none => exact absurd h id
  | some stream =>
      cases media with
      | none => exact ⟨_, rfl⟩
      | some media =>
          obtain ⟨error, herror⟩ := SDPMediaStream.update_of_not_grows h
          exact ⟨error, by rw [updateMedia, herror]⟩

/-- The loop gets to the end of the streams that are not refused. -/
theorem updateMedia_append {before before' : List (Option SDPMediaStream)}
    (h : List.Forall₂ (fun stream media => ¬ Refused stream media) before before')
    (old new : List (Option SDPMediaStream)) :
    updateMedia (before ++ old) (before' ++ new) =
      (List.zipWith followed before before' ++ (updateMedia old new).1, (updateMedia old new).2) := by
  induction h with
  | nil => rfl
  | cons hfirst _ ih => rw [List.cons_append, List.cons_append, updateMedia_cons hfirst, ih]; rfl

theorem updateMedia_of_grows {old new : List (Option SDPMediaStream)}
    (h : List.Forall₂ (fun stream media => ¬ Refused stream media) old new) :
    updateMedia old new = (List.zipWith followed old new, none) := by
  have happend := updateMedia_append h [] []
  simpa [updateMedia] using happend

/-- Either no stream is refused or there is a first that is. -/
theorem refused_or {old new : List (Option SDPMediaStream)} (hlength : old.length = new.length) :
    List.Forall₂ (fun stream media => ¬ Refused stream media) old new ∨
      ∃ before stream after before' media after', old = before ++ stream :: after ∧
        new = before' ++ media :: after' ∧
        List.Forall₂ (fun stream media => ¬ Refused stream media) before before' ∧
        Refused stream media := by
  induction old generalizing new with
  | nil =>
      obtain rfl : new = [] := List.length_eq_zero_iff.mp hlength.symm
      exact .inl .nil
  | cons stream old ih =>
      cases new with
      | nil => cases hlength
      | cons media new =>
          by_cases hfirst : Refused stream media
          · exact .inr ⟨[], stream, old, [], media, new, rfl, rfl, .nil, hfirst⟩
          · rcases ih (Nat.succ.inj hlength) with hall |
              ⟨before, other, after, before', others, after', hold, hnew, hbefore, hrefused⟩
            · exact .inl (.cons hfirst hall)
            · exact .inr ⟨stream :: before, other, after, media :: before', others, after',
                by rw [hold]; rfl, by rw [hnew]; rfl, .cons hfirst hbefore, hrefused⟩

end SDPSession

/-! ### When the session follows -/

/-- The stream has the codecs of the native one already, and is not refused. -/
inductive InStep : Option SDPMediaStream → Option SDPMediaStream → Prop
  | none : InStep none none
  | some {stream media : SDPMediaStream} (hgrows : stream.Grows media)
      (hcodecs : MatchingCodecs stream.codecList media.codecList) : InStep (some stream) (some media)

/-- The update of the stream has nothing to do. -/
inductive Settled : Option SDPMediaStream → Option SDPMediaStream → Prop
  | none (media : Option SDPMediaStream) : Settled none media
  | some {stream media : SDPMediaStream} (h : stream.toPjMedia = media.toPjMedia) :
      Settled (some stream) (some media)

structure SDPSession.Keeps (session fresh : SDPSession) : Prop where
  attributes : session.attributes.length ≤ fresh.attributes.length
  bandwidthInfo : session.bandwidthInfo.length ≤ fresh.bandwidthInfo.length
  media : List.Forall₂ InStep session.media fresh.media

/-- The first error comes before the first change. -/
def SDPSession.RefusedInTime (session fresh : SDPSession) : Prop :=
  fresh.attributes.length < session.attributes.length ∨
    (session.toSDPHeader = fresh.toSDPHeader ∧ session.attributes = fresh.attributes ∧
      fresh.bandwidthInfo <+: session.bandwidthInfo ∧
      ∃ before stream after before' media after', session.media = before ++ stream :: after ∧
        fresh.media = before' ++ media :: after' ∧ List.Forall₂ Settled before before' ∧
        Refused stream media)

theorem InStep.not_refused {stream media : Option SDPMediaStream} (h : InStep stream media) :
    ¬ Refused stream media := by
  cases h with
  | none => exact id
  | some hgrows _ => exact not_not.mpr hgrows

theorem Settled.not_refused {stream media : Option SDPMediaStream} (h : Settled stream media) :
    ¬ Refused stream media := by
  cases h with
  | none => exact id
  | @some stream media heq =>
      refine not_not.mpr ⟨?_, ?_⟩
      · rw [show stream.attributes = media.attributes from congrArg PjMedia.attributes heq]
      · rw [show stream.bandwidthInfo = media.bandwidthInfo from congrArg PjMedia.bandwidthInfo heq]

theorem Settled.followed_eq {stream media : Option SDPMediaStream} (h : Settled stream media) :
    followed stream media = stream := by
  cases h with
  | none media => rfl
  | @some stream media heq =>
      show Option.some { media.toPjMedia with codecList := stream.codecList } = Option.some stream
      rw [← heq]

theorem settled_of_followed_eq {stream media : Option SDPMediaStream}
    (hrefused : ¬ Refused stream media) (h : followed stream media = stream) :
    Settled stream media := by
  cases stream with
  | none => exact .none media
  | some stream =>
      cases media with
      | none => exact absurd trivial hrefused
      | some media =>
          have heq : { media.toPjMedia with codecList := stream.codecList } = stream := Option.some.inj h
          exact .some (by rw [← heq])

theorem sameMedia_followed_iff {stream media : Option SDPMediaStream}
    (hrefused : ¬ Refused stream media) :
    SameMedia (followed stream media) media ↔ InStep stream media := by
  cases stream with
  | none =>
      refine ⟨fun h => ?_, fun h => ?_⟩
      · cases h
        exact .none
      · cases h
        exact .none
  | some stream =>
      cases media with
      | none => exact absurd trivial hrefused
      | some media =>
          refine ⟨fun h => ?_, fun h => ?_⟩
          · cases h with
            | some hsame => exact .some (not_not.mp hrefused) hsame.2
          · cases h with
            | some _ hcodecs => exact .some ⟨rfl, hcodecs⟩

namespace SDPSession

variable {self fresh : SDPSession} {native : PjSession}

theorem length_mapM {α β : Type} {f : α → Option β} {xs : List α} {ys : List β}
    (h : xs.mapM f = some ys) : ys.length = xs.length := by
  induction xs generalizing ys with
  | nil =>
      obtain rfl : [] = ys := Option.some.inj h
      rfl
  | cons x xs ih =>
      rw [List.mapM_cons] at h
      obtain ⟨y, -, hrest⟩ := Option.bind_eq_some_iff.mp h
      obtain ⟨others, hothers, hcons⟩ := Option.bind_eq_some_iff.mp hrest
      obtain rfl : y :: others = ys := Option.some.inj hcons
      exact congrArg Nat.succ (ih hothers)

theorem length_create (hcreate : create native = some fresh) :
    fresh.media.length = native.media.length := by
  obtain ⟨media, hmedia, rfl⟩ := Option.map_eq_some_iff.mp hcreate
  exact length_mapM hmedia

/-- The update where the number of streams and the attributes are checked. -/
theorem update_of_checked (hcreate : create native = some fresh)
    (hcount : self.media.length = fresh.media.length)
    (hattributes : self.attributes.length ≤ fresh.attributes.length) :
    self.update native =
      ({ fresh.toSDPHeader with
          attributes := fresh.attributes
          bandwidthInfo := patch self.bandwidthInfo fresh.bandwidthInfo
          media := (updateMedia self.media fresh.media).1 },
        (updateMedia self.media fresh.media).2) := by
  rw [update, hcreate]
  show (if self.media.length ≠ fresh.media.length then _ else _) = _
  rw [if_neg (not_not.mpr hcount), if_neg (by omega), patchConnection_eq, patch_of_le hattributes]

theorem follows_of_keeps (hcreate : create native = some fresh) (h : self.Keeps fresh) :
    self.Follows native := by
  have hgrows : List.Forall₂ (fun stream media => ¬ Refused stream media) self.media fresh.media :=
    h.media.imp fun _ _ => InStep.not_refused
  have hupdate := update_of_checked hcreate h.media.length_eq h.attributes
  rw [updateMedia_of_grows hgrows, patch_of_le h.bandwidthInfo] at hupdate
  unfold Follows
  rw [hupdate]
  refine ⟨fresh, hcreate, rfl, rfl, rfl, ?_⟩
  show List.Forall₂ SameMedia (List.zipWith followed self.media fresh.media) fresh.media
  have hmedia := h.media
  generalize self.media = old at hmedia
  generalize fresh.media = new at hmedia
  induction hmedia with
  | nil => exact .nil
  | cons hfirst _ ih => exact .cons ((sameMedia_followed_iff hfirst.not_refused).mpr hfirst) ih

theorem zipWith_followed_eq {before before' : List (Option SDPMediaStream)}
    (h : List.Forall₂ Settled before before') : List.zipWith followed before before' = before := by
  induction h with
  | nil => rfl
  | cons hfirst _ ih => rw [List.zipWith_cons_cons, hfirst.followed_eq, ih]

theorem follows_of_refusedInTime (hcreate : create native = some fresh)
    (hcount : self.media.length = fresh.media.length) (h : self.RefusedInTime fresh) :
    self.Follows native := by
  unfold Follows
  rcases h with hfewer | ⟨hheader, hattributes, hbandwidth, before, stream, after, before', media, after',
    hold, hnew, hsettled, hrefused⟩
  · have hupdate : self.update native =
        (self, some (.valueError "Number of attributes in SDPSession got reduced")) := by
      rw [update, hcreate]
      show (if self.media.length ≠ fresh.media.length then _ else _) = _
      rw [if_neg (not_not.mpr hcount), if_pos (by omega)]
    rw [hupdate]
  · have hupdate := update_of_checked hcreate hcount (by rw [hattributes])
    obtain ⟨error, herror⟩ := updateMedia_refused hrefused after after'
    have hmedia : updateMedia self.media fresh.media = (self.media, some error) := by
      rw [hold, hnew, updateMedia_append (hsettled.imp fun _ _ => Settled.not_refused), herror,
        zipWith_followed_eq hsettled]
    rw [hmedia, ← hheader, ← hattributes, patch_eq_old_iff.mpr hbandwidth] at hupdate
    rw [hupdate]

/-- What is left to compare if the loop over the streams has come to its end. -/
theorem keeps_of_follows (hcreate : create native = some fresh)
    (hcount : self.media.length = fresh.media.length)
    (hattributes : self.attributes.length ≤ fresh.attributes.length)
    (hgrows : List.Forall₂ (fun stream media => ¬ Refused stream media) self.media fresh.media)
    (h : self.Follows native) : self.Keeps fresh := by
  have hupdate := update_of_checked hcreate hcount hattributes
  rw [updateMedia_of_grows hgrows] at hupdate
  unfold Follows at h
  rw [hupdate] at h
  obtain ⟨other, hother, hsame⟩ := h
  obtain rfl : fresh = other := Option.some.inj (hcreate.symm.trans hother)
  refine ⟨hattributes, patch_eq_new_iff.mp hsame.bandwidthInfo, ?_⟩
  have hmedia : List.Forall₂ SameMedia (List.zipWith followed self.media fresh.media) fresh.media :=
    hsame.media
  generalize self.media = old at hgrows hmedia
  generalize fresh.media = new at hgrows hmedia
  induction hgrows with
  | nil => exact .nil
  | cons hfirst _ ih =>
      obtain ⟨hhead, htail⟩ := List.forall₂_cons.mp hmedia
      exact .cons ((sameMedia_followed_iff hfirst).mp hhead) (ih htail)

theorem refusedInTime_of_follows (hcreate : create native = some fresh)
    (hcount : self.media.length = fresh.media.length)
    (hattributes : self.attributes.length ≤ fresh.attributes.length)
    {before after before' after' : List (Option SDPMediaStream)} {stream media : Option SDPMediaStream}
    (hold : self.media = before ++ stream :: after) (hnew : fresh.media = before' ++ media :: after')
    (hbefore : List.Forall₂ (fun stream media => ¬ Refused stream media) before before')
    (hrefused : Refused stream media) (h : self.Follows native) : self.RefusedInTime fresh := by
  have hupdate := update_of_checked hcreate hcount hattributes
  obtain ⟨error, herror⟩ := updateMedia_refused hrefused after after'
  rw [hold, hnew, updateMedia_append hbefore, herror] at hupdate
  unfold Follows at h
  rw [hupdate] at h
  have hself := h.symm
  have hmedia : List.zipWith followed before before' ++ stream :: after = before ++ stream :: after :=
    (congrArg SDPSession.media h).trans hold
  have hheader : self.toSDPHeader = fresh.toSDPHeader := by rw [hself]
  have hsame : self.attributes = fresh.attributes := by rw [hself]
  have hbandwidth : patch self.bandwidthInfo fresh.bandwidthInfo = self.bandwidthInfo :=
    congrArg SDPSession.bandwidthInfo h
  refine .inr ⟨hheader, hsame, patch_eq_old_iff.mp hbandwidth, before, stream, after, before', media,
    after', hold, hnew, ?_, hrefused⟩
  have hstarts := List.append_cancel_right hmedia
  clear hmedia hself h hupdate hold hnew hheader hsame hbandwidth
  induction hbefore with
  | nil => exact .nil
  | cons hfirst _ ih =>
      obtain ⟨hhead, htail⟩ := List.cons.inj hstarts
      exact .cons (settled_of_followed_eq hfirst hhead) (ih htail)

/-- **A session follows the negotiated one** exactly when it loses nothing and has the codecs already, or
the update is refused before it changes anything. -/
theorem follows_iff (self : SDPSession) (native : PjSession)
    (hcount : self.media.length = native.media.length) :
    self.Follows native ↔
      ∀ fresh, create native = some fresh → self.Keeps fresh ∨ self.RefusedInTime fresh := by
  constructor
  · intro h fresh hcreate
    have hlength := hcount.trans (length_create hcreate).symm
    by_cases hattributes : self.attributes.length ≤ fresh.attributes.length
    · rcases refused_or hlength with hgrows |
        ⟨before, stream, after, before', media, after', hold, hnew, hbefore, hrefused⟩
      · exact .inl (keeps_of_follows hcreate hlength hattributes hgrows h)
      · exact .inr (refusedInTime_of_follows hcreate hlength hattributes hold hnew hbefore hrefused h)
    · exact .inr (.inl (by omega))
  · intro h
    cases hcreate : create native with
    | none =>
        unfold Follows
        rw [update, hcreate]
    | some fresh =>
        rcases h fresh hcreate with hkeeps | hrefused
        · exact follows_of_keeps hcreate hkeeps
        · exact follows_of_refusedInTime hcreate (hcount.trans (length_create hcreate).symm) hrefused

def exampleHeader : SDPHeader :=
  ⟨"192.0.2.1".toList, 1, 1, "-".toList, "IN".toList, "IP4".toList, " ".toList, 0, 0, none⟩

def opusLine (attributes : List SDPAttribute) : PjMedia :=
  ⟨"audio".toList, 5004, "RTP/AVP".toList, 1, ["96".toList], none, attributes, []⟩

def opusMap : List SDPAttribute := [⟨"rtpmap".toList, "96 opus/48000".toList⟩]

/-- A session with one audio stream, before the attribute that says what its payload type stands for. -/
def offered : SDPSession := ⟨exampleHeader, [], [], [some ⟨opusLine [], [.unknown]⟩]⟩

def negotiated : PjSession := ⟨exampleHeader, [], [], [some (opusLine opusMap)]⟩

theorem offered_follows_iff :
    offered.media.length = negotiated.media.length ∧
      (offered.Follows negotiated ↔
        ∀ fresh, create negotiated = some fresh → offered.Keeps fresh ∨ offered.RefusedInTime fresh) :=
  ⟨rfl, follows_iff offered negotiated rfl⟩

/-- The codecs of the new attribute are not computed. -/
theorem offered_not_follows :
    offered.media.length = negotiated.media.length ∧ ¬ offered.Follows negotiated := by
  refine ⟨rfl, fun h => ?_⟩
  have hcodecs : mutableCodecs "audio".toList ["96".toList] opusMap = some [⟨"opus".toList, 48000⟩] := by
    decide +kernel
  have hstream : createMedia (some (opusLine opusMap)) =
      some (some ⟨opusLine opusMap, [⟨"opus".toList, 48000⟩]⟩) := by
    show ((mutableCodecs "audio".toList ["96".toList] opusMap).map _).map some = _
    rw [hcodecs]
    rfl
  have hcreate : create negotiated =
      some ⟨exampleHeader, [], [], [some ⟨opusLine opusMap, [⟨"opus".toList, 48000⟩]⟩]⟩ := by
    rw [create, negotiated, List.mapM_cons, hstream]
    rfl
  have hgrows : ¬ Refused (some ⟨opusLine [], [.unknown]⟩)
      (some ⟨opusLine opusMap, [⟨"opus".toList, 48000⟩]⟩) :=
    not_not.mpr ⟨Nat.zero_le _, Nat.le_refl _⟩
  have hkeeps : offered.Keeps _ :=
    keeps_of_follows hcreate rfl (Nat.le_refl _) (.cons hgrows .nil) h
  obtain ⟨hfirst, -⟩ := List.forall₂_cons.mp hkeeps.media
  cases hfirst with
  | some _ hmatching => exact absurd (List.forall₂_cons.mp hmatching).1 (by decide)

end SDPSession

end SipSimple.Core
