import SipSimple.Account.RequestLoop

/-!
# Rules for the handlers of a command loop

A handler that tries routes is made of few moves. What they all keep on the way, and what its ways to end or to
wait establish from that, holds of the whole handler, whatever the channel and the routes hold.
-/

namespace SipSimple.Account.RequestLoop

open SipSimple.Core

variable {Env Request Etag Success Saved Payload Call : Type}
  {kind : RequestKind Env Request Etag Success Saved Payload}
  {loop : RequestLoop Request Etag Success Saved Payload Call}

/-- `Way` is kept by every move of a handler, and `After` holds where it ends or waits. -/
structure HandlerRule (Way After : RequestLoop Request Etag Success Saved Payload Call → Prop) : Prop where
  read : ∀ {loop} channel, Way loop → Way { loop with dataChannel := channel }
  waits : ∀ {loop} wait dnsWait deadline, Way loop → Way { loop with wait, dnsWait, deadline }
  transmit : ∀ {loop} id holder request ending, Way loop → Way (loop.transmit id holder request ending)
  notTransmitted : ∀ {loop} id holder, Way loop → Way (loop.notTransmitted id holder)
  fail : ∀ {loop} event error, Way loop → After (loop.fail event error)
  die : ∀ {loop} held, Way loop → After { loop with held, phase := .dead }
  block : ∀ {loop} payload event routes, Way loop → loop.holder.isSome →
    After { loop with phase := .awaiting payload event routes }
  succeed : ∀ {loop} event saved, Way loop → loop.holder.isSome → After (loop.succeed event saved)
  leave : ∀ {loop} event, Way loop → loop.holder.isSome → After ({ loop with phase := .idle }.signal event)

namespace HandlerRule

variable {Way After : RequestLoop Request Etag Success Saved Payload Call → Prop} {env : Env}
  {sends : Route → Bool} {payload : Payload} {event : Nat} {routes : List Route}

theorem readAnswer (rule : HandlerRule Way After)
    {next : RequestLoop Request Etag Success Saved Payload Call →
      RequestLoop Request Etag Success Saved Payload Call}
    (hway : Way loop) (hholder : loop.holder.isSome)
    (hnext : ∀ channel, After (next { loop with dataChannel := channel })) :
    After (loop.readAnswer kind env payload event routes next) := by
  unfold RequestLoop.readAnswer
  split
  next => exact rule.block payload event routes hway hholder
  next data channel _ =>
    have hread := rule.read channel hway
    split
    next saved _ => exact rule.succeed event saved hread hholder
    next =>
      have hdead := rule.die true hread
      exact hdead
  next failure channel _ =>
    have hread := rule.read channel hway
    split
    next => exact hnext channel
    next error _ => exact rule.fail event error hread
    next => exact rule.die loop.held hread
  next expired channel _ => exact rule.fail event kind.expired (rule.read channel hway)
  next code reason channel _ =>
    have hread := rule.read channel hway
    exact rule.die loop.held hread

theorem tryRoutes (rule : HandlerRule Way After) (hway : Way loop) :
    After (tryRoutes kind env sends payload event routes loop) := by
  induction routes generalizing loop with
  | nil =>
      rw [RequestLoop.tryRoutes]
      exact rule.fail event _ (rule.waits _ loop.dnsWait loop.deadline hway)
  | cons route routes ih =>
      rw [RequestLoop.tryRoutes]
      split
      · split
        next => exact rule.die loop.held hway
        next id holder hholder =>
          have hsome : loop.holder.isSome := by rw [hholder]; rfl
          split
          next => exact ih hway
          next => exact rule.leave event hway hsome
          next error _ => exact rule.fail event error hway
          next => exact rule.die loop.held hway
          next request _ =>
            have hsent := rule.transmit id holder request false hway
            have hunsent := rule.notTransmitted id holder hway
            dsimp only
            split
            next => exact rule.readAnswer hsent rfl fun channel => ih (rule.read channel hsent)
            next =>
              split
              next error _ => exact rule.fail event error hunsent
              next failure _ =>
                have hposted : Way ((loop.notTransmitted id holder).receive (.didFail failure)) :=
                  rule.read _ hunsent
                exact rule.readAnswer hposted rfl fun channel => ih (rule.read channel hposted)
      · exact ih hway

theorem lookedUp (rule : HandlerRule Way After) {result : Except LookupError (List Route)} (hway : Way loop)
    (hafter : After loop) : After (loop.lookedUp kind env sends result) := by
  unfold RequestLoop.lookedUp
  split
  next => exact rule.die loop.held hway
  next =>
    exact rule.fail _ _ (rule.waits loop.wait _ loop.deadline hway)
  next =>
    split
    · exact rule.tryRoutes (rule.waits loop.wait _ _ hway)
    · have hwaits := rule.waits loop.wait 1 loop.deadline hway
      exact rule.die loop.held hwaits
  next => exact hafter

end HandlerRule

end SipSimple.Account.RequestLoop
