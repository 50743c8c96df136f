import StreamQuery.Proofs.Dispatch.Chronicle
import StreamQuery.Proofs.Dispatch.Effect
/-!
# Errors of a stream

An error that the consumer of a stream gets to see was scripted for the transport, or it tells of a
response that is missing, broken or rejected, or of retries that are used up. A stream is sent again
when the slots fill up, and it ends in silence when it is cancelled: neither is an error that its
consumer gets to see, unless the transport itself fails in that way.
-/

namespace StreamQuery.Dispatch

/-- An error that tells of neither a rebalance nor a cancellation. -/
def IsPlain (error : RequestError) : Prop :=
  error ≠ .rebalance ∧ error ≠ .cancelled

/-- An error that tells of a response: it is missing, broken or rejected. -/
def IsOfResponse : RequestError → Prop
  | .cannotDial _ | .cannotRead _ | .badStatus .. | .protocol _ => True
  | _ => False

theorem IsOfResponse.plain {error : RequestError} (ordinary : IsOfResponse error) :
    IsPlain error := by
  cases error <;> simp_all [IsOfResponse, IsPlain]

namespace Transport

/-- The error is in the script. -/
def Scripts (transport : Transport) (error : RequestError) : Prop :=
  .failure error ∈ transport.queue ∨ transport.standing = some (.failure error)

/-- A transport that fails with plain errors only. -/
def FailsPlainly (transport : Transport) : Prop :=
  ∀ error, .failure error ∈ transport.queue ∨ transport.standing = some (.failure error) →
    IsPlain error

variable {transport : Transport} {error : RequestError}

theorem FailsPlainly.plain (plain : transport.FailsPlainly)
    (cause : transport.Scripts error ∨ IsOfResponse error) : IsPlain error := by
  rcases cause with scripted | ordinary
  · exact plain error scripted
  · exact ordinary.plain

theorem next_scripts :
    (∀ error, transport.next?.2.Scripts error → transport.Scripts error) ∧
      ∀ error, transport.next?.1 = some (.failure error) → transport.Scripts error := by
  unfold next?
  split
  · next scripted rest queue =>
      refine ⟨fun error script => ?_, fun error first => ?_⟩
      · rcases script with member | standing
        · exact .inl (queue ▸ List.mem_cons_of_mem _ member)
        · exact .inr standing
      · cases first
        exact .inl (queue ▸ List.mem_cons_self)
  · exact ⟨fun error script => script, fun error first => .inr first⟩

theorem send_scripts (post : Post) :
    (∀ error, (transport.send post).2.Scripts error → transport.Scripts error) ∧
      ∀ error, (transport.send post).1 = .error error →
        transport.Scripts error ∨ IsOfResponse error := by
  obtain ⟨rest, first⟩ := @next_scripts { transport with sends := transport.sends + 1 }
  unfold send
  simp only
  split
  · refine ⟨rest, fun error same => ?_⟩
    cases same
    exact .inr trivial
  · next error scripted =>
      refine ⟨rest, fun other same => ?_⟩
      cases same
      exact .inl (first _ scripted)
  · exact ⟨rest, fun error same => by cases same⟩

end Transport

/-- The errors that a stream hands over are of some kind. -/
structure HandsOver (allowed : RequestError → Prop) (task : StreamTask) : Prop where
  pending : ∀ error, (∃ held, task.phase = .failing error held) ∨
    task.phase = .releasing (.failing error) → allowed error
  kept : ∀ error, .error error ∈ task.channel.kept → allowed error

theorem HandsOver.mono {allowed wider : RequestError → Prop} {task : StreamTask}
    (hands : HandsOver allowed task) (wide : ∀ error, allowed error → wider error) :
    HandsOver wider task :=
  ⟨fun error pending => wide error (hands.pending error pending),
    fun error member => wide error (hands.kept error member)⟩

theorem handsOver_fresh (allowed : RequestError → Prop) (context : Context) (post : Post) :
    HandsOver allowed ⟨context, post, .starting, 0, .empty⟩ :=
  ⟨by simp, fun error member => by cases member⟩

namespace Dispatcher

variable {dispatcher : Dispatcher} {post : Post} {exchange : Exchange} {step : ExchangeStep}
  {transport : Transport}

theorem exchangeStep_scripts
    (stepped : dispatcher.exchangeStep post exchange = (step, transport)) :
    (∀ error, transport.Scripts error → dispatcher.transport.Scripts error) ∧
      ∀ error, step = .failed error →
        dispatcher.transport.Scripts error ∨ IsOfResponse error := by
  have stays : ∀ error, dispatcher.transport.Scripts error →
      dispatcher.transport.Scripts error := fun _ scripted => scripted
  unfold exchangeStep Exchange.step at stepped
  split at stepped
  · obtain ⟨rest, first⟩ := @Transport.send_scripts dispatcher.transport post
    simp only at stepped
    split at stepped
    · cases stepped
      exact ⟨rest, fun error same => by cases same⟩
    · next error answered =>
        cases stepped
        refine ⟨rest, fun other same => ?_⟩
        cases same
        exact first _ answered
  · split at stepped <;> cases stepped <;> exact ⟨stays, fun error same => by cases same⟩
  · next status body collected =>
      cases stepped
      refine ⟨stays, fun error same => ?_⟩
      unfold Exchange.collect at same
      split at same
      · split at same
        · cases same
        · cases same
          exact .inr trivial
      · cases same
      · cases same
        exact .inr trivial
      · cases same

end Dispatcher

section Turns

variable {dispatcher : Dispatcher} {index : Nat} {post : Post} {exchange : Exchange}
  {transport : Transport}

theorem ExchangeTurn.scripts {next : Exchange}
    (turn : ExchangeTurn dispatcher post exchange next transport) :
    ∀ error, transport.Scripts error → dispatcher.transport.Scripts error := by
  cases turn with
  | onward step | blocked step | rejected step failure =>
      exact (Dispatcher.exchangeStep_scripts step).1

theorem ExchangeFailure.scripts {deadline : Nat} {error : RequestError}
    (failure : ExchangeFailure dispatcher post exchange deadline error transport) :
    (∀ error, transport.Scripts error → dispatcher.transport.Scripts error) ∧
      (dispatcher.transport.Scripts error ∨ IsOfResponse error) := by
  cases failure with
  | failed step =>
      obtain ⟨rest, failed⟩ := Dispatcher.exchangeStep_scripts step
      exact ⟨rest, failed _ rfl⟩
  | rejected step | late step due =>
      exact ⟨(Dispatcher.exchangeStep_scripts step).1, .inr trivial⟩

theorem RequestTurn.scripts {task turned : RequestTask} {budget : Budget TaskId}
    (turn : RequestTurn dispatcher index task turned budget transport) :
    ∀ error, transport.Scripts error → dispatcher.transport.Scripts error := by
  cases turn with
  | exchanged phase turn =>
      cases turn with
      | onward step | blocked step | answered step =>
          exact (Dispatcher.exchangeStep_scripts step).1
  | closed phase cause =>
      cases cause with
      | cancelled raised => exact fun _ scripted => scripted
      | failed step | whole step | late step due => exact (Dispatcher.exchangeStep_scripts step).1
  | _ => exact fun _ scripted => scripted

variable {task turned : StreamTask} {budget : Budget TaskId} {statistics : Statistics}
  {allowed : RequestError → Prop}

theorem StreamTurn.scripts
    (turn : StreamTurn dispatcher index task turned budget transport statistics) :
    ∀ error, transport.Scripts error → dispatcher.transport.Scripts error := by
  cases turn with
  | opening phase turn | reopening phase turn => exact turn.scripts
  | refused phase cause =>
      rcases cause with ⟨_, _, rfl⟩ | failure
      · exact fun _ scripted => scripted
      · exact failure.scripts.1
  | opened phase step success => exact (Dispatcher.exchangeStep_scripts step).1
  | reopenFailed phase failure other => exact failure.scripts.1
  | reopenCancelled phase step => exact (Dispatcher.exchangeStep_scripts step).1
  | _ => exact fun _ scripted => scripted

/-- A step with an error to hand over, and the same items kept. -/
theorem HandsOver.pend (hands : HandsOver allowed task)
    (kept : turned.channel.kept = task.channel.kept)
    (pending : ∀ error, (∃ held, turned.phase = .failing error held) ∨
      turned.phase = .releasing (.failing error) → allowed error) : HandsOver allowed turned := by
  refine ⟨pending, fun error member => ?_⟩
  rw [kept] at member
  exact hands.kept error member

/-- A step by which a stream fails. -/
theorem HandsOver.fail (hands : HandsOver allowed task) {error : RequestError}
    {held : Option Response.Body} (kept : turned.channel.kept = task.channel.kept)
    (phase : turned.phase = .failing error held) (fits : allowed error) :
    HandsOver allowed turned :=
  hands.pend kept (by simpa [phase] using fits)

theorem StreamTurn.handsOver
    (turn : StreamTurn dispatcher index task turned budget transport statistics)
    (usual : ∀ error, dispatcher.transport.Scripts error ∨ IsOfResponse error → allowed error)
    (spent : dispatcher.policy.maxRebalanceRetries < task.attempts →
      dispatcher.aborts task = true → allowed (.rebalanceExhausted task.attempts.toNat))
    (hands : HandsOver allowed task) : HandsOver allowed turned := by
  have ordinary {error : RequestError} (ofResponse : IsOfResponse error) : allowed error :=
    usual error (.inr ofResponse)
  cases turn with
  | rest => exact hands
  | expired phase late | expiredWait waiver late => exact hands.fail rfl rfl (ordinary trivial)
  | exhausted phase next blank full many wanted early =>
      have aborts := Dispatcher.aborts_of_blank phase next blank full wanted early
      exact hands.fail rfl rfl (spent many aborts)
  | overlong phase next => exact hands.fail rfl rfl (ordinary trivial)
  | broken phase asked => exact hands.fail rfl rfl (ordinary trivial)
  | reopenFailed phase failure other =>
      exact hands.pend rfl (by simpa using usual _ failure.scripts.2)
  | @released departure phase =>
      refine hands.pend rfl fun error pending => ?_
      cases departure with
      | failing other =>
          have same : other = error := by simpa [Departure.phase] using pending
          exact hands.pending error (.inr (same ▸ phase))
      | _ => simp [Departure.phase] at pending
  | forwarded phase next payload listening room =>
      exact ⟨by simp, fun error member => hands.kept error (by simpa [Channel.push] using member)⟩
  | handed phase listening room =>
      exact ⟨by simp, fun error member => hands.kept error (by simpa [Channel.push] using member)⟩
  | @failed error held _ failing listening room leaves =>
      subst leaves
      refine ⟨by cases held <;> simp, fun other member => ?_⟩
      rcases List.mem_append.mp member with member | member
      · exact hands.kept other member
      · have same : other = error := by simpa using member
        exact hands.pending other (.inl ⟨held, same ▸ failing⟩)
  | @deserted error held _ failing gone leaves =>
      subst leaves
      exact hands.pend rfl (by cases held <;> simp)
  | _ => exact hands.pend rfl (by simp)

end Turns

/-- What a consumer does to a channel adds no error. -/
theorem StreamChange.handsOver {dispatcher : Dispatcher} {index : Nat} {event : Event}
    {task : StreamTask} {task? : Option StreamTask} {allowed : RequestError → Prop}
    (change : StreamChange dispatcher index event task? (some task))
    (hands : ∀ earlier, task? = some earlier → HandsOver allowed earlier)
    (turns : ∀ {earlier budget transport statistics}, task? = some earlier →
      StreamTurn dispatcher index earlier task budget transport statistics →
        event = .step (.stream index) → HandsOver allowed earlier → HandsOver allowed task) :
    HandsOver allowed task := by
  cases change with
  | same => exact hands _ rfl
  | fresh => exact handsOver_fresh allowed _ _
  | turned cause turn => exact turns rfl turn cause (hands _ rfl)
  | @received task item rest cause taken =>
      have hands := hands task rfl
      refine ⟨hands.pending, fun error member => hands.kept error ?_⟩
      unfold Channel.receive at taken
      split at taken
      · next kept =>
          cases taken
          exact kept ▸ List.mem_cons_of_mem _ member
      · split at taken <;> cases taken
  | @closed task cause =>
      have hands := hands task rfl
      exact ⟨hands.pending, hands.kept⟩
  | @dropped task cause =>
      have hands := hands task rfl
      exact ⟨hands.pending, fun error member => by cases member⟩

/-- All errors that the streams of a dispatcher hand over are plain. -/
structure FailsPlainly (dispatcher : Dispatcher) : Prop where
  transport : dispatcher.transport.FailsPlainly
  streams : ∀ (index : Nat) (task : StreamTask), dispatcher.streams[index]? = some task →
    HandsOver IsPlain task

namespace Effect

variable {before after : Dispatcher} {event : Event}

/-- No event adds to the script of the transport. -/
theorem scripts (effect : Effect before event after) :
    ∀ error, after.transport.Scripts error → before.transport.Scripts error := by
  cases effect with
  | requestTurned found turned =>
      obtain ⟨_, _, _, _, _, turn, rfl⟩ := turned
      exact turn.scripts
  | streamTurned found turned =>
      obtain ⟨_, _, _, _, _, turn, rfl⟩ := turned
      exact turn.scripts
  | _ => exact fun _ scripted => scripted

theorem plain (effect : Effect before event after) (plain : FailsPlainly before) :
    FailsPlainly after := by
  refine ⟨fun error script => plain.transport error (effect.scripts error script), ?_⟩
  intro index task found
  have change := effect.streamChange index
  rw [found] at change
  refine change.handsOver (plain.streams index) ?_
  intro earlier budget transport statistics _ turn _ hands
  exact turn.handsOver (fun error cause => plain.transport.plain cause)
    (fun _ _ => by simp [IsPlain]) hands

end Effect

end StreamQuery.Dispatch
