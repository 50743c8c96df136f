import StreamQuery.Proofs.Client.Consumer
import StreamQuery.Proofs.Client.Pull
import StreamQuery.Proofs.Dispatch.WholeStream
/-!
# Pushed queries and pulled queries agree

A query that is pushed to its end gives the rows and failures that its messages amount to, one by
one; a query that is pulled gives the same rows at once, or the first of these failures.
-/

namespace StreamQuery.Client

open Dispatch Response Row

variable {client : Client} {context : Context} {answer : Answer}

/-- A stream is opened, and the client waits for that as long as it may. -/
theorem openStream_run (client : Client) (context : Context) (path statement : String) :
    ∃ done, (openStream context path statement).run client =
        (((openedOf? client.dispatcher.streams.length done).getD
            (.error .deadlineExceeded)).map fun _ => client.dispatcher.streams.length,
          { client with dispatcher := done }) ∧
      Dispatcher.Leads
        (client.dispatcher.openStream context (client.post path statement)).1.settle done ∧
      ((openedOf? client.dispatcher.streams.length done).isSome = true ∨
        deadlineOf context client.dispatcher ≤ done.now) :=
  ⟨_, rfl, Dispatcher.settle_runUntil _ _ _,
    Dispatcher.runUntil_stops
      (fun dispatcher => (openedOf? client.dispatcher.streams.length dispatcher).isSome) _ _⟩

/-- A stream that was opened, and whose consumer has not taken anything. -/
structure Opens (text : List Char) (context : Context) (answer : Answer) (index : Nat)
    (dispatcher : Dispatcher) : Prop where
  carries : Carries text dispatcher.policy answer
  served : ∃ deadline written,
    Dispatcher.Served index answer context deadline dispatcher written ∧
      written.sightings.getLast?.map Sighting.body = some answer.body ∧ written.heard = []

theorem openStream_opens {text : List Char} {path statement : String}
    {result : Except RequestError Nat} {after : Client}
    (asks : Asks text context answer client after)
    (ran : (openStream context path statement).run client = (result, after)) :
    ∃ index, result = .ok index ∧ Opens text context answer index after.dispatcher := by
  obtain ⟨faces, carries, untroubled⟩ := asks
  obtain ⟨done, same, leads, stopped⟩ := openStream_run client context path statement
  cases same.symm.trans ran
  have started := untroubled.of_leads ((Dispatcher.settle_leads _).trans leads)
  have before : Untroubled context (deadlineOf context client.dispatcher) client.dispatcher :=
    @Untroubled.of_play _ _ _ [.openStream context (client.post path statement)] started
  obtain ⟨sent, onward, policy, found⟩ := Dispatcher.openStream_sends faces
    (client.post path statement) before.calm
  obtain ⟨events, scheduled, rfl⟩ := onward.trans leads
  have served := Dispatcher.play_served events carries.success (Dispatcher.served_begin found)
    fun event member => Event.spares_keeps (Event.scheduled_spares (scheduled event member) _)
  obtain ⟨opened, first⟩ := served.opened untroubled.calm untroubled.early
    (stopped.resolve_right (Nat.not_le.mpr untroubled.early))
  refine ⟨client.dispatcher.streams.length, ?_, ?_, _, _, served, first, ?_⟩
  · rw [openedOf?, opened]
    rfl
  · rw [Dispatcher.play_policy, policy]
    exact carries
  · exact Dispatcher.heard_spared
      (fun event member => Event.scheduled_spares (scheduled event member) _) sent .empty

theorem Carries.lines {layout : Layout} {messages : List WrittenMessage} {policy : Policy}
    (carries : Carries (layout.text messages) policy answer) :
    answer.body.lines = (rows ['['] messages).map String.ofList := by
  have unbroken : '\n' ∉ ['['] := by decide
  rw [Body.lines_complete carries.complete, carries.bytes]
  exact linesOf_rows layout messages unbroken

theorem Carries.readable {layout : Layout} {messages : List WrittenMessage} {policy : Policy}
    (carries : Carries (layout.text messages) policy answer) :
    Readable policy.lineLimit answer.body where
  complete := carries.complete
  visible line member := by
    rw [carries.lines] at member
    obtain ⟨row, inside, rfl⟩ := List.mem_map.mp member
    exact rows_visible messages ['['] row inside
  short := carries.pieces

/-- A context that is neither cancelled nor past its deadline. -/
structure Lasts (context : Context) (dispatcher : Dispatcher) : Prop where
  calm : dispatcher.isCancelled context = false
  current : dispatcher.isExpired context = false

/-- Nothing can trouble a context without signal and deadline. -/
theorem Lasts.background (dispatcher : Dispatcher) : Lasts .background dispatcher :=
  ⟨rfl, rfl⟩

theorem Lasts.of_play {dispatcher : Dispatcher} {events : List Event}
    (later : Lasts context (dispatcher.play events)) : Lasts context dispatcher := by
  constructor
  · refine Bool.eq_false_iff.mpr fun raised => ?_
    have cancelled := (Dispatcher.play_grows events dispatcher).isCancelled raised
    exact Bool.false_ne_true (later.calm.symm.trans cancelled)
  · refine Bool.eq_false_iff.mpr fun expired => ?_
    have late := Dispatcher.isExpired_later (Dispatcher.play_now_le events dispatcher) expired
    exact Bool.false_ne_true (later.current.symm.trans late)

/-- What was heard tells the items and the number of ends. -/
theorem heard_injective {α : Type} {first second : List α} {left right : Nat}
    (same : first.map some ++ List.replicate left none =
      second.map some ++ List.replicate right none) : first = second ∧ left = right := by
  have items : first = second := by simpa using congrArg (List.filterMap id) same
  subst items
  have lengths := congrArg List.length same
  simp only [List.length_append, List.length_replicate] at lengths
  exact ⟨rfl, by omega⟩

/-- What a consumer has taken of an answer begins what is passed on, and is all of it at the end. -/
theorem Opens.takes {layout : Layout} {messages : List WrittenMessage} {index : Nat}
    {before after : Dispatcher} {chunks : List (Except RequestError String)} {ends : Nat}
    (opens : Opens (layout.text messages) context answer index before)
    (takes : Takes index before chunks ends after) (lasts : Lasts context after) :
    ∃ later, (passedOn answer.body).map .ok = chunks ++ later ∧ (0 < ends → later = []) := by
  obtain ⟨carries, deadline, written, served, first, unheard⟩ := opens
  obtain ⟨events, rfl, keeps, heard⟩ := takes
  have still := Dispatcher.play_served events carries.success served keeps
  have readable := carries.readable
  rw [← Dispatcher.play_policy events] at readable
  obtain ⟨lines, spent, got, begins, whole⟩ :=
    still.hears (Dispatcher.chronicle_first events first) readable lasts.calm lasts.current
  have split : lines.map (fun line => some (.ok line)) =
      (lines.map .ok : List (Except RequestError String)).map some := by
    rw [List.map_map]
    rfl
  rw [heard, unheard, List.nil_append, split] at got
  obtain ⟨rfl, rfl⟩ := heard_injective got
  obtain ⟨rest, all⟩ := begins
  refine ⟨rest.map .ok, ?_, fun some => ?_⟩
  · rw [← all, List.map_append]
  · have nothing : rest = [] := List.append_cancel_left (by rw [all, List.append_nil, whole some])
    rw [nothing, List.map_nil]

/-- What a consumer reads of an answer begins what the messages amount to, and is all of it at the
end. -/
theorem Opens.reads {layout : Layout} {messages : List WrittenMessage} {index : Nat}
    {before after : Dispatcher} {reader next : RowReader}
    {items : List (Except RequestError RecordValue)} {done : Bool}
    (opens : Opens (layout.text messages) context answer index before)
    (reads : Reads index before reader items done next after) (lasts : Lasts context after) :
    ∃ later, reader.items (messages.map WrittenMessage.message) = items ++ later ∧
      (done = true → later = []) := by
  have whole : reader.yields ((passedOn answer.body).map .ok) =
      reader.items (messages.map WrittenMessage.message) := by
    rw [passedOn, opens.carries.lines]
    exact yields_rows messages (.inr rfl) reader
  cases reads with
  | @taken chunks _ _ _ takes means =>
      obtain ⟨later, split, ended⟩ := opens.takes takes lasts
      refine ⟨next.yields later, ?_, fun finished => ?_⟩
      · rw [← whole, split, means]
      · rw [ended (by rw [finished]; decide)]
        rfl
  | @closed chunks _ between takes means =>
      have open_ : Lasts context between := @Lasts.of_play _ _ [.closeStream index] lasts
      obtain ⟨later, split, _⟩ := opens.takes takes open_
      refine ⟨[], ?_, fun _ => rfl⟩
      rw [← whole, split, means, List.append_nil]

theorem push_run (record : RecordType) {query : Select} {statement : String}
    (written : query.text = .ok statement) {between : Client} {opened : Except RequestError Nat}
    (asked : (openStream context queryEndpoint statement).run client = (opened, between)) :
    (push context record query).run client =
      (opened.map fun index => ⟨index, .ofRecord record⟩, between) := by
  unfold push
  rw [written]
  simp only [StateT.run_bind, asked]
  rfl

/-- What a pulled query gives, where pushing it gives some items: all rows where all are rows, and
otherwise the first failure. -/
structure Agrees (items : List (Except RequestError RecordValue))
    (whole : Except RequestError (List RecordValue)) : Prop where
  rows : ∀ rows : List RecordValue, items = rows.map .ok → whole = .ok rows
  failure : ∀ (rows : List RecordValue) error rest,
    items = rows.map .ok ++ .error error :: rest → whole = .error error

theorem agrees_collect (items : List (Except RequestError RecordValue)) :
    Agrees items (collect items) where
  rows rows same := by rw [same, collect_ok]
  failure rows error rest same := by rw [same, collect_error]

/-- Where a query is pushed and pulled, and is answered by the same text both times, what a consumer
gets that reads the stream to its end, at any pace, agrees with the result of the pull. -/
theorem push_pull_agree (record : RecordType) {query : Select} {statement : String}
    (written : query.text = .ok statement) (layout : Layout) (messages : List WrittenMessage)
    {pushing opened pulling pulled : Client} {pushContext pullContext : Context}
    {pushAnswer pullAnswer : Answer}
    (pushAsks : Asks (layout.text messages) pushContext pushAnswer pushing opened)
    (pullAsks : Asks (layout.text messages) pullContext pullAnswer pulling pulled)
    {started : Except RequestError RowStream}
    (pushes : (push pushContext record query).run pushing = (started, opened))
    {whole : Except RequestError (List RecordValue)}
    (pulls : (pull pullContext record query).run pulling = (whole, pulled)) :
    ∃ stream, started = .ok stream ∧ ∀ turns items after,
      (∀ turn ∈ turns, turn.Spares stream.index) →
      (readRows turns stream).run opened = ((items, true), after) →
      Lasts pushContext after.dispatcher → Agrees items whole := by
  obtain ⟨index?, between, asked⟩ : ∃ index? between,
      (openStream pushContext queryEndpoint statement).run pushing = (index?, between) :=
    ⟨_, _, rfl⟩
  cases (push_run record written asked).symm.trans pushes
  obtain ⟨index, rfl, opens⟩ := openStream_opens pushAsks asked
  refine ⟨⟨index, .ofRecord record⟩, rfl, fun turns items after spares ran lasts => ?_⟩
  obtain ⟨deadline, chronicle, served, _⟩ := opens.served
  obtain ⟨task, found, _⟩ := served.found
  have present : (opened.dispatcher.streams[index]?).isSome = true := by rw [found]; rfl
  obtain ⟨got, done, next, last, same, reads⟩ := readRows_reads turns
    ⟨index, .ofRecord record⟩ spares present
  cases same.symm.trans ran
  obtain ⟨later, all, finished⟩ := opens.reads reads lasts
  rw [finished rfl, List.append_nil] at all
  rw [pull_collects record written pullAsks pulls, all]
  exact agrees_collect items

/-! ### A response in two parts -/

/-- A header with one column. -/
def shownHeader : WrittenMessage where
  text := "\x7b\"header\":\x7b\"schema\":\"\x60N\x60 INTEGER\"\x7d\x7d".toList
  value := .object [("header", .object [("schema", .string "\x60N\x60 INTEGER")])]
  message := .header ⟨none, "\x60N\x60 INTEGER"⟩
  opens := by decide
  closes := by decide
  unbroken := by decide
  reads := rfl
  means := rfl
  marked found := absurd found (by decide)

def shownRow : WrittenMessage where
  text := "\x7b\"row\":\x7b\"columns\":[7]\x7d\x7d".toList
  value := .object [("row", .object [("columns", .array [.int 7])])]
  message := .row [.int 7]
  opens := by decide
  closes := by decide
  unbroken := by decide
  reads := rfl
  means := rfl
  marked found := absurd found (by decide)

def shownFailure : WrittenMessage where
  text := "\x7b\"errorMessage\":\"gone\"\x7d".toList
  value := .object [("errorMessage", .string "gone")]
  message := .failure "gone"
  opens := by decide
  closes := by decide
  unbroken := by decide
  reads := rfl
  means := rfl
  marked found := absurd found (by decide)

def shownText : List Char :=
  Layout.text ⟨true, false⟩ [shownHeader, shownRow, shownFailure]

/-- The text in two parts, cut within its first message. -/
def shownAnswer : Answer :=
  ⟨200, 0, ⟨[((utf8 shownText).take 20).toByteArray, ((utf8 shownText).drop 20).toByteArray], 0,
    .complete, none⟩⟩

def shownClient : Client :=
  .start .default (.ofScript [.answer shownAnswer] none)

def shownRecord : RecordType :=
  [⟨"n", .integer ⟨true, 32, false⟩, false, none⟩]

def shownQuery : Select :=
  (Select.empty.addColumns [.field (.parse "n")]).readFrom ⟨"orders", none, none⟩

theorem shown_carries : Carries shownText shownClient.dispatcher.policy shownAnswer where
  success := rfl
  complete := rfl
  bytes := by simp [shownAnswer, Body.bytes, contents]
  pieces := by decide +kernel
  within := by decide +kernel

theorem shown_faces : Dispatcher.Faces shownAnswer shownClient.dispatcher :=
  ⟨rfl, rfl, rfl⟩

def shownPush : Except RequestError RowStream × Client :=
  (push .background shownRecord shownQuery).run shownClient

def shownPull : Except RequestError (List RecordValue) × Client :=
  (pull .background shownRecord shownQuery).run shownClient

def shownReading (stream : RowStream) :
    (List (Except RequestError RecordValue) × Bool) × Client :=
  (readRows [⟨[], 0⟩, ⟨[], 0⟩, ⟨[], 0⟩] stream).run shownPush.2

/-- A consumer that reads the row, the failure and the end agrees with the pull. -/
theorem shown_agree :
    ∃ stream, shownPush.1 = .ok stream ∧ (shownReading stream).1.2 = true ∧
      Agrees (shownReading stream).1.1 shownPull.1 := by
  have pushAsks : Asks shownText .background shownAnswer shownClient shownPush.2 :=
    ⟨shown_faces, shown_carries, (Lasts.background _).calm, by decide +kernel⟩
  have pullAsks : Asks shownText .background shownAnswer shownClient shownPull.2 :=
    ⟨shown_faces, shown_carries, (Lasts.background _).calm, by decide +kernel⟩
  have written : shownQuery.text = .ok "SELECT n FROM orders;" := rfl
  have pushes : (push .background shownRecord shownQuery).run shownClient =
      (shownPush.1, shownPush.2) := (Prod.eta shownPush).symm
  have pulls : (pull .background shownRecord shownQuery).run shownClient =
      (shownPull.1, shownPull.2) := (Prod.eta shownPull).symm
  obtain ⟨stream, same, agrees⟩ := push_pull_agree shownRecord written ⟨true, false⟩
    [shownHeader, shownRow, shownFailure] pushAsks pullAsks pushes pulls
  have ended : shownPush.1.toOption.map (fun stream => (shownReading stream).1.2) = some true := by
    decide +kernel
  rw [same] at ended
  have done : (shownReading stream).1.2 = true := Option.some.inj ended
  have split (reading : (List (Except RequestError RecordValue) × Bool) × Client)
      (ended : reading.1.2 = true) : reading = ((reading.1.1, true), reading.2) := by
    obtain ⟨⟨items, done⟩, after⟩ := reading
    cases ended
    rfl
  have ran : (readRows [⟨[], 0⟩, ⟨[], 0⟩, ⟨[], 0⟩] stream).run shownPush.2 =
      (((shownReading stream).1.1, true), (shownReading stream).2) :=
    split (shownReading stream) done
  exact ⟨stream, same, done, agrees _ _ _ (by simp [Turn.Spares]) ran (.background _)⟩

end StreamQuery.Client
