import AdminGate.Proofs.AgendaSteps
import AdminGate.Proofs.ScenarioLoads

/-!
# The timeline of a session

The timeline of a world lists what is seen of its requests, turn by turn, with
the moment of each turn.  `Ledger` reads off it what has become of every request
that has been sent: it is still with the transport, it has ended with its reply,
or it has been cancelled when its time was up.
-/

namespace AdminGate

/-- What is seen of a request, and not of the log. -/
def Observation.isOnWire : Observation → Bool
  | .sent .. | .closed .. => true
  | .logged _ => false

namespace Server

/-- The replies of a server to requests that it gets one after another. -/
def replies : Server → List Http.Request → List Reply
  | _, [] => []
  | server, request :: rest =>
      (server.reply request).2 :: replies (server.reply request).1 rest

def after : Server → List Http.Request → Server
  | server, [] => server
  | server, request :: rest => after (server.reply request).1 rest

theorem length_replies (server : Server) (requests : List Http.Request) :
    (server.replies requests).length = requests.length := by
  induction requests generalizing server with
  | nil => rfl
  | cons first rest ih => simp [replies, ih]

theorem replies_concat (server : Server) (requests : List Http.Request)
    (request : Http.Request) :
    server.replies (requests ++ [request]) =
      server.replies requests ++ [((server.after requests).reply request).2] := by
  induction requests generalizing server with
  | nil => rfl
  | cons first rest ih => simp [replies, after, ih]

theorem after_concat (server : Server) (requests : List Http.Request)
    (request : Http.Request) :
    server.after (requests ++ [request]) =
      ((server.after requests).reply request).1 := by
  induction requests generalizing server with
  | nil => rfl
  | cons first rest ih => simp [after, ih]

end Server

namespace Scenario

/-- A request that has been handed to the transport: when, by which call, and
what it was. -/
structure Sending where
  moment : Nat
  call : Nat
  request : Http.Request

/-- What has been seen of requests, each with its moment. -/
abbrev Timeline := List (Nat × Observation)

namespace Timeline

/-- The requests that have been handed to the transport, in order. -/
def sendings (timeline : Timeline) : List Sending :=
  timeline.filterMap fun
    | (moment, .sent _ call request) => some ⟨moment, call, request⟩
    | _ => none

def numbers (timeline : Timeline) : List Nat :=
  timeline.filterMap fun
    | (_, .sent number _ _) => some number
    | _ => none

/-- The ends of the request with a number. -/
def closings (timeline : Timeline) (number : Nat) : List (Nat × Closing) :=
  timeline.filterMap fun
    | (moment, .closed other closing) =>
        if other = number then some (moment, closing) else none
    | _ => none

def requests (timeline : Timeline) : List Http.Request :=
  timeline.sendings.map Sending.request

def seenAt (moment : Nat) (seen : List Observation) : Timeline :=
  seen.map fun observation => (moment, observation)

@[simp] theorem sendings_append (first second : Timeline) :
    sendings (first ++ second) = first.sendings ++ second.sendings :=
  List.filterMap_append

@[simp] theorem numbers_append (first second : Timeline) :
    numbers (first ++ second) = first.numbers ++ second.numbers :=
  List.filterMap_append

@[simp] theorem closings_append (first second : Timeline) (number : Nat) :
    closings (first ++ second) number =
      first.closings number ++ second.closings number :=
  List.filterMap_append

@[simp] theorem requests_append (first second : Timeline) :
    requests (first ++ second) = first.requests ++ second.requests := by
  simp [requests]

theorem mem_sendings_seenAt {moment : Nat} {seen : List Observation}
    {sending : Sending} :
    sending ∈ sendings (seenAt moment seen) ↔ sending.moment = moment ∧
      ∃ number, .sent number sending.call sending.request ∈ seen := by
  obtain ⟨since, call, request⟩ := sending
  simp only [sendings, seenAt, List.mem_filterMap, List.mem_map]
  constructor
  · rintro ⟨_, ⟨observation, member, rfl⟩, listed⟩
    cases observation <;> cases listed
    exact ⟨rfl, _, member⟩
  · rintro ⟨rfl, number, member⟩
    exact ⟨_, ⟨_, member, rfl⟩, rfl⟩

theorem mem_closings_seenAt {moment number : Nat} {seen : List Observation}
    {closing : Nat × Closing} :
    closing ∈ closings (seenAt moment seen) number ↔ closing.1 = moment ∧
      .closed number closing.2 ∈ seen := by
  obtain ⟨since, closing⟩ := closing
  simp only [closings, seenAt, List.mem_filterMap, List.mem_map]
  constructor
  · rintro ⟨_, ⟨observation, member, rfl⟩, listed⟩
    cases observation <;> simp at listed
    obtain ⟨rfl, rfl, rfl⟩ := listed
    exact ⟨rfl, member⟩
  · rintro ⟨rfl, member⟩
    exact ⟨_, ⟨_, member, rfl⟩, by simp⟩

theorem length_requests (timeline : Timeline) :
    timeline.requests.length = timeline.sendings.length :=
  List.length_map _

theorem length_numbers (timeline : Timeline) :
    timeline.numbers.length = timeline.sendings.length := by
  induction timeline with
  | nil => rfl
  | cons first rest ih =>
      obtain ⟨moment, observation⟩ := first
      cases observation <;>
        simpa [numbers, sendings, List.filterMap_cons] using ih

end Timeline

namespace World

/-- What a turn from one world to the next shows of the requests. -/
def shown (world next : World) : Timeline :=
  .seenAt next.traffic.now
    ((next.traffic.observations.drop world.traffic.observations.length).filter
      Observation.isOnWire)

/-- The world after some turns, or after all that there are. -/
def later : Nat → World → World
  | 0, world => world
  | turns + 1, world =>
      match world.turn? with
      | some next => later turns next
      | none => world

/-- What these turns show of the requests. -/
def timeline : Nat → World → Timeline
  | 0, _ => []
  | turns + 1, world =>
      match world.turn? with
      | some next => world.shown next ++ timeline turns next
      | none => []

end World

end Scenario

namespace Traffic

/-- Something is seen of the requests on the way from one traffic to another. -/
def Shows (traffic next : Traffic) (seen : List Observation) : Prop :=
  ∃ more, next.observations = traffic.observations ++ more ∧
    more.filter Observation.isOnWire = seen

/-- The same requests are with the transport. -/
def SameFlights (traffic next : Traffic) : Prop :=
  ∀ index what since number request,
    next.stage? index = some (.inFlight what since number request) ↔
      traffic.stage? index = some (.inFlight what since number request)

variable {traffic next last : Traffic} {index : Nat} {call : Call}
  {stage : Stage} {seen more : List Observation}

theorem Shows.refl (traffic : Traffic) : Shows traffic traffic [] :=
  ⟨[], by simp, rfl⟩

theorem Shows.trans (first : Shows traffic next seen)
    (second : Shows next last more) : Shows traffic last (seen ++ more) := by
  obtain ⟨firstMore, firstEq, rfl⟩ := first
  obtain ⟨secondMore, secondEq, rfl⟩ := second
  exact ⟨firstMore ++ secondMore, by rw [secondEq, firstEq, List.append_assoc],
    List.filter_append ..⟩

theorem filter_logged (entries : List LogEntry) :
    (entries.map Observation.logged).filter Observation.isOnWire = [] := by
  simp [Observation.isOnWire]

theorem Aside.shows (aside : Aside traffic next) : Shows traffic next [] := by
  obtain ⟨entries, logged⟩ := aside.logged
  exact ⟨_, logged, filter_logged entries⟩

theorem Aside.sameFlights (aside : Aside traffic next) :
    SameFlights traffic next := by
  intro index what since number request
  rw [stage?, aside.calls, stage?]

theorem Placed.shows (placed : Placed traffic next index call stage seen) :
    Shows traffic next (seen.filter Observation.isOnWire) := by
  obtain ⟨entries, logged⟩ := placed.seen
  refine ⟨seen ++ entries.map .logged, by rw [logged, List.append_assoc], ?_⟩
  rw [List.filter_append, filter_logged, List.append_nil]

theorem Placed.sameFlights {before : Call} {old : Stage}
    (placed : Placed traffic next index call stage seen)
    (found : traffic.calls[index]? = some ⟨before, old⟩)
    (oldRests : ∀ what since number request,
      old ≠ .inFlight what since number request)
    (rests : ∀ what since number request,
      stage ≠ .inFlight what since number request) :
    SameFlights traffic next := by
  intro other what since number request
  by_cases same : other = index
  · subst same
    rw [stage?_eq_of_found (placed.found found), stage?_eq_of_found found]
    simp [oldRests, rests]
  · rw [placed.stage?_other same]

end Traffic

namespace Scenario

namespace World

/-- A change of a world that shows nothing of the requests. -/
structure Unseen (world next : World) : Prop where
  client : next.client = world.client
  server : next.server = world.server
  now : next.traffic.now = world.traffic.now
  sent : next.traffic.sent = world.traffic.sent
  shows : world.traffic.Shows next.traffic []
  flights : world.traffic.SameFlights next.traffic

variable {world next last : World}

theorem Unseen.refl (world : World) : Unseen world world :=
  ⟨rfl, rfl, rfl, rfl, .refl _, fun _ _ _ _ _ => Iff.rfl⟩

theorem Unseen.trans (first : Unseen world next) (second : Unseen next last) :
    Unseen world last :=
  ⟨second.client.trans first.client, second.server.trans first.server,
    second.now.trans first.now, second.sent.trans first.sent,
    first.shows.trans second.shows, fun index what since number request =>
      (second.flights index what since number request).trans
        (first.flights index what since number request)⟩

theorem Calm.unseen (calm : Calm world next) : Unseen world next :=
  ⟨calm.client, calm.server, calm.traffic.now, calm.traffic.sent,
    calm.traffic.shows, calm.traffic.sameFlights⟩

theorem unseen_dispatch (world : World) (index : Nat) :
    Unseen world (world.dispatch index) := by
  unfold dispatch
  split <;> exact ⟨rfl, rfl, rfl, rfl, .refl _, fun _ _ _ _ _ => Iff.rfl⟩

theorem unseen_beginCall (world : World) (task : Nat) (call : Call) :
    Unseen world (world.beginCall task call) := by
  obtain ⟨what, calls, _⟩ := begin_calls world.client world.traffic call
  have begun : Unseen world { world with
      traffic := world.traffic.begin world.client call
      owners := world.owners ++ [task] } := by
    refine ⟨rfl, rfl, rfl, rfl, ⟨_, rfl, Traffic.filter_logged _⟩, ?_⟩
    intro index what since number request
    rw [Traffic.stage?, calls, Traffic.stage?]
    by_cases inside : index < world.traffic.calls.length
    · rw [List.getElem?_append_left inside]
    · rw [List.getElem?_append_right (Nat.le_of_not_lt inside),
        List.getElem?_eq_none (Nat.le_of_not_lt inside)]
      cases index - world.traffic.calls.length <;> simp
  exact begun.trans (unseen_dispatch _ _)

theorem Busy.unseen (busy : Busy world next) : Unseen world next := by
  induction busy with
  | refl => exact .refl world
  | calm _ calm ih => exact ih.trans calm.unseen
  | begun _ task call ih => exact ih.trans (unseen_beginCall _ task call)

/-- A call comes from one stage without a request on its way to another. -/
theorem unseen_of_placed {index : Nat} {call before : Call} {stage old : Stage}
    {traffic : Traffic} (client : next.client = world.client)
    (server : next.server = world.server) (same : next.traffic = traffic)
    (sent : traffic.sent = world.traffic.sent)
    (placed : Traffic.Placed world.traffic traffic index call stage [])
    (found : world.traffic.calls[index]? = some ⟨before, old⟩)
    (oldRests : ∀ what since number request,
      old ≠ .inFlight what since number request)
    (rests : ∀ what since number request,
      stage ≠ .inFlight what since number request) : Unseen world next := by
  subst same
  exact ⟨client, server, placed.now, sent, placed.shows,
    placed.sameFlights found oldRests rests⟩

end World

/-! ## The ledger -/

/-- What has become of a request: whether it is still with the transport, or when
and how it has ended. -/
inductive Fate (window : Nat) (reply : Reply) (number : Nat) (sending : Sending)
    (stage : Option Stage) : List (Nat × Closing) → Prop where
  | inFlight {what : Wait}
      (flying : stage =
        some (.inFlight what sending.moment number sending.request)) :
      Fate window reply number sending stage []
  | replied {delay : Nat}
      {result : Except Http.TransportFailure Http.Response}
      (due : reply.due? = some (delay, result)) (inTime : delay < window) :
      Fate window reply number sending stage
        [(sending.moment + delay, .ofResult result)]
  | cancelled (late : ∀ due ∈ reply.due?, window ≤ due.1) :
      Fate window reply number sending stage
        [(sending.moment + window, .cancelled)]

theorem Fate.imp {window number : Nat} {reply : Reply} {sending : Sending}
    {stage other : Option Stage} {closings : List (Nat × Closing)}
    (fate : Fate window reply number sending stage closings)
    (flies : ∀ what,
      stage = some (.inFlight what sending.moment number sending.request) →
        other = some (.inFlight what sending.moment number sending.request)) :
    Fate window reply number sending other closings := by
  cases fate with
  | inFlight flying => exact .inFlight (flies _ flying)
  | replied due inTime => exact .replied due inTime
  | cancelled late => exact .cancelled late

theorem Fate.ended {window number : Nat} {reply : Reply} {sending : Sending}
    {stage : Option Stage} {closings : List (Nat × Closing)}
    (fate : Fate window reply number sending stage closings)
    (landed : ∀ what since other request,
      stage ≠ some (.inFlight what since other request)) :
    ∃ closing, closings = [closing] := by
  cases fate with
  | inFlight flying => exact absurd flying (landed _ _ _ _)
  | replied | cancelled => exact ⟨_, rfl⟩

theorem Fate.once {window number : Nat} {reply : Reply} {sending : Sending}
    {stage : Option Stage} {closings : List (Nat × Closing)}
    {closing other : Nat × Closing}
    (fate : Fate window reply number sending stage closings)
    (closed : closing ∈ closings) (closedOther : other ∈ closings) :
    closing = other := by
  cases fate with
  | inFlight => cases closed
  | replied | cancelled =>
      exact (List.mem_singleton.mp closed).trans
        (List.mem_singleton.mp closedOther).symm

/-- The timeline accounts for every request: those that have been sent are
numbered in order, and each of them has its fate. -/
structure Ledger (window : Nat) (first : Server) (timeline : Timeline)
    (server : Server) (traffic : Traffic) : Prop where
  numbered : timeline.numbers = List.range traffic.sent
  server : server = first.after timeline.requests
  fates : ∀ number sending, timeline.sendings[number]? = some sending →
    ∃ reply, (first.replies timeline.requests)[number]? = some reply ∧
      Fate window reply number sending (traffic.stage? sending.call)
        (timeline.closings number)
  unsent : ∀ number, traffic.sent ≤ number → timeline.closings number = []
  flying : ∀ index what since number request,
    traffic.stage? index = some (.inFlight what since number request) →
      timeline.sendings[number]? = some ⟨since, index, request⟩ ∧
        timeline.closings number = []

namespace Ledger

open Timeline

variable {window : Nat} {first server : Server} {timeline : Timeline}
  {traffic next : Traffic} {index : Nat} {call : Call} {what : Wait}

theorem length (ledger : Ledger window first timeline server traffic) :
    timeline.sendings.length = traffic.sent := by
  rw [← length_numbers, ledger.numbered, List.length_range]

theorem unseen (ledger : Ledger window first timeline server traffic)
    (sent : next.sent = traffic.sent)
    (flights : traffic.SameFlights next) :
    Ledger window first timeline server next := by
  refine ⟨?_, ledger.server, ?_, ?_, ?_⟩
  · rw [ledger.numbered, sent]
  · intro number sending found
    obtain ⟨reply, replied, fate⟩ := ledger.fates number sending found
    exact ⟨reply, replied, fate.imp fun what => (flights _ _ _ _ _).mpr⟩
  · rw [sent]
    exact ledger.unsent
  · intro index what since number request reached
    exact ledger.flying index what since number request
      ((flights _ _ _ _ _).mp reached)

theorem launched {request : Http.Request}
    (ledger : Ledger window first timeline server traffic)
    (found : traffic.calls[index]? = some ⟨call, .asked what traffic.now⟩)
    (sent : next.sent = traffic.sent + 1)
    (placed : Traffic.Placed traffic next index call
      (.inFlight what traffic.now traffic.sent request)
      [.sent traffic.sent index request]) :
    Ledger window first
      (timeline ++ seenAt next.now [.sent traffic.sent index request])
      (server.reply request).1 next := by
  have newSending : sendings (seenAt next.now
      [.sent traffic.sent index request]) =
        [⟨traffic.now, index, request⟩] := by
    rw [placed.now]
    rfl
  have newNumber : numbers (seenAt next.now
      [.sent traffic.sent index request]) = [traffic.sent] := rfl
  have newRequest : requests (seenAt next.now
      [.sent traffic.sent index request]) = [request] := rfl
  have noClosing : ∀ number, closings (seenAt next.now
      [.sent traffic.sent index request]) number = [] := fun _ => rfl
  refine ⟨?_, ?_, ?_, ?_, ?_⟩
  · rw [numbers_append, newNumber, ledger.numbered, sent, List.range_succ]
  · rw [requests_append, newRequest, Server.after_concat, ← ledger.server]
  · intro number sending listed
    simp only [sendings_append, newSending, requests_append, newRequest,
      closings_append, noClosing, List.append_nil] at listed ⊢
    rw [Server.replies_concat]
    by_cases old : number < timeline.sendings.length
    · rw [List.getElem?_append_left old] at listed
      obtain ⟨reply, replied, fate⟩ := ledger.fates number sending listed
      have inside := (List.getElem?_eq_some_iff.mp replied).1
      refine ⟨reply, (List.getElem?_append_left inside).trans replied,
        fate.imp fun what flying => ?_⟩
      rw [placed.stage?_other, flying]
      intro same
      rw [same, Traffic.stage?_eq_of_found found] at flying
      cases flying
    · have last : number = traffic.sent := by
        have inside := (List.getElem?_eq_some_iff.mp listed).1
        rw [List.length_append, List.length_singleton] at inside
        have length := ledger.length
        omega
      subst last
      rw [← ledger.length, List.getElem?_concat_length] at listed
      cases listed
      have replies : (first.replies timeline.requests).length =
          traffic.sent := by
        rw [Server.length_replies, length_requests, ledger.length]
      refine ⟨((first.after timeline.requests).reply request).2, ?_, ?_⟩
      · rw [← replies]
        exact List.getElem?_concat_length
      · rw [ledger.unsent _ (Nat.le_refl _)]
        exact .inFlight (Traffic.stage?_eq_of_found (placed.found found))
  · intro number unsent
    rw [closings_append, noClosing, List.append_nil]
    exact ledger.unsent number (by omega)
  · intro other asked since number otherRequest flying
    rw [sendings_append, newSending, closings_append, noClosing,
      List.append_nil]
    by_cases same : other = index
    · subst same
      rw [Traffic.stage?_eq_of_found (placed.found found)] at flying
      cases flying
      refine ⟨?_, ledger.unsent _ (Nat.le_refl _)⟩
      rw [← ledger.length]
      exact List.getElem?_concat_length
    · rw [placed.stage?_other same] at flying
      obtain ⟨listed, open_⟩ := ledger.flying _ _ _ _ _ flying
      have inside := (List.getElem?_eq_some_iff.mp listed).1
      exact ⟨(List.getElem?_append_left inside).trans listed, open_⟩

/-- A request ends, and its end is the one that its reply calls for. -/
theorem closed {since number : Nat} {request : Http.Request} {ending : Ending}
    {closing : Closing}
    (ledger : Ledger window first timeline server traffic)
    (found : traffic.calls[index]? =
      some ⟨call, .inFlight what since number request⟩)
    (sent : next.sent = traffic.sent)
    (placed : Traffic.Placed traffic next index call (.ended what ending)
      [.closed number closing])
    (ends : ∀ reply, (first.replies timeline.requests)[number]? = some reply →
      Fate window reply number ⟨since, index, request⟩ none
        [(traffic.now, closing)]) :
    Ledger window first (timeline ++ seenAt next.now [.closed number closing])
      server next := by
  have noSending :
      sendings (seenAt next.now [.closed number closing]) = [] := rfl
  have noNumber : numbers (seenAt next.now [.closed number closing]) = [] := rfl
  have noRequest :
      requests (seenAt next.now [.closed number closing]) = [] := rfl
  have newClosing : ∀ other,
      closings (seenAt next.now [.closed number closing]) other =
        if number = other then [(traffic.now, closing)] else [] := by
    intro other
    by_cases same : number = other <;>
      simp [closings, seenAt, same, placed.now]
  have reached := Traffic.stage?_eq_of_found found
  obtain ⟨mine, open_⟩ := ledger.flying _ _ _ _ _ reached
  refine ⟨?_, ?_, ?_, ?_, ?_⟩
  · rw [numbers_append, noNumber, List.append_nil, ledger.numbered, sent]
  · rw [requests_append, noRequest, List.append_nil, ← ledger.server]
  · intro other sending listed
    simp only [sendings_append, noSending, requests_append, noRequest,
      closings_append, newClosing, List.append_nil] at listed ⊢
    obtain ⟨reply, replied, fate⟩ := ledger.fates other sending listed
    refine ⟨reply, replied, ?_⟩
    by_cases same : number = other
    · subst same
      cases mine.symm.trans listed
      rw [if_pos rfl, open_, List.nil_append]
      exact (ends reply replied).imp (by intro _ absent; cases absent)
    · rw [if_neg same, List.append_nil]
      refine fate.imp fun asked flying => ?_
      rw [placed.stage?_other, flying]
      intro here
      rw [here, reached] at flying
      cases flying
      exact same rfl
  · intro other unsent
    rw [closings_append, newClosing, ledger.unsent other (sent ▸ unsent)]
    have inside := (List.getElem?_eq_some_iff.mp mine).1
    rw [ledger.length] at inside
    rw [if_neg (by omega), List.nil_append]
  · intro other asked otherSince otherNumber otherRequest flying
    rw [sendings_append, noSending, List.append_nil, closings_append,
      newClosing]
    by_cases here : other = index
    · subst here
      rw [Traffic.stage?_eq_of_found (placed.found found)] at flying
      cases flying
    · rw [placed.stage?_other here] at flying
      obtain ⟨listed, otherOpen⟩ := ledger.flying _ _ _ _ _ flying
      refine ⟨listed, ?_⟩
      rw [otherOpen, if_neg, List.nil_append]
      rintro rfl
      cases mine.symm.trans listed
      exact here rfl

end Ledger

/-! ## Turns -/

namespace World

variable {world next : World} {first : Server} {timeline : Timeline}
  {replies : List Reply}

theorem shown_eq {seen : List Observation}
    (shows : world.traffic.Shows next.traffic seen) :
    world.shown next = .seenAt next.traffic.now seen := by
  obtain ⟨more, observations, rfl⟩ := shows
  rw [shown, observations, List.drop_left]

theorem Did.unseen {job : Job} {given : List Reply} {seen : List Observation}
    (did : Did world job given seen next) (silent : seen = []) :
    given = [] ∧ Unseen world next := by
  cases did with
  | tasks task busy => exact ⟨rfl, busy.unseen⟩
  | idle idle => exact ⟨rfl, .refl world⟩
  | unfit found positive sent placed =>
      exact ⟨rfl, unseen_of_placed rfl rfl rfl sent placed found (by simp)
        (by simp)⟩
  | windowless found closed sent placed =>
      exact ⟨rfl, unseen_of_placed rfl rfl rfl sent placed found (by simp)
        (by simp)⟩
  | noticed =>
      exact ⟨rfl, rfl, rfl, rfl, rfl, .refl _, fun _ _ _ _ _ => Iff.rfl⟩
  | again found resumed sent placed =>
      rename_i index call what after ending traffic cell
      have resumes : Unseen world { world.silence index with traffic } :=
        unseen_of_placed rfl rfl rfl sent placed found (by simp) (by simp)
      exact ⟨rfl, resumes.trans (unseen_dispatch _ index)⟩
  | returned found resumed sent placed busy finished =>
      rename_i index call what ending outcome traffic cell
      have resumes : Unseen world { world.silence index with traffic } :=
        unseen_of_placed rfl rfl rfl sent placed found (by simp) (by simp)
      exact ⟨rfl, resumes.trans busy.unseen⟩
  | lost lost =>
      exact ⟨rfl, rfl, rfl, rfl, rfl, .refl _, fun _ _ _ _ _ => Iff.rfl⟩
  | launched | closed => cases silent

/-- The timeline accounts for the requests of the world, and the agenda is in
order. -/
structure Accounted (first : Server) (timeline : Timeline) (world : World) :
    Prop where
  ledger : Ledger world.client.window first timeline world.server world.traffic
  scheduled : Scheduled (first.replies timeline.requests) none world

/-- What happens to a world is entered into the ledger. -/
structure Booked (first : Server) (timeline : Timeline) (world next : World)
    (given : List Reply) (seen : List Observation) : Prop where
  client : next.client = world.client
  shows : world.traffic.Shows next.traffic seen
  replies : first.replies
      (timeline ++ .seenAt next.traffic.now seen : Timeline).requests =
    first.replies timeline.requests ++ given
  ledger : Ledger world.client.window first
    (timeline ++ .seenAt next.traffic.now seen) next.server next.traffic

theorem Unseen.booked (unseen : Unseen world next)
    (ledger : Ledger world.client.window first timeline world.server
      world.traffic) :
    Booked first timeline world next [] [] := by
  refine ⟨unseen.client, unseen.shows, by simp [Timeline.seenAt], ?_⟩
  have ledger := ledger.unseen unseen.sent unseen.flights
  rw [unseen.server]
  simpa [Timeline.seenAt] using ledger

/-- A request that is launched is entered into the ledger, and its end as well
when it is replied to at once. -/
theorem booked_launched {index : Nat} {call : Call} {what : Wait}
    {request : Http.Request} {traffic : Traffic} {closed : List Observation}
    (ledger : Ledger world.client.window first timeline world.server
      world.traffic)
    (positive : 0 < world.client.window)
    (found : world.traffic.calls[index]? =
      some ⟨call, .asked what world.traffic.now⟩)
    (sent : traffic.sent = world.traffic.sent + 1)
    (placed : Traffic.Placed world.traffic traffic index call
      (.inFlight what world.traffic.now world.traffic.sent request)
      [.sent world.traffic.sent index request])
    (served : Served
      { world with traffic, server := (world.server.reply request).1 }
      index world.traffic.sent call what (world.server.reply request).2 closed
      next) :
    Booked first timeline world next [(world.server.reply request).2]
      (.sent world.traffic.sent index request :: closed) := by
  have launched := ledger.launched found sent placed
  have requests : (timeline ++ .seenAt traffic.now
      [.sent world.traffic.sent index request] : Timeline).requests =
        timeline.requests ++ [request] := by
    rw [Timeline.requests_append]
    rfl
  have given : first.replies (timeline ++ .seenAt traffic.now
      [.sent world.traffic.sent index request] : Timeline).requests =
        first.replies timeline.requests ++ [(world.server.reply request).2] := by
    rw [requests, Server.replies_concat, ← ledger.server]
  cases served with
  | silent silent => exact ⟨rfl, placed.shows, given, launched⟩
  | later due late => exact ⟨rfl, placed.shows, given, launched⟩
  | atOnce due sentAgain placedAgain reads =>
      rename_i after ending result
      have flying := placed.found found
      have now : after.now = traffic.now := placedAgain.now
      refine ⟨rfl, placed.shows.trans placedAgain.shows, ?_, ?_⟩
      · rw [← given, Timeline.requests_append, Timeline.requests_append]
        rfl
      · have ends := launched.closed flying sentAgain placedAgain (by
          intro reply replied
          rw [given, ← ledger.length, ← Timeline.length_requests,
            ← Server.length_replies, List.getElem?_concat_length] at replied
          cases replied
          rw [placed.now]
          exact .replied due positive)
        rwa [List.append_assoc, ← now] at ends

theorem Accounted.did {job : Job} {rest : List Job} {given : List Reply}
    {seen : List Observation} (accounted : Accounted first timeline world)
    (queued : world.ready = job :: rest)
    (did : Did { world with ready := rest } job given seen next) :
    Booked first timeline { world with ready := rest } next given seen := by
  have unseen := did.unseen
  cases did with
  | launched found positive sent placed served =>
      have asked := accounted.scheduled.asked
        (Traffic.stage?_eq_of_found found)
      subst asked
      exact booked_launched accounted.ledger (window_pos positive) found sent
        placed served
  | closed found closes sent placed =>
      rename_i index since number call what request ending closing traffic
      refine ⟨rfl, placed.shows, ?_, accounted.ledger.closed found sent placed ?_⟩
      · simp [Timeline.seenAt, Timeline.requests, Timeline.sendings]
      · intro reply replied
        obtain ⟨other, same, ends⟩ := accounted.scheduled.closes queued
          (Traffic.stage?_eq_of_found found) closes
        cases replied.symm.trans same
        rcases ends with ⟨delay, result, due, inTime, now, rfl, _⟩ |
          ⟨late, now, rfl, _⟩
        · rw [now]
          exact .replied due inTime
        · rw [now]
          exact .cancelled late
  | tasks | idle | unfit | windowless | noticed | again | returned | lost =>
      exact (unseen rfl).2.booked accounted.ledger

/-- Every turn is entered into the ledger, and keeps the agenda in order. -/
theorem Accounted.turn {given : List Reply} {seen : List Observation}
    (accounted : Accounted first timeline world)
    (turned : Turned world given seen next) :
    next.client = world.client ∧
      world.shown next = .seenAt next.traffic.now seen ∧
      Accounted first (timeline ++ .seenAt next.traffic.now seen) next := by
  have scheduled := accounted.scheduled.turned turned
  cases turned with
  | did queued did =>
      have booked := accounted.did queued did
      refine ⟨booked.client, shown_eq booked.shows, ?_, ?_⟩
      · rw [booked.client]
        exact booked.ledger
      · rw [booked.replies]
        exact scheduled
  | rang quiet moments patient =>
      have nothing : ∀ moment, Timeline.seenAt moment [] = [] := fun _ => rfl
      rw [nothing, List.append_nil]
      rw [List.append_nil] at scheduled
      have ledger := accounted.ledger
      exact ⟨rfl, shown_eq (.refl _), ⟨ledger.numbered, ledger.server,
        ledger.fates, ledger.unsent, ledger.flying⟩, scheduled⟩

/-- The replies to the requests that have been seen are those that the server has
given. -/
theorem Accounted.replies_turn {given : List Reply} {seen : List Observation}
    (accounted : Accounted first timeline world)
    (turned : Turned world given seen next) :
    first.replies
        (timeline ++ .seenAt next.traffic.now seen : Timeline).requests =
      first.replies timeline.requests ++ given := by
  cases turned with
  | did queued did => exact (accounted.did queued did).replies
  | rang => simp [Timeline.seenAt]

theorem later_succ_of_turn? (turned : world.turn? = some next) (turns : Nat) :
    world.later (turns + 1) = next.later turns := by
  rw [later, turned]

theorem later_succ_of_rest (rests : world.turn? = none) (turns : Nat) :
    world.later turns = world := by
  cases turns with
  | zero => rfl
  | succ turns => rw [later, rests]

theorem later_add (turns more : Nat) :
    world.later (turns + more) = (world.later turns).later more := by
  induction turns generalizing world with
  | zero => rw [Nat.zero_add, later]
  | succ turns ih =>
      cases turned : world.turn? with
      | none => simp only [later_succ_of_rest turned]
      | some next =>
          rw [Nat.succ_add, later_succ_of_turn? turned,
            later_succ_of_turn? turned, ih]

theorem timeline_add (turns more : Nat) :
    world.timeline (turns + more) =
      world.timeline turns ++ (world.later turns).timeline more := by
  induction turns generalizing world with
  | zero => simp [World.timeline, World.later]
  | succ turns ih =>
      cases turned : world.turn? with
      | none =>
          rw [later_succ_of_rest turned, Nat.succ_add]
          cases more <;> simp [World.timeline, turned]
      | some next =>
          rw [Nat.succ_add, later_succ_of_turn? turned]
          simp [World.timeline, turned, ih]

/-- What every turn keeps holds after any number of turns, with what they have
shown. -/
theorem Accounted.later_induction {Holds : Timeline → World → Prop}
    (accounted : Accounted first timeline world) (base : Holds timeline world)
    (keep : ∀ {timeline world given seen next},
      Accounted first timeline world → Turned world given seen next →
        Holds timeline world →
          Holds (timeline ++ .seenAt next.traffic.now seen) next)
    (turns : Nat) :
    Holds (timeline ++ world.timeline turns) (world.later turns) := by
  induction turns generalizing world timeline with
  | zero => simpa [World.timeline, World.later] using base
  | succ turns ih =>
      cases turned : world.turn? with
      | none =>
          rw [later_succ_of_rest turned, World.timeline, turned]
          simpa using base
      | some next =>
          obtain ⟨given, seen, turn⟩ := turned_of_turn? turned
          obtain ⟨_, shown, accountedNext⟩ := accounted.turn turn
          rw [later_succ_of_turn? turned, World.timeline, turned]
          simpa [shown, List.append_assoc] using
            ih accountedNext (keep accounted turn base)

theorem Accounted.later (accounted : Accounted first timeline world)
    (turns : Nat) :
    Accounted first (timeline ++ world.timeline turns) (world.later turns) ∧
      (world.later turns).client = world.client := by
  let Holds (timeline : Timeline) (other : World) : Prop :=
    Accounted first timeline other ∧ other.client = world.client
  refine accounted.later_induction
    (show Holds timeline world from ⟨accounted, rfl⟩) ?_ turns
  rintro timeline world given seen next - turned ⟨accounted, client⟩
  obtain ⟨same, _, accounted⟩ := accounted.turn turned
  exact ⟨accounted, same.trans client⟩

end World

theorem Session.accounted {session : Session} {world : World}
    (begins : session.world? = .ok world) :
    World.Accounted session.server [] world ∧
      world.client.settings = session.settings ∧ world.traffic.calls = [] := by
  unfold Session.world? at begins
  obtain ⟨cell, _, begins⟩ := Http.bind_eq_ok_iff.mp begins
  split at begins
  · cases begins
  · obtain ⟨client, made, begins⟩ := Http.bind_eq_ok_iff.mp begins
    cases begins
    refine ⟨⟨⟨rfl, rfl, ?_, fun _ _ => rfl, ?_⟩, rfl, ?_, ?_, ?_⟩,
      make?_settings (Http.mapError_eq_ok_iff.mp made), rfl⟩
    · intro number sending listed
      cases listed
    · intro index what since number request flying
      cases flying
    · intro entry member
      obtain rfl := List.mem_singleton.mp member
      exact ⟨Nat.le_refl _, fun _ replies => by cases replies⟩
    · intro alarm member
      cases member
    · intro index _
      exact .absent rfl

end Scenario

end AdminGate
