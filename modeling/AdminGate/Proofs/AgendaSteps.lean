import AdminGate.Proofs.Agenda

/-!
# What jobs and time do to the agenda

Every job keeps the agenda in order, and so does the ringing of alarms.  With this
`Scheduled` says what the agenda knows of a request: it ends with its reply when
that comes before its time is up, and else when its time is up.
-/

namespace AdminGate

open Scenario

namespace Scenario

variable {client : Client} {replies : List Reply} {now index : Nat}

namespace World

variable {world next : World} {besides : Option Nat}

/-! ## What jobs do -/

/-- A job that is taken out of the queue is the first entry for its call. -/
theorem entriesFor_taken {index : Nat} {job : Job} {rest : List Job}
    (queued : world.ready = job :: rest) (about : job.call? = some index) :
    entriesFor index world.agenda = (world.traffic.now, job) ::
      entriesFor index ({ world with ready := rest } : World).agenda := by
  rw [agenda_eq_cons queued]
  simp [entriesFor, about]

theorem Scheduled.idle {job : Job} {rest : List Job}
    (scheduled : Scheduled replies none world)
    (queued : world.ready = job :: rest)
    (idle : Idle world.client world.traffic job) :
    Scheduled replies none { world with ready := rest } := by
  have taken := scheduled.take queued
  refine ⟨taken.counted, taken.timely, taken.rings, ?_⟩
  intro index _
  by_cases about : job.call? = some index
  · have attended := scheduled.attended index (by simp)
    rw [entriesFor_taken queued about] at attended
    exact attended.drop idle about
  · exact taken.attended index (Ne.symm about)

/-- A call that is not waiting to be woken has nothing that wakes it, whatever is
taken out of the queue. -/
theorem Scheduled.asleep {job : Job} {rest : List Job}
    (scheduled : Scheduled replies none world)
    (queued : world.ready = job :: rest) {index : Nat}
    (running : ∀ what ending,
      world.traffic.stage? index ≠ some (.ended what ending)) :
    wakeups (entriesFor index
      ({ world with ready := rest } : World).agenda) = 0 := by
  have asleep := (scheduled.attended index (by simp)).asleep running
  rw [agenda_eq_cons queued, entriesFor, List.filter_cons] at asleep
  split at asleep
  · rw [wakeups_cons] at asleep
    exact Nat.eq_zero_of_add_eq_zero_right asleep
  · exact asleep

theorem agenda_congr (ready : next.ready = world.ready)
    (alarms : next.alarms = world.alarms)
    (now : next.traffic.now = world.traffic.now) :
    next.agenda = world.agenda := by
  rw [agenda, ready, alarms, now, agenda]

theorem wakeups_enqueue (world : World) (index : Nat) (job : Job) :
    wakeups (entriesFor index (world.enqueue job).agenda) =
      wakeups (entriesFor index world.agenda) +
        wakeups (entriesFor index [(world.traffic.now, job)]) := by
  simp only [agenda, enqueue, List.map_append, entriesFor_append, wakeups,
    List.countP_append, List.map_cons, List.map_nil]
  omega

theorem Scheduled.notice {index : Nat} {given : List Reply}
    {what : Wait} {ending : Ending} {server : Server} {traffic : Traffic}
    (scheduled : Scheduled replies (some index) world)
    (asleep : wakeups (entriesFor index world.agenda) = 0)
    (sent : traffic.sent = world.traffic.sent + given.length)
    (now : traffic.now = world.traffic.now)
    (stages : ∀ other, other ≠ index →
      traffic.stage? other = world.traffic.stage? other)
    (reached : traffic.stage? index = some (.ended what ending)) :
    Scheduled (replies ++ given) none
      (({ world with traffic, server } : World).enqueue (.notice index)) := by
  have reworked : Reworked index given world
      (({ world with traffic, server } : World).enqueue (.notice index)) := by
    refine ⟨rfl, now, sent, stages,
      ⟨[.notice index], rfl, by simp [Job.call?, Job.repliesTo]⟩,
      ⟨fun _ => true, [], ?_, by simp, by simp⟩⟩
    rw [← append_eq_filter_append, List.append_nil]
    rfl
  have same : ({ world with traffic, server } : World).agenda = world.agenda :=
    agenda_congr rfl rfl now
  have woken : wakeups (entriesFor index
      (({ world with traffic, server } : World).enqueue
        (.notice index)).agenda) = 1 := by
    rw [wakeups_enqueue, same, asleep]
    simp [entriesFor, wakeups, Job.call?, Job.wakes]
  refine (scheduled.rework reworked).complete ?_
  rw [show (({ world with traffic, server } : World).enqueue
    (.notice index)).traffic.stage? index = _ from reached]
  exact .ended woken

/-- The world in which a request has been launched and its reply is on its
way. -/
def launched (world : World) (index : Nat) (traffic : Traffic) (server : Server)
    (reply : Reply) : World :=
  { world with
    traffic
    server
    alarms := world.alarms ++ (reply.alarm? index world.traffic.now
      world.traffic.sent).toList }

theorem eq_of_mem_alarm? {index since number : Nat} {reply : Reply}
    {alarm : Nat × Job}
    (member : alarm ∈ (reply.alarm? index since number).toList) :
    ∃ delay result,
      alarm = (since + delay, Job.ofResult index number result) := by
  obtain ⟨⟨delay, result⟩, _, rfl⟩ :=
    Option.map_eq_some_iff.mp (Option.mem_toList.mp member)
  exact ⟨delay, result, rfl⟩

theorem entriesFor_launched {index : Nat} {server : Server} {traffic : Traffic}
    (reply : Reply) (now : traffic.now = world.traffic.now) :
    entriesFor index (world.launched index traffic server reply).agenda =
      entriesFor index world.agenda ++ (reply.alarm? index world.traffic.now
        world.traffic.sent).toList := by
  have mine : entriesFor index (reply.alarm? index world.traffic.now
      world.traffic.sent).toList = (reply.alarm? index world.traffic.now
      world.traffic.sent).toList := by
    apply entriesFor_eq_self
    intro alarm member
    obtain ⟨delay, result, rfl⟩ := eq_of_mem_alarm? member
    exact Job.call?_ofResult ..
  simp only [launched, agenda, now, ← List.append_assoc, entriesFor_append, mine]

theorem Scheduled.launch {index : Nat} {what : Wait} {request : Http.Request}
    {traffic : Traffic} (scheduled : Scheduled replies (some index) world)
    (server : Server) (reply : Reply)
    (asleep : wakeups (entriesFor index world.agenda) = 0)
    (positive : 0 < world.client.settings.timeoutMs)
    (expires : (world.traffic.now + world.client.window, Job.expire index) ∈
      entriesFor index world.agenda)
    (sent : traffic.sent = world.traffic.sent + 1)
    (now : traffic.now = world.traffic.now)
    (stages : ∀ other, other ≠ index →
      traffic.stage? other = world.traffic.stage? other)
    (reached : traffic.stage? index =
      some (.inFlight what world.traffic.now world.traffic.sent request)) :
    Scheduled (replies ++ [reply]) none
      (world.launched index traffic server reply) := by
  have reworked : Reworked index [reply] world
      (world.launched index traffic server reply) := by
    refine ⟨rfl, now, sent, stages, ⟨[], (List.append_nil _).symm, by simp⟩,
      ⟨fun _ => true, _, append_eq_filter_append _ _, by simp, ?_⟩⟩
    intro alarm member
    obtain ⟨delay, result, rfl⟩ := eq_of_mem_alarm? member
    refine ⟨Job.call?_ofResult .., positive, Job.rings_ofResult ..,
      Nat.le_add_right _ _, ?_⟩
    intro number replies
    have same : world.traffic.sent = number := by simpa using replies
    rw [show (world.launched index traffic server reply).traffic.sent = _
      from sent, same]
    exact Nat.lt_succ_self number
  have unknown : ∀ entry ∈ entriesFor index world.agenda,
      entry.2.repliesTo world.traffic.sent = false := by
    intro entry member
    have known :=
      (scheduled.timely entry (List.mem_filter.mp member).1).known
        world.traffic.sent
    simpa using known
  refine (scheduled.rework reworked).complete ?_
  rw [entriesFor_launched reply now, reworked.client, reworked.now,
    show (world.launched index traffic server reply).traffic.stage? index = _
      from reached]
  refine .inFlight ?_ (Nat.le_refl _) positive ?_
    (.of_unknown expires unknown)
  · rw [wakeups, List.countP_append, ← wakeups, asleep, Nat.zero_add,
      List.countP_eq_zero]
    intro alarm member
    obtain ⟨delay, result, rfl⟩ := eq_of_mem_alarm? member
    simp
  · rw [← scheduled.counted]
    exact List.getElem?_concat_length

theorem Scheduled.woken {job : Job} {rest : List Job} {index : Nat}
    (scheduled : Scheduled replies none world)
    (queued : world.ready = job :: rest) (about : job.call? = some index)
    (wakes : job.wakes = true) :
    wakeups (entriesFor index
        ({ world with ready := rest } : World).agenda) = 0 ∧
      ∃ what ending,
        world.traffic.stage? index = some (.ended what ending) := by
  have attended := scheduled.attended index (by simp)
  have counted := wakeups_cons (world.traffic.now, job)
    (entriesFor index ({ world with ready := rest } : World).agenda)
  rw [entriesFor_taken queued about] at attended
  rw [if_pos wakes] at counted
  obtain ⟨once, ended⟩ := Attended.of_woken attended (by omega)
  exact ⟨by omega, ended⟩

theorem reworked_silence {index : Nat} {call : Call} {stage : Stage}
    {seen : List Observation} {traffic : Traffic}
    (sent : traffic.sent = world.traffic.sent)
    (placed : Traffic.Placed world.traffic traffic index call stage seen) :
    Reworked index [] world { world.silence index with traffic } := by
  refine ⟨rfl, placed.now, sent, fun other => placed.stage?_other,
    ⟨[], (List.append_nil _).symm, by simp⟩,
    ⟨fun alarm => !alarm.2.isExpiryOf index, [], (List.append_nil _).symm, ?_,
      by simp⟩⟩
  intro alarm other
  cases mine : alarm.2.isExpiryOf index with
  | false => simp [mine]
  | true => exact absurd (Job.call?_of_isExpiryOf mine) other

theorem wakeups_silence (index : Nat) {traffic : Traffic}
    (now : traffic.now = world.traffic.now)
    (asleep : wakeups (entriesFor index world.agenda) = 0) :
    wakeups (entriesFor index
      ({ world.silence index with traffic } : World).agenda) = 0 := by
  refine Nat.le_zero.mp (Nat.le_trans (List.Sublist.countP_le ?_)
    (Nat.le_of_eq asleep))
  refine List.Sublist.filter _ ?_
  simp only [agenda, silence, now]
  exact (List.Sublist.refl _).append List.filter_sublist

theorem Closes.late {client : Client} {traffic : Traffic}
    {index since number : Nat} {job : Job} {closing : Closing} {ending : Ending}
    (closes : Closes client traffic index since number job closing ending)
    (late : closing.TimedOut) : ending.TimedOut := by
  cases closes with
  | replied reads => exact reads.late late
  | expired => exact .inl rfl

theorem Closes.call?_eq {client : Client} {traffic : Traffic}
    {index since number : Nat} {job : Job} {closing : Closing} {ending : Ending}
    (closes : Closes client traffic index since number job closing ending) :
    job.call? = some index := by
  cases closes with
  | replied result => exact Job.call?_ofResult ..
  | expired late => rfl

theorem Scheduled.ended {job : Job} {rest : List Job} {index : Nat} {call : Call}
    {old : Stage} {what : Wait} {ending : Ending} {traffic : Traffic}
    {seen : List Observation} (scheduled : Scheduled replies none world)
    (queued : world.ready = job :: rest) (about : job.call? = some index)
    (found : world.traffic.calls[index]? = some ⟨call, old⟩)
    (running : ∀ what ending, old ≠ .ended what ending)
    (sent : traffic.sent = world.traffic.sent)
    (placed : Traffic.Placed world.traffic traffic index call
      (.ended what ending) seen) :
    Scheduled (replies ++ []) none
      (({ world with ready := rest, traffic } : World).enqueue
        (.notice index)) := by
  have taken := scheduled.take queued
  rw [about] at taken
  refine taken.notice (scheduled.asleep queued ?_) sent placed.now
    (fun _ => placed.stage?_other)
    (Traffic.stage?_eq_of_found (placed.found found))
  simpa [Traffic.stage?_eq_of_found found] using running

/-- A request is handed to the transport, and perhaps replied to at once. -/
theorem Scheduled.handed {rest : List Job} {index since : Nat} {call : Call}
    {what : Wait} {request : Http.Request} {traffic : Traffic}
    {closed : List Observation} (scheduled : Scheduled replies none world)
    (queued : world.ready = .launch index :: rest)
    (found : world.traffic.calls[index]? = some ⟨call, .asked what since⟩)
    (positive : 0 < world.client.settings.timeoutMs)
    (sent : traffic.sent = world.traffic.sent + 1)
    (placed : Traffic.Placed world.traffic traffic index call
      (.inFlight what since world.traffic.sent request)
      [.sent world.traffic.sent index request])
    (served : Served
      { world with
        ready := rest, traffic, server := (world.server.reply request).1 }
      index world.traffic.sent call what (world.server.reply request).2 closed
      next) :
    Scheduled (replies ++ [(world.server.reply request).2]) none next := by
  have taken := scheduled.take queued
  have reached := Traffic.stage?_eq_of_found found
  have asleep : wakeups (entriesFor index
      ({ world with ready := rest } : World).agenda) = 0 :=
    scheduled.asleep queued (by simp [reached])
  have others : ∀ other, other ≠ index →
      traffic.stage? other = world.traffic.stage? other :=
    fun other => placed.stage?_other
  have flying := Traffic.stage?_eq_of_found (placed.found found)
  obtain ⟨rfl, expires⟩ : since = world.traffic.now ∧
      (world.traffic.now + world.client.window, Job.expire index) ∈
        entriesFor index ({ world with ready := rest } : World).agenda := by
    have attended := scheduled.attended index (by simp)
    rw [entriesFor_taken queued rfl, reached] at attended
    cases attended with
    | asked _ open_ => exact ⟨rfl, by simpa using (open_ positive).2⟩
  have launched := taken.launch (world.server.reply request).1
    (world.server.reply request).2 asleep positive expires sent placed.now
    others flying
  cases served with
  | silent silent =>
      simpa [World.launched, Reply.alarm?, silent] using launched
  | later due late =>
      simpa [World.launched, Reply.alarm?, due, placed.now, alarm] using launched
  | atOnce due sentAgain placedAgain =>
      refine taken.notice asleep (sentAgain.trans sent)
        (placedAgain.now.trans placed.now) ?_
        (Traffic.stage?_eq_of_found (placedAgain.found (placed.found found)))
      intro other ne
      exact (placedAgain.stage?_other ne).trans (others other ne)

/-- The end of a request is noticed, and its call is to go on. -/
theorem Scheduled.noticed {rest : List Job} {index : Nat}
    (scheduled : Scheduled replies none world)
    (queued : world.ready = .notice index :: rest) :
    Scheduled (replies ++ []) none
      (({ world with ready := rest } : World).enqueue (.resume index)) := by
  obtain ⟨asleep, what, ending, reached⟩ := scheduled.woken queued rfl rfl
  have reworked : Reworked index [] { world with ready := rest }
      (({ world with ready := rest } : World).enqueue (.resume index)) := by
    refine ⟨rfl, rfl, rfl, fun _ _ => rfl,
      ⟨[.resume index], rfl, by simp [Job.call?, Job.repliesTo]⟩,
      ⟨fun _ => true, [], ?_, by simp, by simp⟩⟩
    rw [← append_eq_filter_append, List.append_nil]
    rfl
  refine ((scheduled.take queued).rework reworked).complete ?_
  rw [show (({ world with ready := rest } : World).enqueue
    (.resume index)).traffic.stage? index = _ from reached]
  refine .ended ?_
  rw [wakeups_enqueue, asleep]
  simp [entriesFor, wakeups, Job.call?, Job.wakes]

theorem Scheduled.did {job : Job} {rest : List Job} {given : List Reply}
    {seen : List Observation} (scheduled : Scheduled replies none world)
    (queued : world.ready = job :: rest)
    (did : Did { world with ready := rest } job given seen next) :
    Scheduled (replies ++ given) none next := by
  have taken := scheduled.take queued
  cases did with
  | tasks task busy =>
      rw [task] at taken
      rw [List.append_nil]
      exact taken.busy busy
  | idle idle =>
      rw [List.append_nil]
      exact scheduled.idle queued idle
  | unfit found positive sent placed =>
      exact scheduled.ended queued rfl found nofun sent placed
  | windowless found closed sent placed =>
      exact scheduled.ended queued rfl found nofun sent placed
  | closed found closes sent placed =>
      exact scheduled.ended queued closes.call?_eq found nofun sent placed
  | launched found positive sent placed served =>
      exact scheduled.handed queued found positive sent placed served
  | noticed => exact scheduled.noticed queued
  | again found resumed sent placed =>
      rename_i index call what after ending traffic cell
      have asleep := (scheduled.woken queued rfl rfl).1
      have silenced := taken.rework (reworked_silence sent placed)
      have dispatched := silenced.rework (reworked_dispatch _ index)
      rw [List.append_nil] at dispatched
      refine dispatched.complete ?_
      have reached := Traffic.stage?_eq_of_found (placed.found found)
      rw [← placed.now] at reached
      rw [(reworked_dispatch _ index).client, dispatch_traffic, reached]
      exact attended_dispatch (replies ++ [])
        { ({ world with ready := rest } : World).silence index with traffic }
        after (wakeups_silence index placed.now asleep)
  | returned found resumed sent placed busy finished =>
      rename_i index call what ending outcome traffic cell
      have asleep := (scheduled.woken queued rfl rfl).1
      have silenced := taken.rework (reworked_silence sent placed)
      refine (silenced.complete ?_).busy busy
      rw [show ({ ({ world with ready := rest } : World).silence index with
          traffic } : World).traffic.stage? index = _ from
        Traffic.stage?_eq_of_found (placed.found found)]
      exact .done (wakeups_silence index placed.now asleep)
  | lost lost =>
      obtain ⟨_, what, ending, reached⟩ := scheduled.woken queued rfl rfl
      exact absurd reached (lost what ending)

end World

/-! ## The passing of time -/

/-- The entries that are due at a moment come first. -/
def dueFirst (moment : Nat) (entries : List (Nat × Job)) : List (Nat × Job) :=
  entries.filter (·.1 == moment) ++ entries.filter (!·.1 == moment)

theorem dueFirst_perm (moment : Nat) (entries : List (Nat × Job)) :
    (dueFirst moment entries).Perm entries :=
  List.filter_append_perm _ entries

theorem entriesFor_dueFirst (index moment : Nat) (entries : List (Nat × Job)) :
    entriesFor index (dueFirst moment entries) =
      dueFirst moment (entriesFor index entries) := by
  simp only [dueFirst, entriesFor_append]
  simp only [entriesFor, List.filter_filter, Bool.and_comm]

/-- When the entries of the next moment become due, the order in which a reply
and an expiry come stays as it is. -/
theorem Pending.dueFirst {window since number moment : Nat} {reply : Reply}
    (pending : Pending window index since number reply entries)
    (next : ∀ entry ∈ entries, moment ≤ entry.1) :
    Pending window index since number reply (dueFirst moment entries) := by
  have perm := dueFirst_perm moment entries
  refine ⟨perm.mem_iff.mpr pending.expires, ?_, ?_, ?_⟩
  · exact fun alarm replied => perm.mem_iff.mpr (pending.replied alarm replied)
  · exact fun entry member => pending.only entry (perm.mem_iff.mp member)
  · refine List.pairwise_append.mpr
      ⟨pending.inOrder.filter _, pending.inOrder.filter _, ?_⟩
    intro first due second later _ _
    obtain ⟨_, due⟩ := List.mem_filter.mp due
    obtain ⟨member, later⟩ := List.mem_filter.mp later
    have := next second member
    simp only [beq_iff_eq, Bool.not_eq_true', beq_eq_false_iff_ne] at due later
    omega

theorem isPatient_of_stage? {traffic : Traffic} {moment : Nat}
    {stage : Stage}
    (patient : traffic.calls.all (OpenCall.isPatient client moment) = true)
    (reached : traffic.stage? index = some stage) :
    (∃ what since number request,
        stage = .inFlight what since number request ∧
          moment ≤ since + client.window) ∨
      ∃ outcome, stage = .done outcome := by
  obtain ⟨call, found⟩ := Traffic.exists_found_of_stage? reached
  have patient := List.all_eq_true.mp patient _ (List.mem_of_getElem? found)
  cases stage with
  | asked | ended => simp [OpenCall.isPatient] at patient
  | inFlight what since number request =>
      exact .inl ⟨what, since, number, request, rfl, by
        simpa [OpenCall.isPatient] using patient⟩
  | done outcome => exact .inr ⟨outcome, rfl⟩

theorem Attended.ring {traffic : Traffic} {moment : Nat}
    (attended : Attended client replies now index entries
      (traffic.stage? index))
    (patient : traffic.calls.all (OpenCall.isPatient client moment) = true)
    (later : now ≤ moment) (least : ∀ entry ∈ entries, moment ≤ entry.1) :
    Attended client replies moment index (dueFirst moment entries)
      (traffic.stage? index) := by
  have counted : wakeups (dueFirst moment entries) = wakeups entries :=
    (dueFirst_perm moment entries).countP_eq _
  cases reached : traffic.stage? index with
  | none =>
      refine .absent (counted.trans (attended.asleep ?_))
      simp [reached]
  | some stage =>
      rcases isPatient_of_stage? patient reached with
        ⟨what, since, number, request, rfl, _⟩ | ⟨outcome, rfl⟩
      · rw [reached] at attended
        cases attended with
        | inFlight asleep started positive replied pending =>
            exact .inFlight (counted.trans asleep)
              (Nat.le_trans started later) positive replied
              (pending.dueFirst least)
      · refine .done (counted.trans (attended.asleep ?_))
        simp [reached]

namespace World

variable {world next : World}

theorem Scheduled.next_moment {moment : Nat}
    (scheduled : Scheduled replies none world)
    (moments : world.nextMoment? = some moment) :
    world.traffic.now ≤ moment ∧ ∀ alarm ∈ world.alarms, moment ≤ alarm.1 := by
  obtain ⟨member, least⟩ := List.min?_eq_some_iff.mp moments
  obtain ⟨alarm, inside, rfl⟩ := List.mem_map.mp member
  refine ⟨(scheduled.timely alarm (List.mem_append_right _ inside)).due, ?_⟩
  exact fun other otherInside => least _ (List.mem_map_of_mem otherInside)

theorem agenda_rung {moment : Nat} (quiet : world.ready = [])
    (later : world.traffic.now ≤ moment) :
    (world.rung moment).agenda = dueFirst moment world.agenda := by
  have due : ((world.alarms.filter (·.1 == moment)).map (·.2)).map
      (fun job => (moment, job)) = world.alarms.filter (·.1 == moment) := by
    rw [List.map_map]
    refine (List.map_congr_left fun alarm member => ?_).trans (List.map_id _)
    have rings := (List.mem_filter.mp member).2
    rw [← eq_of_beq rings]
    rfl
  simp [agenda, rung, quiet, Nat.add_sub_of_le later, due, dueFirst]

theorem Scheduled.ring {moment : Nat}
    (scheduled : Scheduled replies none world) (quiet : world.ready = [])
    (moments : world.nextMoment? = some moment)
    (patient : world.traffic.calls.all (OpenCall.isPatient world.client
      (world.rung moment).traffic.now) = true) :
    Scheduled replies none (world.rung moment) := by
  obtain ⟨later, least⟩ := scheduled.next_moment moments
  have now : (world.rung moment).traffic.now = moment :=
    Nat.add_sub_of_le later
  have before : world.agenda = world.alarms := by simp [agenda, quiet]
  have after := agenda_rung quiet later
  rw [now] at patient
  refine ⟨scheduled.counted, ?_, ?_, ?_⟩
  · rw [after, now]
    intro entry member
    have inside := (dueFirst_perm moment world.agenda).mem_iff.mp member
    exact ⟨least entry (before ▸ inside), (scheduled.timely entry inside).known⟩
  · exact fun alarm member =>
      scheduled.rings alarm (List.mem_filter.mp member).1
  · intro index _
    rw [after, entriesFor_dueFirst, now]
    refine (scheduled.attended index (by simp)).ring patient later ?_
    intro entry member
    exact least entry (before ▸ (List.mem_filter.mp member).1)

/-! ## What the agenda says about a request -/

theorem Scheduled.asked {index since : Nat} {what : Wait}
    (scheduled : Scheduled replies none world)
    (reached : world.traffic.stage? index = some (.asked what since)) :
    since = world.traffic.now := by
  have attended := scheduled.attended index (by simp)
  rw [reached] at attended
  cases attended with
  | asked => rfl

theorem Scheduled.inFlight {index since number : Nat} {what : Wait}
    {request : Http.Request} (scheduled : Scheduled replies none world)
    (reached : world.traffic.stage? index =
      some (.inFlight what since number request)) :
    since ≤ world.traffic.now ∧ 0 < world.client.settings.timeoutMs ∧
      ∃ reply, replies[number]? = some reply ∧
        Pending world.client.window index since number reply
          (entriesFor index world.agenda) := by
  have attended := scheduled.attended index (by simp)
  rw [reached] at attended
  cases attended with
  | inFlight _ started positive replied pending =>
      exact ⟨started, positive, _, replied, pending⟩

/-- A request is with the transport no longer than until its time is up or its
reply is due. -/
theorem Scheduled.not_late {index since number : Nat} {reply : Reply}
    (scheduled : Scheduled replies none world)
    (pending : Pending world.client.window index since number reply
      (entriesFor index world.agenda)) :
    world.traffic.now ≤ since + world.client.window ∧
      ∀ due ∈ reply.due?, world.traffic.now ≤ since + due.1 := by
  have timely : ∀ entry ∈ entriesFor index world.agenda,
      world.traffic.now ≤ entry.1 :=
    fun entry member => (scheduled.timely entry (List.mem_filter.mp member).1).due
  refine ⟨timely _ pending.expires, ?_⟩
  intro due replied
  have mine : reply.alarm? index since number =
      some (since + due.1, .ofResult index number due.2) :=
    Option.map_eq_some_iff.mpr ⟨due, replied, rfl⟩
  exact timely _ (pending.replied _ mine)

/-- A request ends with its reply, when that comes before its time is up, and else
when its time is up. -/
theorem Scheduled.closes {index since number : Nat} {what : Wait}
    {request : Http.Request} {job : Job} {rest : List Job} {closing : Closing}
    {ending : Ending}
    (scheduled : Scheduled replies none world)
    (queued : world.ready = job :: rest)
    (reached : world.traffic.stage? index =
      some (.inFlight what since number request))
    (closes : Closes world.client world.traffic index since number job closing
      ending) :
    ∃ reply, replies[number]? = some reply ∧
      ((∃ delay result, reply.due? = some (delay, result) ∧
          delay < world.client.window ∧
          world.traffic.now = since + delay ∧ closing = .ofResult result ∧
          Ending.OfResult result ending) ∨
        ((∀ due ∈ reply.due?, world.client.window ≤ due.1) ∧
          world.traffic.now = since + world.client.window ∧
          closing = .cancelled ∧ ending = .expired)) := by
  obtain ⟨_, _, reply, replied, pending⟩ := scheduled.inFlight reached
  refine ⟨reply, replied, ?_⟩
  obtain ⟨inTime, punctual⟩ := scheduled.not_late pending
  have entries := entriesFor_taken queued closes.call?_eq
  cases closes with
  | replied reads =>
      rename_i result
      have first : (world.traffic.now, Job.ofResult index number result) ∈
          entriesFor index world.agenda := by
        rw [entries]
        exact List.mem_cons_self
      have mine := pending.only _ first (by simp)
      obtain ⟨⟨delay, other⟩, due, same⟩ := Option.map_eq_some_iff.mp mine
      have now : since + delay = world.traffic.now := congrArg Prod.fst same
      have job : Job.ofResult index number other = .ofResult index number result :=
        congrArg Prod.snd same
      have result : other = result := by
        cases other <;> cases result <;> simp_all [Job.ofResult]
      subst result
      -- the expiry stands behind the reply, so the reply comes earlier
      have behind := pending.expires
      have ordered := pending.inOrder
      rw [entries] at behind ordered
      have behind := (List.mem_cons.mp behind).resolve_left (by
        intro same
        exact Job.expire_ne_ofResult _ _ _ _ (congrArg Prod.snd same))
      have earlier := List.rel_of_pairwise_cons ordered behind (by simp) rfl
      simp only at earlier
      exact .inl ⟨delay, other, due, by omega, now.symm, rfl, reads⟩
  | expired late =>
      have now : world.traffic.now = since + world.client.window :=
        Nat.le_antisymm inTime late
      refine .inr ⟨?_, now, rfl, rfl⟩
      intro due replied
      have := punctual due replied
      omega

theorem Scheduled.asleep_of_quiet (scheduled : Scheduled replies none world)
    (quiet : world.ready = []) (index : Nat) :
    wakeups (entriesFor index world.agenda) = 0 ∧
      ∀ entry ∈ entriesFor index world.agenda,
        0 < world.client.settings.timeoutMs ∧ entry.2.rings = true := by
  have rings : ∀ entry ∈ entriesFor index world.agenda,
      0 < world.client.settings.timeoutMs ∧ entry.2.rings = true := by
    intro entry member
    obtain ⟨inside, about⟩ := List.mem_filter.mp member
    rw [agenda, quiet, List.map_nil, List.nil_append] at inside
    refine scheduled.rings entry inside fun none => ?_
    rw [none] at about
    cases about
  refine ⟨List.countP_eq_zero.mpr fun entry member wakes => ?_, rings⟩
  have rings := (rings entry member).2
  revert wakes rings
  cases entry.2 <;> simp [Job.wakes, Job.rings]

/-- When nothing is due, every call lets time pass until the next alarm. -/
theorem Scheduled.patient {moment : Nat}
    (scheduled : Scheduled replies none world) (quiet : world.ready = [])
    (least : ∀ alarm ∈ world.alarms, moment ≤ alarm.1) :
    world.traffic.calls.all (OpenCall.isPatient world.client moment) =
      true := by
  refine List.all_eq_true.mpr fun ⟨call, stage⟩ member => ?_
  obtain ⟨index, found⟩ := List.mem_iff_getElem?.mp member
  have attended := scheduled.attended index (by simp)
  rw [Traffic.stage?_eq_of_found found] at attended
  obtain ⟨asleep, rings⟩ := scheduled.asleep_of_quiet quiet index
  cases attended with
  | asked _ open_ closed =>
      exfalso
      by_cases positive : 0 < world.client.settings.timeoutMs
      · cases (rings _ (open_ positive).1).2
      · exact positive (rings _ (closed (Int.not_lt.mp positive))).1
  | inFlight _ _ _ _ pending =>
      have inside := (List.mem_filter.mp pending.expires).1
      rw [agenda, quiet, List.map_nil, List.nil_append] at inside
      simpa [OpenCall.isPatient] using least _ inside
  | ended woken => omega
  | done => rfl

/-- A world takes a turn as long as there is something on its agenda. -/
theorem Scheduled.agenda_eq_nil (scheduled : Scheduled replies none world)
    (rests : world.turn? = none) : world.agenda = [] := by
  unfold turn? at rests
  split at rests
  · cases rests
  · rename_i quiet
    rw [agenda, quiet, List.map_nil, List.nil_append]
    cases moments : world.nextMoment? with
    | none => simpa [nextMoment?] using moments
    | some moment =>
        obtain ⟨later, least⟩ := scheduled.next_moment moments
        have patient := scheduled.patient quiet least
        rw [← Nat.add_sub_of_le later] at patient
        have passes : world.traffic.step world.client
            (.pass (moment - world.traffic.now)) =
              some { world.traffic with
                now := world.traffic.now + (moment - world.traffic.now) } := by
          rw [Traffic.step, Traffic.pass, if_pos patient]
        simp [moments, passes] at rests

/-- When a world takes no more turns, all of its calls are done. -/
theorem Scheduled.settled {index : Nat} {stage : Stage}
    (scheduled : Scheduled replies none world) (rests : world.turn? = none)
    (reached : world.traffic.stage? index = some stage) :
    ∃ outcome, stage = .done outcome := by
  have nothing := scheduled.agenda_eq_nil rests
  have attended := scheduled.attended index (by simp)
  rw [reached, nothing] at attended
  cases attended with
  | asked _ open_ closed =>
      by_cases positive : 0 < world.client.settings.timeoutMs
      · cases (open_ positive).1
      · cases closed (Int.not_lt.mp positive)
  | inFlight _ _ _ _ pending => cases pending.expires
  | ended woken => cases woken
  | done => exact ⟨_, rfl⟩

theorem Scheduled.turned {given : List Reply} {seen : List Observation}
    (scheduled : Scheduled replies none world)
    (turned : Turned world given seen next) :
    Scheduled (replies ++ given) none next := by
  cases turned with
  | did queued did => exact scheduled.did queued did
  | rang quiet moments patient =>
      rw [List.append_nil]
      exact scheduled.ring quiet moments patient

end World

end Scenario

end AdminGate
