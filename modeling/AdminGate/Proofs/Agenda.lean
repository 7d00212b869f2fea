import AdminGate.Proofs.WorldSteps

/-!
# The agenda of a world

The agenda holds the jobs of the queue, which are due now, and after them the
alarms.  `Scheduled` says for each call what the agenda holds for it: a request
that is asked for is launched, or has no time; one that is with the transport has
its expiry and its reply ahead of it, and the expiry comes first when both are
due at once; one that has ended wakes its call.  What tasks do between two
requests keeps this.
-/

namespace AdminGate

open Scenario

/-- The alarm with which the reply to a request comes. -/
def Reply.alarm? (index since number : Nat) (reply : Reply) :
    Option (Nat × Job) :=
  reply.due?.map fun due => (since + due.1, .ofResult index number due.2)

namespace Scenario

/-- The job wakes a call whose request has ended. -/
def Job.wakes : Job → Bool
  | .notice _ | .resume _ => true
  | _ => false

/-- The job replies to the request with a number. -/
def Job.repliesTo (number : Nat) : Job → Bool
  | .answer _ other _ | .fail _ other _ => other == number
  | _ => false

/-- The job is one for which an alarm can be set by a call. -/
def Job.rings : Job → Bool
  | .answer .. | .fail .. | .expire _ => true
  | _ => false

@[simp] theorem Job.call?_ofResult (index number : Nat)
    (result : Except Http.TransportFailure Http.Response) :
    (Job.ofResult index number result).call? = some index := by
  cases result <;> rfl

@[simp] theorem Job.wakes_ofResult (index number : Nat)
    (result : Except Http.TransportFailure Http.Response) :
    (Job.ofResult index number result).wakes = false := by
  cases result <;> rfl

@[simp] theorem Job.repliesTo_ofResult (index number other : Nat)
    (result : Except Http.TransportFailure Http.Response) :
    (Job.ofResult index number result).repliesTo other = (number == other) := by
  cases result <;> rfl

@[simp] theorem Job.rings_ofResult (index number : Nat)
    (result : Except Http.TransportFailure Http.Response) :
    (Job.ofResult index number result).rings = true := by
  cases result <;> rfl

@[simp] theorem Job.launch_ne_ofResult (call index number : Nat)
    (result : Except Http.TransportFailure Http.Response) :
    Job.launch call ≠ .ofResult index number result := by
  cases result <;> simp [ofResult]

@[simp] theorem Job.expire_ne_ofResult (call index number : Nat)
    (result : Except Http.TransportFailure Http.Response) :
    Job.expire call ≠ .ofResult index number result := by
  cases result <;> simp [ofResult]

theorem Job.call?_of_isExpiryOf {index : Nat} {job : Job}
    (expires : job.isExpiryOf index = true) : job.call? = some index := by
  cases job <;> simp_all [isExpiryOf, call?]

/-- The entries of an agenda that are about a call. -/
def entriesFor (index : Nat) (agenda : List (Nat × Job)) : List (Nat × Job) :=
  agenda.filter fun entry => entry.2.call? == some index

theorem entriesFor_eq_self_of_other {index : Nat} {entry : Nat × Job}
    {agenda : List (Nat × Job)} (other : entry.2.call? ≠ some index) :
    entriesFor index (entry :: agenda) = entriesFor index agenda := by
  simp [entriesFor, other]

theorem entriesFor_eq_nil {index : Nat} {entries : List (Nat × Job)}
    (others : ∀ entry ∈ entries, entry.2.call? ≠ some index) :
    entriesFor index entries = [] := by
  simpa [entriesFor] using others

theorem entriesFor_append (index : Nat) (first second : List (Nat × Job)) :
    entriesFor index (first ++ second) =
      entriesFor index first ++ entriesFor index second :=
  List.filter_append ..

theorem entriesFor_eq_self {index : Nat} {entries : List (Nat × Job)}
    (about : ∀ entry ∈ entries, entry.2.call? = some index) :
    entriesFor index entries = entries := by
  simpa [entriesFor] using about

/-- How often the entries of an agenda wake a call. -/
def wakeups (entries : List (Nat × Job)) : Nat :=
  entries.countP fun entry => entry.2.wakes

/-- What is ahead of a request that is with the transport. -/
structure Pending (window index since number : Nat) (reply : Reply)
    (entries : List (Nat × Job)) : Prop where
  expires : (since + window, .expire index) ∈ entries
  replied : ∀ entry ∈ reply.alarm? index since number, entry ∈ entries
  only : ∀ entry ∈ entries, entry.2.repliesTo number = true →
    reply.alarm? index since number = some entry
  /-- A reply that is ahead of the expiry comes earlier. -/
  inOrder : entries.Pairwise fun earlier later =>
    earlier.2.repliesTo number = true →
      later = (since + window, .expire index) → earlier.1 < later.1

/-- What the agenda holds for a call at a stage. -/
inductive Attended (client : Client) (replies : List Reply) (now index : Nat)
    (entries : List (Nat × Job)) : Option Stage → Prop where
  | absent (asleep : wakeups entries = 0) :
      Attended client replies now index entries none
  | asked {what : Wait} (asleep : wakeups entries = 0)
      (open_ : 0 < client.settings.timeoutMs →
        (now, .launch index) ∈ entries ∧
          (now + client.window, .expire index) ∈ entries)
      (closed : client.settings.timeoutMs ≤ 0 →
        (now, .expire index) ∈ entries) :
      Attended client replies now index entries (some (.asked what now))
  | inFlight {what : Wait} {since number : Nat} {request : Http.Request}
      {reply : Reply} (asleep : wakeups entries = 0) (started : since ≤ now)
      (positive : 0 < client.settings.timeoutMs)
      (replied : replies[number]? = some reply)
      (pending : Pending client.window index since number reply entries) :
      Attended client replies now index entries
        (some (.inFlight what since number request))
  | ended {what : Wait} {ending : Ending} (woken : wakeups entries = 1) :
      Attended client replies now index entries (some (.ended what ending))
  | done {outcome : Outcome} (asleep : wakeups entries = 0) :
      Attended client replies now index entries (some (.done outcome))

variable {client : Client} {replies : List Reply} {now index : Nat}
  {entries : List (Nat × Job)} {stage : Option Stage}

theorem Attended.mono (attended : Attended client replies now index entries stage)
    (given : List Reply) :
    Attended client (replies ++ given) now index entries stage := by
  cases attended with
  | absent asleep => exact .absent asleep
  | asked asleep open_ closed => exact .asked asleep open_ closed
  | inFlight asleep started positive replied pending =>
      have inside := (List.getElem?_eq_some_iff.mp replied).1
      exact .inFlight asleep started positive
        ((List.getElem?_append_left inside).trans replied) pending
  | ended woken => exact .ended woken
  | done asleep => exact .done asleep

theorem Attended.asleep (attended : Attended client replies now index entries stage)
    (running : ∀ what ending, stage ≠ some (.ended what ending)) :
    wakeups entries = 0 := by
  cases attended with
  | absent asleep | asked asleep | inFlight asleep | done asleep => exact asleep
  | ended woken => exact absurd rfl (running _ _)

theorem wakeups_cons (entry : Nat × Job) (entries : List (Nat × Job)) :
    wakeups (entry :: entries) =
      wakeups entries + if entry.2.wakes = true then 1 else 0 :=
  List.countP_cons

theorem window_pos {client : Client} (positive : 0 < client.settings.timeoutMs) :
    0 < client.window := by
  unfold Client.window
  omega

/-- A pending request is still so when a job that is neither its expiry nor its
reply is taken out of the queue. -/
theorem Pending.drop {window since number : Nat} {reply : Reply}
    {entry : Nat × Job}
    (pending : Pending window index since number reply (entry :: entries))
    (notExpiry : entry ≠ (since + window, .expire index))
    (notReply : reply.alarm? index since number ≠ some entry) :
    Pending window index since number reply entries := by
  refine ⟨?_, ?_, ?_, pending.inOrder.of_cons⟩
  · exact (List.mem_cons.mp pending.expires).resolve_left (Ne.symm notExpiry)
  · intro alarm replied
    refine (List.mem_cons.mp (pending.replied alarm replied)).resolve_left ?_
    rintro rfl
    exact notReply replied
  · exact fun other member => pending.only other (List.mem_cons_of_mem _ member)

theorem alarm?_ne {since number : Nat} {reply : Reply} {job : Job}
    (other : ∀ result, job ≠ .ofResult index number result) :
    reply.alarm? index since number ≠ some (now, job) := by
  intro same
  obtain ⟨⟨delay, result⟩, _, same⟩ := Option.map_eq_some_iff.mp same
  cases same
  exact other result rfl

theorem Attended.of_woken
    (attended : Attended client replies now index entries stage)
    (woken : wakeups entries ≠ 0) :
    wakeups entries = 1 ∧ ∃ what ending, stage = some (.ended what ending) := by
  cases attended with
  | absent asleep | asked asleep | inFlight asleep | done asleep =>
      exact absurd asleep woken
  | ended once => exact ⟨once, _, _, rfl⟩

/-- When no reply to it is on the agenda yet, a request is pending as soon as its
reply has been added. -/
theorem Pending.of_unknown {window since number : Nat} {reply : Reply}
    (expires : (since + window, .expire index) ∈ entries)
    (unknown : ∀ entry ∈ entries, entry.2.repliesTo number = false) :
    Pending window index since number reply
      (entries ++ (reply.alarm? index since number).toList) := by
  refine ⟨List.mem_append_left _ expires, ?_, ?_, ?_⟩
  · exact fun alarm replied =>
      List.mem_append_right _ (Option.mem_toList.mpr replied)
  · intro entry member replies
    rcases List.mem_append.mp member with member | member
    · rw [unknown entry member] at replies
      cases replies
    · exact Option.mem_toList.mp member
  · rw [List.pairwise_append]
    refine ⟨?_, ?_, ?_⟩
    · refine List.pairwise_of_forall_mem_list fun entry member _ _ replies => ?_
      rw [unknown entry member] at replies
      cases replies
    · cases reply.alarm? index since number <;> simp
    · intro entry member _ _ replies
      rw [unknown entry member] at replies
      cases replies

/-- A job that comes to nothing may go: what its call needs is still there. -/
theorem Attended.drop {traffic : Traffic} {job : Job}
    (idle : World.Idle client traffic job) (about : job.call? = some index)
    (attended : Attended client replies traffic.now index
      ((traffic.now, job) :: entries) (traffic.stage? index)) :
    Attended client replies traffic.now index entries
      (traffic.stage? index) := by
  have sleeps : job.wakes = false := by
    cases idle <;> first | rfl | exact Job.wakes_ofResult ..
  have fewer : wakeups ((traffic.now, job) :: entries) = wakeups entries := by
    rw [wakeups_cons, sleeps]
    rfl
  generalize reached : traffic.stage? index = stage at attended
  cases attended with
  | absent asleep => exact .absent (fewer ▸ asleep)
  | done asleep => exact .done (fewer ▸ asleep)
  | ended woken => exact .ended (fewer ▸ woken)
  | asked asleep open_ closed =>
      refine .asked (fewer ▸ asleep) ?_ ?_
      · intro positive
        obtain ⟨launches, expires⟩ := open_ positive
        have later := window_pos positive
        cases idle with
        | launch unasked =>
            cases about
            exact absurd reached (unasked positive _ _)
        | reply => exact ⟨by simpa using launches, by simpa using expires⟩
        | expire =>
            refine ⟨by simpa using launches, ?_⟩
            simpa [Nat.ne_of_gt later] using expires
      · intro none
        have expires := closed none
        cases idle with
        | launch | reply => simpa using expires
        | expire unasked =>
            cases about
            exact absurd reached (unasked none _ _)
  | inFlight asleep started positive replied pending =>
      rename_i what since number request reply
      refine .inFlight (fewer ▸ asleep) started positive replied
        (pending.drop ?_ ?_)
      · intro same
        cases idle with
        | launch => simp at same
        | reply =>
            exact Job.expire_ne_ofResult _ _ _ _ (congrArg Prod.snd same).symm
        | expire _ early =>
            cases about
            have soon := early _ _ _ _ reached
            simp only [Prod.mk.injEq, and_true] at same
            omega
      · apply alarm?_ne
        intro result same
        cases idle with
        | launch | expire => simp at same
        | reply unawaited =>
            rename_i other otherNumber otherResult
            have sameNumber : otherNumber = number := by
              have counts := Job.repliesTo_ofResult index number number result
              rw [← same] at counts
              simpa using counts
            rw [Job.call?_ofResult] at about
            cases about
            subst sameNumber
            exact unawaited _ _ _ reached

namespace World

/-- The jobs that are due now, and the alarms. -/
def agenda (world : World) : List (Nat × Job) :=
  world.ready.map (fun job => (world.traffic.now, job)) ++ world.alarms

/-- An entry of the agenda at a moment, when so many requests have been sent. -/
structure Timely (now sent : Nat) (entry : Nat × Job) : Prop where
  due : now ≤ entry.1
  known : ∀ number, entry.2.repliesTo number = true → number < sent

/-- The agenda is in order for all calls, but perhaps for one. -/
structure Scheduled (replies : List Reply) (besides : Option Nat)
    (world : World) : Prop where
  counted : replies.length = world.traffic.sent
  timely : ∀ entry ∈ world.agenda, Timely world.traffic.now world.traffic.sent entry
  rings : ∀ alarm ∈ world.alarms, alarm.2.call? ≠ none →
    0 < world.client.settings.timeoutMs ∧ alarm.2.rings = true
  attended : ∀ index, some index ≠ besides →
    Attended world.client replies world.traffic.now index
      (entriesFor index world.agenda) (world.traffic.stage? index)

variable {world next : World} {besides : Option Nat}

theorem agenda_eq_cons {job : Job} {rest : List Job}
    (queued : world.ready = job :: rest) :
    world.agenda =
      (world.traffic.now, job) ::
        ({ world with ready := rest } : World).agenda := by
  simp [agenda, queued]

/-- Taking a job out of the queue changes nothing for the calls that it is not
about. -/
theorem Scheduled.take {job : Job} {rest : List Job}
    (scheduled : Scheduled replies none world)
    (queued : world.ready = job :: rest) :
    Scheduled replies job.call? { world with ready := rest } := by
  have agenda := agenda_eq_cons queued
  refine ⟨scheduled.counted, ?_, scheduled.rings, ?_⟩
  · intro entry member
    exact scheduled.timely entry (agenda ▸ List.mem_cons_of_mem _ member)
  · intro index other
    have attended := scheduled.attended index (by simp)
    rwa [agenda, entriesFor_eq_self_of_other (Ne.symm other)] at attended

theorem Scheduled.beside (scheduled : Scheduled replies none world)
    (besides : Option Nat) : Scheduled replies besides world :=
  ⟨scheduled.counted, scheduled.timely, scheduled.rings,
    fun index _ => scheduled.attended index (by simp)⟩

/-! ## What a change adds to the agenda -/

/-- A change of the world that is about one call: some replies are given, some
alarms of the call are taken back, and some jobs of it are added. -/
structure Reworked (index : Nat) (given : List Reply) (world next : World) :
    Prop where
  client : next.client = world.client
  now : next.traffic.now = world.traffic.now
  sent : next.traffic.sent = world.traffic.sent + given.length
  stages : ∀ other, other ≠ index →
    next.traffic.stage? other = world.traffic.stage? other
  ready : ∃ jobs, next.ready = world.ready ++ jobs ∧
    ∀ job ∈ jobs, job.call? = some index ∧
      ∀ number, job.repliesTo number = true → number < next.traffic.sent
  alarms : ∃ keeps alarms, next.alarms = world.alarms.filter keeps ++ alarms ∧
    (∀ alarm, alarm.2.call? ≠ some index → keeps alarm = true) ∧
    ∀ alarm ∈ alarms, alarm.2.call? = some index ∧
      0 < world.client.settings.timeoutMs ∧ alarm.2.rings = true ∧
        Timely world.traffic.now next.traffic.sent alarm

theorem Timely.mono {now sent more : Nat} {entry : Nat × Job}
    (timely : Timely now sent entry) (le : sent ≤ more) :
    Timely now more entry :=
  ⟨timely.due, fun number replies =>
    Nat.lt_of_lt_of_le (timely.known number replies) le⟩

theorem Reworked.entriesFor_other {index other : Nat} {given : List Reply}
    (reworked : Reworked index given world next) (ne : other ≠ index) :
    entriesFor other next.agenda = entriesFor other world.agenda := by
  obtain ⟨jobs, ready, aboutJobs⟩ := reworked.ready
  obtain ⟨keeps, alarms, set, kept, aboutAlarms⟩ := reworked.alarms
  have noJobs : entriesFor other
      (jobs.map fun job => (world.traffic.now, job)) = [] := by
    apply entriesFor_eq_nil
    intro entry member
    obtain ⟨job, added, rfl⟩ := List.mem_map.mp member
    rw [(aboutJobs job added).1]
    simpa using Ne.symm ne
  have noAlarms : entriesFor other alarms = [] := by
    apply entriesFor_eq_nil
    intro alarm member
    rw [(aboutAlarms alarm member).1]
    simpa using Ne.symm ne
  have sameAlarms : entriesFor other (world.alarms.filter keeps) =
      entriesFor other world.alarms := by
    unfold entriesFor
    rw [List.filter_filter]
    refine List.filter_congr fun alarm _ => ?_
    by_cases mine : alarm.2.call? = some other
    · rw [kept alarm (by rw [mine]; simpa using ne)]
      simp
    · simp [mine]
  rw [agenda, ready, set, reworked.now, List.map_append]
  simp only [entriesFor_append, noJobs, noAlarms, sameAlarms, List.append_nil,
    agenda]

/-- A change that is about one call keeps the agenda in order for the others. -/
theorem Scheduled.rework {index : Nat} {given : List Reply}
    (scheduled : Scheduled replies (some index) world)
    (reworked : Reworked index given world next) :
    Scheduled (replies ++ given) (some index) next := by
  obtain ⟨jobs, ready, aboutJobs⟩ := reworked.ready
  obtain ⟨keeps, alarms, set, kept, aboutAlarms⟩ := reworked.alarms
  have more : world.traffic.sent ≤ next.traffic.sent := by
    rw [reworked.sent]
    exact Nat.le_add_right _ _
  refine ⟨?_, ?_, ?_, ?_⟩
  · rw [List.length_append, scheduled.counted, reworked.sent]
  · intro entry member
    rw [reworked.now]
    rw [agenda, ready, set, reworked.now, List.map_append] at member
    simp only [List.mem_append] at member
    rcases member with (member | member) | member | member
    · exact (scheduled.timely entry (List.mem_append_left _ member)).mono more
    · obtain ⟨job, added, rfl⟩ := List.mem_map.mp member
      exact ⟨Nat.le_refl _, (aboutJobs job added).2⟩
    · exact (scheduled.timely entry (List.mem_append_right _
        (List.mem_filter.mp member).1)).mono more
    · exact (aboutAlarms entry member).2.2.2
  · intro alarm member concerned
    rw [reworked.client]
    rw [set] at member
    rcases List.mem_append.mp member with member | member
    · exact scheduled.rings alarm (List.mem_filter.mp member).1 concerned
    · exact ⟨(aboutAlarms alarm member).2.1, (aboutAlarms alarm member).2.2.1⟩
  · intro other ne
    have other : other ≠ index := by simpa using ne
    rw [reworked.client, reworked.now, reworked.entriesFor_other other,
      reworked.stages _ other]
    exact (scheduled.attended _ ne).mono given

theorem Scheduled.complete {index : Nat}
    (scheduled : Scheduled replies (some index) world)
    (attended : Attended world.client replies world.traffic.now index
      (entriesFor index world.agenda) (world.traffic.stage? index)) :
    Scheduled replies none world := by
  refine ⟨scheduled.counted, scheduled.timely, scheduled.rings, ?_⟩
  intro other _
  by_cases same : other = index
  · subst same
    exact attended
  · exact scheduled.attended other (by simpa using same)

/-! ## What tasks do -/

theorem Scheduled.calm (scheduled : Scheduled replies besides world)
    (calm : Calm world next) : Scheduled replies besides next := by
  obtain ⟨jobs, ready, tasks⟩ := calm.ready
  obtain ⟨alarms, set, later⟩ := calm.alarms
  have noJobs : ∀ index, entriesFor index
      (jobs.map fun job => (world.traffic.now, job)) = [] := by
    intro index
    apply entriesFor_eq_nil
    intro entry member
    obtain ⟨job, added, rfl⟩ := List.mem_map.mp member
    simp [tasks job added]
  have noAlarms : ∀ index, entriesFor index alarms = [] := by
    intro index
    apply entriesFor_eq_nil
    intro alarm member
    simp [(later alarm member).2]
  have silent : ∀ job : Job, job.call? = none → ∀ number,
      job.repliesTo number = true → number < world.traffic.sent := by
    intro job task number replies
    cases job <;> simp [Job.call?, Job.repliesTo] at task replies
  refine ⟨?_, ?_, ?_, ?_⟩
  · rw [scheduled.counted, calm.traffic.sent]
  · intro entry member
    rw [calm.traffic.now, calm.traffic.sent]
    rw [agenda, ready, set, calm.traffic.now, List.map_append] at member
    simp only [List.mem_append] at member
    rcases member with (member | member) | member | member
    · exact scheduled.timely entry (List.mem_append_left _ member)
    · obtain ⟨job, added, rfl⟩ := List.mem_map.mp member
      exact ⟨Nat.le_refl _, silent job (tasks job added)⟩
    · exact scheduled.timely entry (List.mem_append_right _ member)
    · exact ⟨(later entry member).1, silent _ (later entry member).2⟩
  · intro alarm member concerned
    rw [calm.client]
    rw [set] at member
    rcases List.mem_append.mp member with member | member
    · exact scheduled.rings alarm member concerned
    · exact absurd (later alarm member).2 concerned
  · intro index other
    have same : entriesFor index next.agenda = entriesFor index world.agenda := by
      rw [agenda, ready, set, calm.traffic.now, List.map_append]
      simp only [entriesFor_append, noJobs, noAlarms, List.append_nil, agenda]
    have stage : next.traffic.stage? index = world.traffic.stage? index := by
      rw [Traffic.stage?, calm.traffic.calls, Traffic.stage?]
    rw [calm.client, calm.traffic.now, same, stage]
    exact scheduled.attended index other

theorem append_eq_filter_append (alarms more : List (Nat × Job)) :
    alarms ++ more = alarms.filter (fun _ => true) ++ more := by
  rw [List.filter_eq_self.mpr fun _ _ => rfl]

/-- What is put on its way adds its launch and its expiry to the agenda, or its
expiry alone when there is no time. -/
theorem reworked_dispatch (world : World) (index : Nat) :
    Reworked index [] world (world.dispatch index) := by
  unfold dispatch
  split
  · refine ⟨rfl, rfl, rfl, fun _ _ => rfl,
      ⟨[.expire index], rfl, by simp [Job.call?, Job.repliesTo]⟩,
      ⟨fun _ => true, [], ?_, by simp, by simp⟩⟩
    rw [← append_eq_filter_append, List.append_nil]
    rfl
  · rename_i open_
    refine ⟨rfl, rfl, rfl, fun _ _ => rfl,
      ⟨[.launch index], rfl, by simp [Job.call?, Job.repliesTo]⟩,
      ⟨fun _ => true, [(world.traffic.now + world.client.window,
        .expire index)], ?_, by simp, ?_⟩⟩
    · rw [← append_eq_filter_append]
      rfl
    · intro alarm member
      rw [List.mem_singleton.mp member]
      exact ⟨rfl, Int.not_le.mp open_, rfl, Nat.le_add_right _ _, by
        simp [Job.repliesTo]⟩

theorem dispatch_traffic (world : World) (index : Nat) :
    (world.dispatch index).traffic = world.traffic := by
  unfold dispatch
  split <;> rfl

theorem attended_dispatch (replies : List Reply) (world : World) {index : Nat}
    (what : Wait)
    (asleep : wakeups (entriesFor index world.agenda) = 0) :
    Attended world.client replies world.traffic.now index
      (entriesFor index (world.dispatch index).agenda)
      (some (.asked what world.traffic.now)) := by
  unfold dispatch
  unfold wakeups agenda entriesFor at asleep
  split
  · rename_i closed
    refine .asked ?_ (fun open_ => absurd closed (Int.not_le.mpr open_)) ?_
    · simpa [wakeups, entriesFor, agenda, enqueue, Job.call?, Job.wakes,
        List.filter_append] using asleep
    · intro _
      simp [entriesFor, agenda, enqueue, Job.call?]
  · rename_i open_
    refine .asked ?_ ?_ (fun closed => absurd closed open_)
    · simpa [wakeups, entriesFor, agenda, enqueue, alarm, Job.call?, Job.wakes,
        List.filter_append] using asleep
    · intro _
      simp [entriesFor, agenda, enqueue, alarm, Job.call?]

theorem begin_calls (client : Client) (traffic : Traffic) (call : Call) :
    ∃ what, (Traffic.begin client traffic call).calls =
        traffic.calls ++ [⟨call, .asked what traffic.now⟩] ∧
      call.Attempted client.settings traffic.jar traffic.cell .first
        (Traffic.begin client traffic call).cell what := by
  have taken : Traffic.step client traffic (.begin call) =
    some (Traffic.begin client traffic call) := rfl
  cases Traffic.step_stepped taken with
  | begun attempted jar calls => exact ⟨_, calls, attempted⟩
  | moved mover found step calls => cases step

theorem Scheduled.begun (scheduled : Scheduled replies none world) (task : Nat)
    (call : Call) : Scheduled replies none (world.beginCall task call) := by
  obtain ⟨what, calls, _⟩ := begin_calls world.client world.traffic call
  have absent : world.traffic.stage? world.traffic.calls.length = none := by
    simp [Traffic.stage?]
  have asleep := (scheduled.attended world.traffic.calls.length (by simp)).asleep
    (by simp [absent])
  have begun : Reworked world.traffic.calls.length [] world
      (world.beginCall task call) := by
    have dispatched := reworked_dispatch
      { world with
        traffic := world.traffic.begin world.client call
        owners := world.owners ++ [task] } world.traffic.calls.length
    refine ⟨dispatched.client, dispatched.now, dispatched.sent, ?_,
      dispatched.ready, dispatched.alarms⟩
    intro other ne
    rw [beginCall, dispatched.stages other ne, Traffic.stage?, calls]
    by_cases inside : other < world.traffic.calls.length
    · rw [List.getElem?_append_left inside, Traffic.stage?]
    · rw [Traffic.stage?, List.getElem?_eq_none (by simp; omega),
        List.getElem?_eq_none (by omega)]
  have reached : (world.beginCall task call).traffic.stage?
      world.traffic.calls.length = some (.asked what world.traffic.now) := by
    rw [beginCall, dispatch_traffic, Traffic.stage?, calls,
      List.getElem?_concat_length]
    rfl
  have reworked := (scheduled.beside _).rework begun
  rw [List.append_nil] at reworked
  refine reworked.complete ?_
  rw [reached, begun.client, begun.now]
  exact attended_dispatch replies
    { world with
      traffic := world.traffic.begin world.client call
      owners := world.owners ++ [task] } what asleep

theorem Scheduled.busy (scheduled : Scheduled replies none world)
    (busy : Busy world next) : Scheduled replies none next := by
  induction busy with
  | refl => exact scheduled
  | calm _ calm ih => exact ih.calm calm
  | begun _ task call ih => exact ih.begun task call

end World

end Scenario

end AdminGate
