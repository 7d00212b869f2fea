import AdminGate.Proofs.WorkloadSteps

/-!
# The windows of the requests of a session

Every request of a session has one window of time.  `Goes` lists what a turn can
do to one call, so the windows that a call may still need only become fewer.
`Session.windowed` puts this together with the ledger: each call has at most one
request with the transport, every request ends once and in its window, and no call
lasts longer than its windows.
-/

namespace AdminGate

namespace Scenario

/-- What a turn from one moment to another can do to a call. -/
inductive Goes (client : Client) (call : Call) (now later : Nat) :
    Stage → Stage → Prop where
  | waits {stage : Stage} (same : later = now) :
      Goes client call now later stage stage
  | flies {what : Wait} {since number : Nat} {request : Http.Request}
      (inTime : later ≤ since + client.window) :
      Goes client call now later (.inFlight what since number request)
        (.inFlight what since number request)
  | rests {outcome : Outcome} :
      Goes client call now later (.done outcome) (.done outcome)
  | launched {what : Wait} {number : Nat} {request : Http.Request}
      (same : later = now) (positive : 0 < client.settings.timeoutMs) :
      Goes client call now later (.asked what now)
        (.inFlight what now number request)
  | spent {what : Wait} {ending : Ending} (same : later = now)
      (windowless : client.settings.timeoutMs ≤ 0 → ending = .expired) :
      Goes client call now later (.asked what now) (.ended what ending)
  | closed {what : Wait} {since number : Nat} {request : Http.Request}
      {ending : Ending} (same : later = now)
      (inTime : now ≤ since + client.window) :
      Goes client call now later (.inFlight what since number request)
        (.ended what ending)
  | goesOn {what : Wait} {ending : Ending} {next : Next} (same : later = now)
      (goesOn : call.GoesOn client.settings what ending next) :
      Goes client call now later (.ended what ending)
        (Traffic.stageOf now next)

namespace World

variable {world next : World} {first : Server} {timeline : Timeline}
  {given : List Reply} {seen : List Observation} {index : Nat} {call : Call}
  {stage : Stage}

theorem Busy.found {entry : OpenCall} (busy : Busy world next)
    (found : world.traffic.calls[index]? = some entry) :
    next.traffic.calls[index]? = some entry := by
  induction busy with
  | refl => exact found
  | calm _ calm ih => rw [calm.traffic.calls, ih]
  | begun busy task call ih =>
      rename_i next
      obtain ⟨what, calls, _⟩ := begin_calls next.client next.traffic call
      rw [beginCall, dispatch_traffic, calls,
        List.getElem?_append_left (List.getElem?_eq_some_iff.mp ih).1, ih]

theorem goes_of_set {acting : Nat} {caller : Call} {old new : Stage}
    {traffic : Traffic}
    (calls : traffic.calls = world.traffic.calls.set acting ⟨caller, new⟩)
    (acted : world.traffic.calls[acting]? = some ⟨caller, old⟩)
    (now : traffic.now = world.traffic.now)
    (goes : Goes world.client caller world.traffic.now traffic.now old new)
    (found : world.traffic.calls[index]? = some ⟨call, stage⟩) :
    ∃ after, traffic.calls[index]? = some ⟨call, after⟩ ∧
      Goes world.client call world.traffic.now traffic.now stage after := by
  rw [calls]
  by_cases here : acting = index
  · subst here
    cases acted.symm.trans found
    rw [List.getElem?_set_self (List.getElem?_eq_some_iff.mp found).1]
    exact ⟨new, rfl, goes⟩
  · rw [List.getElem?_set_ne here]
    exact ⟨stage, found, .waits now⟩

theorem Turned.goes (accounted : Accounted first timeline world)
    (turned : Turned world given seen next)
    (found : world.traffic.calls[index]? = some ⟨call, stage⟩) :
    ∃ after, next.traffic.calls[index]? = some ⟨call, after⟩ ∧
      Goes world.client call world.traffic.now next.traffic.now stage after := by
  have scheduled := accounted.scheduled
  cases turned with
  | did queued did =>
      cases did with
      | tasks task busy =>
          exact ⟨stage, busy.found found, .waits busy.unseen.now⟩
      | idle idle => exact ⟨stage, found, .waits rfl⟩
      | noticed => exact ⟨stage, found, .waits rfl⟩
      | lost lost => exact ⟨stage, found, .waits rfl⟩
      | unfit asked positive sent placed =>
          have since := scheduled.asked (Traffic.stage?_eq_of_found asked)
          subst since
          exact goes_of_set placed.calls asked placed.now (.spent placed.now
            fun closed => absurd positive (Int.not_lt.mpr closed)) found
      | launched asked positive sent placed served =>
          have since := scheduled.asked (Traffic.stage?_eq_of_found asked)
          subst since
          cases served with
          | silent silent =>
              exact goes_of_set placed.calls asked placed.now
                (.launched placed.now positive) found
          | later due late =>
              exact goes_of_set placed.calls asked placed.now
                (.launched placed.now positive) found
          | atOnce due sentAgain placedAgain =>
              have now := placedAgain.now.trans placed.now
              have calls := placedAgain.calls
              simp only [placed.calls, List.set_set] at calls
              exact goes_of_set calls asked now (.spent now fun closed =>
                absurd positive (Int.not_lt.mpr closed)) found
      | closed flying closes sent placed =>
          obtain ⟨_, _, reply, replied, pending⟩ :=
            scheduled.inFlight (Traffic.stage?_eq_of_found flying)
          have inTime := (scheduled.not_late pending).1
          exact goes_of_set placed.calls flying placed.now
            (.closed placed.now inTime) found
      | windowless asked closed sent placed =>
          have since := scheduled.asked (Traffic.stage?_eq_of_found asked)
          subst since
          exact goes_of_set placed.calls asked placed.now
            (.spent placed.now fun _ => rfl) found
      | again ended resumed sent placed =>
          obtain ⟨after, reached, goes⟩ := goes_of_set placed.calls ended
            placed.now (.goesOn placed.now ⟨_, _, _, resumed⟩) found
          refine ⟨after, ?_, ?_⟩
          · rw [dispatch_traffic]
            exact reached
          · rw [dispatch_traffic]
            exact goes
      | returned ended resumed sent placed busy finished =>
          obtain ⟨after, reached, goes⟩ := goes_of_set placed.calls ended
            placed.now (.goesOn placed.now ⟨_, _, _, resumed⟩) found
          refine ⟨after, busy.found reached, ?_⟩
          rw [busy.unseen.now]
          exact goes
  | rang quiet moments patient =>
      refine ⟨stage, found, ?_⟩
      rcases isPatient_of_stage? patient (Traffic.stage?_eq_of_found found) with
        ⟨what, since, number, request, rfl, inTime⟩ | ⟨outcome, rfl⟩
      · exact .flies inTime
      · exact .rests

/-- Where a call comes from that is there after a turn: it was there before, or
it has just begun. -/
inductive Origin (world : World) (later : Nat) (index : Nat) (call : Call) :
    Stage → Prop where
  | old {stage after : Stage}
      (found : world.traffic.calls[index]? = some ⟨call, stage⟩)
      (goes : Goes world.client call world.traffic.now later stage after) :
      Origin world later index call after
  | new {what : Wait} (absent : world.traffic.calls[index]? = none)
      (fits : call.Fits what) : Origin world later index call (.asked what later)

theorem Busy.origin (busy : Busy world next)
    (found : next.traffic.calls[index]? = some ⟨call, stage⟩) :
    world.traffic.calls[index]? = some ⟨call, stage⟩ ∨
      (world.traffic.calls[index]? = none ∧
        ∃ what, stage = .asked what world.traffic.now ∧ call.Fits what) := by
  induction busy with
  | refl => exact .inl found
  | calm _ calm ih =>
      rw [calm.traffic.calls] at found
      exact ih found
  | begun busy task begun ih =>
      rename_i middle
      obtain ⟨what, calls, attempted⟩ :=
        begin_calls middle.client middle.traffic begun
      rw [beginCall, dispatch_traffic, calls] at found
      by_cases inside : index < middle.traffic.calls.length
      · rw [List.getElem?_append_left inside] at found
        exact ih found
      · have last : index = middle.traffic.calls.length := by
          have bound := (List.getElem?_eq_some_iff.mp found).1
          rw [List.length_append, List.length_singleton] at bound
          omega
        subst last
        rw [List.getElem?_concat_length] at found
        cases found
        refine .inr ⟨?_, what, by rw [busy.unseen.now], attempted.fits⟩
        cases before : world.traffic.calls[middle.traffic.calls.length]? with
        | none => rfl
        | some entry =>
            have still := (List.getElem?_eq_some_iff.mp (busy.found before)).1
            exact absurd still (Nat.lt_irrefl _)

theorem length_of_placed {acting : Nat} {caller : Call} {new : Stage}
    {shown : List Observation} {traffic after : Traffic}
    (placed : Traffic.Placed traffic after acting caller new shown) :
    after.calls.length = traffic.calls.length := by
  rw [placed.calls, List.length_set]

theorem Turned.origin (accounted : Accounted first timeline world)
    (turned : Turned world given seen next)
    (found : next.traffic.calls[index]? = some ⟨call, stage⟩) :
    Origin world next.traffic.now index call stage := by
  cases before : world.traffic.calls[index]? with
  | some entry =>
      obtain ⟨caller, old⟩ := entry
      obtain ⟨after, reached, goes⟩ := turned.goes accounted before
      cases reached.symm.trans found
      exact .old before goes
  | none =>
      have inside := (List.getElem?_eq_some_iff.mp found).1
      have outside := List.getElem?_eq_none_iff.mp before
      have absent : ∀ {after : Traffic},
          after.calls.length = world.traffic.calls.length →
            after.calls[index]? ≠ some ⟨call, stage⟩ := by
        intro after length found
        have inside := (List.getElem?_eq_some_iff.mp found).1
        omega
      have begun : ∀ {middle : World}, Busy middle next →
          middle.traffic.calls.length = world.traffic.calls.length →
            middle.traffic.now = world.traffic.now →
              Origin world next.traffic.now index call stage := by
        intro middle busy length now
        rcases busy.origin found with old | ⟨_, what, rfl, fits⟩
        · exact absurd old (absent length)
        · rw [← busy.unseen.now]
          exact .new before fits
      cases turned with
      | did queued did =>
          cases did with
          | tasks task busy => exact begun busy rfl rfl
          | returned ended resumed sent placed busy finished =>
              exact begun busy (length_of_placed placed) placed.now
          | idle idle => exact absurd found (absent rfl)
          | noticed => exact absurd found (absent rfl)
          | lost lost => exact absurd found (absent rfl)
          | unfit _ _ _ placed | closed _ _ _ placed | windowless _ _ _ placed =>
              exact absurd found (absent (length_of_placed placed))
          | again _ _ _ placed =>
              rw [dispatch_traffic] at found
              exact absurd found (absent (length_of_placed placed))
          | launched _ _ _ placed served =>
              cases served with
              | silent | later =>
                  exact absurd found (absent (length_of_placed placed))
              | atOnce _ _ placedAgain =>
                  exact absurd found (absent
                    ((length_of_placed placedAgain).trans
                      (length_of_placed placed)))
      | rang => exact absurd found (absent rfl)

end World

/-! ## How long a call lasts -/

/-- The moment at which a call is done at the latest. -/
def deadline (client : Client) (call : Call) (now : Nat) : Stage → Nat
  | .asked what since | .inFlight what since _ _ =>
      since + call.windows what * client.window
  | .ended what _ => now + (call.windows what - 1) * client.window
  | .done _ => now

theorem Goes.deadline_le {client : Client} {call : Call} {now later : Nat}
    {stage after : Stage} (goes : Goes client call now later stage after)
    (undone : after.outcome? = none) :
    deadline client call later after ≤ deadline client call now stage := by
  cases goes with
  | waits same => exact Nat.le_of_eq (by rw [same])
  | flies inTime => exact Nat.le_refl _
  | rests => cases undone
  | launched same positive => exact Nat.le_refl _
  | spent same =>
      rename_i what ending
      subst same
      exact Nat.add_le_add_left (Nat.mul_le_mul_right _ (Nat.sub_le _ _)) _
  | closed same inTime =>
      rename_i what since number request ending
      subst same
      have more : client.window ≤ call.windows what * client.window :=
        Nat.le_mul_of_pos_left _ (call.windows_pos what)
      simp only [deadline, Nat.sub_one_mul]
      omega
  | goesOn same goesOn =>
      rename_i what ending next
      subst same
      cases next with
      | done outcome => cases undone
      | wait asked =>
          have fewer := goesOn.windows_lt.1
          exact Nat.add_le_add_left
            (Nat.mul_le_mul_right _ (Nat.le_sub_one_of_lt fewer)) _

/-- A call that is not done after a turn was not done before it. -/
theorem Goes.undone {client : Client} {call : Call} {now later : Nat}
    {stage after : Stage} (goes : Goes client call now later stage after)
    (undone : after.outcome? = none) : stage.outcome? = none := by
  cases goes with
  | waits => exact undone
  | rests => cases undone
  | flies | launched | spent | closed | goesOn => rfl

namespace World

variable {world next : World} {first : Server} {timeline : Timeline}
  {given : List Reply} {seen : List Observation} {index : Nat} {call : Call}
  {stage : Stage}

/-- The call has begun and is not done. -/
def IsOpen (world : World) (index : Nat) : Prop :=
  ∃ stage, world.traffic.stage? index = some stage ∧ stage.outcome? = none

/-- What a call waits for at a stage, or has waited for. -/
inductive Awaits (what : Wait) : Stage → Prop where
  | asked {since : Nat} : Awaits what (.asked what since)
  | inFlight {since number : Nat} {request : Http.Request} :
      Awaits what (.inFlight what since number request)
  | ended {ending : Ending} : Awaits what (.ended what ending)

/-- No reading call waits for a token. -/
def Fitting (world : World) : Prop :=
  ∀ (index : Nat) (call : Call) (stage : Stage) (what : Wait),
    world.traffic.calls[index]? = some ⟨call, stage⟩ →
      Awaits what stage → call.Fits what

theorem Fitting.turn (fitting : Fitting world)
    (accounted : Accounted first timeline world)
    (turned : Turned world given seen next) : Fitting next := by
  intro index call stage what found awaits
  cases turned.origin accounted found with
  | new absent fits =>
      cases awaits
      exact fits
  | old before goes =>
      cases goes with
      | waits | flies | rests => exact fitting _ _ _ _ before awaits
      | launched =>
          cases awaits
          exact fitting _ _ _ _ before .asked
      | spent =>
          cases awaits
          exact fitting _ _ _ _ before .asked
      | closed =>
          cases awaits
          exact fitting _ _ _ _ before .inFlight
      | goesOn same goesOn =>
          rename_i following
          cases following with
          | done outcome => cases awaits
          | wait after =>
              cases awaits
              exact goesOn.windows_lt.2

/-- A call that is open is not late, and has no more than its windows ahead of
it. -/
theorem Accounted.deadline_bounds (accounted : Accounted first timeline world)
    (fitting : Fitting world)
    (found : world.traffic.calls[index]? = some ⟨call, stage⟩)
    (undone : stage.outcome? = none) :
    world.traffic.now ≤ deadline world.client call world.traffic.now stage ∧
      deadline world.client call world.traffic.now stage ≤
        world.traffic.now +
          (if call.descriptor.isRead then 2 else 4) * world.client.window := by
  have reached := Traffic.stage?_eq_of_found found
  have few : ∀ {what}, Awaits what stage →
      call.windows what * world.client.window ≤
        (if call.descriptor.isRead then 2 else 4) * world.client.window :=
    fun awaits => Nat.mul_le_mul_right _
      (call.windows_le (fitting _ _ _ _ found awaits))
  cases stage with
  | done outcome => cases undone
  | asked what since =>
      have since := accounted.scheduled.asked reached
      subst since
      exact ⟨Nat.le_add_right _ _, Nat.add_le_add_left (few .asked) _⟩
  | inFlight what since number request =>
      obtain ⟨started, _, reply, replied, pending⟩ :=
        accounted.scheduled.inFlight reached
      have inTime := (accounted.scheduled.not_late pending).1
      have more : world.client.window ≤
          call.windows what * world.client.window :=
        Nat.le_mul_of_pos_left _ (call.windows_pos what)
      have few := few .inFlight
      simp only [deadline]
      omega
  | ended what ending =>
      have few := few .ended
      have less : (call.windows what - 1) * world.client.window ≤
          call.windows what * world.client.window :=
        Nat.mul_le_mul_right _ (Nat.sub_le _ _)
      simp only [deadline]
      omega

/-- As long as a call is not done, its deadline is not put off. -/
theorem Accounted.deadline_later (accounted : Accounted first timeline world)
    (found : world.traffic.calls[index]? = some ⟨call, stage⟩) (turns : Nat) :
    ∃ after, (world.later turns).traffic.calls[index]? = some ⟨call, after⟩ ∧
      (after.outcome? = none → stage.outcome? = none ∧
        deadline world.client call (world.later turns).traffic.now after ≤
          deadline world.client call world.traffic.now stage) := by
  let Holds (_ : Timeline) (other : World) : Prop :=
    other.client = world.client ∧
      ∃ after, other.traffic.calls[index]? = some ⟨call, after⟩ ∧
      (after.outcome? = none → stage.outcome? = none ∧
        deadline world.client call other.traffic.now after ≤
          deadline world.client call world.traffic.now stage)
  have base : Holds timeline world :=
    ⟨rfl, stage, found, fun undone => ⟨undone, Nat.le_refl _⟩⟩
  refine (accounted.later_induction base ?_ turns).2
  rintro timeline other given seen next accounted turned
    ⟨client, between, found, soon⟩
  obtain ⟨after, reached, goes⟩ := turned.goes accounted found
  rw [client] at goes
  refine ⟨(accounted.turn turned).1.trans client, after, reached,
    fun undone => ?_⟩
  obtain ⟨before, soon⟩ := soon (goes.undone undone)
  exact ⟨before, Nat.le_trans (goes.deadline_le undone) soon⟩

theorem Accounted.fitting_later (accounted : Accounted first timeline world)
    (fitting : Fitting world) (turns : Nat) : Fitting (world.later turns) := by
  let Holds (_ : Timeline) (other : World) : Prop := Fitting other
  exact accounted.later_induction (show Holds timeline world from fitting)
    (fun accounted turned fitting => Fitting.turn fitting accounted turned) turns

/-- While a call is open, no more time passes than for the windows that it had
ahead of it. -/
theorem Accounted.lasting (accounted : Accounted first timeline world)
    (fitting : Fitting world)
    (found : world.traffic.calls[index]? = some ⟨call, stage⟩)
    (turns : Nat) (open_ : (world.later turns).IsOpen index) :
    (world.later (turns + 1)).traffic.now ≤ world.traffic.now +
      (if call.descriptor.isRead then 2 else 4) * world.client.window := by
  obtain ⟨between, reached, undone⟩ := open_
  obtain ⟨last, there, soon⟩ := accounted.deadline_later found turns
  cases reached.symm.trans (Traffic.stage?_eq_of_found there)
  obtain ⟨wasOpen, soon⟩ := soon undone
  have early := (accounted.deadline_bounds fitting found wasOpen).2
  obtain ⟨accountedLater, client⟩ := accounted.later turns
  have fittingLater := accounted.fitting_later fitting turns
  have inTime :=
    (accountedLater.deadline_bounds fittingLater there undone).1
  rw [client] at inTime
  rw [later_add]
  cases turned : (world.later turns).turn? with
  | none =>
      rw [later_succ_of_rest turned]
      omega
  | some next =>
      obtain ⟨given, seen, turn⟩ := turned_of_turn? turned
      rw [later_succ_of_turn? turned, World.later]
      obtain ⟨nextClient, _, accountedNext⟩ := accountedLater.turn turn
      obtain ⟨after, foundNext, goes⟩ := turn.goes accountedLater there
      rw [client] at nextClient goes
      cases done : after.outcome? with
      | none =>
          have bound := accountedNext.deadline_bounds
            (fittingLater.turn accountedLater turn) foundNext done
          have nearer := goes.deadline_le done
          rw [nextClient] at bound
          omega
      | some outcome =>
          have same : next.traffic.now = (world.later turns).traffic.now := by
            cases goes with
            | waits same | goesOn same => exact same
            | rests => cases undone
            | flies | launched | spent | closed => cases done
          omega

end World

/-! ## Requests of one call -/

/-- A call asks for nothing more: it is done, or the time of its request was
up. -/
inductive Stopped : Option Stage → Prop where
  | late {what : Wait} {ending : Ending} (late : ending.TimedOut) :
      Stopped (some (.ended what ending))
  | done {outcome : Outcome} : Stopped (some (.done outcome))

theorem Stopped.of_late {stage : Option Stage} {what : Wait} {ending : Ending}
    (ended : stage = some (.ended what ending)) (late : ending.TimedOut) :
    Stopped stage :=
  ended ▸ .late late

theorem Goes.stopped {client : Client} {call : Call} {now later : Nat}
    {stage after : Stage} (goes : Goes client call now later stage after)
    (stopped : Stopped (some stage)) : Stopped (some after) := by
  cases goes with
  | waits | rests => exact stopped
  | flies | launched | spent | closed => cases stopped
  | goesOn same goesOn =>
      cases stopped with
      | late late =>
          cases goesOn.of_late late
          exact .done

/-- The requests of a call come one after another, and none after one whose time
was up. -/
structure Orderly (timeline : Timeline) (traffic : Traffic) : Prop where
  stopped : ∀ number sending closing,
    timeline.sendings[number]? = some sending →
      closing ∈ timeline.closings number → closing.2.TimedOut →
        Stopped (traffic.stage? sending.call)
  inTurn : ∀ number sending later another,
    timeline.sendings[number]? = some sending →
      timeline.sendings[later]? = some another → number < later →
        another.call = sending.call →
          ∃ closing ∈ timeline.closings number, ¬closing.2.TimedOut

namespace World

variable {world next : World} {first : Server} {timeline : Timeline}
  {given : List Reply} {seen : List Observation} {index number : Nat}

/-- A request is sent for a call that asks for it, if there is time. -/
theorem Turned.asked_of_sent {request : Http.Request}
    (turned : Turned world given seen next)
    (sent : .sent number index request ∈ seen) :
    0 < world.client.settings.timeoutMs ∧ ∃ what since,
      world.traffic.stage? index = some (.asked what since) := by
  cases turned with
  | rang => cases sent
  | did queued did =>
      cases did with
      | tasks | idle | unfit | windowless | noticed | again | returned | lost =>
          cases sent
      | closed => simp at sent
      | launched found positive sentOne placed served =>
          have reached := Traffic.stage?_eq_of_found found
          cases served <;> simp at sent
          all_goals
            obtain ⟨rfl, rfl, rfl⟩ := sent
            exact ⟨positive, _, _, reached⟩

theorem Turned.stopped_of_closed {closing : Closing} {sending : Sending}
    (accounted : Accounted first timeline world)
    (turned : Turned world given seen next)
    (closed : .closed number closing ∈ seen) (late : closing.TimedOut)
    (listed : (timeline ++ .seenAt next.traffic.now seen : Timeline).sendings[
      number]? = some sending) :
    Stopped (next.traffic.stage? sending.call) := by
  have ledger := accounted.ledger
  rw [Timeline.sendings_append] at listed
  cases turned with
  | rang => cases closed
  | did queued did =>
      cases did with
      | tasks | idle | unfit | windowless | noticed | again | returned | lost =>
          cases closed
      | closed found closes sent placed =>
          have reached := Traffic.stage?_eq_of_found found
          obtain ⟨mine, -⟩ := ledger.flying _ _ _ _ _ reached
          simp only [List.mem_singleton, Observation.closed.injEq] at closed
          obtain ⟨rfl, rfl⟩ := closed
          have inside := (List.getElem?_eq_some_iff.mp mine).1
          rw [List.getElem?_append_left inside] at listed
          cases mine.symm.trans listed
          exact .of_late (Traffic.stage?_eq_of_found (placed.found found))
            (closes.late late)
      | launched found positive sent placed served =>
          cases served with
          | silent | later => simp at closed
          | atOnce due sentAgain placedAgain reads =>
              simp only [List.mem_cons, reduceCtorEq, List.not_mem_nil, or_false,
                false_or, Observation.closed.injEq] at closed
              obtain ⟨rfl, rfl⟩ := closed
              rw [← ledger.length, List.getElem?_append_right (Nat.le_refl _),
                Nat.sub_self] at listed
              cases listed
              exact .of_late (Traffic.stage?_eq_of_found
                (placedAgain.found (placed.found found))) (reads.late late)

theorem Turned.stopped (accounted : Accounted first timeline world)
    (turned : Turned world given seen next)
    (stopped : Stopped (world.traffic.stage? index)) :
    Stopped (next.traffic.stage? index) := by
  generalize reached : world.traffic.stage? index = stage at stopped
  cases stage with
  | none => cases stopped
  | some stage =>
      obtain ⟨call, found⟩ := Traffic.exists_found_of_stage? reached
      obtain ⟨after, there, goes⟩ := turned.goes accounted found
      rw [Traffic.stage?_eq_of_found there]
      exact goes.stopped stopped

theorem Turned.length_sendings_le (turned : Turned world given seen next)
    (moment : Nat) : (Timeline.seenAt moment seen).sendings.length ≤ 1 := by
  cases turned with
  | rang => exact Nat.zero_le _
  | did queued did =>
      cases did with
      | tasks | idle | unfit | windowless | noticed | again | returned | lost |
          closed => exact Nat.zero_le _
      | launched _ _ _ _ served => cases served <;> exact Nat.le_refl _

theorem Turned.orderly (turned : Turned world given seen next)
    (accounted : Accounted first timeline world)
    (orderly : Orderly timeline world.traffic) :
    Orderly (timeline ++ .seenAt next.traffic.now seen) next.traffic := by
  have ledger := accounted.ledger
  refine ⟨?_, ?_⟩
  · intro number sending closing listed closed late
    rw [Timeline.closings_append, List.mem_append,
      Timeline.mem_closings_seenAt] at closed
    rcases closed with old | ⟨-, new⟩
    · have known : number < timeline.sendings.length := by
        rw [ledger.length]
        refine Nat.lt_of_not_le fun unsent => ?_
        rw [ledger.unsent number unsent] at old
        cases old
      rw [Timeline.sendings_append, List.getElem?_append_left known] at listed
      exact turned.stopped accounted
        (orderly.stopped number sending closing listed old late)
    · exact turned.stopped_of_closed accounted new late listed
  · intro number sending later another listed listedLater before same
    have few := turned.length_sendings_le next.traffic.now
    have inside := (List.getElem?_eq_some_iff.mp listedLater).1
    rw [Timeline.sendings_append, List.length_append] at inside
    have known : number < timeline.sendings.length := by omega
    rw [Timeline.sendings_append, List.getElem?_append_left known] at listed
    rw [Timeline.sendings_append] at listedLater
    rw [Timeline.closings_append]
    by_cases old : later < timeline.sendings.length
    · rw [List.getElem?_append_left old] at listedLater
      obtain ⟨closing, closed, timely⟩ := orderly.inTurn number sending later
        another listed listedLater before same
      exact ⟨closing, List.mem_append_left _ closed, timely⟩
    · rw [List.getElem?_append_right (Nat.le_of_not_lt old)] at listedLater
      obtain ⟨-, _, sent⟩ := Timeline.mem_sendings_seenAt.mp
        (List.mem_of_getElem? listedLater)
      obtain ⟨-, what, since, asked⟩ := turned.asked_of_sent sent
      rw [same] at asked
      obtain ⟨reply, -, fate⟩ := ledger.fates number sending listed
      obtain ⟨closing, closed⟩ := fate.ended (by simp [asked])
      have member : closing ∈ timeline.closings number := by simp [closed]
      refine ⟨closing, List.mem_append_left _ member, fun late => ?_⟩
      have stopped :=
        orderly.stopped number sending closing listed member late
      rw [asked] at stopped
      cases stopped

end World

/-! ## Requests without time -/

/-- Where a call can stand when its requests have no time. -/
inductive Windowless (settings : Settings) : Stage → Prop where
  | asked {what : Wait} {since : Nat} : Windowless settings (.asked what since)
  | ended {what : Wait} : Windowless settings (.ended what .expired)
  | done : Windowless settings (.done (Call.timedOut settings))

theorem Goes.windowless {client : Client} {call : Call} {now later : Nat}
    {stage after : Stage} (goes : Goes client call now later stage after)
    (closed : client.settings.timeoutMs ≤ 0)
    (windowless : Windowless client.settings stage) :
    Windowless client.settings after := by
  cases goes with
  | waits | rests => exact windowless
  | flies | closed => cases windowless
  | launched _ positive => exact absurd positive (Int.not_lt.mpr closed)
  | spent _ expired =>
      cases expired closed
      exact .ended
  | goesOn _ goesOn =>
      cases windowless with
      | ended =>
          cases goesOn.of_late (.inl rfl)
          exact .done

namespace World

variable {world next : World} {first : Server} {timeline : Timeline}
  {given : List Reply} {seen : List Observation}

/-- Without time no request is sent, and no call can return anything but that its
time was up. -/
structure Timeless (timeline : Timeline) (world : World) : Prop where
  unsent : timeline.sendings = []
  stages : ∀ (index : Nat) (call : Call) (stage : Stage),
    world.traffic.calls[index]? = some ⟨call, stage⟩ →
      Windowless world.client.settings stage

theorem Timeless.turn (timeless : Timeless timeline world)
    (closed : world.client.settings.timeoutMs ≤ 0)
    (accounted : Accounted first timeline world)
    (turned : Turned world given seen next) :
    Timeless (timeline ++ .seenAt next.traffic.now seen) next := by
  refine ⟨?_, fun index call stage found => ?_⟩
  · rw [Timeline.sendings_append, timeless.unsent, List.nil_append]
    refine List.eq_nil_iff_forall_not_mem.mpr fun sending member => ?_
    obtain ⟨-, _, sent⟩ := Timeline.mem_sendings_seenAt.mp member
    exact absurd (turned.asked_of_sent sent).1 (Int.not_lt.mpr closed)
  · rw [(accounted.turn turned).1]
    cases turned.origin accounted found with
    | new => exact .asked
    | old before goes =>
        exact goes.windowless closed (timeless.stages _ _ _ before)

end World

/-! ## Sessions -/

/-- The time that a request of a session may take, in microseconds. -/
def Session.window (session : Session) : Nat :=
  session.settings.timeoutMs.toNat * 1000

/-- A request of a call is with the transport. -/
def Timeline.InFlight (timeline : Timeline) (index number : Nat) : Prop :=
  ∃ sending, timeline.sendings[number]? = some sending ∧
    sending.call = index ∧ timeline.closings number = []

/-- The requests of a session keep to their windows. -/
structure KeepsWindows (session : Session) (timeline : Timeline)
    (world : World) : Prop where
  /-- A call has no more than one request with the transport. -/
  single : ∀ index number other, timeline.InFlight index number →
    timeline.InFlight index other → number = other
  /-- A call that has returned has none. -/
  returned : ∀ index outcome,
    world.traffic.stage? index = some (.done outcome) →
      ∀ number, ¬timeline.InFlight index number
  /-- A request is in time, or it has ended once: as it was replied to, if the
  reply came before its time was up, and else by being cancelled. -/
  fates : ∀ number sending, timeline.sendings[number]? = some sending →
    ∃ reply, (session.server.replies timeline.requests)[number]? = some reply ∧
      Fate session.window reply number sending
        (world.traffic.stage? sending.call) (timeline.closings number) ∧
      (timeline.closings number = [] →
        world.traffic.now ≤ sending.moment + session.window)
  /-- A request whose time was up is the last one of its call. -/
  last : ∀ number sending closing later another,
    timeline.sendings[number]? = some sending →
      closing ∈ timeline.closings number → closing.2.TimedOut →
        timeline.sendings[later]? = some another → number < later →
          another.call ≠ sending.call
  /-- Without time no request is sent, and every call returns that its time was
  up. -/
  timeless : session.settings.timeoutMs ≤ 0 →
    timeline.sendings = [] ∧ ∀ index outcome,
      world.traffic.stage? index = some (.done outcome) →
        outcome = Call.timedOut session.settings

/-- At the end of a session every call has returned and every request has
ended. -/
structure Settled (timeline : Timeline) (world : World) : Prop where
  rests : world.turn? = none
  returned : ∀ index stage, world.traffic.stage? index = some stage →
    ∃ outcome, stage = .done outcome
  ended : ∀ number sending, timeline.sendings[number]? = some sending →
    ∃ closing, timeline.closings number = [closing]

namespace World

variable {world start : World} {first : Server} {timeline : Timeline}
  {session : Session}

/-- What has been said of the requests of one call holds of a session. -/
theorem Accounted.keepsWindows
    (accounted : Accounted session.server timeline world)
    (settings : world.client.settings = session.settings)
    (orderly : Orderly timeline world.traffic)
    (timeless : session.settings.timeoutMs ≤ 0 → Timeless timeline world) :
    KeepsWindows session timeline world := by
  have window : world.client.window = session.window := by
    rw [Client.window, settings, Session.window]
  have ledger := accounted.ledger
  rw [window] at ledger
  have followed : ∀ index number other, timeline.InFlight index number →
      timeline.InFlight index other → ¬number < other := by
    rintro index number other ⟨sending, listed, mine, open_⟩
      ⟨another, listedOther, same, _⟩ before
    obtain ⟨closing, closed, _⟩ := orderly.inTurn number sending other another
      listed listedOther before (same.trans mine.symm)
    rw [open_] at closed
    cases closed
  refine ⟨?_, ?_, ?_, ?_, ?_⟩
  · intro index number other flies fliesOther
    have := followed index number other flies fliesOther
    have := followed index other number fliesOther flies
    omega
  · rintro index outcome done number ⟨sending, listed, rfl, open_⟩
    obtain ⟨reply, _, fate⟩ := ledger.fates number sending listed
    obtain ⟨closing, closed⟩ := fate.ended (by simp [done])
    rw [open_] at closed
    cases closed
  · intro number sending listed
    obtain ⟨reply, replied, fate⟩ := ledger.fates number sending listed
    refine ⟨reply, replied, fate, fun open_ => ?_⟩
    rw [open_] at fate
    cases fate with
    | inFlight flying =>
        obtain ⟨_, _, _, _, pending⟩ := accounted.scheduled.inFlight flying
        exact window ▸ (accounted.scheduled.not_late pending).1
  · intro number sending closing later another listed closed late listedLater
      before same
    obtain ⟨other, closedOther, timely⟩ := orderly.inTurn number sending later
      another listed listedLater before same
    obtain ⟨reply, _, fate⟩ := ledger.fates number sending listed
    cases fate.once closed closedOther
    exact timely late
  · intro none
    obtain ⟨unsent, stages⟩ := timeless none
    refine ⟨unsent, fun index outcome done => ?_⟩
    obtain ⟨call, found⟩ := Traffic.exists_found_of_stage? done
    have windowless := stages index call _ found
    rw [settings] at windowless
    cases windowless
    rfl

theorem orderly_start (calls : start.traffic.calls = []) :
    Orderly [] start.traffic ∧ Timeless [] start ∧ Fitting start := by
  have none : ∀ {index : Nat} {entry : OpenCall},
      start.traffic.calls[index]? ≠ some entry := by simp [calls]
  refine ⟨⟨?_, ?_⟩, ⟨rfl, fun _ _ _ found => absurd found none⟩,
    fun _ _ _ _ found => absurd found none⟩
  · intro number sending closing listed
    cases listed
  · intro number sending later another listed
    cases listed

end World

/-- From the beginning of a session to its end its requests keep to their windows;
the calls last no longer than these, and all of them return. -/
structure Session.Windowed (session : Session) (start : World) : Prop where
  keeps : ∀ turns,
    KeepsWindows session (start.timeline turns) (start.later turns)
  /-- A call that has begun and has not returned is not done later than four
  windows after that, or two if it only reads. -/
  lasts : ∀ early turns index call stage,
    (start.later early).traffic.calls[index]? = some ⟨call, stage⟩ →
      (start.later (early + turns)).IsOpen index →
        (start.later (early + turns + 1)).traffic.now ≤
          (start.later early).traffic.now +
            (if call.descriptor.isRead then 2 else 4) * session.window
  settles : Settled (start.timeline (World.turnsFor session.steps))
    (start.later (World.turnsFor session.steps))
  /-- A descriptor whose header fields are ASCII is accepted: its call begins. -/
  accepts : ∀ (world : World) task activity (descriptor : Descriptor),
    (∀ pair ∈ descriptor.headers.getD [],
      Http.Headers.IsAsciiName pair.1 ∧ Http.Headers.IsAsciiName pair.2) →
        ∃ call : Call, call.descriptor = descriptor ∧
          world.send task activity (.ok descriptor) =
            ((world.change task ({ · with activity })).beginCall task call, none)

theorem Session.windowed {session : Session} {start : World}
    (begins : session.world? = .ok start) : session.Windowed start := by
  obtain ⟨accounted, settings, calls⟩ := Session.accounted begins
  obtain ⟨orderly, timeless, fitting⟩ := World.orderly_start calls
  have window : start.client.window = session.window := by
    rw [Client.window, settings, Session.window]
  have keeps : ∀ turns,
      KeepsWindows session (start.timeline turns) (start.later turns) := by
    intro turns
    let Holds (timeline : Timeline) (world : World) : Prop :=
      world.client.settings = session.settings ∧
        Orderly timeline world.traffic ∧
        (session.settings.timeoutMs ≤ 0 → world.Timeless timeline)
    have held := accounted.later_induction
      (show Holds [] start from ⟨settings, orderly, fun _ => timeless⟩)
      (by
        rintro timeline world given seen next accounted turned
          ⟨settings, orderly, timeless⟩
        refine ⟨(accounted.turn turned).1 ▸ settings,
          turned.orderly accounted orderly, fun closed => ?_⟩
        exact (timeless closed).turn (settings ▸ closed) accounted turned) turns
    obtain ⟨settings, orderly, timeless⟩ := held
    exact (accounted.later turns).1.keepsWindows settings orderly timeless
  refine ⟨keeps, ?_, ?_, ?_⟩
  · intro early turns index call stage found open_
    obtain ⟨accountedEarly, client⟩ := accounted.later early
    rw [World.later_add] at open_
    rw [Nat.add_assoc, World.later_add, ← window, ← client]
    exact accountedEarly.lasting (accounted.fitting_later fitting early) found
      turns open_
  · obtain ⟨steady, enough⟩ := Session.steady begins
    have rests := steady.rests enough
    have returned : ∀ index stage, (start.later
        (World.turnsFor session.steps)).traffic.stage? index = some stage →
          ∃ outcome, stage = .done outcome :=
      fun index stage => (accounted.later _).1.scheduled.settled rests
    refine ⟨rests, returned, fun number sending listed => ?_⟩
    obtain ⟨reply, _, fate, _⟩ := (keeps _).fates number sending listed
    refine fate.ended fun what since other request flying => ?_
    obtain ⟨outcome, done⟩ := returned _ _ flying
    cases done
  · intro world task activity descriptor ascii
    obtain ⟨call, opened, same⟩ := Call.open?_of_ascii world.freshId ascii
    exact ⟨call, same, by simp [World.send, opened]⟩

/-- Two writes beside each other, with ten milliseconds for each request, on a
server that never issues a token. -/
def Sample.hangingTokens : Session where
  settings := { Settings.standard with timeoutMs := 10 }
  token := .null
  cookies := []
  endpoint := none
  server := .ofRoutes [("/api/csrf-token", [.always .silence])]
  steps := [.parallel [.send (.text "POST") (.text "/api/a") none none,
    .send (.text "POST") (.text "/api/b") none none]]

/-- Both requests for a token are cancelled after these ten milliseconds. -/
theorem Session.windowed_hanging : ∃ start,
    Sample.hangingTokens.world? = .ok start ∧
      (start.timeline 30).sendings.map Sending.call = [0, 1] ∧
      (start.timeline 30).closings 0 = [(10000, .cancelled)] ∧
      (start.timeline 30).closings 1 = [(10000, .cancelled)] ∧
      Sample.hangingTokens.Windowed start := by
  have runs : (Sample.hangingTokens.world?.toOption).any (fun start =>
      (start.timeline 30).sendings.map Sending.call = [0, 1] ∧
        (start.timeline 30).closings 0 = [(10000, .cancelled)] ∧
        (start.timeline 30).closings 1 = [(10000, .cancelled)]) = true := by
    decide +kernel
  cases begins : Sample.hangingTokens.world? with
  | error cause =>
      rw [begins] at runs
      cases runs
  | ok start =>
      rw [begins] at runs
      obtain ⟨calls, first, second⟩ := of_decide_eq_true runs
      exact ⟨start, rfl, calls, first, second, Session.windowed begins⟩

end Scenario

end AdminGate
