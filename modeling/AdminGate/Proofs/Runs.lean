import Mathlib.Data.List.Induction
import AdminGate.Proofs.TrafficSteps

/-!
# Runs of the traffic

`run_induction` carries what one step keeps over a whole run.  The trail of a
call in a run is the list of the stages that it goes through; `Course` says what
a trail can look like when nothing is known about the other calls, which change
the cell and the jar at will.
-/

namespace AdminGate.Traffic

variable {client : Client} {start traffic next : Traffic}

theorem filterMap_concat {α β : Type} (select : α → Option β) (items : List α)
    (last : α) :
    (items ++ [last]).filterMap select =
      items.filterMap select ++ (select last).toList := by
  cases selected : select last <;> simp [selected]

theorem run?_concat (client : Client) (start : Traffic) (moves : List Move)
    (move : Move) :
    run? client start (moves ++ [move]) =
      (run? client start moves).bind fun traffic => step client traffic move := by
  induction moves generalizing start with
  | nil => cases step client start move <;> simp [run?, *]
  | cons first rest ih =>
      cases taken : step client start first with
      | none => simp [run?, taken]
      | some middle => simpa [run?, taken] using ih middle

/-- What holds at the start and is kept by every step of a run holds at its
end. -/
theorem run_induction (Holds : List Move → Traffic → Prop)
    (base : Holds [] start)
    (keep : ∀ {moves traffic move next}, run? client start moves = some traffic →
      Holds moves traffic → step client traffic move = some next →
        Holds (moves ++ [move]) next)
    {moves : List Move} (ran : run? client start moves = some traffic) :
    Holds moves traffic := by
  induction moves using List.reverseRecOn generalizing traffic with
  | nil =>
      cases ran
      exact base
  | append_singleton moves move ih =>
      rw [run?_concat] at ran
      obtain ⟨middle, ranBefore, taken⟩ := Option.bind_eq_some_iff.mp ran
      exact keep ranBefore (ih ranBefore) taken

/-- Every move of a run keeps a rule at the moment at which it is taken. -/
def Throughout (client : Client) (rule : Traffic → Move → Prop) :
    Traffic → List Move → Prop
  | _, [] => True
  | traffic, move :: rest =>
      rule traffic move ∧
        ∀ next ∈ step client traffic move, Throughout client rule next rest

instance decidableThroughout (client : Client) (rule : Traffic → Move → Prop)
    [∀ traffic move, Decidable (rule traffic move)] :
    (traffic : Traffic) → (moves : List Move) →
      Decidable (Throughout client rule traffic moves)
  | _, [] => .isTrue trivial
  | traffic, move :: rest =>
      have := fun next => decidableThroughout client rule next rest
      inferInstanceAs (Decidable (rule traffic move ∧
        ∀ next ∈ step client traffic move, Throughout client rule next rest))

theorem Throughout.of_forall {rule : Traffic → Move → Prop}
    (each : ∀ traffic move, rule traffic move) (moves : List Move) :
    Throughout client rule start moves := by
  induction moves generalizing start with
  | nil => exact trivial
  | cons first rest ih => exact ⟨each start first, fun _ _ => ih⟩

theorem Throughout.left {rule : Traffic → Move → Prop} {before after : List Move}
    (throughout : Throughout client rule start (before ++ after)) :
    Throughout client rule start before := by
  induction before generalizing start with
  | nil => exact trivial
  | cons first rest ih =>
      exact ⟨throughout.1, fun next taken => ih (throughout.2 next taken)⟩

/-- A rule holds throughout a run when it holds after each of its beginnings. -/
theorem throughout_of_run {rule : Traffic → Move → Prop} {moves : List Move}
    (each : ∀ before traffic move after, moves = before ++ move :: after →
      run? client start before = some traffic → rule traffic move) :
    Throughout client rule start moves := by
  induction moves generalizing start with
  | nil => exact trivial
  | cons first rest ih =>
      refine ⟨each [] start first rest rfl rfl, ?_⟩
      intro next taken
      apply ih
      rintro before traffic move after rfl ran
      refine each (first :: before) traffic move after rfl ?_
      rw [run?, taken]
      exact ran

theorem throughout_concat_iff {rule : Traffic → Move → Prop} {moves : List Move}
    {move : Move} (ran : run? client start moves = some traffic) :
    Throughout client rule start (moves ++ [move]) ↔
      Throughout client rule start moves ∧ rule traffic move := by
  induction moves generalizing start with
  | nil =>
      cases ran
      simp [Throughout]
  | cons first rest ih =>
      obtain ⟨middle, taken, ran⟩ := Option.bind_eq_some_iff.mp ran
      simp [Throughout, taken, ih ran, and_assoc]

/-- At some move of a run something is the case. -/
def Sometime (client : Client) (event : Traffic → Move → Prop) :
    Traffic → List Move → Prop
  | _, [] => False
  | traffic, move :: rest =>
      event traffic move ∨
        ∃ next ∈ step client traffic move, Sometime client event next rest

theorem sometime_concat_iff {event : Traffic → Move → Prop} {moves : List Move}
    {move : Move} (ran : run? client start moves = some traffic) :
    Sometime client event start (moves ++ [move]) ↔
      Sometime client event start moves ∨ event traffic move := by
  induction moves generalizing start with
  | nil =>
      cases ran
      simp [Sometime]
  | cons first rest ih =>
      obtain ⟨middle, taken, ran⟩ := Option.bind_eq_some_iff.mp ran
      simp [Sometime, taken, ih ran, or_assoc]

theorem Sometime.imp {event other : Traffic → Move → Prop} {moves : List Move}
    (sometime : Sometime client event start moves)
    (implies : ∀ traffic move, event traffic move → other traffic move) :
    Sometime client other start moves := by
  induction moves generalizing start with
  | nil => cases sometime
  | cons first rest ih =>
      rcases sometime with now | ⟨next, taken, later⟩
      · exact .inl (implies _ _ now)
      · exact .inr ⟨next, taken, ih later⟩

theorem Sometime.extend {event : Traffic → Move → Prop} {moves : List Move}
    (sometime : Sometime client event start moves) (more : List Move) :
    Sometime client event start (moves ++ more) := by
  induction moves generalizing start with
  | nil => cases sometime
  | cons first rest ih =>
      rcases sometime with now | ⟨next, taken, later⟩
      · exact .inl now
      · exact .inr ⟨next, taken, ih later⟩

/-- What is the case at some move is the case after some beginning of the
run. -/
theorem Sometime.exists {event : Traffic → Move → Prop} {moves : List Move}
    (sometime : Sometime client event start moves) :
    ∃ before move after traffic, moves = before ++ move :: after ∧
      run? client start before = some traffic ∧ event traffic move := by
  induction moves generalizing start with
  | nil => cases sometime
  | cons first rest ih =>
      rcases sometime with now | ⟨next, taken, later⟩
      · exact ⟨[], first, rest, start, rfl, rfl, now⟩
      · obtain ⟨before, move, after, traffic, rfl, ran, event⟩ := ih later
        refine ⟨first :: before, move, after, traffic, rfl, ?_, event⟩
        rw [run?, taken]
        exact ran

/-- The call that begins with a move. -/
def begun? : Move → Option Call
  | .begin call => some call
  | _ => none

private theorem step_calls {move : Move}
    (taken : step client traffic move = some next) :
    next.calls.map OpenCall.call =
      traffic.calls.map OpenCall.call ++ (begun? move).toList := by
  cases step_stepped taken with
  | begun attempted jar calls =>
      rw [calls, List.map_append]
      rfl
  | moved mover found step calls =>
      rename_i index call stage after
      have notBegun : begun? move = none := by
        generalize next.jar = jar, next.cell = cell at step
        cases step <;> rfl
      obtain ⟨inside, entry⟩ := List.getElem?_eq_some_iff.mp found
      have bound : index < (traffic.calls.map OpenCall.call).length := by
        rwa [List.length_map]
      have same : (traffic.calls.map OpenCall.call)[index] = call := by
        rw [List.getElem_map, entry]
      rw [calls, List.map_set, notBegun, Option.toList_none, List.append_nil]
      nth_rewrite 1 [← same]
      exact List.set_getElem_self _
  | passed cell jar calls =>
      rw [calls]
      simp [begun?]

theorem run_calls {cell : TokenCell} {jar : Http.CookieJar} {moves : List Move}
    (ran : run? client (initial cell jar) moves = some traffic) :
    traffic.calls.map OpenCall.call = moves.filterMap begun? := by
  refine run_induction (fun moves traffic =>
    traffic.calls.map OpenCall.call = moves.filterMap begun?) rfl ?_ ran
  intro moves traffic move next _ calls taken
  rw [step_calls taken, calls, filterMap_concat]

theorem run_call {cell : TokenCell} {jar : Http.CookieJar} {moves : List Move}
    {index : Nat} {call : Call} {stage : Stage}
    (ran : run? client (initial cell jar) moves = some traffic)
    (found : traffic.calls[index]? = some ⟨call, stage⟩) :
    (moves.filterMap begun?)[index]? = some call := by
  rw [← run_calls ran, List.getElem?_map, found]
  rfl

theorem run_found {cell : TokenCell} {jar : Http.CookieJar} {moves : List Move}
    {index : Nat} {call : Call} {stage : Stage}
    (ran : run? client (initial cell jar) moves = some traffic)
    (begun : (moves.filterMap begun?)[index]? = some call)
    (reached : traffic.stage? index = some stage) :
    traffic.calls[index]? = some ⟨call, stage⟩ := by
  obtain ⟨⟨other, stage⟩, found, rfl⟩ := Option.map_eq_some_iff.mp reached
  cases begun.symm.trans (run_call ran found)
  exact found

/-- The stages that a call goes through in a run, in order. -/
def trail (client : Client) : Traffic → List Move → Nat → List Stage
  | _, [], _ => []
  | traffic, move :: rest, index =>
      match step client traffic move with
      | none => []
      | some next =>
          (if traffic.mover move = some index then (next.stage? index).toList
            else []) ++ trail client next rest index

theorem trail_concat {moves : List Move} {move : Move}
    (ran : run? client start moves = some traffic)
    (taken : step client traffic move = some next) (index : Nat) :
    trail client start (moves ++ [move]) index =
      trail client start moves index ++
        if traffic.mover move = some index then (next.stage? index).toList
        else [] := by
  induction moves generalizing start with
  | nil =>
      cases ran
      simp [trail, taken]
  | cons first rest ih =>
      simp only [run?] at ran
      obtain ⟨middle, firstTaken, ran⟩ := Option.bind_eq_some_iff.mp ran
      simp [trail, firstTaken, ih ran]

theorem trail_concat_other {moves : List Move} {move : Move} {index : Nat}
    (ran : run? client start moves = some traffic)
    (taken : step client traffic move = some next)
    (other : traffic.mover move ≠ some index) :
    trail client start (moves ++ [move]) index =
      trail client start moves index := by
  rw [trail_concat ran taken, if_neg other, List.append_nil]

theorem trail_concat_mover {moves : List Move} {move : Move} {index : Nat}
    {call : Call} {stage : Stage}
    (ran : run? client start moves = some traffic)
    (taken : step client traffic move = some next)
    (mover : traffic.mover move = some index)
    (found : next.calls[index]? = some ⟨call, stage⟩) :
    trail client start (moves ++ [move]) index =
      trail client start moves index ++ [stage] := by
  rw [trail_concat ran taken, if_pos mover]
  simp [stage?, found]

/-- The stages that a call can go through, and the last of them, in any
surroundings. -/
inductive Course (client : Client) (call : Call) : List Stage → Stage → Prop where
  | begun {traffic : Traffic} {cell : TokenCell} {what : Wait}
      (attempted : call.Attempted client.settings traffic.jar traffic.cell
        .first cell what) :
      Course client call [.asked what traffic.now] (.asked what traffic.now)
  | moved {trail : List Stage} {stage after : Stage} {traffic : Traffic}
      {index : Nat} {move : Move} {jar : Http.CookieJar} {cell : TokenCell}
      (course : Course client call trail stage)
      (step : StageStep client traffic call index move stage jar cell after) :
      Course client call (trail ++ [after]) after

/-- A call that has not begun has no trail, and the trail of any other is a
course. -/
structure Charted (client : Client) (start : Traffic) (moves : List Move)
    (traffic : Traffic) : Prop where
  absent : ∀ index, traffic.calls[index]? = none →
    trail client start moves index = []
  course : ∀ index call stage, traffic.calls[index]? = some ⟨call, stage⟩ →
    Course client call (trail client start moves index) stage

theorem run_charted {cell : TokenCell} {jar : Http.CookieJar} {moves : List Move}
    (ran : run? client (initial cell jar) moves = some traffic) :
    Charted client (initial cell jar) moves traffic := by
  refine run_induction (Charted client (initial cell jar)) ?_ ?_ ran
  · exact ⟨fun _ _ => rfl, fun index call stage found => by
      simp [initial] at found⟩
  · intro moves traffic move next ran charted taken
    constructor
    · intro index absent
      obtain ⟨absentBefore, other⟩ := absent_of_step taken absent
      rw [trail_concat_other ran taken other]
      exact charted.absent index absentBefore
    · intro index call stage found
      cases stage_origin taken found with
      | kept other before =>
          rw [trail_concat_other ran taken other]
          exact charted.course index call stage before
      | begun begins absent mover attempted =>
          rw [trail_concat_mover ran taken mover found,
            charted.absent index absent, List.nil_append]
          exact .begun attempted
      | moved mover before step =>
          rw [trail_concat_mover ran taken mover found]
          exact .moved (charted.course index call _ before) step

theorem run_course {cell : TokenCell} {jar : Http.CookieJar} {moves : List Move}
    {index : Nat} {call : Call} {stage : Stage}
    (ran : run? client (initial cell jar) moves = some traffic)
    (found : traffic.calls[index]? = some ⟨call, stage⟩) :
    Course client call (trail client (initial cell jar) moves index) stage :=
  (run_charted ran).course index call stage found

/-- A move takes a call to a stage. -/
def Visits (client : Client) (index : Nat) (call : Call) (stage : Stage)
    (traffic : Traffic) (move : Move) : Prop :=
  traffic.mover move = some index ∧
    ∃ next ∈ step client traffic move, next.calls[index]? = some ⟨call, stage⟩

/-- Every stage of a trail is one to which a move of the run has led. -/
theorem run_visits {cell : TokenCell} {jar : Http.CookieJar} {moves : List Move}
    {index : Nat} {call : Call} {stage visited : Stage}
    (ran : run? client (initial cell jar) moves = some traffic)
    (found : traffic.calls[index]? = some ⟨call, stage⟩)
    (member : visited ∈ trail client (initial cell jar) moves index) :
    Sometime client (Visits client index call visited) (initial cell jar)
      moves := by
  refine run_induction (fun moves traffic => ∀ {stage},
    traffic.calls[index]? = some ⟨call, stage⟩ →
      visited ∈ trail client (initial cell jar) moves index →
        Sometime client (Visits client index call visited) (initial cell jar)
          moves) ?_ ?_ ran found member
  · intro stage found member
    cases member
  · intro moves traffic move next ran earlier taken stage found member
    rw [sometime_concat_iff ran]
    cases stage_origin taken found with
    | kept other before =>
        rw [trail_concat_other ran taken other] at member
        exact .inl (earlier before member)
    | begun begins absent mover attempted =>
        rw [trail_concat_mover ran taken mover found,
          (run_charted ran).absent index absent] at member
        cases List.mem_singleton.mp member
        exact .inr ⟨mover, next, taken, found⟩
    | moved mover before step =>
        rw [trail_concat_mover ran taken mover found] at member
        rcases List.mem_append.mp member with before' | now
        · exact .inl (earlier before before')
        · cases List.mem_singleton.mp now
          exact .inr ⟨mover, next, taken, found⟩

end AdminGate.Traffic

/-! ## A small client -/

namespace AdminGate.Sample

/-- The bytes of a text of ASCII characters. -/
def bytes (text : String) : List UInt8 :=
  text.toList.map fun character => character.toNat.toUInt8

/-- A client of a plain host with the standard settings. -/
def client : Client where
  settings := { Settings.standard with baseUrl := "http://h" }
  base := ⟨"http".toList, [], "h".toList, none, "/".toList, none, none⟩
  year := 2024
  second := 0

/-- A jar whose token cookie is out of date. -/
def staleJar : Http.CookieJar :=
  Http.CookieJar.ofPairs [("csrf_token", "stale")]

def write : Call :=
  ⟨⟨"POST", "/x", none, none⟩, [], ⟨"1", "POST", "/x"⟩⟩

/-- A client whose anti-forgery field has a name outside ASCII. -/
def foreignClient : Client :=
  { client with settings := { client.settings with tokenHeader := "X-Ü" } }

/-- A client whose anti-forgery field is also that of its credentials. -/
def credentialClient : Client where
  settings := { client.settings with tokenHeader := "Authorization" }
  base := { client.base with userinfo := "u:p".toList }
  year := 2024
  second := 0

/-- A jar whose token cookie is outside ASCII. -/
def foreignJar : Http.CookieJar :=
  Http.CookieJar.ofPairs [("csrf_token", "sé")]

def read : Call :=
  ⟨⟨"GET", "/x", none, none⟩, [], ⟨"1", "GET", "/x"⟩⟩

/-- An answer that turns the token down. -/
def turnedDown : Http.Response :=
  ⟨403, [], bytes "\x7b\"error\":\"CSRF\"\x7d"⟩

/-- An answer that issues the token "v". -/
def issuing : Http.Response :=
  ⟨200, [], bytes "\x7b\"success\":true,\"token\":\"v\"\x7d"⟩

def fine : Http.Response :=
  ⟨200, [], []⟩

/-- Two writes are turned down before the first of them refreshes the token. -/
def overlap : List Move :=
  [.begin write, .begin write, .launch 0, .launch 1, .answer 0 turnedDown,
    .answer 1 turnedDown, .resume 0, .launch 0, .answer 0 issuing, .resume 0]

def rejectedRead : List Move :=
  [.begin read, .launch 0, .answer 0 turnedDown, .resume 0]

/-- A write is turned down, gets a token, and is turned down again. -/
def rejectedWrite : List Move :=
  [.begin write, .launch 0, .answer 0 turnedDown, .resume 0, .launch 0,
    .answer 0 issuing, .resume 0, .launch 0, .answer 0 turnedDown, .resume 0]

/-- A write is turned down, and cannot ask for a token. -/
def unfitWrite : List Move :=
  [.begin write, .launch 0, .answer 0 turnedDown, .resume 0, .launch 0,
    .resume 0]

/-- A write begins, and each of its requests is answered. -/
def exchanges (index : Nat) (answers : List Http.Response) : List Move :=
  .begin write :: answers.flatMap fun response =>
    [.launch index, .answer index response, .resume index]

/-- The requests of a call are answered one after another. -/
def answers (index : Nat) (responses : List Http.Response) : List Move :=
  responses.flatMap fun response =>
    [.launch index, .answer index response, .resume index]

/-- Both writes are sent again and answered. -/
def settled : List Move :=
  overlap ++ [.resume 1, .launch 0, .launch 1, .answer 0 fine, .answer 1 fine,
    .resume 0, .resume 1]

end AdminGate.Sample
