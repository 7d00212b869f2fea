import AdminGate.Proofs.TextForms
import AdminGate.Token.Cell

/-!
# What a store holds

After any operations, failing ones among them, a store holds the token that was
written last, in its clean form and with the origin that was given for it, unless it
has been dropped since.  A blank token is refused before anything is written; an
origin that has no name makes an operation fail when everything has been written.
A token is dropped by those who name it and by those who name none.
-/

namespace AdminGate.TokenStore

variable {store next : TokenStore} {given value : Json} {origin : Origin}
  {token : String}

/-- What can be done to a store. -/
inductive Operation where
  | remember (value : Json) (origin : Origin)
  | invalidate (expected : Json)

def Operation.steps : Operation → Steps (Option String)
  | remember value origin => some <$> TokenStore.remember value origin
  | invalidate expected => TokenStore.invalidate expected

/-- What an operation returns, or why it fails, and the store after it. -/
def perform (store : TokenStore) (operation : Operation) :
    Except TokenFault (Option String) × TokenStore :=
  match operation.steps store with
  | .ok result next => (.ok result, next)
  | .error cause next => (.error cause, next)

/-- The store after many operations, whatever they return. -/
def afterAll (store : TokenStore) (operations : List Operation) : TokenStore :=
  operations.foldl (fun store operation => (store.perform operation).2) store

/-- The operations that make a store of what is given for it. -/
def making (given : Json) : List Operation :=
  if given.isTruthy then [.remember given (.known .cached)] else []

/-! ## One operation -/

/-- The token that is held may be dropped by those who expect this. -/
def Meets (store : TokenStore) (expected : Json) : Prop :=
  expected = .null ∨ ∃ token, store.token = some token ∧ expected = .text token

theorem isExpected_iff {expected : Json} :
    isExpected store.token expected = true ↔ store.Meets expected := by
  cases expected with
  | text wanted =>
      constructor
      · intro expects
        exact .inr ⟨wanted, beq_iff_eq.mp expects, rfl⟩
      · rintro (null | ⟨token, held, same⟩)
        · cases null
        · cases same
          exact beq_iff_eq.mpr held
  | null | bool | int | float | array | object => simp [isExpected, Meets]

theorem remember_of_blank (blank : value.cleaned = "") (store : TokenStore)
    (origin : Origin) : remember value origin store = .error .blank store := by
  have refused : value.cleaned.isEmpty = true := by simp [blank]
  simp only [remember, refused, if_true]
  rfl

theorem remember_of_known (filled : value.cleaned ≠ "") (store : TokenStore)
    (provenance : Provenance) :
    remember value (.known provenance) store =
      .ok value.cleaned ⟨some value.cleaned, .known provenance⟩ := by
  have kept : value.cleaned.isEmpty = false := by simpa using filled
  simp only [remember, kept, Bool.false_eq_true, if_false]
  rfl

/-- What has no name makes the operation fail, but not before it has been written. -/
theorem remember_of_other (filled : value.cleaned ≠ "") (store : TokenStore)
    (nameless : Json) :
    remember value (.other nameless) store =
      .error (.nameless nameless) ⟨some value.cleaned, .other nameless⟩ := by
  have kept : value.cleaned.isEmpty = false := by simpa using filled
  simp only [remember, kept, Bool.false_eq_true, if_false]
  rfl

theorem perform_blank (blank : value.cleaned = "") (store : TokenStore)
    (origin : Origin) :
    store.perform (.remember value origin) = (.error .blank, store) := by
  simp only [perform, Operation.steps, Functor.map, EStateM.map, remember_of_blank blank]

theorem perform_known (filled : value.cleaned ≠ "") (store : TokenStore)
    (provenance : Provenance) :
    store.perform (.remember value (.known provenance)) =
      (.ok (some value.cleaned), ⟨some value.cleaned, .known provenance⟩) := by
  simp only [perform, Operation.steps, Functor.map, EStateM.map, remember_of_known filled]

theorem perform_other (filled : value.cleaned ≠ "") (store : TokenStore)
    (nameless : Json) :
    store.perform (.remember value (.other nameless)) =
      (.error (.nameless nameless), ⟨some value.cleaned, .other nameless⟩) := by
  simp only [perform, Operation.steps, Functor.map, EStateM.map, remember_of_other filled]

theorem perform_remember_snd (filled : value.cleaned ≠ "") (store : TokenStore)
    (origin : Origin) :
    (store.perform (.remember value origin)).2 = ⟨some value.cleaned, origin⟩ := by
  cases origin with
  | known provenance => rw [perform_known filled]
  | other nameless => rw [perform_other filled]

theorem perform_meets {expected : Json} (meets : store.Meets expected) :
    store.perform (.invalidate expected) = (.ok store.token, empty) := by
  have expects := isExpected_iff.mpr meets
  have steps : invalidate expected store = .ok store.token empty := by
    change (if !isExpected store.token expected then _ else _ : Steps _) store = _
    rw [expects]
    rfl
  rw [perform, Operation.steps, steps]

theorem perform_not_meets {expected : Json} (fails : ¬store.Meets expected) :
    store.perform (.invalidate expected) = (.ok none, store) := by
  have other : isExpected store.token expected = false :=
    Bool.eq_false_iff.mpr (mt isExpected_iff.mp fails)
  have steps : invalidate expected store = .ok none store := by
    change (if !isExpected store.token expected then _ else _ : Steps _) store = _
    rw [other]
    rfl
  rw [perform, Operation.steps, steps]

/-- An operation that does not touch a token that is held. -/
def Operation.Leaves (token : String) : Operation → Prop
  | .remember value _ => value.cleaned = ""
  | .invalidate expected => expected ≠ .null ∧ expected ≠ .text token

/-- After an operation a token is held that it has just written, or one that it has
left alone. -/
theorem perform_snd_eq_iff {operation : Operation} :
    (store.perform operation).2 = ⟨some token, origin⟩ ↔
      (∃ value, operation = .remember value origin ∧ value.cleaned = token ∧
        token ≠ "") ∨
      store = ⟨some token, origin⟩ ∧ operation.Leaves token := by
  cases operation with
  | remember value given =>
      by_cases blank : value.cleaned = ""
      · rw [perform_blank blank]
        constructor
        · exact fun same => .inr ⟨same, blank⟩
        · rintro (⟨_, same, clean, filled⟩ | ⟨same, _⟩)
          · cases same
            exact absurd (clean.symm.trans blank) filled
          · exact same
      · rw [perform_remember_snd blank]
        constructor
        · intro same
          cases same
          exact .inl ⟨value, rfl, rfl, blank⟩
        · rintro (⟨_, same, rfl, _⟩ | ⟨_, leaves⟩)
          · cases same
            rfl
          · exact absurd leaves blank
  | invalidate expected =>
      by_cases meets : store.Meets expected
      · rw [perform_meets meets]
        constructor
        · nofun
        · rintro (⟨_, same, _⟩ | ⟨same, asked, other⟩)
          · cases same
          · rcases meets with null | ⟨held, holds, rfl⟩
            · exact absurd null asked
            · rw [same] at holds
              exact absurd (congrArg Json.text (Option.some.inj holds).symm) other
      · rw [perform_not_meets meets]
        constructor
        · rintro rfl
          obtain ⟨asked, other⟩ := not_or.mp meets
          exact .inr ⟨rfl, asked, fun same => other ⟨token, rfl, same⟩⟩
        · rintro (⟨_, same, _⟩ | ⟨same, _⟩)
          · cases same
          · exact same

/-- A store that holds no token has no origin either. -/
def Settled (store : TokenStore) : Prop :=
  store.token = none → store = empty

theorem Settled.perform (settled : store.Settled) (operation : Operation) :
    (store.perform operation).2.Settled := by
  cases operation with
  | remember value origin =>
      by_cases blank : value.cleaned = ""
      · rwa [perform_blank blank]
      · rw [perform_remember_snd blank]
        nofun
  | invalidate expected =>
      by_cases meets : store.Meets expected
      · rw [perform_meets meets]
        exact fun _ => rfl
      · rwa [perform_not_meets meets]

/-! ## Many operations -/

/-- A token and its origin were written, and no operation has touched them since. -/
def Kept (history : List Operation) (token : String) (origin : Origin) : Prop :=
  ∃ earlier value later, history = earlier ++ .remember value origin :: later ∧
    value.cleaned = token ∧ token ≠ "" ∧ ∀ operation ∈ later, operation.Leaves token

theorem kept_concat_iff {history : List Operation} {operation : Operation} :
    Kept (history ++ [operation]) token origin ↔
      (∃ value, operation = .remember value origin ∧ value.cleaned = token ∧
        token ≠ "") ∨
      Kept history token origin ∧ operation.Leaves token := by
  constructor
  · rintro ⟨earlier, value, later, whole, clean, filled, untouched⟩
    rcases List.eq_nil_or_concat' later with rfl | ⟨front, last, rfl⟩
    · obtain ⟨_, same⟩ := List.append_inj' whole rfl
      exact .inl ⟨value, (List.cons.inj same).1, clean, filled⟩
    · rw [← List.cons_append, ← List.append_assoc] at whole
      obtain ⟨rfl, same⟩ := List.append_inj' whole rfl
      obtain ⟨before, after⟩ := List.forall_mem_append.mp untouched
      rw [(List.cons.inj same).1]
      exact .inr ⟨⟨earlier, value, front, rfl, clean, filled, before⟩,
        after last (List.mem_singleton_self last)⟩
  · rintro (⟨value, rfl, clean, filled⟩ |
      ⟨⟨earlier, value, later, rfl, clean, filled, untouched⟩, leaves⟩)
    · exact ⟨history, value, [], rfl, clean, filled, nofun⟩
    · refine ⟨earlier, value, later ++ [operation], by simp, clean, filled, ?_⟩
      exact List.forall_mem_append.mpr ⟨untouched, by simpa using leaves⟩

theorem afterAll_empty_eq_iff {history : List Operation} :
    empty.afterAll history = ⟨some token, origin⟩ ↔ Kept history token origin := by
  induction history using List.reverseRecOn with
  | nil =>
      constructor
      · nofun
      · rintro ⟨earlier, value, later, whole, _⟩
        simp at whole
  | append_singleton history operation ih =>
      rw [afterAll, List.foldl_concat, perform_snd_eq_iff, kept_concat_iff]
      exact or_congr_right (and_congr_left fun _ => ih)

theorem afterAll_empty_settled (history : List Operation) :
    (empty.afterAll history).Settled := by
  induction history using List.reverseRecOn with
  | nil => exact fun _ => rfl
  | append_singleton history operation ih =>
      rw [afterAll, List.foldl_concat]
      exact ih.perform operation

/-- A store is made of what is given for it by remembering that, unless it does not
count as a token. -/
theorem make?_eq (given : Json) :
    (given.isTruthy = true ∧ given.cleaned = "" ∧ make? given = .error .blank) ∨
      ¬(given.isTruthy = true ∧ given.cleaned = "") ∧
        make? given = .ok (empty.afterAll (making given)) := by
  unfold make? making
  cases truthy : given.isTruthy with
  | false => exact .inr ⟨by simp, rfl⟩
  | true =>
      by_cases blank : given.cleaned = ""
      · exact .inl ⟨rfl, blank, by simp [remember_of_blank blank]⟩
      · refine .inr ⟨by simp [blank], ?_⟩
        simp [afterAll, remember_of_known blank, perform_known blank]

/-- What a store says about itself: that it holds no token and no origin, or what
was kept last, which is not blank and has no blanks around it. -/
inductive Holds (history : List Operation) (store : TokenStore) : Prop where
  | nothing : store.token = none → store.origin = .absent → store.hasToken = false →
      (∀ token origin, ¬Kept history token origin) → Holds history store
  | kept {token : String} {origin : Origin} : store.token = some token →
      store.origin = origin → store.hasToken = true →
      token ≠ "" → Text.Trimmed token.toList →
      Kept history token origin → Holds history store

theorem trimmed_of_kept {history : List Operation}
    (kept : Kept history token origin) : Text.Trimmed token.toList := by
  obtain ⟨_, value, _, _, rfl, _, _⟩ := kept
  rw [← Json.trimmed_cleaned, Text.trimmed, String.toList_ofList]
  exact Text.trimmed_trim _

theorem afterAll_empty_holds (history : List Operation) :
    Holds history (empty.afterAll history) := by
  cases held : (empty.afterAll history).token with
  | none =>
      have none := afterAll_empty_settled history held
      rw [none]
      refine .nothing rfl rfl rfl fun token origin kept => ?_
      rw [afterAll_empty_eq_iff.mpr kept] at none
      cases none
  | some token =>
      have whole : empty.afterAll history =
          ⟨some token, (empty.afterAll history).origin⟩ := by
        rw [← held]
      have kept := afterAll_empty_eq_iff.mp whole
      have filled : token ≠ "" := by
        obtain ⟨_, _, _, _, _, filled, _⟩ := kept
        exact filled
      refine .kept held rfl ?_ filled (trimmed_of_kept kept) kept
      simp [hasToken, held, filled]

/-- What the operations return and leave behind, whatever a store holds. -/
structure Operates (store : TokenStore) : Prop where
  blank : ∀ value origin, value.cleaned = "" →
    store.perform (.remember value origin) = (.error .blank, store)
  known : ∀ value provenance, value.cleaned ≠ "" →
    store.perform (.remember value (.known provenance)) =
      (.ok (some value.cleaned), ⟨some value.cleaned, .known provenance⟩)
  other : ∀ value nameless, value.cleaned ≠ "" →
    store.perform (.remember value (.other nameless)) =
      (.error (.nameless nameless), ⟨some value.cleaned, .other nameless⟩)
  meets : ∀ expected, store.Meets expected →
    store.perform (.invalidate expected) = (.ok store.token, empty)
  fails : ∀ expected, ¬store.Meets expected →
    store.perform (.invalidate expected) = (.ok none, store)
  /-- Whoever has remembered a text drops it by what that has returned. -/
  undone : ∀ text origin token next,
    store.perform (.remember (.text text) origin) = (.ok (some token), next) →
      token = Text.trimmed text ∧
        next.perform (.invalidate (.text token)) =
          (.ok (some (Text.trimmed text)), empty)

theorem operates (store : TokenStore) : Operates store where
  blank value origin blank := perform_blank blank store origin
  known value provenance filled := perform_known filled store provenance
  other value nameless filled := perform_other filled store nameless
  meets expected := perform_meets
  fails expected := perform_not_meets
  undone := by
    intro text origin token next remembered
    by_cases blank : (Json.text text).cleaned = ""
    · rw [perform_blank blank] at remembered
      cases remembered
    cases origin with
    | known provenance =>
        rw [perform_known blank] at remembered
        cases remembered
        have meets : TokenStore.Meets
            ⟨some (Json.text text).cleaned, .known provenance⟩
            (.text (Json.text text).cleaned) := .inr ⟨_, rfl, rfl⟩
        rw [perform_meets meets, Json.cleaned_text]
        exact ⟨rfl, rfl⟩
    | other nameless =>
        rw [perform_other blank] at remembered
        cases remembered

/-! ## Token and origin as one -/

/-- An operation that names a known origin, if it names any. -/
def Operation.Named : Operation → Prop
  | .remember _ origin => ∃ provenance, origin = .known provenance
  | .invalidate _ => True

theorem Kept.exists_known {history : List Operation}
    (named : ∀ operation ∈ history, operation.Named)
    (kept : Kept history token origin) : ∃ provenance, origin = .known provenance := by
  obtain ⟨earlier, value, later, rfl, _⟩ := kept
  exact named (.remember value origin) (by simp)

theorem named_making (given : Json) : ∀ operation ∈ making given, operation.Named := by
  unfold making
  split
  · exact List.forall_mem_singleton.mpr ⟨_, rfl⟩
  · exact List.forall_mem_nil _

/-- Where all origins are known, the entries of the store are those of a cell. -/
theorem Holds.exists_cell {history : List Operation} (holds : Holds history store)
    (named : ∀ operation ∈ history, operation.Named) :
    ∃ cell : TokenCell, store = cell.store := by
  obtain ⟨held, origin⟩ := store
  cases holds with
  | nothing none absent =>
      cases none
      cases absent
      exact ⟨.empty, rfl⟩
  | @kept token _ some same _ _ _ kept =>
      cases some
      cases same
      obtain ⟨provenance, rfl⟩ := kept.exists_known named
      exact ⟨⟨Option.some ⟨token, provenance⟩⟩, rfl⟩

/-- The expectation that a value stands for. -/
def expectation? : Json → Option Json
  | .null => none
  | value => some value

/-- A cell does what the store with its entries does. -/
structure Follows (cell : TokenCell) : Prop where
  remember : ∀ value provenance,
    cell.store.perform (.remember value (.known provenance)) =
      match cell.remember value provenance with
      | .ok (next, token) => (.ok (some token), next.store)
      | .error cause => (.error cause, cell.store)
  invalidate : ∀ expected,
    cell.store.perform (.invalidate expected) =
      (.ok (cell.invalidate (expectation? expected)).2,
        (cell.invalidate (expectation? expected)).1.store)
  hasToken : (∀ held, cell.held = some held → held.text ≠ "") →
    cell.store.hasToken = cell.hasToken

theorem follows (cell : TokenCell) : Follows cell where
  remember := by
    intro value provenance
    by_cases blank : value.cleaned = ""
    · simp [perform_blank blank, TokenCell.remember, blank]
    · simp [perform_known blank, TokenCell.remember, blank, TokenCell.store,
        TokenCell.token?, TokenCell.provenance?]
  invalidate := by
    intro expected
    by_cases meets : cell.store.Meets expected
    · rw [perform_meets meets]
      rcases meets with rfl | ⟨token, held, rfl⟩
      · rfl
      · have there : cell.token? = some token := held
        simp [expectation?, TokenCell.invalidate, Json.text?, there, TokenCell.store]
        rfl
    · rw [perform_not_meets meets]
      have kept : cell.invalidate (expectation? expected) = (cell, none) := by
        obtain ⟨asked, other⟩ := not_or.mp meets
        cases expected with
        | null => exact absurd rfl asked
        | text wanted =>
            cases held : cell.token? with
            | none => simp [expectation?, TokenCell.invalidate, held]
            | some token =>
                have unlike : wanted ≠ token :=
                  fun same => other ⟨token, held, same ▸ rfl⟩
                simp [expectation?, TokenCell.invalidate, Json.text?, held, unlike]
        | bool | int | float | array | object =>
            simp [expectation?, TokenCell.invalidate, Json.text?]
      rw [kept]
  hasToken := by
    intro filled
    obtain ⟨_ | held⟩ := cell
    · rfl
    · have text := filled held rfl
      simp [TokenCell.store, TokenCell.token?, TokenStore.hasToken, TokenCell.hasToken, text]

end AdminGate.TokenStore
