import Mathlib.Data.List.Basic
import AdminGate.Guard.Criteria
import AdminGate.Permission.Query

/-!
# Permission answers fit together

Each question to an engine has an answer as soon as the identity is settled, and
then the answer is read off two things: the override and the permissions held.
So the questions agree with each other, and whoever holds more is granted more.
-/

namespace AdminGate

/-! ## The table of pages -/

theorem nodup_pageKeys : pageKeys.Nodup := by
  decide

theorem pagePermissions_eq_nil_iff (page : String) :
    pagePermissions page = [] ↔ page ∉ pageKeys := by
  constructor
  · intro empty member
    have filled : ∀ page ∈ pageKeys, pagePermissions page ≠ [] := by
      decide
    exact filled page member empty
  · intro outside
    have missing : pageTable.lookup page = none := by
      rw [List.lookup_eq_none_iff]
      intro entry member
      exact bne_iff_ne.mpr fun same =>
        outside (same ▸ List.mem_map_of_mem member)
    simp [pagePermissions, missing]

theorem mayOpenPage_iff {page : String} {permissions : List String}
    {isSuperAdmin : Bool} :
    mayOpenPage page permissions isSuperAdmin = true ↔
      isSuperAdmin = true ∨ page ∉ pageKeys ∨
        ∃ permission ∈ pagePermissions page, permission ∈ permissions := by
  simp only [mayOpenPage, Bool.or_eq_true, List.isEmpty_iff,
    pagePermissions_eq_nil_iff, List.any_eq_true, List.contains_iff_mem,
    or_assoc]

namespace PermissionEngine

variable {engine first second : PermissionEngine} {permission page : String}
  {permissions : List String}

/-! ## Reading answers -/

theorem whenDecided_eq_none_iff {answer : Bool} :
    engine.whenDecided answer = none ↔ engine.isDecided = false := by
  unfold whenDecided
  cases engine.isDecided <;> simp

theorem whenDecided_eq_true_iff {answer : Bool} :
    engine.whenDecided answer = some true ↔
      engine.isDecided = true ∧ answer = true := by
  unfold whenDecided
  cases engine.isDecided <;> simp

theorem hasPermission_iff :
    engine.hasPermission permission = some true ↔
      engine.isDecided = true ∧
        (engine.isSuperAdmin = true ∨ permission ∈ engine.permissions) := by
  simp [hasPermission, whenDecided_eq_true_iff, holds]

theorem hasAny_iff :
    engine.hasAny permissions = some true ↔
      engine.isDecided = true ∧ (engine.isSuperAdmin = true ∨
        ∃ permission ∈ permissions, permission ∈ engine.permissions) := by
  simp [hasAny, whenDecided_eq_true_iff, holds]

theorem hasAll_iff :
    engine.hasAll permissions = some true ↔
      engine.isDecided = true ∧ (engine.isSuperAdmin = true ∨
        ∀ permission ∈ permissions, permission ∈ engine.permissions) := by
  simp [hasAll, whenDecided_eq_true_iff, holds]

theorem canAccessPage_iff :
    engine.canAccessPage page = some true ↔
      engine.isDecided = true ∧ (engine.isSuperAdmin = true ∨
        page ∉ pageKeys ∨ ∃ permission ∈ pagePermissions page,
          permission ∈ engine.permissions) := by
  rw [canAccessPage, whenDecided_eq_true_iff, mayOpenPage_iff]

theorem mem_accessiblePages_iff :
    page ∈ engine.accessiblePages ↔
      page ∈ pageKeys ∧ engine.canAccessPage page = some true := by
  rw [accessiblePages, List.mem_filter, beq_iff_eq]

/-! ## Engines with the same answers -/

/-- Two engines answer all questions about permissions, and all guards, alike. -/
structure AnswersAlike (first second : PermissionEngine) : Prop where
  hasPermission : ∀ permission,
    first.hasPermission permission = second.hasPermission permission
  hasAny : ∀ permissions, first.hasAny permissions = second.hasAny permissions
  hasAll : ∀ permissions, first.hasAll permissions = second.hasAll permissions
  canAccessPage : ∀ page,
    first.canAccessPage page = second.canAccessPage page
  accessiblePages : first.accessiblePages = second.accessiblePages
  landingPage : ∀ current,
    first.landingPage current = second.landingPage current
  evaluate : ∀ criteria : Criteria,
    criteria.evaluate first = criteria.evaluate second

theorem answersAlike (decided : first.isDecided = second.isDecided)
    (override : first.isSuperAdmin = second.isSuperAdmin)
    (permissions : first.permissions = second.permissions) :
    AnswersAlike first second := by
  have settled (answer : Bool) :
      first.whenDecided answer = second.whenDecided answer := by
    rw [whenDecided, whenDecided, decided]
  have holds : first.holds = second.holds := by
    funext permission
    rw [PermissionEngine.holds, PermissionEngine.holds, permissions]
  have pages (page : String) :
      first.canAccessPage page = second.canAccessPage page := by
    rw [canAccessPage, canAccessPage, settled, permissions, override]
  have accessible : first.accessiblePages = second.accessiblePages := by
    simp only [accessiblePages, pages]
  have one (permission : String) :
      first.hasPermission permission = second.hasPermission permission := by
    rw [hasPermission, hasPermission, settled, override, holds]
  have any (permissions : List String) :
      first.hasAny permissions = second.hasAny permissions := by
    rw [hasAny, hasAny, settled, override, holds]
  have all (permissions : List String) :
      first.hasAll permissions = second.hasAll permissions := by
    rw [hasAll, hasAll, settled, override, holds]
  refine ⟨one, any, all, pages, accessible, ?_, ?_⟩
  · intro current
    simp only [landingPage, accessible]
  · intro criteria
    simp only [Criteria.evaluate, decided, one, any, all]

/-! ## Questions about one engine -/

/-- The answers of an engine fit together. -/
structure Coherent (engine : PermissionEngine) : Prop where
  hasPermission_open : ∀ permission,
    engine.hasPermission permission = none ↔ engine.isDecided = false
  hasAny_open : ∀ permissions,
    engine.hasAny permissions = none ↔ engine.isDecided = false
  hasAll_open : ∀ permissions,
    engine.hasAll permissions = none ↔ engine.isDecided = false
  canAccessPage_open : ∀ page,
    engine.canAccessPage page = none ↔ engine.isDecided = false
  any : engine.isDecided = true → engine.isSuperAdmin = false →
    ∀ permissions, engine.hasAny permissions = some true ↔
      ∃ permission ∈ permissions, engine.hasPermission permission = some true
  all : engine.isDecided = true → engine.isSuperAdmin = false →
    ∀ permissions, engine.hasAll permissions = some true ↔
      ∀ permission ∈ permissions, engine.hasPermission permission = some true
  any_append : ∀ front back, engine.hasAny (front ++ back) = some true ↔
    engine.hasAny front = some true ∨ engine.hasAny back = some true
  all_append : ∀ front back, engine.hasAll (front ++ back) = some true ↔
    engine.hasAll front = some true ∧ engine.hasAll back = some true
  page : engine.isDecided = true → ∀ page,
    engine.canAccessPage page = some true ↔
      page ∉ pageKeys ∨ engine.hasAny (pagePermissions page) = some true
  override : engine.isDecided = true → engine.isSuperAdmin = true →
    (∀ permission, engine.hasPermission permission = some true) ∧
      (∀ permissions, engine.hasAny permissions = some true) ∧
      (∀ permissions, engine.hasAll permissions = some true) ∧
      ∀ page, engine.canAccessPage page = some true
  /-- The accessible pages are those of the table that may be opened, each of
  them once and in its order. -/
  pages_sublist : engine.accessiblePages.Sublist pageKeys
  pages_nodup : engine.accessiblePages.Nodup
  mem_pages : ∀ page, page ∈ engine.accessiblePages ↔
    page ∈ pageKeys ∧ engine.canAccessPage page = some true
  /-- Without an identity the engine answers as one for somebody who holds
  nothing and overrides nothing. -/
  nobody : engine.identity = none → ∀ other : PermissionEngine,
    other.isDecided = engine.isDecided → other.permissions = [] →
      other.isSuperAdmin = false → AnswersAlike engine other

theorem coherent (engine : PermissionEngine) : Coherent engine where
  hasPermission_open := fun _ => whenDecided_eq_none_iff
  hasAny_open := fun _ => whenDecided_eq_none_iff
  hasAll_open := fun _ => whenDecided_eq_none_iff
  canAccessPage_open := fun _ => whenDecided_eq_none_iff
  any := by
    intro decided plain permissions
    simp [hasAny_iff, hasPermission_iff, decided, plain]
  all := by
    intro decided plain permissions
    simp [hasAll_iff, hasPermission_iff, decided, plain]
  any_append := by
    intro front back
    simp only [hasAny_iff, List.mem_append, or_and_right, exists_or]
    rw [← and_or_left, or_or_distrib_left]
  all_append := by
    intro front back
    simp only [hasAll_iff, List.forall_mem_append]
    tauto
  page := by
    intro decided page
    simp only [canAccessPage_iff, hasAny_iff, decided, true_and]
    tauto
  override := by
    intro decided override
    simp [hasPermission_iff, hasAny_iff, hasAll_iff, canAccessPage_iff, decided,
      override]
  pages_sublist := List.filter_sublist
  pages_nodup := nodup_pageKeys.sublist List.filter_sublist
  mem_pages := fun _ => mem_accessiblePages_iff
  nobody := by
    intro missing other decided permissions plain
    apply answersAlike decided.symm
    · rw [plain, isSuperAdmin, missing, Option.any_none]
    · rw [permissions, PermissionEngine.permissions, missing]
      rfl

/-! ## Holding more -/

/-- Whatever the first engine grants, the second one grants too. -/
structure GrantsWithin (first second : PermissionEngine) : Prop where
  answer : ∀ query, first.answer query = .verdict (some true) →
    second.answer query = .verdict (some true)
  evaluate : ∀ criteria : Criteria, criteria.evaluate first = some true →
    criteria.evaluate second = some true
  accessiblePages : first.accessiblePages.Sublist second.accessiblePages

/-- What the first engine reads its answers off, the second one has too. -/
structure HoldsWithin (first second : PermissionEngine) : Prop where
  decided : second.isDecided = true
  permissions : first.permissions ⊆ second.permissions
  override : first.isSuperAdmin = true → second.isSuperAdmin = true

namespace HoldsWithin

variable (within : HoldsWithin first second)
include within

theorem hasPermission (granted : first.hasPermission permission = some true) :
    second.hasPermission permission = some true := by
  rw [hasPermission_iff] at granted ⊢
  exact ⟨within.decided,
    granted.2.imp within.override fun held => within.permissions held⟩

theorem hasAny (granted : first.hasAny permissions = some true) :
    second.hasAny permissions = some true := by
  rw [hasAny_iff] at granted ⊢
  refine ⟨within.decided, granted.2.imp within.override ?_⟩
  rintro ⟨permission, asked, held⟩
  exact ⟨permission, asked, within.permissions held⟩

theorem hasAll (granted : first.hasAll permissions = some true) :
    second.hasAll permissions = some true := by
  rw [hasAll_iff] at granted ⊢
  refine ⟨within.decided, granted.2.imp within.override ?_⟩
  exact fun held permission asked => within.permissions (held permission asked)

theorem canAccessPage (granted : first.canAccessPage page = some true) :
    second.canAccessPage page = some true := by
  rw [canAccessPage_iff] at granted ⊢
  refine ⟨within.decided, granted.2.imp within.override (.imp_right ?_)⟩
  rintro ⟨permission, required, held⟩
  exact ⟨permission, required, within.permissions held⟩

theorem accessiblePages :
    first.accessiblePages.Sublist second.accessiblePages := by
  apply List.monotone_filter_right
  intro page granted
  rw [beq_iff_eq] at granted ⊢
  exact within.canAccessPage granted

theorem evaluate {criteria : Criteria}
    (granted : criteria.evaluate first = some true) :
    criteria.evaluate second = some true := by
  have settled : first.isDecided = true := by
    by_contra undecided
    simp [Criteria.evaluate, undecided] at granted
  simp only [Criteria.evaluate, settled, within.decided, Bool.not_true,
    Bool.false_eq_true, if_false] at granted ⊢
  cases single : criteria.single? with
  | some permission =>
      simp only [single] at granted ⊢
      exact within.hasPermission granted
  | none =>
      cases anyOf : criteria.anyOf with
      | cons asked others =>
          simp only [single, anyOf] at granted ⊢
          exact within.hasAny granted
      | nil =>
          cases allOf : criteria.allOf with
          | cons asked others =>
              simp only [single, anyOf, allOf] at granted ⊢
              exact within.hasAll granted
          | nil => rfl

theorem answer {query : Query}
    (granted : first.answer query = .verdict (some true)) :
    second.answer query = .verdict (some true) := by
  cases query with
  | isDecided => simpa [PermissionEngine.answer] using within.decided
  | isSuperAdmin =>
      have override : first.isSuperAdmin = true := by
        simpa [PermissionEngine.answer] using granted
      simpa [PermissionEngine.answer] using within.override override
  | hasPermission permission =>
      exact congrArg _ (within.hasPermission (QueryAnswer.verdict.inj granted))
  | hasAny permissions =>
      exact congrArg _ (within.hasAny (QueryAnswer.verdict.inj granted))
  | hasAll permissions =>
      exact congrArg _ (within.hasAll (QueryAnswer.verdict.inj granted))
  | canAccessPage page =>
      exact congrArg _ (within.canAccessPage (QueryAnswer.verdict.inj granted))
  | permissions | identity | state | accessiblePages | landingPage current =>
      cases granted

end HoldsWithin

/-- The answers of every engine fit together, and whoever holds more is granted
more: what is true for one engine is true for every settled one that has its
permissions and its override. -/
theorem answers_coherent (engine : PermissionEngine) :
    Coherent engine ∧ ∀ other : PermissionEngine, other.isDecided = true →
      engine.permissions ⊆ other.permissions →
      (engine.isSuperAdmin = true → other.isSuperAdmin = true) →
        GrantsWithin engine other := by
  refine ⟨coherent engine, ?_⟩
  intro other decided permissions override
  have within : HoldsWithin engine other := ⟨decided, permissions, override⟩
  exact ⟨fun _ => within.answer, fun _ => within.evaluate,
    within.accessiblePages⟩

end PermissionEngine

/-- An engine for somebody who has been loaded and holds one permission. -/
def Sample.clerk : PermissionEngine :=
  ⟨.loaded (some ⟨"clerk", "", ["order:view"], false⟩), false⟩

/-- An engine for somebody who has been kept after a failed load and holds one
more. -/
def Sample.keeper : PermissionEngine :=
  ⟨.failed "late" (some ⟨"keeper", "", ["role:view", "order:view"], false⟩),
    false⟩

namespace PermissionEngine

/-- The second engine grants what the first one grants, and opens one page more. -/
theorem answers_coherent_clerk :
    Sample.clerk.isDecided = true ∧ Sample.keeper.isDecided = true ∧
      Sample.clerk.permissions ⊆ Sample.keeper.permissions ∧
      Sample.clerk.accessiblePages = ["orders"] ∧
      Sample.keeper.accessiblePages = ["orders", "users"] ∧
      Coherent Sample.clerk ∧ GrantsWithin Sample.clerk Sample.keeper := by
  obtain ⟨coherent, within⟩ := answers_coherent Sample.clerk
  have held : Sample.clerk.permissions ⊆ Sample.keeper.permissions := by
    decide
  exact ⟨by decide, by decide, held, by decide, by decide, coherent,
    within Sample.keeper (by decide) held (by decide)⟩

end PermissionEngine

end AdminGate
