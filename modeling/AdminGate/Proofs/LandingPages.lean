import AdminGate.Proofs.PermissionAnswers

/-!
# Where an admin lands

The page to show is the current one if it may be opened, otherwise the first of
the table that may be.  What "may be opened" means here is being among the
accessible pages, which are pages of the table; the question about a single page
is more generous, as a page outside the table is open to everyone.  So an admin
is moved away from such a page although it is open.
-/

namespace AdminGate

namespace PermissionEngine

variable {engine : PermissionEngine} {page : String} {pages : List String}
  {landing : Option String}

/-! ## The first page that may be opened -/

/-- The first of some pages that an engine lets the admin open, none if there is
none: every page passed over is one that may not be opened. -/
inductive FirstOpen (engine : PermissionEngine) :
    List String → Option String → Prop where
  | none : FirstOpen engine [] none
  | here {page : String} (rest : List String) :
      engine.canAccessPage page = some true →
      FirstOpen engine (page :: rest) (some page)
  | there {page : String} {rest : List String} {landing : Option String} :
      engine.canAccessPage page ≠ some true →
      FirstOpen engine rest landing →
      FirstOpen engine (page :: rest) landing

theorem FirstOpen.filter_head? :
    FirstOpen engine pages
      (pages.filter fun page => engine.canAccessPage page == some true).head? := by
  induction pages with
  | nil => exact .none
  | cons first rest ih =>
      by_cases granted : engine.canAccessPage first = some true
      · rw [List.filter_cons_of_pos (by simp [granted])]
        exact .here rest granted
      · rw [List.filter_cons_of_neg (by simp [granted])]
        exact .there granted ih

theorem FirstOpen.unique {other : Option String}
    (first : FirstOpen engine pages landing)
    (second : FirstOpen engine pages other) : landing = other := by
  induction first with
  | none =>
      cases second
      rfl
  | here rest granted =>
      cases second with
      | here => rfl
      | there denied => exact absurd granted denied
  | there denied _ ih =>
      cases second with
      | here _ granted => exact absurd granted denied
      | there _ later => exact ih later

theorem head?_accessiblePages_iff :
    engine.accessiblePages.head? = landing ↔
      FirstOpen engine pageKeys landing := by
  constructor
  · rintro rfl
    exact .filter_head?
  · exact fun first => FirstOpen.filter_head?.unique first

/-! ## Staying and moving -/

theorem empty_not_mem_pageKeys : "" ∉ pageKeys := by
  decide

/-- A current page is stayed on when it is among the accessible ones. -/
theorem landingPage_of_mem (member : page ∈ engine.accessiblePages) :
    engine.landingPage (some page) = some page := by
  have filled : page ≠ "" := by
    rintro rfl
    exact empty_not_mem_pageKeys (mem_accessiblePages_iff.mp member).1
  simp [landingPage, filled, member]

theorem landingPage_of_not_mem (outside : page ∉ engine.accessiblePages) :
    engine.landingPage (some page) = engine.accessiblePages.head? := by
  simp [landingPage, outside]

theorem landingPage_mem {current : Option String}
    (lands : engine.landingPage current = some page) :
    page ∈ engine.accessiblePages := by
  have first (begins : engine.accessiblePages.head? = some page) :
      page ∈ engine.accessiblePages := List.mem_of_mem_head? begins
  cases current with
  | none => exact first lands
  | some asked =>
      by_cases member : asked ∈ engine.accessiblePages
      · rw [landingPage_of_mem member] at lands
        exact Option.some.inj lands ▸ member
      · rw [landingPage_of_not_mem member] at lands
        exact first lands

theorem landingPage_eq_self_iff :
    engine.landingPage (some page) = some page ↔
      page ∈ engine.accessiblePages :=
  ⟨landingPage_mem, landingPage_of_mem⟩

/-! ## What can be said of the page -/

/-- How an engine chooses the page to land on. -/
structure LandsInTable (engine : PermissionEngine) : Prop where
  /-- The page is one of the table, and it may be opened. -/
  allowed : ∀ current page, engine.landingPage current = some page →
    page ∈ pageKeys ∧ engine.canAccessPage page = some true
  stays : ∀ page, engine.landingPage (some page) = some page ↔
    page ∈ pageKeys ∧ engine.canAccessPage page = some true
  moves : ∀ page landing, engine.landingPage (some page) ≠ some page →
    (engine.landingPage (some page) = landing ↔
      FirstOpen engine pageKeys landing)
  starts : ∀ landing, engine.landingPage none = landing ↔
    FirstOpen engine pageKeys landing
  /-- The pages that are left although they may be opened are those outside the
  table. -/
  leaves : ∀ page,
    engine.landingPage (some page) ≠ some page ∧
        engine.canAccessPage page = some true ↔
      page ∉ pageKeys ∧ engine.isDecided = true

/-- A page outside the table is open as soon as the identity is settled. -/
theorem canAccessPage_of_not_mem (outside : page ∉ pageKeys) :
    engine.canAccessPage page = some true ↔ engine.isDecided = true := by
  simp [canAccessPage_iff, outside]

/-- An engine lands on pages of the table only, on the current page if it is one
of those that may be opened, else on the first of these. -/
theorem landingPage_inTable (engine : PermissionEngine) : LandsInTable engine := by
  have stays (page : String) : engine.landingPage (some page) = some page ↔
      page ∈ pageKeys ∧ engine.canAccessPage page = some true := by
    rw [landingPage_eq_self_iff, mem_accessiblePages_iff]
  have leaves (page : String) : engine.landingPage (some page) ≠ some page ∧
      engine.canAccessPage page = some true ↔
        page ∉ pageKeys ∧ engine.isDecided = true := by
    by_cases member : page ∈ pageKeys
    · simp [stays, member]
    · simp [stays, member, canAccessPage_of_not_mem]
  refine ⟨?_, stays, ?_, fun _ => head?_accessiblePages_iff, leaves⟩
  · intro current page lands
    exact mem_accessiblePages_iff.mp (landingPage_mem lands)
  · intro page landing moved
    rw [landingPage_of_not_mem (fun member => moved (landingPage_of_mem member)),
      head?_accessiblePages_iff]

/-- Everyone may open the page of the reports, but the clerk is moved away from it
to the orders. -/
theorem landingPage_leaves_openPage :
    ¬ ∀ (engine : PermissionEngine) (page : String),
      engine.isDecided = true → page ≠ "" →
        (engine.landingPage (some page) = some page ↔
          engine.canAccessPage page = some true) := by
  intro respects
  have granted : Sample.clerk.canAccessPage "reports" = some true := by
    decide
  have stays := (respects Sample.clerk "reports" (by decide) (by decide)).mpr
    granted
  have moved : Sample.clerk.landingPage (some "reports") = some "orders" := by
    decide
  rw [moved] at stays
  exact absurd stays (by decide)

end PermissionEngine

end AdminGate
