import AdminGate.Identity.Basic
import AdminGate.Proofs.DistinctTexts
import AdminGate.Proofs.PermissionAnswers

/-!
# Where privileges come from

The payload of an identity is loosely typed, but privileges are not read into
just any value.  The override comes from a truth value, from the number one or
from a word for it; a page of the table is opened by a text that names one of its
permissions.  The text form of a number, a truth value, a list or an object does
neither.
-/

namespace AdminGate.Identity

variable {payload : Fields} {page permission : String} {items : List Json}

/-! ## The override -/

/-- A flag that is no truth value is read through its text form if it counts as
true. -/
theorem overrideFlag_eq (value : Json) (loose : ∀ flag, value ≠ .bool flag) :
    overrideFlag value = (value.isTruthy && Lenient.isOn value.display) := by
  have read : overrideFlag value =
      if value.cleaned.isEmpty then false
      else Lenient.isOn value.cleaned.toList := by
    cases value with
    | bool flag => exact absurd rfl (loose flag)
    | _ => rfl
  have nothing : Lenient.isOn [] = false := by decide
  rw [read, Json.cleaned]
  cases value.isTruthy with
  | false => rfl
  | true =>
      have whole := Lenient.isOn_trim value.display
      cases shown : Text.trim value.display with
      | nil =>
          rw [shown, nothing] at whole
          simp [← whole]
      | cons first rest =>
          rw [shown] at whole
          simp [whole]

theorem overrideFlag_iff (value : Json) :
    overrideFlag value = true ↔
      value = .bool true ∨ value = .int 1 ∨
        ∃ word, value = .text word ∧
          Text.lowercased (Text.trimmed word) ∈ Lenient.onWords := by
  cases value with
  | bool flag => simp [overrideFlag]
  | null => simp [overrideFlag_eq, Json.isTruthy]
  | int number =>
      have read : overrideFlag (.int number) = true ↔
          number ≠ 0 ∧ Lenient.isOn (Text.integerText number) = true := by
        rw [overrideFlag_eq (.int number) (by simp), Bool.and_eq_true]
        simp [Json.isTruthy, Json.display, Json.inner]
      rw [read, Lenient.isOn_integerText]
      simp
      omega
  | float number =>
      have off : Lenient.isOn (Json.float number).display = false :=
        Lenient.isOn_double number
      simp [overrideFlag_eq, off]
  | text word =>
      have read : overrideFlag (.text word) = Lenient.isOn word.toList := by
        rw [overrideFlag_eq (.text word) (by simp)]
        cases empty : word.isEmpty with
        | true =>
            rw [String.isEmpty_iff.mp empty]
            decide
        | false => simp [Json.isTruthy, Json.display, empty]
      rw [read, Lenient.isOn_iff]
      simp
  | array items =>
      have off : Lenient.isOn (Json.array items).display = false :=
        Lenient.isOn_of_bracket (by decide) _
      simp [overrideFlag_eq, off]
  | object fields =>
      have off : Lenient.isOn (Json.object fields).display = false :=
        Lenient.isOn_of_bracket (by decide) _
      simp [overrideFlag_eq, off]

/-! ## The permissions -/

theorem mem_permissionList_iff {value : Json} :
    permission ∈ permissionList value ↔
      ∃ items, value = .array items ∧
        permission ∈ items.map Json.cleaned ∧ permission ≠ "" := by
  cases value with
  | array items => simp [permissionList, Lenient.mem_distinctTexts]
  | _ => simp [permissionList]

/-- A permission that opens a page begins with a small letter and has a colon
further on. -/
theorem pagePermissions_shape (known : page ∈ pageKeys)
    (required : permission ∈ pagePermissions page) :
    permission.toList.head?.any Char.isLower = true ∧
      ':' ∈ permission.toList ∧ permission ≠ "" := by
  have table : ∀ page ∈ pageKeys, ∀ permission ∈ pagePermissions page,
      permission.toList.head?.any Char.isLower = true ∧
        ':' ∈ permission.toList ∧ permission ≠ "" := by
    decide
  exact table page known permission required

theorem opens_iff (known : page ∈ pageKeys) :
    (∃ permission ∈ pagePermissions page,
      permission ∈ permissionList (.array items)) ↔
      ∃ name, .text name ∈ items ∧ Text.trimmed name ∈ pagePermissions page := by
  constructor
  · rintro ⟨permission, required, held⟩
    obtain ⟨letter, colon, _⟩ := pagePermissions_shape known required
    obtain ⟨_, same, form, _⟩ := mem_permissionList_iff.mp held
    cases same
    obtain ⟨value, member, rfl⟩ := List.mem_map.mp form
    obtain ⟨name, rfl⟩ := Json.exists_text_of_cleaned letter colon
    rw [Json.cleaned_text] at required
    exact ⟨name, member, required⟩
  · rintro ⟨name, member, required⟩
    obtain ⟨_, _, notBlank⟩ := pagePermissions_shape known required
    refine ⟨_, required, mem_permissionList_iff.mpr ⟨items, rfl, ?_, notBlank⟩⟩
    rw [← Json.cleaned_text]
    exact List.mem_map_of_mem member

/-! ## Privileges of a payload -/

/-- A payload lists a text that names a permission of a page. -/
def Opens (payload : Fields) (page : String) : Prop :=
  ∃ items name, payload.get? "permissions" = some (.array items) ∧
    .text name ∈ items ∧ Text.trimmed name ∈ pagePermissions page

/-- The privileges of an identity are those that fields of the right kind give. -/
structure Privileged (payload : Fields) (identity : Identity) : Prop where
  override : identity.isSuperAdmin = true ↔
    payload.get? "is_super_admin" = some (.bool true) ∨
      payload.get? "is_super_admin" = some (.int 1) ∨
      ∃ word, payload.get? "is_super_admin" = some (.text word) ∧
        Text.lowercased (Text.trimmed word) ∈ ["1", "true", "yes", "y", "on"]
  permissions :
    (∀ items, payload.get? "permissions" ≠ some (.array items)) →
      identity.permissions = []
  mayOpenPage : identity.isSuperAdmin = false → ∀ page ∈ pageKeys,
    (AdminGate.mayOpenPage page identity.permissions identity.isSuperAdmin =
      true ↔ Opens payload page)
  /-- An engine whose identity is settled opens the same pages. -/
  canAccessPage : identity.isSuperAdmin = false →
    ∀ engine : PermissionEngine, engine.isDecided = true →
      engine.identity = some identity → ∀ page ∈ pageKeys,
        (engine.canAccessPage page = some true ↔ Opens payload page)

private theorem getD_null_eq_iff {field : Option Json} (value : Json)
    (given : value ≠ .null) : field.getD .null = value ↔ field = some value := by
  cases field with
  | none => simp [given.symm]
  | some other => simp

theorem isSuperAdmin_ofPayload (payload : Fields) :
    (ofPayload payload).isSuperAdmin = true ↔
      payload.get? "is_super_admin" = some (.bool true) ∨
        payload.get? "is_super_admin" = some (.int 1) ∨
        ∃ word, payload.get? "is_super_admin" = some (.text word) ∧
          Text.lowercased (Text.trimmed word) ∈ Lenient.onWords := by
  have written (word : String) := @getD_null_eq_iff
    (payload.get? "is_super_admin") (.text word) nofun
  simp only [ofPayload, overrideFlag_iff, getD_null_eq_iff (.bool true) nofun,
    getD_null_eq_iff (.int 1) nofun, written]

theorem opens_ofPayload (known : page ∈ pageKeys) :
    (∃ permission ∈ pagePermissions page,
      permission ∈ (ofPayload payload).permissions) ↔ Opens payload page := by
  unfold ofPayload Opens
  cases found : payload.get? "permissions" with
  | none => simp [permissionList]
  | some value =>
      cases value with
      | array items => simp [opens_iff known]
      | _ => simp [permissionList]

/-- Whatever the payload is, its identity has no other privileges. -/
theorem ofPayload_privileged (payload : Fields) :
    Privileged payload (ofPayload payload) := by
  have page_iff {page : String} (known : page ∈ pageKeys) :
      (page ∉ pageKeys ∨ ∃ permission ∈ pagePermissions page,
        permission ∈ (ofPayload payload).permissions) ↔ Opens payload page := by
    rw [opens_ofPayload known, or_iff_right (not_not_intro known)]
  constructor
  · exact isSuperAdmin_ofPayload payload
  · intro loose
    unfold ofPayload
    cases found : payload.get? "permissions" with
    | none => rfl
    | some value =>
        cases value with
        | array items => exact absurd found (loose items)
        | _ => rfl
  · intro plain page known
    rw [mayOpenPage_iff, plain, page_iff known]
    simp
  · intro plain engine decided same page known
    have override : engine.isSuperAdmin = false := by
      rw [PermissionEngine.isSuperAdmin, same, Option.any_some, plain]
    have permissions : engine.permissions = (ofPayload payload).permissions := by
      rw [PermissionEngine.permissions, same]
      rfl
    rw [PermissionEngine.canAccessPage_iff, decided, override, permissions,
      page_iff known]
    simp

end AdminGate.Identity
