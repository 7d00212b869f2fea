import AdminGate.Identity.Basic
import AdminGate.Proofs.DistinctTexts

/-!
# Identities in normal form

Reading a payload brings an identity into normal form: names are trimmed, no
permission is blank or listed twice.  The payload that describes an identity in
normal form is read as that identity, in whatever order its permissions are
listed.  Of the permissions that a payload lists only the set of their cleaned
forms counts.
-/

namespace AdminGate.Identity

variable {payload : Fields} {identity first second : Identity}

/-- Two identities are the same up to the order in which their permissions are
listed. -/
structure Same (first second : Identity) : Prop where
  username : first.username = second.username
  role : first.role = second.role
  permissions : first.permissions.Perm second.permissions
  isSuperAdmin : first.isSuperAdmin = second.isSuperAdmin

/-- Names are trimmed, and permissions are trimmed, not blank and distinct. -/
structure Normal (identity : Identity) : Prop where
  username : Text.trimmed identity.username = identity.username
  role : Text.trimmed identity.role = identity.role
  permissions : ∀ permission ∈ identity.permissions,
    permission ≠ "" ∧ Text.trimmed permission = permission
  distinct : identity.permissions.Nodup

theorem Same.normal (same : Same first second) (normal : Normal second) :
    Normal first where
  username := by rw [same.username, normal.username]
  role := by rw [same.role, normal.role]
  permissions := fun permission member =>
    normal.permissions permission (same.permissions.subset member)
  distinct := same.permissions.nodup_iff.mpr normal.distinct

/-! ## Reading and describing -/

theorem normal_ofPayload (payload : Fields) : Normal (ofPayload payload) where
  username := Json.trimmed_cleaned _
  role := Json.trimmed_cleaned _
  permissions := by
    intro permission member
    unfold ofPayload permissionList at member
    split at member
    · exact Lenient.worded_of_mem_distinctTexts member
    · cases member
  distinct := by
    unfold ofPayload permissionList
    split
    · exact Lenient.nodup_distinctTexts _
    · exact .nil

/-- An identity in normal form is read from the payload that describes it. -/
theorem ofPayload_toPayload (normal : Normal identity) :
    ofPayload identity.toPayload = identity := by
  have permissions : permissionList (.array (identity.permissions.map .text)) =
      identity.permissions :=
    Lenient.distinctTexts_of_names normal.distinct normal.permissions
  have listed : identity.toPayload.get? "username" =
        some (.text identity.username) ∧
      identity.toPayload.get? "role" = some (.text identity.role) ∧
      identity.toPayload.get? "permissions" =
        some (.array (identity.permissions.map .text)) ∧
      identity.toPayload.get? "is_super_admin" =
        some (.bool identity.isSuperAdmin) := by
    simp [toPayload, Assoc.get?]
  obtain ⟨username, role, array, flag⟩ := listed
  simp only [ofPayload, username, role, array, flag, Option.getD_some,
    Json.cleaned_text, normal.username, normal.role, permissions, overrideFlag]

/-! ## What counts of an array -/

/-- Changes of an array that its names do not show: other orders, repetitions,
blanks around a text, and values that are blank or do not count as true. -/
inductive Reworked : List Json → List Json → Prop where
  | permuted {items others : List Json} (order : items.Perm others) :
      Reworked items others
  | repeated {items : List Json} {item : Json} (member : item ∈ items) :
      Reworked items (item :: items)
  | padded {items : List Json} {before after : String} (text : String)
      (blankBefore : ∀ character ∈ before.toList, Text.isBlank character = true)
      (blankAfter : ∀ character ∈ after.toList, Text.isBlank character = true) :
      Reworked (.text text :: items) (.text (before ++ text ++ after) :: items)
  | falsy {items : List Json} {item : Json} (falsy : item.isTruthy = false) :
      Reworked items (item :: items)
  | blank {items : List Json} {text : String}
      (blank : ∀ character ∈ text.toList, Text.isBlank character = true) :
      Reworked items (.text text :: items)
  | symm {items others : List Json} (reworked : Reworked items others) :
      Reworked others items
  | trans {items between others : List Json} (first : Reworked items between)
      (second : Reworked between others) : Reworked items others

variable {items others : List Json}

/-- The arrays have the same cleaned forms, blank ones left aside. -/
def SameForms (items others : List Json) : Prop :=
  ∀ form, form ≠ "" →
    (form ∈ items.map Json.cleaned ↔ form ∈ others.map Json.cleaned)

theorem Reworked.sameForms (reworked : Reworked items others) :
    SameForms items others := by
  intro form notBlank
  induction reworked with
  | permuted order => exact (order.map Json.cleaned).mem_iff
  | repeated member =>
      rw [List.map_cons, List.mem_cons]
      constructor
      · exact .inr
      · rintro (rfl | found)
        · exact List.mem_map_of_mem member
        · exact found
  | padded text blankBefore blankAfter =>
      simp only [List.map_cons, Json.cleaned_text,
        Text.trimmed_pad blankBefore blankAfter]
  | falsy falsy => simp [Json.cleaned_of_falsy falsy, notBlank]
  | blank blank =>
      simp [Json.cleaned_text, Text.trimmed, Text.trim_of_blank blank, notBlank]
  | symm _ ih => exact ih.symm
  | trans _ _ first second => exact first.trans second

/-- Two payloads list permissions, and say the same of everything else. -/
structure Lists (payload other : Fields) (items others : List Json) : Prop where
  items : payload.get? "permissions" = some (.array items)
  others : other.get? "permissions" = some (.array others)
  rest : ∀ name, name ≠ "permissions" → payload.get? name = other.get? name

theorem Lists.same {other : Fields} (lists : Lists payload other items others)
    (forms : SameForms items others) :
    Same (ofPayload payload) (ofPayload other) where
  username := by
    simp only [ofPayload, lists.rest "username" (by decide)]
  role := by
    simp only [ofPayload, lists.rest "role" (by decide)]
  permissions := by
    simp only [ofPayload, lists.items, lists.others, Option.getD_some,
      permissionList]
    exact Lenient.distinctTexts_perm forms
  isSuperAdmin := by
    simp only [ofPayload, lists.rest "is_super_admin" (by decide)]

/-! ## Reading once and again -/

/-- What reading makes of a payload is in normal form and is read again as it is,
and it depends on an array of permissions through its cleaned forms only. -/
structure ReadsNormal (payload : Fields) : Prop where
  normal : Normal (ofPayload payload)
  /-- The same identity, its permissions in any order. -/
  again : ∀ identity, Same identity (ofPayload payload) →
    ofPayload identity.toPayload = identity
  forms : ∀ other items others, Lists payload other items others →
    SameForms items others → Same (ofPayload payload) (ofPayload other)
  reworked : ∀ other items others, Lists payload other items others →
    Reworked items others → Same (ofPayload payload) (ofPayload other)

theorem ofPayload_readsNormal (payload : Fields) : ReadsNormal payload where
  normal := normal_ofPayload payload
  again := by
    intro identity same
    exact ofPayload_toPayload (same.normal (normal_ofPayload payload))
  forms := fun _ _ _ lists forms => lists.same forms
  reworked := fun _ _ _ lists reworked => lists.same reworked.sameForms

/-- Blanks, repetitions and values that do not count as true are left out. -/
example : ofPayload [("username", .text " ana\t"), ("permissions", .array
    [.text "b", .text " a ", .int 0, .text "b ", .array []])] =
    ⟨"ana", "", ["b", "a"], false⟩ := by
  decide +kernel

end AdminGate.Identity
