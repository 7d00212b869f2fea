import AdminGate.Json.Value

/-!
# Named values

What inserting does to the entries as a whole.  An entry under a name that is there
takes the place of the old one, any other comes last.  So when many entries are
inserted, those that are there keep their places, and what is new follows in its own
order.  What is looked up afterwards is the last entry inserted under the name.
-/

namespace AdminGate.Assoc

variable {α : Type} {entries additions : Assoc α} {name : String} {value : α}

/-- An entry, or the one that is given under its name. -/
def overridden (additions : Assoc α) (entry : String × α) : String × α :=
  (entry.1, (additions.get? entry.1).getD entry.2)

theorem get?_eq_none_iff : entries.get? name = none ↔ ∀ entry ∈ entries, entry.1 ≠ name := by
  induction entries with
  | nil => simp [get?]
  | cons entry rest ih =>
      by_cases here : name = entry.1
      · simp [get?, here]
      · simp [get?, here, ih, Ne.symm here]

theorem insert_of_missing (missing : ∀ entry ∈ entries, entry.1 ≠ name) (value : α) :
    entries.insert name value = entries ++ [(name, value)] := by
  induction entries with
  | nil => rfl
  | cons entry rest ih =>
      obtain ⟨here, others⟩ := List.forall_mem_cons.mp missing
      simp [insert, here, ih others]

theorem names_insert_of_present (present : (entries.get? name).isSome) (value : α) :
    (entries.insert name value).map Prod.fst = entries.map Prod.fst := by
  induction entries with
  | nil => cases present
  | cons entry rest ih =>
      by_cases here : entry.1 = name
      · simp [insert, here]
      · have later : (get? rest name).isSome := by
          simpa [get?, Ne.symm here] using present
        simp [insert, here, ih later]

theorem has_insert (entries : Assoc α) (name : String) (value : α) (other : String) :
    (entries.insert name value).has other = (other == name || entries.has other) := by
  rw [has, has, get?_insert]
  split
  · rename_i same
    simp [same]
  · rename_i unlike
    simp [unlike]

theorem Distinct.of_cons {entry : String × α} (distinct : Distinct (entry :: entries)) :
    (∀ other ∈ entries, other.1 ≠ entry.1) ∧ entries.Distinct := by
  obtain ⟨fresh, others⟩ := List.nodup_cons.mp distinct
  refine ⟨fun other member same => fresh ?_, others⟩
  exact List.mem_map.mpr ⟨other, member, same⟩

theorem Distinct.append_of_missing (distinct : entries.Distinct)
    (missing : ∀ entry ∈ entries, entry.1 ≠ name) (value : α) :
    Distinct (entries ++ [(name, value)]) := by
  rw [Distinct, List.map_append, List.nodup_append]
  refine ⟨distinct, by simp, ?_⟩
  intro first member second last same
  obtain ⟨entry, within, rfl⟩ := List.mem_map.mp member
  exact missing entry within (same.trans (List.mem_singleton.mp last))

/-- What is given under one name leaves the entries under all others alone. -/
theorem map_overridden_of_missing (missing : ∀ entry ∈ entries, entry.1 ≠ name)
    (value : α) (additions : Assoc α) :
    entries.map (overridden ((name, value) :: additions)) =
      entries.map (overridden additions) := by
  refine List.map_congr_left fun entry member => ?_
  simp [overridden, get?, missing entry member]

theorem map_overridden_insert (distinct : entries.Distinct)
    (present : (entries.get? name).isSome) (fresh : additions.get? name = none)
    (value : α) :
    (entries.insert name value).map (overridden additions) =
      entries.map (overridden ((name, value) :: additions)) := by
  induction entries with
  | nil => cases present
  | cons entry rest ih =>
      obtain ⟨apart, others⟩ := distinct.of_cons
      by_cases here : entry.1 = name
      · subst here
        rw [insert, if_pos rfl, List.map_cons, List.map_cons,
          map_overridden_of_missing apart]
        simp [overridden, get?, fresh]
      · have later : (get? rest name).isSome := by
          simpa [get?, Ne.symm here] using present
        rw [insert, if_neg here, List.map_cons, List.map_cons, ih others later]
        simp [overridden, get?, here]

theorem Distinct.insert (distinct : entries.Distinct) (name : String) (value : α) :
    (entries.insert name value).Distinct := by
  by_cases present : (entries.get? name).isSome
  · rw [Distinct, names_insert_of_present present]
    exact distinct
  · have missing := get?_eq_none_iff.mp (Option.not_isSome_iff_eq_none.mp present)
    rw [insert_of_missing missing]
    exact distinct.append_of_missing missing value

theorem forall_insert {holds : String × α → Prop} (each : ∀ entry ∈ entries, holds entry)
    (here : holds (name, value)) : ∀ entry ∈ entries.insert name value, holds entry := by
  induction entries with
  | nil => exact List.forall_mem_singleton.mpr here
  | cons entry rest ih =>
      obtain ⟨first, later⟩ := List.forall_mem_cons.mp each
      by_cases same : entry.1 = name
      · rw [insert, if_pos same]
        exact List.forall_mem_cons.mpr ⟨here, later⟩
      · rw [insert, if_neg same]
        exact List.forall_mem_cons.mpr ⟨first, ih later⟩

theorem forall_insertAll {holds : String × α → Prop} (each : ∀ entry ∈ entries, holds entry)
    (new : ∀ entry ∈ additions, holds entry) :
    ∀ entry ∈ entries.insertAll additions, holds entry := by
  induction additions generalizing entries with
  | nil => exact each
  | cons addition rest ih =>
      obtain ⟨first, later⟩ := List.forall_mem_cons.mp new
      exact ih (forall_insert each first) later

theorem Distinct.insertAll (distinct : entries.Distinct) (additions : Assoc α) :
    (entries.insertAll additions).Distinct := by
  induction additions generalizing entries with
  | nil => exact distinct
  | cons addition rest ih => exact ih (distinct.insert addition.1 addition.2)

/-- Many entries are inserted: those that are there keep their places, the new ones
follow. -/
theorem insertAll_eq (distinct : entries.Distinct) (apart : additions.Distinct) :
    entries.insertAll additions = entries.map (overridden additions) ++
      additions.filter fun entry => !entries.has entry.1 := by
  induction additions generalizing entries with
  | nil =>
      have same : overridden ([] : Assoc α) = id := rfl
      simp [insertAll, same]
  | cons addition rest ih =>
      obtain ⟨name, value⟩ := addition
      obtain ⟨fresh, others⟩ := apart.of_cons
      have left : (rest.filter fun entry => !(entries.insert name value).has entry.1) =
          rest.filter fun entry => !entries.has entry.1 := by
        refine List.filter_congr fun entry member => ?_
        rw [has_insert, beq_false_of_ne (fresh entry member), Bool.false_or]
      change (entries.insert name value).insertAll rest = _
      rw [ih (distinct.insert name value) others, left]
      by_cases present : (entries.get? name).isSome
      · rw [map_overridden_insert distinct present (get?_eq_none_iff.mpr fresh),
          List.filter_cons_of_neg (by simp [has, present])]
      · have absent := Option.not_isSome_iff_eq_none.mp present
        have missing := get?_eq_none_iff.mp absent
        have new : overridden rest (name, value) = (name, value) := by
          simp [overridden, get?_eq_none_iff.mpr fresh]
        rw [insert_of_missing missing, map_overridden_of_missing missing,
          List.filter_cons_of_pos (by simp [has, absent]), List.map_append,
          List.append_assoc]
        simp [new]

theorem insertAll_of_fresh (distinct : entries.Distinct) (apart : additions.Distinct)
    (fresh : ∀ entry ∈ additions, entries.get? entry.1 = none) :
    entries.insertAll additions = entries ++ additions := by
  have kept : ∀ entry ∈ entries, overridden additions entry = id entry := by
    intro entry member
    have missing : additions.get? entry.1 = none :=
      get?_eq_none_iff.mpr fun addition new same =>
        get?_eq_none_iff.mp (fresh addition new) entry member same.symm
    simp [overridden, missing]
  have new : ∀ entry ∈ additions, (!entries.has entry.1) = true := by
    intro entry member
    simp [has, fresh entry member]
  rw [insertAll_eq distinct apart, List.map_congr_left kept, List.map_id,
    List.filter_eq_self.mpr new]

theorem ofPairs_of_distinct (distinct : entries.Distinct) : ofPairs entries = entries :=
  insertAll_of_fresh List.nodup_nil distinct fun _ _ => rfl

/-! ## Looking up -/

theorem get?_eq_lookup (entries : Assoc α) (name : String) :
    entries.get? name = entries.lookup name := by
  induction entries with
  | nil => rfl
  | cons entry rest ih =>
      obtain ⟨first, held⟩ := entry
      by_cases here : name = first
      · simp [get?, here]
      · have unlike : (name == first) = false := beq_false_of_ne here
        simp [get?, List.lookup_cons, here, unlike, ih]

theorem get?_filter (entries : Assoc α) (keeps : String → Bool) (name : String) :
    get? (entries.filter fun entry => keeps entry.1) name =
      if keeps name then entries.get? name else none := by
  induction entries with
  | nil => simp [get?]
  | cons entry rest ih =>
      by_cases here : name = entry.1
      · subst here
        cases kept : keeps entry.1 <;> simp_all [get?]
      · cases kept : keeps entry.1 <;> simp [get?, kept, here, ih]

theorem get?_without (entries : Assoc α) {names : List String} (kept : name ∉ names) :
    (entries.without names).get? name = entries.get? name := by
  rw [without, get?_filter entries fun name => !names.contains name]
  simp [kept]

theorem get?_insertAll (entries additions : Assoc α) (name : String) :
    (entries.insertAll additions).get? name =
      (get? additions.reverse name).or (entries.get? name) := by
  induction additions generalizing entries with
  | nil => rfl
  | cons addition rest ih =>
      obtain ⟨last, held⟩ := addition
      have step : entries.insertAll ((last, held) :: rest) =
          (entries.insert last held).insertAll rest := rfl
      rw [step, ih, get?_insert, List.reverse_cons, get?_eq_lookup (_ ++ _),
        List.lookup_append]
      simp only [← get?_eq_lookup, Option.or_assoc]
      by_cases here : name = last <;> simp [get?, here]

theorem get?_eq_some_iff :
    entries.get? name = some value ↔ ∃ before after,
      entries = before ++ (name, value) :: after ∧ ∀ entry ∈ before, entry.1 ≠ name := by
  rw [get?_eq_lookup, List.lookup_eq_some_iff]
  simp only [bne_iff_ne, ne_eq, @eq_comm _ name]

theorem mem_of_get?_eq_some (found : entries.get? name = some value) :
    (name, value) ∈ entries := by
  obtain ⟨before, after, rfl, _⟩ := get?_eq_some_iff.mp found
  exact List.mem_append_cons_self

theorem Distinct.get?_eq_some_iff_mem (distinct : entries.Distinct) :
    entries.get? name = some value ↔ (name, value) ∈ entries := by
  constructor
  · exact mem_of_get?_eq_some
  · intro member
    obtain ⟨before, after, rfl⟩ := List.append_of_mem member
    refine get?_eq_some_iff.mpr ⟨before, after, rfl, fun entry earlier same => ?_⟩
    rw [Distinct, List.map_append, List.nodup_append] at distinct
    exact distinct.2.2 _ (List.mem_map_of_mem earlier) _ List.mem_cons_self same

theorem Distinct.get?_of_perm (distinct : entries.Distinct) (same : entries.Perm additions)
    (name : String) : entries.get? name = additions.get? name := by
  have apart : additions.Distinct := (same.map Prod.fst).nodup_iff.mp distinct
  ext value
  rw [distinct.get?_eq_some_iff_mem, apart.get?_eq_some_iff_mem, same.mem_iff]

/-- What an item holds under a name, where items are read as entries. -/
def held {β : Type} (read : β → Option (String × α)) (name : String) (item : β) :
    Option α :=
  (read item).bind fun entry => if entry.1 = name then some entry.2 else none

theorem held_eq_some_iff {β : Type} {read : β → Option (String × α)} {item : β} :
    held read name item = some value ↔ read item = some (name, value) := by
  cases found : read item with
  | none => simp [held, found]
  | some entry =>
      obtain ⟨first, here⟩ := entry
      by_cases same : first = name <;> simp [held, found, same]

theorem get?_filterMap {β : Type} (read : β → Option (String × α)) (items : List β)
    (name : String) : get? (items.filterMap read) name = items.findSome? (held read name) := by
  induction items with
  | nil => rfl
  | cons item rest ih =>
      cases found : read item with
      | none => simp [held, found, ih]
      | some entry =>
          obtain ⟨first, here⟩ := entry
          by_cases same : first = name
          · simp [held, found, get?, same]
          · simp [held, found, get?, same, Ne.symm same, ih]

theorem get?_filterMap_reverse_eq_some_iff {β : Type} {read : β → Option (String × α)}
    {items : List β} :
    get? (items.filterMap read).reverse name = some value ↔ ∃ before item after,
      items = before ++ item :: after ∧ read item = some (name, value) ∧
        ∀ other ∈ after, ∀ otherValue, read other ≠ some (name, otherValue) := by
  have empty : ∀ other, held read name other = none ↔
      ∀ otherValue, read other ≠ some (name, otherValue) := by
    intro other
    simp only [Option.eq_none_iff_forall_ne_some, ne_eq, held_eq_some_iff]
  rw [← List.filterMap_reverse, get?_filterMap, List.findSome?_eq_some_iff]
  constructor
  · rintro ⟨after, item, before, whole, read, others⟩
    refine ⟨before.reverse, item, after.reverse, ?_, held_eq_some_iff.mp read, ?_⟩
    · simpa using congrArg List.reverse whole
    · exact fun other later => (empty other).mp (others other (List.mem_reverse.mp later))
  · rintro ⟨before, item, after, rfl, read, others⟩
    refine ⟨after.reverse, item, before.reverse, by simp, held_eq_some_iff.mpr read, ?_⟩
    exact fun other later => (empty other).mpr (others other (List.mem_reverse.mp later))

end AdminGate.Assoc
