import AdminGate.Proofs.TextForms

/-!
# Lists of names

A list of values is read as the cleaned forms of its values, each of them once
and no blank one.  Which names are read depends on the set of these forms only,
and their order on where each form comes first; `Lists` says both, and no other
list of names is what the values list.  Values that are appended add the names
that were not there before.
-/

namespace AdminGate.Lenient

variable {names : List String} {name : String} {values others : List Json}

/-! ## Keeping the first of equal names -/

theorem mem_dedupe : name ∈ dedupe names ↔ name ∈ names := by
  induction names with
  | nil => rfl
  | cons first rest ih =>
      by_cases same : name = first <;> simp [dedupe, same, ih]

theorem nodup_dedupe (names : List String) : (dedupe names).Nodup := by
  induction names with
  | nil => exact .nil
  | cons first rest ih =>
      refine List.nodup_cons.mpr ⟨?_, ih.filter _⟩
      simp

theorem dedupe_of_nodup (distinct : names.Nodup) : dedupe names = names := by
  induction names with
  | nil => rfl
  | cons first rest ih =>
      obtain ⟨fresh, distinct⟩ := List.nodup_cons.mp distinct
      rw [dedupe, ih distinct, List.filter_eq_self.mpr]
      intro name member
      exact bne_iff_ne.mpr fun same => fresh (same ▸ member)

theorem filter_dedupe (keeps : String → Bool) (names : List String) :
    (dedupe names).filter keeps = dedupe (names.filter keeps) := by
  induction names with
  | nil => rfl
  | cons first rest ih =>
      by_cases kept : keeps first = true
      · rw [dedupe, List.filter_cons_of_pos kept, List.filter_cons_of_pos kept,
          dedupe, List.filter_comm, ih]
      · rw [dedupe, List.filter_cons_of_neg kept, List.filter_cons_of_neg kept,
          ← ih, List.filter_filter]
        refine List.filter_congr fun name _ => ?_
        by_cases same : name = first <;> simp [same, kept]

theorem dedupe_append (names more : List String) :
    dedupe (names ++ more) =
      dedupe names ++ (dedupe more).filter (· ∉ names) := by
  induction names with
  | nil => simp [dedupe]
  | cons first rest ih =>
      rw [List.cons_append, dedupe, ih, dedupe, List.filter_append,
        List.filter_filter, List.cons_append]
      refine congrArg (first :: _ ++ ·) (List.filter_congr fun name _ => ?_)
      by_cases same : name = first <;> simp [same]

theorem pairwise_dedupe (names : List String) :
    (dedupe names).Pairwise fun first second =>
      names.idxOf first < names.idxOf second := by
  induction names with
  | nil => exact .nil
  | cons first rest ih =>
      have behind : ∀ name, name ≠ first →
          (first :: rest).idxOf name = rest.idxOf name + 1 :=
        fun name other => List.idxOf_cons_ne rest other.symm
      have other : ∀ name ∈ (dedupe rest).filter (· != first), name ≠ first :=
        fun name member => bne_iff_ne.mp (List.mem_filter.mp member).2
      refine List.pairwise_cons.mpr ⟨?_, ?_⟩
      · intro name member
        rw [List.idxOf_cons_self, behind name (other name member)]
        exact Nat.succ_pos _
      · refine (ih.filter _).imp_of_mem ?_
        intro one two memberOne memberTwo before
        rw [behind one (other one memberOne), behind two (other two memberTwo)]
        exact Nat.succ_lt_succ before

/-! ## Reading names -/

theorem mem_distinctTexts :
    name ∈ distinctTexts values ↔ name ∈ values.map Json.cleaned ∧ name ≠ "" := by
  simp [distinctTexts, mem_dedupe]

theorem nodup_distinctTexts (values : List Json) :
    (distinctTexts values).Nodup :=
  nodup_dedupe _

/-- Values with the same cleaned forms, blank ones left aside, are read as the
same names. -/
theorem distinctTexts_perm
    (same : ∀ name, name ≠ "" →
      (name ∈ values.map Json.cleaned ↔ name ∈ others.map Json.cleaned)) :
    (distinctTexts values).Perm (distinctTexts others) := by
  rw [List.perm_ext_iff_of_nodup (nodup_distinctTexts values)
    (nodup_distinctTexts others)]
  intro name
  rw [mem_distinctTexts, mem_distinctTexts]
  exact and_congr_left (same name)

/-- Names that are distinct, trimmed and not blank are read as they are. -/
theorem distinctTexts_of_names (distinct : names.Nodup)
    (worded : ∀ name ∈ names, name ≠ "" ∧ Text.trimmed name = name) :
    distinctTexts (names.map .text) = names := by
  have cleaned : (names.map Json.text).map Json.cleaned = names.map id := by
    rw [List.map_map]
    refine List.map_congr_left fun name member => ?_
    exact (Json.cleaned_text name).trans (worded name member).2
  rw [distinctTexts, cleaned, List.map_id, List.filter_eq_self.mpr,
    dedupe_of_nodup distinct]
  intro name member
  exact bne_iff_ne.mpr (worded name member).1

/-! ## The names that values list -/

/-- A value is read as a name: it counts as true, and the name is its trimmed
text form. -/
def ReadAs (value : Json) (name : String) : Prop :=
  value.isTruthy = true ∧ Text.trimmed (String.ofList value.display) = name

instance {value : Json} {name : String} : Decidable (ReadAs value name) :=
  inferInstanceAs (Decidable (_ ∧ _))

/-- The place of the first value that is read as a name. -/
def firstPlace (values : List Json) (name : String) : Nat :=
  values.findIdx fun value => decide (ReadAs value name)

/-- Values list names: each name that is not blank and that one of them is read
as, once, in the order in which the names first come. -/
structure ListsNames (values : List Json) (names : List String) : Prop where
  distinct : names.Nodup
  complete : ∀ name, name ∈ names ↔
    (∃ character ∈ name.toList, Text.isBlank character = false) ∧
      ∃ value ∈ values, ReadAs value name
  ordered : names.Pairwise fun first second =>
    firstPlace values first < firstPlace values second

/-- A value that does not count as true is blank, so it is read as no name. -/
theorem cleaned_eq_iff {value : Json} (filled : name ≠ "") :
    value.cleaned = name ↔ ReadAs value name := by
  unfold Json.cleaned ReadAs Text.trimmed
  rw [String.toList_ofList]
  by_cases truthy : value.isTruthy = true
  · simp [truthy]
  · simp [truthy, filled.symm]

theorem ne_empty_iff_of_trimmed (trimmed : Text.trimmed name = name) :
    name ≠ "" ↔ ∃ character ∈ name.toList, Text.isBlank character = false := by
  have same : Text.trim name.toList = name.toList := by
    rw [← String.toList_ofList (l := Text.trim name.toList)]
    exact congrArg String.toList trimmed
  rw [ne_eq, ← String.toList_eq_nil_iff, ← same, Text.trim_eq_nil_iff, same]
  simp

theorem firstPlace_eq (filled : name ≠ "") :
    firstPlace values name = (values.map Json.cleaned).idxOf name := by
  rw [firstPlace, List.idxOf, List.findIdx_map]
  refine congrArg (List.findIdx · values) (funext fun value => ?_)
  exact Bool.eq_iff_iff.mpr
    (decide_eq_true_iff.trans ((cleaned_eq_iff filled).symm.trans beq_iff_eq.symm))

theorem worded_of_mem_distinctTexts (member : name ∈ distinctTexts values) :
    name ≠ "" ∧ Text.trimmed name = name := by
  obtain ⟨form, filled⟩ := mem_distinctTexts.mp member
  obtain ⟨value, _, rfl⟩ := List.mem_map.mp form
  exact ⟨filled, value.trimmed_cleaned⟩

theorem distinctTexts_listsNames (values : List Json) :
    ListsNames values (distinctTexts values) where
  distinct := nodup_distinctTexts values
  complete := by
    intro name
    rw [mem_distinctTexts, List.mem_map]
    constructor
    · rintro ⟨⟨value, member, rfl⟩, filled⟩
      exact ⟨(ne_empty_iff_of_trimmed value.trimmed_cleaned).mp filled,
        value, member, (cleaned_eq_iff filled).mp rfl⟩
    · rintro ⟨⟨character, inside, _⟩, value, member, reads⟩
      have filled : name ≠ "" := by
        rintro rfl
        cases inside
      exact ⟨⟨value, member, (cleaned_eq_iff filled).mpr reads⟩, filled⟩
  ordered := by
    have before : (distinctTexts values).Pairwise fun first second =>
        (values.map Json.cleaned).idxOf first <
          (values.map Json.cleaned).idxOf second := by
      rw [distinctTexts, ← filter_dedupe]
      exact (pairwise_dedupe _).filter _
    refine before.imp_of_mem ?_
    intro first second memberFirst memberSecond before
    rw [firstPlace_eq (worded_of_mem_distinctTexts memberFirst).1,
      firstPlace_eq (worded_of_mem_distinctTexts memberSecond).1]
    exact before

theorem ListsNames.unique {more : List String} (first : ListsNames values names)
    (second : ListsNames values more) : names = more := by
  have same : names.Perm more := by
    rw [List.perm_ext_iff_of_nodup first.distinct second.distinct]
    intro name
    rw [first.complete, second.complete]
  refine same.eq_of_pairwise ?_ first.ordered second.ordered
  intro one two _ _ before after
  exact absurd before (Nat.lt_asymm after)

theorem distinctTexts_again (values : List Json) :
    distinctTexts ((distinctTexts values).map .text) = distinctTexts values :=
  distinctTexts_of_names (nodup_distinctTexts values)
    fun _ member => worded_of_mem_distinctTexts member

theorem distinctTexts_append (values others : List Json) :
    distinctTexts (values ++ others) = distinctTexts values ++
      (distinctTexts others).filter (· ∉ distinctTexts values) := by
  rw [distinctTexts, List.map_append, List.filter_append, dedupe_append]
  refine congrArg (distinctTexts values ++ ·) (List.filter_congr fun name _ => ?_)
  simp [distinctTexts, mem_dedupe]

/-- An array is read as the names that its values list, which are the same when
they are read again, and to which further values add what is new. -/
theorem distinctTexts_keepsDistinct (values : List Json) :
    (elements? (.array values)).map distinctTexts = some (distinctTexts values) ∧
      (∀ names, ListsNames values names ↔ names = distinctTexts values) ∧
      distinctTexts ((distinctTexts values).map .text) = distinctTexts values ∧
      ∀ others, distinctTexts (values ++ others) = distinctTexts values ++
        (distinctTexts others).filter (· ∉ distinctTexts values) := by
  refine ⟨?_, fun names => ⟨fun lists => ?_, ?_⟩, distinctTexts_again values,
    distinctTexts_append values⟩
  · cases values <;> rfl
  · exact lists.unique (distinctTexts_listsNames values)
  · rintro rfl
    exact distinctTexts_listsNames values

/-- Values that differ are read as one name. -/
example : distinctTexts [.text "b", .int 1, .bool false, .text " 1\t", .array [],
    .text "b "] = ["b", "1"] := by
  decide +kernel

end AdminGate.Lenient
