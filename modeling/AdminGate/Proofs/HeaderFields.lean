import AdminGate.Http.Header

/-!
# Laws of header fields

The values under a name are all that a request says about it.  Setting a field
gives its name exactly one value and leaves every other name alone; putting
fields over default ones keeps the values of every name that is given.
-/

namespace AdminGate.Http

/-- A computation that goes on with the result of another one ends well exactly
when both do. -/
theorem bind_eq_ok_iff {ε α β : Type} {first : Except ε α}
    {next : α → Except ε β} {result : β} :
    (first >>= next) = .ok result ↔
      ∃ middle, first = .ok middle ∧ next middle = .ok result := by
  cases first <;> simp [bind, Except.bind]

theorem mapError_ok {ε δ α : Type} (rename : ε → δ) (value : α) :
    (Except.ok value).mapError rename = .ok value :=
  rfl

theorem mapError_eq_ok_iff {ε δ α : Type} {attempted : Except ε α}
    {rename : ε → δ} {result : α} :
    attempted.mapError rename = .ok result ↔ attempted = .ok result := by
  cases attempted with
  | error failure => exact ⟨nofun, nofun⟩
  | ok value =>
      constructor <;> intro same <;> cases same <;> rfl

theorem eq_map_of_mapM_eq_ok {ε α β : Type} {read : α → Except ε β}
    {form : α → β} (agrees : ∀ input output, read input = .ok output →
      output = form input)
    {inputs : List α} {outputs : List β}
    (done : inputs.mapM read = .ok outputs) : outputs = inputs.map form := by
  induction inputs generalizing outputs with
  | nil =>
      cases done
      rfl
  | cons first rest ih =>
      rw [List.mapM_cons] at done
      obtain ⟨output, firstRead, done⟩ := bind_eq_ok_iff.mp done
      obtain ⟨others, restRead, done⟩ := bind_eq_ok_iff.mp done
      cases done
      rw [agrees first output firstRead, ih restRead, List.map_cons]

theorem mapM_eq_ok {ε α β : Type} {read : α → Except ε β} {form : α → β}
    {inputs : List α} (each : ∀ input ∈ inputs, read input = .ok (form input)) :
    inputs.mapM read = .ok (inputs.map form) := by
  induction inputs with
  | nil => rfl
  | cons first rest ih =>
      have others := ih fun input member =>
        each input (List.mem_cons_of_mem first member)
      rw [List.mapM_cons, each first List.mem_cons_self, others]
      rfl

namespace Headers

@[simp] theorem key_mk (name value : String) :
    Header.key ⟨name, value⟩ = Text.basicLowercased name :=
  rfl

@[simp] theorem values_nil (key : String) : values [] key = [] :=
  rfl

theorem values_cons (header : Header) (rest : Headers) (key : String) :
    values (header :: rest) key =
      if header.key = key then header.value :: values rest key
      else values rest key := by
  by_cases same : header.key = key <;> simp [values, same]

theorem values_append (first second : Headers) (key : String) :
    values (first ++ second) key = values first key ++ values second key := by
  simp [values]

theorem has_iff_values_ne_nil {headers : Headers} {key : String} :
    headers.has key = true ↔ headers.values key ≠ [] := by
  induction headers with
  | nil => simp [has, values]
  | cons header rest ih =>
      rw [values_cons]
      by_cases same : header.key = key
      · simp [has, same]
      · simpa [has, same] using ih

theorem values_eq_nil_of_not_has {headers : Headers} {key : String}
    (missing : ¬headers.has key = true) : headers.values key = [] :=
  Decidable.byContradiction fun present =>
    missing (has_iff_values_ne_nil.mpr present)

theorem has_congr {first second : Headers} {key : String}
    (same : first.values key = second.values key) :
    first.has key = second.has key := by
  rw [Bool.eq_iff_iff, has_iff_values_ne_nil, has_iff_values_ne_nil, same]

theorem values_filter_ne {headers : Headers} {key dropped : String}
    (different : key ≠ dropped) :
    values (headers.filter fun header => header.key != dropped) key =
      headers.values key := by
  induction headers with
  | nil => rfl
  | cons header rest ih =>
      by_cases gone : header.key = dropped
      · have other : header.key ≠ key := fun equality =>
          different (equality.symm.trans gone)
        simp [gone, values_cons, ih, Ne.symm different]
      · simp [gone, values_cons, ih]

theorem values_filter_self (headers : Headers) (key : String) :
    values (headers.filter fun header => header.key != key) key = [] := by
  simp [values, List.filter_filter]

theorem values_set_same (headers : Headers) (name value : String) :
    (headers.set name value).values (Text.basicLowercased name) = [value] := by
  induction headers with
  | nil => simp [set, values]
  | cons header rest ih =>
      by_cases here : header.key = Text.basicLowercased name
      · simp [set, here, values_cons, values_filter_self]
      · simp [set, here, values_cons, ih]

theorem values_set_other {headers : Headers} {name value key : String}
    (different : key ≠ Text.basicLowercased name) :
    (headers.set name value).values key = headers.values key := by
  induction headers with
  | nil => simp [set, values, Ne.symm different]
  | cons header rest ih =>
      by_cases here : header.key = Text.basicLowercased name
      · simp [set, here, values_cons, values_filter_ne different,
          Ne.symm different]
      · simp [set, here, values_cons, ih]

theorem filter_set {headers : Headers} {name value : String}
    {keep : Header → Bool}
    (drops : ∀ header, header.key = Text.basicLowercased name →
      keep header = false) :
    (headers.set name value).filter keep = headers.filter keep := by
  have dropped : keep ⟨name, value⟩ = false := drops _ rfl
  induction headers with
  | nil => simp [set, dropped]
  | cons header rest ih =>
      by_cases here : header.key = Text.basicLowercased name
      · have others : (rest.filter fun other =>
            other.key != Text.basicLowercased name).filter keep =
              rest.filter keep := by
          rw [List.filter_filter]
          apply List.filter_congr
          intro other _
          by_cases same : other.key = Text.basicLowercased name
          · simp [drops other same]
          · simp [same]
        simp [set, here, dropped, drops header here, others]
      · simp [set, here, List.filter_cons, ih]

theorem set_of_missing {headers : Headers} {name : String}
    (missing : headers.values (Text.basicLowercased name) = [])
    (value : String) : headers.set name value = headers ++ [⟨name, value⟩] := by
  induction headers with
  | nil => rfl
  | cons header rest ih =>
      rw [values_cons] at missing
      by_cases here : header.key = Text.basicLowercased name
      · simp [here] at missing
      · rw [if_neg here] at missing
        simp [set, here, ih missing]

def IsAsciiName (name : String) : Prop :=
  ∀ character ∈ name.toList, character.toNat < 128

instance (name : String) : Decidable (IsAsciiName name) :=
  List.decidableBAll (fun character : Char => character.toNat < 128) name.toList

private theorem toLower_lt {character : Char} (ascii : character.toNat < 128) :
    character.toLower.toNat < 128 :=
  Text.forall_ascii ascii (by decide)

theorem lowercased_isAscii {name : String} (ascii : IsAsciiName name) :
    ∀ character ∈ (Text.basicLowercased name).toList, Text.isAscii character := by
  intro character member
  simp only [Text.basicLowercased, String.toList_ofList, List.mem_map] at member
  obtain ⟨original, originalMember, rfl⟩ := member
  simpa [Text.isAscii] using toLower_lt (ascii original originalMember)

/-- Looking up a name finds its values joined by commas, unless the name cannot be
asked for. -/
theorem get?_eq (headers : Headers) (name : String) :
    headers.get? name =
      (if headers.isAscii then Text.checkAscii (Text.lowercased name).toList
        else .ok ()).map fun _ =>
          if (headers.values (Text.lowercased name)).isEmpty then none
          else some (", ".intercalate
            (headers.values (Text.lowercased name))) := by
  unfold get?
  generalize Text.lowercased name = key
  cases headers.isAscii with
  | false => rfl
  | true => cases checked : Text.checkAscii key.toList <;> simp [checked] <;> rfl

/-- Looking up a name of ASCII characters never fails, and finds the values of
that name joined by commas. -/
theorem get?_of_ascii (headers : Headers) {name : String}
    (ascii : IsAsciiName name) :
    headers.get? name =
      .ok (if (headers.values (Text.basicLowercased name)).isEmpty then none
        else some (", ".intercalate
          (headers.values (Text.basicLowercased name)))) := by
  have checked :
      Text.checkAscii (Text.basicLowercased name).toList = .ok () :=
    Text.checkAscii_eq_ok_iff.mpr (lowercased_isAscii ascii)
  rw [get?_eq, Text.lowercased_of_ascii ascii, checked, ite_self]
  rfl

theorem IsAsciiName.checked {text : String} (ascii : IsAsciiName text) :
    Text.checkAscii text.toList = .ok () := by
  apply Text.checkAscii_eq_ok_iff.mpr
  intro character member
  simpa [Text.isAscii] using ascii character member

theorem ofCaller?_of_ascii {pairs : Assoc String}
    (ascii : ∀ pair ∈ pairs, IsAsciiName pair.1 ∧ IsAsciiName pair.2) :
    ofCaller? pairs = .ok (pairs.map fun pair => ⟨pair.1, pair.2⟩) := by
  apply mapM_eq_ok
  rintro ⟨name, value⟩ member
  obtain ⟨asciiName, asciiValue⟩ := ascii (name, value) member
  simp only [asciiName.checked, asciiValue.checked]
  rfl

theorem eq_of_ofCaller? {pairs : Assoc String} {headers : Headers}
    (taken : ofCaller? pairs = .ok headers) :
    headers = pairs.map fun pair => ⟨pair.1, pair.2⟩ := by
  apply eq_map_of_mapM_eq_ok _ taken
  rintro ⟨name, value⟩ header read
  obtain ⟨_, _, read⟩ := bind_eq_ok_iff.mp read
  obtain ⟨_, _, read⟩ := bind_eq_ok_iff.mp read
  cases read
  rfl

theorem get?_set_same (headers : Headers) {name : String}
    (ascii : IsAsciiName name) (value : String) :
    (headers.set name value).get? name = .ok (some value) := by
  rw [get?_of_ascii _ ascii, values_set_same]
  simp

private theorem toLower_toLower (character : Char) :
    character.toLower.toLower = character.toLower := by
  by_cases ascii : character.toNat < 128
  · exact Text.forall_ascii ascii (by decide)
  · rw [Text.toLower_of_foreign ascii, Text.toLower_of_foreign ascii]

/-- For a word in small letters, none of which other scripts share, full lower
case makes no further names equal to it. -/
theorem lowercased_eq_iff {name word : String}
    (plain : (word.toList.all fun character =>
      !Text.isForeignTrace character && character.toLower == character) = true) :
    Text.lowercased name = word ↔ Text.basicLowercased name = word := by
  have small : ∀ character ∈ word.toList,
      Text.isForeignTrace character = false ∧
        character.toLower = character := by
    simpa using plain
  suffices ascii : Text.lowercased name = word ∨
      Text.basicLowercased name = word → IsAsciiName name by
    constructor
    · intro equal
      rw [← Text.lowercased_of_ascii (ascii (.inl equal)), equal]
    · intro equal
      rw [Text.lowercased_of_ascii (ascii (.inr equal)), equal]
  rintro (equal | equal)
  · apply Text.ascii_of_lower
    have lowered : Text.lower name.toList = word.toList := by
      rw [← equal, Text.lowercased, String.toList_ofList]
    rw [lowered]
    exact fun character member => (small character member).1
  · intro character member
    have traced : character.toLower ∈ word.toList := by
      rw [← equal, Text.basicLowercased, String.toList_ofList]
      exact List.mem_map_of_mem member
    have untraced := (small _ traced).1
    simp only [Text.isForeignTrace, Bool.or_eq_false_iff,
      decide_eq_false_iff_not] at untraced
    exact Text.lt_of_toLower_lt (by omega)

theorem lowercased_key_eq_iff {header : Header} {word : String}
    (plain : (word.toList.all fun character =>
      !Text.isForeignTrace character && character.toLower == character) = true) :
    Text.lowercased header.key = word ↔ header.key = word := by
  rw [lowercased_eq_iff plain]
  simp only [Header.key, Text.basicLowercased, String.toList_ofList,
    List.map_map, Function.comp_def, toLower_toLower]

/-- Putting fields over default ones keeps the given fields; a default stays
exactly when no given field has its name. -/
theorem merge_eq {defaults given merged : Headers}
    (done : merge defaults given = .ok merged) :
    merged = (defaults.filter fun header =>
      !(given.map fun other => Text.lowercased other.key).contains header.key) ++
        given := by
  unfold merge at done
  obtain ⟨keys, read, done⟩ := bind_eq_ok_iff.mp done
  have mergedEq := Except.ok.inj done
  have keysEq :
      keys = given.map fun header => Text.lowercased header.key := by
    apply eq_map_of_mapM_eq_ok _ read
    intro header key readOne
    obtain ⟨_, _, readOne⟩ := bind_eq_ok_iff.mp readOne
    exact (Except.ok.inj readOne).symm
  rw [← mergedEq, keysEq]

theorem merge_of_ascii (defaults : Headers) {given : Headers}
    (ascii : ∀ header ∈ given, IsAsciiName header.name) :
    ∃ merged, merge defaults given = .ok merged := by
  have keys : ∀ header ∈ given, Text.checkAscii
      (Text.lowercased header.key).toList = .ok () := by
    intro header member
    have small := lowercased_isAscii (ascii header member)
    have plain : IsAsciiName header.key := by
      intro character inside
      simpa [Text.isAscii] using small character inside
    rw [Text.lowercased_of_ascii plain]
    exact Text.checkAscii_eq_ok_iff.mpr (lowercased_isAscii plain)
  have read : (given.mapM fun header => do
      let key := Text.lowercased header.key
      Text.checkAscii key.toList
      return key) = .ok (given.map fun header => Text.lowercased header.key) := by
    apply mapM_eq_ok
    intro header member
    simp only [keys header member]
    rfl
  unfold merge
  rw [read]
  exact ⟨_, rfl⟩

theorem mem_set {headers : Headers} {name value : String} {header : Header}
    (member : header ∈ headers.set name value) :
    header ∈ headers ∨ header = ⟨name, value⟩ := by
  induction headers with
  | nil => exact .inr (List.mem_singleton.mp member)
  | cons first rest ih =>
      unfold set at member
      split at member
      · rcases List.mem_cons.mp member with rfl | member
        · exact .inr rfl
        · exact .inl (List.mem_cons_of_mem first ((List.mem_filter.mp member).1))
      · rcases List.mem_cons.mp member with rfl | member
        · exact .inl List.mem_cons_self
        · rcases ih member with member | same
          · exact .inl (List.mem_cons_of_mem first member)
          · exact .inr same

end Headers

end AdminGate.Http
