import AdminGate.Text.CaseTable

/-!
# Letter case

Full case mapping of texts.  A character may become several (`ß` becomes `SS`), and a capital
sigma at the end of a word becomes the final form of the small letter, so both maps work on
the whole text.
-/

namespace AdminGate.Text

private def inRanges (ranges : List (Nat × Nat)) (code : Nat) : Bool :=
  ranges.any fun (first, last) => first ≤ code && code ≤ last

private def CaseSpan.covers (span : CaseSpan) (code : Nat) : Bool :=
  span.first ≤ code && code ≤ span.last && (code - span.first) % span.stride == 0

private def shifted (spans : List CaseSpan) (character : Char) : Char :=
  match spans.find? (·.covers character.toNat) with
  | some span => Char.ofNat (Int.ofNat character.toNat + span.shift).toNat
  | none => character

/-- The upper case form of one character. -/
def upperForm (character : Char) : List Char :=
  if character.toNat < 128 then [character.toUpper]
  else
    match upperExpansions.lookup character.toNat with
    | some codes => codes.map Char.ofNat
    | none => [shifted upperSpans character]

def upper (text : List Char) : List Char :=
  text.flatMap upperForm

private def isCaseIgnorable (character : Char) : Bool :=
  inRanges caseIgnorableRanges character.toNat

private def isCased (character : Char) : Bool :=
  inRanges casedRanges character.toNat

/-- Whether the first character that is not passed over is a cased letter. -/
private def meetsLetter (text : List Char) : Bool :=
  match text.dropWhile isCaseIgnorable with
  | [] => false
  | character :: _ => isCased character

/-- The lower case form of one character between the characters `before`, nearest first, and
`after`. -/
def lowerForm (before : List Char) (character : Char) (after : List Char) : List Char :=
  if character.toNat < 128 then [character.toLower]
  else if character == 'Σ' then
    if meetsLetter before && !meetsLetter after then ['ς'] else ['σ']
  else if character == 'İ' then ['i', Char.ofNat 0x307]
  else [shifted lowerSpans character]

private def lowerFrom (before : List Char) : List Char → List Char
  | [] => []
  | character :: after =>
      lowerForm before character after ++ lowerFrom (character :: before) after

def lower (text : List Char) : List Char :=
  lowerFrom [] text

private theorem lowerFrom_ascii_append (before rest : List Char) {text : List Char}
    (ascii : ∀ character ∈ text, character.toNat < 128) :
    lowerFrom before (text ++ rest) =
      text.map Char.toLower ++ lowerFrom (text.reverse ++ before) rest := by
  induction text generalizing before with
  | nil => rfl
  | cons first text ih =>
      obtain ⟨here, later⟩ := List.forall_mem_cons.mp ascii
      simp [lowerFrom, lowerForm, here, ih (first :: before) later]

private theorem lowerFrom_append (before first rest : List Char) :
    ∃ start, lowerFrom before (first ++ rest) =
      start ++ lowerFrom (first.reverse ++ before) rest := by
  induction first generalizing before with
  | nil => exact ⟨[], rfl⟩
  | cons character first ih =>
      obtain ⟨start, whole⟩ := ih (character :: before)
      refine ⟨lowerForm before character (first ++ rest) ++ start, ?_⟩
      simp [lowerFrom, whole]

theorem lower_of_ascii {text : List Char}
    (ascii : ∀ character ∈ text, character.toNat < 128) :
    lower text = text.map Char.toLower := by
  simpa [lower, lowerFrom] using lowerFrom_ascii_append [] [] ascii

/-- ASCII at the start of a text is put into lower case on its own. -/
theorem lower_ascii_prefix {part text : List Char}
    (ascii : ∀ character ∈ part, character.toNat < 128) (start : part <+: text) :
    part.map Char.toLower <+: lower text := by
  obtain ⟨rest, rfl⟩ := start
  rw [lower, lowerFrom_ascii_append [] rest ascii]
  exact List.prefix_append _ _

theorem lower_ascii_infix {part text : List Char}
    (ascii : ∀ character ∈ part, character.toNat < 128) (inside : part <:+: text) :
    part.map Char.toLower <:+: lower text := by
  obtain ⟨before, after, rfl⟩ := inside
  obtain ⟨start, whole⟩ := lowerFrom_append [] before (part ++ after)
  rw [lower, List.append_assoc, whole, lowerFrom_ascii_append _ after ascii]
  exact ⟨start, _, List.append_assoc _ _ _⟩

theorem toLower_of_foreign {character : Char} (foreign : ¬character.toNat < 128) :
    character.toLower = character := by
  unfold Char.toLower
  split
  · rename_i upper
    exact absurd (Nat.lt_of_le_of_lt (UInt32.le_iff_toNat_le.mp upper.2) (by decide)) foreign
  · rfl

theorem lt_of_toLower_lt {character : Char} (ascii : character.toLower.toNat < 128) :
    character.toNat < 128 := by
  by_cases plain : character.toNat < 128
  · exact plain
  · rwa [toLower_of_foreign plain] at ascii

/-- What lower case can make of a character outside ASCII: another one, or `k`, which comes from
the Kelvin sign, or the null character. -/
def isForeignTrace (character : Char) : Bool :=
  128 ≤ character.toNat || character == 'k' || character == Char.ofNat 0

private theorem lowerSpans_bound : ∀ span ∈ lowerSpans,
    span.last < 128 ∨ 128 ≤ span.first + span.shift ∨
      span.first = 0x212A ∧ span.last = 0x212A ∧ span.shift = -8383 := by
  decide +kernel

private theorem isForeignTrace_of_foreign {character : Char} (foreign : 128 ≤ character.toNat) :
    isForeignTrace character := by
  simp [isForeignTrace, foreign]

private theorem shifted_isForeignTrace {character : Char} (foreign : 128 ≤ character.toNat) :
    isForeignTrace (shifted lowerSpans character) := by
  unfold shifted
  split
  · rename_i span found
    have covered := List.find?_some found
    simp only [CaseSpan.covers, Bool.and_eq_true, decide_eq_true_eq] at covered
    rcases lowerSpans_bound span (List.mem_of_find?_eq_some found) with
      small | large | ⟨first, last, shift⟩
    · omega
    · generalize code : (Int.ofNat character.toNat + span.shift).toNat = moved
      have bound : 128 ≤ moved := by
        simp only [Int.ofNat_eq_natCast] at code
        omega
      by_cases valid : moved.isValidChar
      · rw [Char.ofNat, dif_pos valid]
        exact isForeignTrace_of_foreign bound
      · rw [Char.ofNat, dif_neg valid]
        rfl
    · have code : character.toNat = 0x212A := by omega
      rw [code, shift]
      rfl
  · exact isForeignTrace_of_foreign foreign

private theorem lowerForm_isForeignTrace (before after : List Char) {character : Char}
    (foreign : 128 ≤ character.toNat) :
    ∃ form ∈ lowerForm before character after, isForeignTrace form := by
  have notAscii : ¬character.toNat < 128 := by omega
  unfold lowerForm
  rw [if_neg notAscii]
  split
  · split <;> exact ⟨_, List.mem_singleton_self _, by decide⟩
  · split
    · exact ⟨Char.ofNat 0x307, by simp, by decide⟩
    · exact ⟨_, List.mem_singleton_self _, shifted_isForeignTrace foreign⟩

private theorem lowerFrom_isForeignTrace (before : List Char) {text : List Char} {character : Char}
    (member : character ∈ text) (foreign : 128 ≤ character.toNat) :
    ∃ form ∈ lowerFrom before text, isForeignTrace form := by
  induction text generalizing before with
  | nil => cases member
  | cons first rest ih =>
      rcases List.mem_cons.mp member with rfl | later
      · obtain ⟨form, formMember, trace⟩ := lowerForm_isForeignTrace before rest foreign
        exact ⟨form, List.mem_append.mpr (.inl formMember), trace⟩
      · obtain ⟨form, formMember, trace⟩ := ih (first :: before) later
        exact ⟨form, List.mem_append.mpr (.inr formMember), trace⟩

/-- A text whose lower case holds no trace of other characters consists of ASCII. -/
theorem ascii_of_lower {text : List Char}
    (plain : ∀ form ∈ lower text, isForeignTrace form = false) :
    ∀ character ∈ text, character.toNat < 128 := by
  intro character member
  refine Nat.lt_of_not_le fun foreign => ?_
  obtain ⟨form, formMember, trace⟩ := lowerFrom_isForeignTrace [] member foreign
  rw [plain form formMember] at trace
  cases trace

def uppercased (text : String) : String :=
  String.ofList (upper text.toList)

def lowercased (text : String) : String :=
  String.ofList (lower text.toList)

/-- Lower case of the 26 basic letters alone. -/
def basicLowercased (text : String) : String :=
  String.ofList (text.toList.map Char.toLower)

theorem lowercased_of_ascii {text : String}
    (ascii : ∀ character ∈ text.toList, character.toNat < 128) :
    lowercased text = basicLowercased text := by
  rw [lowercased, lower_of_ascii ascii, basicLowercased]

end AdminGate.Text
