import AdminGate.Json.Printer
import AdminGate.Proofs.NamedValues
import AdminGate.Proofs.NumberTexts

/-!
# JSON texts

Whatever a value holds, the written form spells it: reading gives it back, and it
takes no control character to write it.  What a text cannot spell is left out: a
number that is not finite, an integer with more digits than are read, an object with
a name that stands there twice.
-/

namespace AdminGate.Json

/-! ## Strings -/

namespace Reader

variable {text rest : List Char}

theorem hexDigit?_hexDigit {value : Nat} (small : value < 16) :
    Text.hexDigit? (Text.hexDigit value) = some value := by
  have each : ∀ value < 16, Text.hexDigit? (Text.hexDigit value) = some value := by
    decide
  exact each value small

theorem unit?_hexDigits {code : Nat} (small : code < 65536) (rest : List Char) :
    unit? (Text.hexDigits 4 code ++ rest) = some (code, rest) := by
  have digits : Text.hexDigits 4 code = [
      Text.hexDigit (code / 4096 % 16), Text.hexDigit (code / 256 % 16),
      Text.hexDigit (code / 16 % 16), Text.hexDigit (code / 1 % 16)] := rfl
  have value : ((code / 4096 % 16 * 16 + code / 256 % 16) * 16 + code / 16 % 16) * 16 +
      code / 1 % 16 = code := by
    omega
  simp only [digits, List.cons_append, List.nil_append, unit?,
    hexDigit?_hexDigit (Nat.mod_lt _ (by decide : 0 < 16)), Option.bind_eq_bind,
    Option.bind_some, value]
  rfl

/-- The ways in which a character of a string is written. -/
inductive Escaped : Char → List Char → Prop where
  | letter {character letter : Char} :
      (∀ rest, escape? (letter :: rest) = some (character, rest)) →
      32 ≤ letter.toNat → Escaped character ['\\', letter]
  | code {character : Char} : character.toNat < 32 →
      Escaped character ('\\' :: 'u' :: Text.hexDigits 4 character.toNat)
  | plain {character : Char} : 32 ≤ character.toNat → character ≠ '"' →
      character ≠ '\\' → Escaped character [character]

theorem escaped_escapedForm (character : Char) :
    Escaped character (escapedForm character) := by
  have written {letter : Char} {special : Char} (same : (character == special) = true)
      (spelled : ∀ rest, escape? (letter :: rest) = some (special, rest))
      (visible : 32 ≤ letter.toNat) : Escaped character ['\\', letter] :=
    eq_of_beq same ▸ .letter spelled visible
  unfold escapedForm
  iterate 7
    split
    · rename_i same
      exact written same (fun _ => rfl) (by decide)
  split
  · rename_i control
    exact .code control
  · rename_i visible
    exact .plain (by omega) (by simp_all) (by simp_all)

theorem escape?_code {code : Nat} (small : code < 32) (rest : List Char) :
    escape? ('u' :: (Text.hexDigits 4 code ++ rest)) = some (Char.ofNat code, rest) := by
  have basic : ¬(0xD800 ≤ code) := by omega
  simp [escape?, unit?_hexDigits (show code < 65536 by omega), basic, Text.scalar]

theorem string?_escapedForm (bound : Nat) (read : List Char) (character : Char)
    (rest : List Char) :
    string? (bound + 1) read (escapedForm character ++ rest) =
      string? bound (character :: read) rest := by
  generalize form : escapedForm character = written
  cases form ▸ escaped_escapedForm character with
  | letter spelled visible => simp [string?, spelled]
  | code small =>
      simp [string?, escape?_code small, Char.ofNat_toNat]
  | plain visible other unlike =>
      simp [string?, Nat.not_lt.mpr visible]

theorem string?_written {bound : Nat} (enough : text.length < bound)
    (read rest : List Char) :
    string? bound read (text.flatMap escapedForm ++ '"' :: rest) =
      some (read.reverse ++ text, rest) := by
  induction text generalizing bound read with
  | nil =>
      obtain ⟨bound, rfl⟩ := Nat.exists_eq_add_of_lt enough
      simp [string?]
  | cons character text ih =>
      obtain ⟨bound, rfl⟩ := Nat.exists_eq_add_of_lt enough
      rw [List.flatMap_cons, List.append_assoc, string?_escapedForm, ih (by simp; omega)]
      simp

theorem Escaped.length_pos {character : Char} {written : List Char}
    (escaped : Escaped character written) : 0 < written.length := by
  cases escaped <;> exact Nat.succ_pos _

theorem length_le_written (text : List Char) :
    text.length ≤ (text.flatMap escapedForm).length := by
  induction text with
  | nil => exact Nat.le_refl 0
  | cons character text ih =>
      have filled := (escaped_escapedForm character).length_pos
      rw [List.flatMap_cons, List.length_append, List.length_cons]
      omega

end Reader

/-! ## Values -/

/-- The values that can be written without loss. -/
inductive Writable : Json → Prop where
  | null : Writable .null
  | bool (value : Bool) : Writable (.bool value)
  | int {value : Int} : (Text.naturalText value.natAbs).length ≤ digitLimit →
      Writable (.int value)
  | float {value : Double} : value.isFinite = true → Writable (.float value)
  | text (value : String) : Writable (.text value)
  | array {items : List Json} : (∀ item ∈ items, Writable item) →
      Writable (.array items)
  | object {fields : Fields} : fields.Distinct →
      (∀ field ∈ fields, Writable field.2) → Writable (.object fields)

namespace Reader

variable {value : Json} {bound room : Nat} {rest : List Char}

/-- Reading a text that begins with the written form of a value gives the value and
leaves the rest, if there is enough room for it. -/
def ReadsBack (value : Json) : Prop :=
  ∀ bound room rest, EndsNumber rest → value.written.length ≤ bound →
    value.depth ≤ room → value? bound room (value.written ++ rest) = .ok (value, rest)

theorem value?_number {first : Char} (opens : first = '-' ∨ first.isDigit = true)
    (tail : List Char) :
    value? (bound + 1) room (first :: tail) = orMalformed (number? (first :: tail)) := by
  have other : first ≠ '"' ∧ first ≠ '{' ∧ first ≠ '[' ∧ first ≠ 'n' ∧ first ≠ 't' ∧
      first ≠ 'f' := by
    rcases opens with rfl | digit
    · decide
    · refine ⟨?_, ?_, ?_, ?_, ?_, ?_⟩ <;> exact Text.ne_of_isDigit digit rfl
  simp [value?, other]

theorem readsBack_number (opens : OpensNumber value.written)
    (read : ∀ rest, EndsNumber rest → number? (value.written ++ rest) = some (value, rest)) :
    ReadsBack value := by
  intro bound room rest ends enough _
  obtain ⟨first, tail, whole, sign⟩ := opens
  have found := read rest ends
  rw [whole] at enough found ⊢
  cases bound with
  | zero => cases enough
  | succ bound =>
      rw [List.cons_append] at found ⊢
      rw [value?_number sign, found]
      rfl

theorem string?_writtenText {text : List Char} (enough : (writtenText text).length ≤ bound + 1)
    (rest : List Char) :
    string? bound [] (text.flatMap escapedForm ++ ['"'] ++ rest) = some (text, rest) := by
  have shorter := length_le_written text
  rw [writtenText, List.length_cons, List.length_append, List.length_singleton] at enough
  rw [List.append_assoc]
  exact string?_written (by omega) [] rest

theorem readsBack_text (text : String) : ReadsBack (.text text) := by
  intro bound room rest _ enough _
  cases bound with
  | zero => cases enough
  | succ bound =>
      rw [written, writtenText, List.cons_append, value?, string?_writtenText enough]
      simp [orMalformed]

theorem readsBack_constant (spelled : ∀ bound room rest,
      value? (bound + 1) room (value.written ++ rest) = .ok (value, rest))
    (filled : value.written ≠ []) : ReadsBack value := by
  intro bound room rest _ enough _
  cases bound with
  | zero => exact absurd (List.length_eq_zero_iff.mp (Nat.le_zero.mp enough)) filled
  | succ bound => exact spelled bound room rest

/-- The first character of a written value is no white space, and it closes no
array. -/
def OpensValue (text : List Char) : Prop :=
  ∃ first tail, text = first :: tail ∧ isGap first = false ∧ first ≠ ']'

theorem opensValue_of_number {text : List Char} (opens : OpensNumber text) :
    OpensValue text := by
  obtain ⟨first, tail, whole, sign⟩ := opens
  refine ⟨first, tail, whole, ?_⟩
  rcases sign with rfl | digit
  · decide
  · have other : first ≠ ' ' ∧ first ≠ '\t' ∧ first ≠ '\n' ∧ first ≠ '\r' ∧ first ≠ ']' := by
      refine ⟨?_, ?_, ?_, ?_, ?_⟩ <;> exact Text.ne_of_isDigit digit rfl
    simp [isGap, other]

theorem opensValue_written (writable : Writable value) : OpensValue value.written := by
  cases writable with
  | int => exact opensValue_of_number (opensNumber_integerText _)
  | float finite => exact opensValue_of_number (opensNumber_text finite)
  | bool value => cases value <;> exact ⟨_, _, rfl, by decide, by decide⟩
  | null | text | array | object => exact ⟨_, _, rfl, by decide, by decide⟩

theorem skipGap_written (writable : Writable value) (rest : List Char) :
    skipGap (value.written ++ rest) = value.written ++ rest := by
  obtain ⟨first, tail, whole, inked, -⟩ := opensValue_written writable
  rw [whole, List.cons_append, skipGap, List.dropWhile_cons_of_neg (by simp [inked])]

/-! ### Arrays -/

/-- The characters that stand behind a value. -/
inductive IsMark : Char → Prop where
  | comma : IsMark ','
  | bracket : IsMark ']'
  | brace : IsMark '}'
  | colon : IsMark ':'

theorem endsNumber_of_mark {mark : Char} (known : IsMark mark) (rest : List Char) :
    EndsNumber (mark :: rest) := by
  rintro first ⟨⟩
  cases known <;> decide

theorem skipGap_mark {mark : Char} (known : IsMark mark) (rest : List Char) :
    skipGap (mark :: rest) = mark :: rest := by
  cases known <;> rfl

theorem skipGap_blank (rest : List Char) : skipGap (' ' :: rest) = skipGap rest :=
  rfl

theorem joined_cons_cons (first second : List Char) (others : List (List Char)) :
    joined ", ".toList (first :: second :: others) =
      first ++ ',' :: ' ' :: joined ", ".toList (second :: others) := by
  simp [joined]

theorem joined_cons (first : List Char) (others : List (List Char)) :
    ∃ more, joined ", ".toList (first :: others) = first ++ more := by
  cases others with
  | nil => exact ⟨[], (List.append_nil first).symm⟩
  | cons second others => exact ⟨_, joined_cons_cons first second others⟩

/-- No white space stands in front of parts that are joined if none stands in front
of the first. -/
theorem skipGap_joined {first : List Char} (others : List (List Char))
    (inked : ∀ rest, skipGap (first ++ rest) = first ++ rest) (rest : List Char) :
    skipGap (joined ", ".toList (first :: others) ++ rest) =
      joined ", ".toList (first :: others) ++ rest := by
  obtain ⟨more, begins⟩ := joined_cons first others
  rw [begins, List.append_assoc]
  exact inked _

theorem items?_written {items : List Json} (each : ∀ item ∈ items, Writable item)
    (back : ∀ item ∈ items, ReadsBack item) (filled : items ≠ [])
    (enough : (joined ", ".toList (writtenItems items)).length + 1 ≤ bound)
    (deep : depthOfItems items ≤ room) (read : List Json) (rest : List Char) :
    items? bound room read (joined ", ".toList (writtenItems items) ++ ']' :: rest) =
      .ok (.array (read.reverse ++ items), rest) := by
  induction items generalizing bound read with
  | nil => exact absurd rfl filled
  | cons item items ih =>
      obtain ⟨here, later⟩ := List.forall_mem_cons.mp back
      have writable := (List.forall_mem_cons.mp each).2
      rw [depthOfItems] at deep
      cases bound with
      | zero => cases enough
      | succ bound =>
      cases items with
      | nil =>
          have found := here bound room (']' :: rest) (endsNumber_of_mark .bracket rest)
            (by simpa [joined, writtenItems] using enough) (by omega)
          simp [items?, joined, writtenItems, found, skipGap_mark .bracket]
      | cons second items =>
          -- Behind the comma and the blank the second item is in front.
          have opens : skipGap (joined ", ".toList (writtenItems (second :: items)) ++
              ']' :: rest) =
                joined ", ".toList (writtenItems (second :: items)) ++ ']' :: rest :=
            skipGap_joined _ (skipGap_written (writable second List.mem_cons_self)) _
          rw [writtenItems, writtenItems, joined_cons_cons, ← writtenItems] at enough ⊢
          simp only [List.length_append, List.length_cons] at enough
          have found := here bound room
            (',' :: ' ' :: (joined ", ".toList (writtenItems (second :: items)) ++ ']' :: rest))
            (endsNumber_of_mark .comma _) (by omega) (by omega)
          rw [List.append_assoc, List.cons_append, List.cons_append, items?, found]
          simp only [skipGap_mark .comma, skipGap_blank, opens]
          rw [ih writable later (by simp) (by omega) (by omega)]
          simp

/-! ### Objects -/

def writtenField (field : String × Json) : List Char :=
  writtenText field.1.toList ++ ": ".toList ++ field.2.written

theorem writtenFields_cons (field : String × Json) (fields : Fields) :
    writtenFields (field :: fields) = writtenField field :: writtenFields fields :=
  rfl

/-- How an object goes on behind the fields that are read. -/
def afterField (bound room : Nat) (read : Fields) (rest : List Char) :
    Except ReadFault (Json × List Char) :=
  match skipGap rest with
  | ',' :: rest => members? bound room read (skipGap rest)
  | '}' :: rest => .ok (.object (Assoc.ofPairs read.reverse), rest)
  | _ => .error .malformed

/-- The name and the value of a field are read, and what follows decides how the
object goes on. -/
theorem members?_writtenField {name : String} (writable : Writable value)
    (back : ReadsBack value) (enough : (writtenField (name, value)).length ≤ bound)
    (deep : value.depth ≤ room) (read : Fields) (ends : EndsNumber rest) :
    members? (bound + 1) room read (writtenField (name, value) ++ rest) =
      afterField bound room ((name, value) :: read) rest := by
  simp only [writtenField, List.length_append] at enough
  have title : string? bound [] (name.toList.flatMap escapedForm ++ ['"'] ++
      (':' :: ' ' :: (value.written ++ rest))) =
        some (name.toList, ':' :: ' ' :: (value.written ++ rest)) :=
    string?_writtenText (by omega) _
  have content := back bound room rest ends (by omega) deep
  have whole : writtenField (name, value) ++ rest =
      '"' :: (name.toList.flatMap escapedForm ++ ['"'] ++
        (':' :: ' ' :: (value.written ++ rest))) := by
    simp [writtenField, writtenText]
  rw [whole, members?, title]
  simp only [skipGap_mark .colon, skipGap_blank, skipGap_written writable, content,
    String.ofList_toList]
  rfl

theorem members?_written {fields : Fields} (each : ∀ field ∈ fields, Writable field.2)
    (back : ∀ field ∈ fields, ReadsBack field.2) (filled : fields ≠ [])
    (enough : (joined ", ".toList (writtenFields fields)).length + 1 ≤ bound)
    (deep : depthOfFields fields ≤ room) (read : Fields) (rest : List Char) :
    members? bound room read (joined ", ".toList (writtenFields fields) ++ '}' :: rest) =
      .ok (.object (Assoc.ofPairs (read.reverse ++ fields)), rest) := by
  induction fields generalizing bound read with
  | nil => exact absurd rfl filled
  | cons field fields ih =>
      obtain ⟨name, value⟩ := field
      have writable : Writable value := each _ List.mem_cons_self
      have here : ReadsBack value := back _ List.mem_cons_self
      have others := (List.forall_mem_cons.mp each).2
      have later := (List.forall_mem_cons.mp back).2
      rw [depthOfFields] at deep
      cases bound with
      | zero => cases enough
      | succ bound =>
      cases fields with
      | nil =>
          rw [writtenFields_cons, writtenFields, joined] at enough ⊢
          rw [members?_writtenField writable here (by omega) (by omega) read
            (endsNumber_of_mark .brace rest)]
          simp [afterField, skipGap_mark .brace]
      | cons second fields =>
          -- Behind the comma and the blank the next name is in front.
          have opens : skipGap (joined ", ".toList (writtenFields (second :: fields)) ++
              '}' :: rest) =
                joined ", ".toList (writtenFields (second :: fields)) ++ '}' :: rest :=
            skipGap_joined _ (fun _ => rfl) _
          rw [writtenFields_cons, writtenFields_cons, joined_cons_cons,
            ← writtenFields_cons] at enough ⊢
          simp only [List.length_append, List.length_cons] at enough
          rw [List.append_assoc, List.cons_append, List.cons_append,
            members?_writtenField writable here (by omega) (by omega) read
              (endsNumber_of_mark .comma _)]
          simp only [afterField, skipGap_mark .comma, skipGap_blank, opens]
          rw [ih others later (by simp) (by omega) (by omega)]
          simp

/-! ### All values -/

theorem OpensValue.append {text : List Char} (opens : OpensValue text)
    (more : List Char) : OpensValue (text ++ more) := by
  obtain ⟨first, tail, rfl, facts⟩ := opens
  exact ⟨first, tail ++ more, rfl, facts⟩

theorem value?_items {text : List Char} (opens : OpensValue text) :
    value? (bound + 1) (room + 1) ('[' :: text) = items? bound room [] text := by
  obtain ⟨first, tail, rfl, inked, other⟩ := opens
  simp [value?, skipGap, inked, other]

theorem value?_members (tail : List Char) :
    value? (bound + 1) (room + 1) ('{' :: '"' :: tail) =
      members? bound room [] ('"' :: tail) :=
  rfl

/-- A value between brackets is read back if what it holds is, with less room. -/
theorem readsBack_enclosed {opening closing : Char} {content : List Char} {inner : Nat}
    (whole : value.written = opening :: (content ++ [closing]))
    (deeper : value.depth = inner + 1)
    (read : ∀ bound room rest, content.length + 1 ≤ bound → inner ≤ room →
      value? (bound + 1) (room + 1) (opening :: (content ++ closing :: rest)) =
        .ok (value, rest)) :
    ReadsBack value := by
  intro bound room rest _ enough deep
  rw [whole, List.length_cons, List.length_append, List.length_singleton] at enough
  rw [deeper] at deep
  cases room with
  | zero => cases deep
  | succ room =>
  cases bound with
  | zero => cases enough
  | succ bound =>
  rw [whole, List.cons_append, List.append_assoc, List.singleton_append]
  exact read bound room rest (by omega) (by omega)

theorem readsBack_array {items : List Json} (each : ∀ item ∈ items, Writable item)
    (back : ∀ item ∈ items, ReadsBack item) : ReadsBack (.array items) := by
  refine readsBack_enclosed rfl rfl fun bound room rest enough deep => ?_
  cases items with
  | nil => rfl
  | cons item items =>
      obtain ⟨more, begins⟩ := joined_cons item.written (writtenItems items)
      have opens : OpensValue (joined ", ".toList (writtenItems (item :: items)) ++
          ']' :: rest) := by
        rw [writtenItems, begins, List.append_assoc]
        exact (opensValue_written (each item List.mem_cons_self)).append _
      rw [value?_items opens]
      exact items?_written each back nofun enough deep [] rest

theorem readsBack_object {fields : Fields} (distinct : fields.Distinct)
    (each : ∀ field ∈ fields, Writable field.2)
    (back : ∀ field ∈ fields, ReadsBack field.2) : ReadsBack (.object fields) := by
  refine readsBack_enclosed rfl rfl fun bound room rest enough deep => ?_
  cases fields with
  | nil => rfl
  | cons field fields =>
      obtain ⟨more, begins⟩ := joined_cons (writtenField field) (writtenFields fields)
      obtain ⟨tail, opens⟩ : ∃ tail, joined ", ".toList (writtenFields (field :: fields)) ++
          '}' :: rest = '"' :: tail := by
        rw [writtenFields_cons, begins]
        exact ⟨_, rfl⟩
      have read : members? bound room []
          (joined ", ".toList (writtenFields (field :: fields)) ++ '}' :: rest) =
            .ok (.object (Assoc.ofPairs (field :: fields)), rest) :=
        members?_written each back nofun enough deep [] rest
      rw [opens, Assoc.ofPairs_of_distinct distinct] at read
      rw [opens, value?_members]
      exact read

theorem readsBack (writable : Writable value) : ReadsBack value := by
  induction writable with
  | null => exact readsBack_constant (fun _ _ _ => rfl) nofun
  | bool value => cases value <;> exact readsBack_constant (fun _ _ _ => rfl) nofun
  | int short =>
      exact readsBack_number (opensNumber_integerText _) fun rest ends =>
        number?_integerText ends short
  | float finite =>
      exact readsBack_number (opensNumber_text finite) fun rest ends =>
        number?_text ends finite
  | text text => exact readsBack_text text
  | array each back => exact readsBack_array each back
  | object distinct each back => exact readsBack_object distinct each back

end Reader

/-- The whole written form spells the value, with as much room as the value is
deep. -/
theorem readWithin_render {value : Json} (writable : Writable value) {room : Nat}
    (deep : value.depth ≤ room) : readWithin room value.render.toList = .ok value := by
  have read := Reader.readsBack writable (2 * value.written.length + 2) room [] nofun
    (by omega) deep
  have opens := Reader.skipGap_written writable []
  rw [List.append_nil] at read opens
  rw [render, String.toList_ofList, readWithin, opens, read]
  rfl

/-! ## Control characters -/

/-- A text of characters from the blank on. -/
def Plain (text : List Char) : Prop :=
  ∀ character ∈ text, 32 ≤ character.toNat

instance : DecidablePred Plain := fun text =>
  decidable_of_iff (text.all fun character => 32 ≤ character.toNat) (by
    simp only [List.all_eq_true, decide_eq_true_iff]
    rfl)

theorem Plain.append {first second : List Char} (front : Plain first)
    (back : Plain second) : Plain (first ++ second) :=
  List.forall_mem_append.mpr ⟨front, back⟩

theorem Plain.cons {first : Char} {rest : List Char} (front : 32 ≤ first.toNat)
    (back : Plain rest) : Plain (first :: rest) :=
  List.forall_mem_cons.mpr ⟨front, back⟩

theorem plain_of_numeral {text : List Char} (numeral : Text.Numeral text) :
    Plain text := by
  intro character member
  have known := numeral character member
  have ascii := (Text.isNumeral_plain known).1
  revert known
  exact Text.forall_ascii ascii (by decide)

theorem plain_hexDigits (width value : Nat) : Plain (Text.hexDigits width value) := by
  intro character member
  obtain ⟨place, -, rfl⟩ := List.mem_map.mp member
  have each : ∀ digit < 16, 32 ≤ (Text.hexDigit digit).toNat := by decide
  exact each _ (Nat.mod_lt _ (by decide))

theorem Reader.Escaped.plainText {character : Char} {written : List Char}
    (escaped : Reader.Escaped character written) : Plain written := by
  cases escaped with
  | letter spelled visible => exact .cons (by decide) (.cons visible nofun)
  | code small => exact .cons (by decide) (.cons (by decide) (plain_hexDigits _ _))
  | plain visible _ _ => exact .cons visible nofun

theorem plain_writtenText (text : List Char) : Plain (writtenText text) := by
  refine .cons (by decide) (.append ?_ (.cons (by decide) nofun))
  intro character member
  obtain ⟨original, -, within⟩ := List.mem_flatMap.mp member
  exact (Reader.escaped_escapedForm original).plainText character within

theorem plain_joined {parts : List (List Char)} (each : ∀ part ∈ parts, Plain part) :
    Plain (joined ", ".toList parts) := by
  induction parts with
  | nil => exact fun _ member => absurd member List.not_mem_nil
  | cons first others ih =>
      obtain ⟨here, later⟩ := List.forall_mem_cons.mp each
      cases others with
      | nil => exact here
      | cons second others =>
          rw [Reader.joined_cons_cons]
          exact here.append (.cons (by decide) (.cons (by decide) (ih later)))

theorem writtenItems_eq (items : List Json) : writtenItems items = items.map written := by
  induction items with
  | nil => rfl
  | cons item items ih => rw [writtenItems, ih, List.map_cons]

theorem writtenFields_eq (fields : Fields) :
    writtenFields fields = fields.map Reader.writtenField := by
  induction fields with
  | nil => rfl
  | cons field fields ih => rw [Reader.writtenFields_cons, ih, List.map_cons]

theorem plain_written {value : Json} (writable : Writable value) : Plain value.written := by
  induction writable with
  | null => decide
  | bool value => cases value <;> decide
  | int => exact plain_of_numeral (Text.numeral_integerText _)
  | @float value finite =>
      cases value with
      | infinite _ | notANumber => cases finite
      | finite negative magnitude =>
          have size := plain_of_numeral (magnitude.numeral_text .exchange)
          cases negative with
          | false => exact size
          | true => exact .cons (by decide) size
  | text text => exact plain_writtenText text.toList
  | array each plain =>
      rw [written, writtenItems_eq]
      refine .cons (by decide) ((plain_joined ?_).append (.cons (by decide) nofun))
      exact List.forall_mem_map.mpr plain
  | object distinct each plain =>
      have colon : Plain ": ".toList := .cons (by decide) (.cons (by decide) nofun)
      rw [written, writtenFields_eq]
      refine .cons (by decide) ((plain_joined ?_).append (.cons (by decide) nofun))
      refine List.forall_mem_map.mpr fun field member => ?_
      exact ((plain_writtenText _).append colon).append (plain field member)

end AdminGate.Json
