import Mathlib.Data.List.Forall2
import Mathlib.Data.List.ReduceOption
import AdminGate.Command.CookieText
import AdminGate.Proofs.NamedValues
import AdminGate.Proofs.Trimming
import AdminGate.Proofs.WebAddresses

/-!
# Cookies are read as they are written

`Segment` says what may stand between two semicolons: a name and a value with an
equals sign between them and blanks wherever one likes, or something that gives no
cookie.  Every text consists of such segments, and reading it gives the cookies of
its segments, the last one of a name counting.  So cookies that are written in any of
these ways are read again, and what has been read is written in one of them.
-/

namespace AdminGate.CookieText

open Text (isBlank trim trimmed_trim)

variable {segment front rest : List Char} {text : String}
  {content : Option (String × String)} {cookies : Assoc String}

def Blank (text : List Char) : Prop :=
  ∀ character ∈ text, isBlank character = true

structure IsName (name : List Char) : Prop where
  filled : name ≠ []
  trimmed : Text.Trimmed name
  closed : ';' ∉ name
  unequal : '=' ∉ name

structure IsValue (value : List Char) : Prop where
  trimmed : Text.Trimmed value
  closed : ';' ∉ value

/-- What stands between two semicolons, and the cookie that it gives. -/
inductive Segment : List Char → Option (String × String) → Prop where
  | cookie {first second third fourth : List Char} {name value : String} :
      Blank first → Blank second → Blank third → Blank fourth →
      IsName name.toList → IsValue value.toList →
      Segment (first ++ name.toList ++ second ++
        '=' :: (third ++ value.toList ++ fourth)) (some (name, value))
  | stray {text : List Char} : ';' ∉ text → '=' ∉ text → Segment text none
  | nameless {before text : List Char} : Blank before → ';' ∉ text →
      Segment (before ++ '=' :: text) none

/-- A text that is made of segments, of which those that give cookies give certain
ones in some order. -/
def Spells (text : String) (cookies : Assoc String) : Prop :=
  ∃ segments contents, text = String.ofList (Text.joinWith ';' segments) ∧
    List.Forall₂ Segment segments contents ∧ contents.reduceOption.Perm cookies

/-! ## Segments -/

theorem Blank.not_mem {mark : Char} (inked : isBlank mark = false)
    (blank : Blank segment) : mark ∉ segment := by
  intro member
  rw [blank mark member] at inked
  cases inked

theorem Segment.closed (written : Segment segment content) : ';' ∉ segment := by
  have inked : isBlank ';' = false := by decide
  cases written with
  | cookie first second third fourth name value =>
      simp [first.not_mem inked, second.not_mem inked, third.not_mem inked,
        fourth.not_mem inked, name.closed, value.closed]
  | stray closed unequal => exact closed
  | nameless before closed => simp [before.not_mem inked, closed]

/-- What stands in front of the first equals sign is the name, the rest the value. -/
theorem entry?_cut (unequal : '=' ∉ front) (rest : List Char) :
    entry? (front ++ '=' :: rest) =
      if trim front = [] then none
      else some (String.ofList (trim front), String.ofList (trim rest)) := by
  have inside : ∀ character ∈ Text.trimStart front, (character != '=') = true := by
    intro character member
    have within : character ∈ front := (List.dropWhile_sublist _).subset member
    exact bne_iff_ne.mpr fun same => unequal (same ▸ within)
  have stops : ∀ character ∈ ('=' :: Text.trimEnd rest).head?,
      (character != '=') = false := by
    simp
  obtain ⟨named, behind⟩ := Http.takeWhile_drop_iff.mpr ⟨rfl, inside, stops⟩
  have cut := Text.trim_append_cons (by decide : isBlank '=' = false) front rest
  unfold entry?
  simp only [cut, named, behind, Text.trim_trimStart, Text.trim_trimEnd,
    List.isEmpty_iff]

theorem entry?_uncut (unequal : '=' ∉ segment) : entry? segment = none := by
  have inside : ∀ character ∈ trim segment, (character != '=') = true := by
    intro character member
    have within : character ∈ segment := (Text.trim_sublist segment).subset member
    exact bne_iff_ne.mpr fun same => unequal (same ▸ within)
  obtain ⟨named, behind⟩ := Http.takeWhile_drop_iff.mpr
    ⟨(List.append_nil _).symm, inside, by simp⟩
  unfold entry?
  simp only [named, behind]

theorem Segment.read (written : Segment segment content) :
    entry? segment = content := by
  cases written with
  | cookie front behind ahead back named valued =>
      have inked : isBlank '=' = false := by decide
      have unequal := List.not_mem_append
        (List.not_mem_append (front.not_mem inked) named.unequal) (behind.not_mem inked)
      rw [entry?_cut unequal, Text.trim_pad front behind, Text.trim_pad ahead back,
        Text.trim_eq_self named.trimmed, Text.trim_eq_self valued.trimmed,
        if_neg named.filled, String.ofList_toList, String.ofList_toList]
  | stray closed unequal => exact entry?_uncut unequal
  | nameless blank closed =>
      rw [entry?_cut (blank.not_mem (by decide)), if_pos (Text.trim_of_blank blank)]

theorem segment_of_closed (closed : ';' ∉ segment) (read : entry? segment = content) :
    Segment segment content := by
  subst read
  by_cases equals : '=' ∈ segment
  · obtain ⟨front, rest, rfl, unequal⟩ := List.eq_append_cons_of_mem equals
    have free : ';' ∉ front ∧ ';' ∉ rest := by simp_all
    rw [entry?_cut unequal]
    split
    · rename_i blank
      exact .nameless (Text.trim_eq_nil_iff.mp blank) free.2
    · rename_i filled
      have named : IsName (trim front) :=
        ⟨filled, trimmed_trim front,
          fun member => free.1 ((Text.trim_sublist front).subset member),
          fun member => unequal ((Text.trim_sublist front).subset member)⟩
      have valued : IsValue (trim rest) :=
        ⟨trimmed_trim rest,
          fun member => free.2 ((Text.trim_sublist rest).subset member)⟩
      obtain ⟨first, second, before, behind, whole⟩ := Text.exists_pad front
      obtain ⟨third, fourth, ahead, back, remainder⟩ := Text.exists_pad rest
      have written := @Segment.cookie first second third fourth
        (String.ofList (trim front)) (String.ofList (trim rest)) before behind ahead back
        (by rwa [String.toList_ofList]) (by rwa [String.toList_ofList])
      rwa [String.toList_ofList, String.toList_ofList, ← whole, ← remainder] at written
  · rw [entry?_uncut equals]
    exact .stray closed equals

theorem entry?_eq_iff (closed : ';' ∉ segment) :
    entry? segment = content ↔ Segment segment content :=
  ⟨segment_of_closed closed, Segment.read⟩

/-! ## Texts -/

theorem closed_of_segments {segments : List (List Char)}
    {contents : List (Option (String × String))}
    (written : List.Forall₂ Segment segments contents) :
    ∀ segment ∈ segments, ';' ∉ segment := by
  induction written with
  | nil => exact List.forall_mem_nil _
  | cons first _ ih => exact List.forall_mem_cons.mpr ⟨first.closed, ih⟩

theorem filterMap_segments {segments : List (List Char)}
    {contents : List (Option (String × String))}
    (written : List.Forall₂ Segment segments contents) :
    segments.filterMap entry? = contents.reduceOption := by
  induction written with
  | nil => rfl
  | cons first _ ih =>
      rw [List.filterMap_cons, first.read, ih]
      split
      · exact (List.reduceOption_cons_of_none _).symm
      · exact (List.reduceOption_cons_of_some _ _).symm

theorem parse_joinWith {segments : List (List Char)}
    {contents : List (Option (String × String))}
    (written : List.Forall₂ Segment segments contents) :
    parse (String.ofList (Text.joinWith ';' segments)) =
      .ofPairs contents.reduceOption := by
  rw [parse, String.toList_ofList, ← filterMap_segments written]
  by_cases none : segments = []
  · -- A text without segments is read as one that is empty.
    subst none
    rfl
  · rw [Text.splitAt_joinWith none (closed_of_segments written)]

theorem parse_of_spells (spells : Spells text cookies) (distinct : cookies.Distinct) :
    (parse text).Perm cookies := by
  obtain ⟨segments, contents, rfl, written, same⟩ := spells
  have apart : Assoc.Distinct contents.reduceOption :=
    (same.map Prod.fst).nodup_iff.mpr distinct
  rw [parse_joinWith written, Assoc.ofPairs_of_distinct apart]
  exact same

/-! ## Texts that are written -/

theorem joinWith_cons_cons (character : Char) (first : List Char)
    (others : List (List Char)) :
    Text.joinWith ';' ((character :: first) :: others) =
      character :: Text.joinWith ';' (first :: others) := by
  cases others <;> rfl

theorem intercalate_eq_joinWith (first : List Char) (others : List (List Char)) :
    [';', ' '].intercalate (first :: others) =
      Text.joinWith ';' (first :: others.map (' ' :: ·)) := by
  induction others generalizing first with
  | nil => simp [Text.joinWith]
  | cons next rest ih =>
      rw [List.intercalate_cons_cons, ih, List.map_cons, Text.joinWith,
        joinWith_cons_cons]
      simp

def written (cookie : String × String) : List Char :=
  cookie.1.toList ++ '=' :: cookie.2.toList

theorem segment_written {before : List Char} {cookie : String × String}
    (blank : Blank before)
    (formed : IsName cookie.1.toList ∧ IsValue cookie.2.toList) :
    Segment (before ++ written cookie) (some cookie) := by
  have bare : Blank [] := List.forall_mem_nil _
  simpa [written] using Segment.cookie blank bare bare bare formed.1 formed.2

theorem toList_render (cookies : Assoc String) :
    (render cookies).toList = [';', ' '].intercalate (cookies.map written) := by
  rw [render, String.toList_intercalate, List.map_map]
  congr 2
  funext cookie
  simp [written]

theorem exists_segments_render
    (formed : ∀ cookie ∈ cookies, IsName cookie.1.toList ∧ IsValue cookie.2.toList) :
    ∃ segments, render cookies = String.ofList (Text.joinWith ';' segments) ∧
      List.Forall₂ Segment segments (cookies.map some) := by
  cases cookies with
  | nil => exact ⟨[], rfl, .nil⟩
  | cons first others =>
      obtain ⟨here, later⟩ := List.forall_mem_cons.mp formed
      have bare : Blank [] := List.forall_mem_nil _
      have blank : Blank [' '] := List.forall_mem_singleton.mpr (by decide)
      refine ⟨written first :: (others.map written).map (' ' :: ·), ?_,
        .cons (segment_written bare here) ?_⟩
      · rw [← intercalate_eq_joinWith, ← List.map_cons, ← toList_render,
          String.ofList_toList]
      · rw [List.map_map, List.forall₂_map_left_iff, List.forall₂_map_right_iff,
          List.forall₂_same]
        exact fun cookie member => segment_written blank (later cookie member)

theorem reduceOption_map_some (cookies : Assoc String) :
    (cookies.map some).reduceOption = cookies := by
  simp [List.reduceOption]

theorem parse_render (distinct : cookies.Distinct)
    (formed : ∀ cookie ∈ cookies, IsName cookie.1.toList ∧ IsValue cookie.2.toList) :
    parse (render cookies) = cookies := by
  obtain ⟨segments, same, written⟩ := exists_segments_render formed
  rw [same, parse_joinWith written, reduceOption_map_some,
    Assoc.ofPairs_of_distinct distinct]

/-! ## What is read -/

theorem distinct_parse (text : String) : (parse text).Distinct := by
  have empty : Assoc.Distinct ([] : Assoc String) := List.nodup_nil
  exact empty.insertAll _

/-- The last segment that gives a cookie of a name gives its value. -/
theorem get?_parse_eq_some_iff {name value : String} :
    (parse text).get? name = some value ↔ ∃ before segment after,
      Text.splitAt ';' text.toList = before ++ segment :: after ∧
        Segment segment (some (name, value)) ∧
        ∀ other ∈ after, ∀ otherValue, ¬Segment other (some (name, otherValue)) := by
  have only : (parse text).get? name =
      Assoc.get? ((Text.splitAt ';' text.toList).filterMap entry?).reverse name := by
    rw [parse, Assoc.ofPairs, Assoc.get?_insertAll]
    exact Option.or_none
  have closed : ∀ part ∈ Text.splitAt ';' text.toList, ';' ∉ part :=
    fun _ => Text.not_mem_of_mem_splitAt
  rw [only, Assoc.get?_filterMap_reverse_eq_some_iff]
  refine exists_congr fun before => exists_congr fun segment => exists_congr fun after =>
    and_congr_right fun whole => ?_
  rw [whole] at closed
  refine and_congr (entry?_eq_iff (closed segment List.mem_append_cons_self)) ?_
  exact forall₂_congr fun other later => forall_congr' fun otherValue =>
    not_congr (entry?_eq_iff (closed other (by simp [later])))

theorem Segment.formed {name value : String}
    (written : Segment segment (some (name, value))) :
    IsName name.toList ∧ IsValue value.toList := by
  cases written with
  | cookie _ _ _ _ named valued => exact ⟨named, valued⟩

theorem formed_of_mem_parse {cookie : String × String} (member : cookie ∈ parse text) :
    IsName cookie.1.toList ∧ IsValue cookie.2.toList := by
  have found : (parse text).get? cookie.1 = some cookie.2 :=
    (distinct_parse text).get?_eq_some_iff_mem.mpr member
  obtain ⟨_, _, _, _, written, _⟩ := get?_parse_eq_some_iff.mp found
  exact written.formed

/-- What can be said of the cookies that are read from any text. -/
structure ReadFrom (text : String) (cookies : Assoc String) : Prop where
  segmented : ∀ segment ∈ Text.splitAt ';' text.toList, ∃ content,
    Segment segment content
  distinct : cookies.Distinct
  formed : ∀ cookie ∈ cookies, IsName cookie.1.toList ∧ IsValue cookie.2.toList
  /-- Of several segments with cookies of one name the last one counts. -/
  last : ∀ name value, cookies.get? name = some value ↔ ∃ before segment after,
    Text.splitAt ';' text.toList = before ++ segment :: after ∧
      Segment segment (some (name, value)) ∧
      ∀ other ∈ after, ∀ otherValue, ¬Segment other (some (name, otherValue))
  again : parse (render cookies) = cookies

theorem parse_readFrom (text : String) : ReadFrom text (parse text) where
  segmented := fun _ member =>
    ⟨_, segment_of_closed (Text.not_mem_of_mem_splitAt member) rfl⟩
  distinct := distinct_parse text
  formed := fun _ => formed_of_mem_parse
  last := fun _ _ => get?_parse_eq_some_iff
  again := parse_render (distinct_parse text) fun _ => formed_of_mem_parse

/-- Cookies are read from every text that spells them, and what is read from any text
are cookies that can be written. -/
theorem parse_returnsWritten {text : String} {cookies : Assoc String}
    (spells : Spells text cookies) (distinct : cookies.Distinct) :
    (parse text).Perm cookies ∧
      (∀ name, (parse text).get? name = cookies.get? name) ∧
      ∀ other, ReadFrom other (parse other) := by
  have same : (parse text).Perm cookies := parse_of_spells spells distinct
  exact ⟨same, (distinct_parse text).get?_of_perm same, parse_readFrom⟩

/-- Two cookies in another order, one of them empty and the other one with an equals
sign, between blanks of three kinds, a word of its own, and nothing. -/
theorem parse_returnsWritten_untidy :
    Spells "b\t= ;junk;\u00a0a =1=2;" [("a", "1=2"), ("b", "")] ∧
      Assoc.Distinct [("a", "1=2"), ("b", "")] ∧
      (parse "b\t= ;junk;\u00a0a =1=2;").Perm [("a", "1=2"), ("b", "")] ∧
      (parse "b\t= ;junk;\u00a0a =1=2;").get? "a" = some "1=2" := by
  have spells : Spells "b\t= ;junk;\u00a0a =1=2;" [("a", "1=2"), ("b", "")] := by
    refine ⟨["b\t= ".toList, "junk".toList, "\u00a0a =1=2".toList, []],
      [some ("b", ""), none, some ("a", "1=2"), none], by decide +kernel, ?_, .swap _ _ _⟩
    exact .cons (segment_of_closed (by decide) (by decide +kernel))
      (.cons (segment_of_closed (by decide) (by decide +kernel))
        (.cons (segment_of_closed (by decide) (by decide +kernel))
          (.cons (segment_of_closed (by decide) (by decide +kernel)) .nil)))
  have distinct : Assoc.Distinct [("a", "1=2"), ("b", "")] := by
    have names : (["a", "b"] : List String).Nodup := by decide
    exact names
  obtain ⟨same, held, _⟩ := parse_returnsWritten spells distinct
  exact ⟨spells, distinct, same, held "a"⟩

end AdminGate.CookieText
