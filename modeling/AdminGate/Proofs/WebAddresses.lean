import Mathlib.Data.List.TakeWhile
import AdminGate.Http.Split
import AdminGate.Text.Ascii
import AdminGate.Text.Case

/-!
# Absolute web addresses

`WebAddress` says how an absolute web address is written: a scheme, a colon and
two slashes, a network location, and whatever begins with a delimiter.  Splitting
finds exactly these parts.  What the split refuses is refused on account of the
network location alone.
-/

namespace AdminGate.Http

/-! ## Cutting a text where a run of characters ends -/

/-- A text is cut behind the longest run at its start exactly when everything in
front of the cut belongs to the run and the first character behind it does not. -/
theorem takeWhile_drop_iff {run : Char → Bool} {text front rest : List Char} :
    text.takeWhile run = front ∧ text.drop front.length = rest ↔
      text = front ++ rest ∧ (∀ character ∈ front, run character = true) ∧
        ∀ character ∈ rest.head?, run character = false := by
  constructor
  · rintro ⟨rfl, rfl⟩
    have whole : text.takeWhile run ++ text.drop (text.takeWhile run).length =
        text := List.prefix_iff_eq_append.mp (List.takeWhile_prefix run)
    have behind : text.drop (text.takeWhile run).length = text.dropWhile run :=
      List.append_cancel_left
        (whole.trans List.takeWhile_append_dropWhile.symm)
    refine ⟨whole.symm, fun _ member => List.mem_takeWhile_imp member, ?_⟩
    intro character starts
    have stops := List.head?_dropWhile_not run text
    rw [← behind, starts] at stops
    exact stops
  · rintro ⟨rfl, inside, outside⟩
    refine ⟨?_, List.drop_left⟩
    rw [List.takeWhile_append_of_pos inside]
    cases rest with
    | nil => simp
    | cons first others => simp [outside first rfl]

/-! ## Schemes and network locations -/

theorem splitScheme_append {scheme : List Char} (rest : List Char)
    (letters : ∀ character ∈ scheme, character.isAlpha = true)
    (filled : scheme ≠ []) :
    splitScheme (scheme ++ ':' :: rest) = (scheme.map Char.toLower, rest) := by
  have beforeColon : ∀ character ∈ scheme, (character != ':') = true := by
    intro character member
    refine bne_iff_ne.mpr ?_
    rintro rfl
    exact absurd (letters ':' member) (by decide)
  have cut : (scheme ++ ':' :: rest).takeWhile (· != ':') = scheme ∧
      (scheme ++ ':' :: rest).drop scheme.length = ':' :: rest :=
    takeWhile_drop_iff.mpr ⟨rfl, beforeColon, by simp⟩
  have spelt : scheme.all isSchemeCharacter = true := by
    rw [List.all_eq_true]
    intro character member
    simp [isSchemeCharacter, letters character member]
  unfold splitScheme
  simp only [cut.1, cut.2]
  cases scheme with
  | nil => exact absurd rfl filled
  | cons first others =>
      simp only [spelt, letters first List.mem_cons_self, Bool.and_self, if_true]

theorem eq_of_splitScheme {input scheme rest : List Char}
    (split : splitScheme input = (scheme, rest)) (filled : scheme ≠ []) :
    ∃ written, input = written ++ ':' :: rest ∧
      written.map Char.toLower = scheme := by
  unfold splitScheme at split
  dsimp only at split
  split at split
  · rename_i behind first others cut begins
    split at split
    · cases split
      exact ⟨input.takeWhile (· != ':'), (takeWhile_drop_iff.mp ⟨rfl, cut⟩).1, rfl⟩
    · cases split
      exact absurd rfl filled
  · cases split
    exact absurd rfl filled

theorem splitNetloc_eq_iff {input netloc rest : List Char} (filled : netloc ≠ []) :
    splitNetloc input = (netloc, rest) ↔
      input = '/' :: '/' :: (netloc ++ rest) ∧
        (∀ character ∈ netloc, endsNetloc character = false) ∧
        ∀ character ∈ rest.head?, endsNetloc character = true := by
  have cut (behind : List Char) : splitNetloc ('/' :: '/' :: behind) =
      (netloc, rest) ↔ behind.takeWhile (!endsNetloc ·) = netloc ∧
        behind.drop netloc.length = rest := by
    rw [splitNetloc, Prod.mk.injEq]
    exact and_congr_right fun front => by rw [front]
  constructor
  · intro split
    unfold splitNetloc at split
    split at split
    · rename_i behind
      simpa using takeWhile_drop_iff.mp ((cut behind).mp split)
    · cases split
      exact absurd rfl filled
  · rintro ⟨rfl, inside, outside⟩
    exact (cut _).mpr (takeWhile_drop_iff.mpr
      ⟨rfl, by simpa using inside, by simpa using outside⟩)

/-! ## Web addresses -/

/-- The characters of an address that count: white space and control characters
in front of it are ignored, tabs and line breaks everywhere. -/
def visible (input : List Char) : List Char :=
  (input.dropWhile fun character => character.toNat ≤ 32).filter
    fun character => !(character == '\t' || character == '\n' || character == '\r')

/-- The scheme of an address in lower case, empty when there is none. -/
def schemeOf (input : List Char) : List Char :=
  (splitScheme (visible input)).1

/-- The network location of an address, empty when there is none. -/
def locationOf (input : List Char) : List Char :=
  (splitNetloc (splitScheme (visible input)).2).1

/-- An absolute web address at a network location: `http` or `https`, in capital
or small letters, a colon and two slashes, the location, and then nothing or
something that begins with one of the delimiters. -/
structure WebAddress (input location : List Char) : Prop where
  written : ∃ scheme rest,
    visible input = scheme ++ "://".toList ++ location ++ rest ∧
      (scheme.map Char.toLower = "http".toList ∨
        scheme.map Char.toLower = "https".toList) ∧
      ∀ character ∈ rest.head?, endsNetloc character = true
  filled : location ≠ []
  undivided : ∀ character ∈ location, endsNetloc character = false

theorem isAlpha_of_toLower {character : Char}
    (small : character.toLower ∈ "https".toList) : character.isAlpha = true := by
  have bounded : character.toLower.toNat < 128 := by
    have table : "https".toList.all (·.toNat < 128) = true := by decide
    exact of_decide_eq_true (List.all_eq_true.mp table _ small)
  have table : ∀ code : Fin 128, (Char.ofNat code).toLower ∈ "https".toList →
      (Char.ofNat code).isAlpha = true := by decide
  exact Text.forall_ascii (motive := fun character =>
    character.toLower ∈ "https".toList → character.isAlpha = true)
    (Text.lt_of_toLower_lt bounded) table small

theorem letters_of_web {scheme : List Char}
    (web : scheme.map Char.toLower = "http".toList ∨
      scheme.map Char.toLower = "https".toList) :
    (∀ character ∈ scheme, character.isAlpha = true) ∧ scheme ≠ [] := by
  constructor
  · intro character member
    have lowered : character.toLower ∈ scheme.map Char.toLower :=
      List.mem_map_of_mem member
    apply isAlpha_of_toLower
    rcases web with http | https
    · rw [http] at lowered
      have within : "http".toList ⊆ "https".toList := by decide
      exact within lowered
    · rwa [https] at lowered
  · rintro rfl
    revert web
    decide

theorem webAddress_iff {input location : List Char} :
    WebAddress input location ↔
      (schemeOf input = "http".toList ∨ schemeOf input = "https".toList) ∧
        locationOf input = location ∧ location ≠ [] := by
  constructor
  · rintro ⟨⟨scheme, rest, written, web, outside⟩, filled, undivided⟩
    obtain ⟨letters, spelt⟩ := letters_of_web web
    have split : splitScheme (visible input) =
        (scheme.map Char.toLower, '/' :: '/' :: (location ++ rest)) := by
      rw [written, ← splitScheme_append _ letters spelt]
      simp
    have located : splitNetloc ('/' :: '/' :: (location ++ rest)) =
        (location, rest) :=
      (splitNetloc_eq_iff filled).mpr ⟨rfl, undivided, outside⟩
    rw [schemeOf, locationOf, split, located]
    exact ⟨web, rfl, filled⟩
  · rintro ⟨web, rfl, filled⟩
    rcases split : splitScheme (visible input) with ⟨scheme, behind⟩
    rcases located : splitNetloc behind with ⟨location, rest⟩
    have schemeFound : schemeOf input = scheme := by rw [schemeOf, split]
    have locationFound : locationOf input = location := by
      rw [locationOf, split, located]
    rw [schemeFound] at web
    rw [locationFound] at filled ⊢
    -- An empty scheme would mean that there was none to cut off.
    have spelt : scheme ≠ [] := by
      rintro rfl
      revert web
      decide
    obtain ⟨written, whole, lowered⟩ := eq_of_splitScheme split spelt
    obtain ⟨rfl, inside, outside⟩ := (splitNetloc_eq_iff filled).mp located
    refine ⟨⟨written, rest, ?_, ?_, outside⟩, filled, inside⟩
    · rw [whole]
      simp
    · rwa [lowered]

/-! ## What the split refuses -/

/-- Refuse a network location whose brackets hold no address, or that holds a
character that stands for a delimiter. -/
def checkLocation (location : List Char) : Except SplitError Unit := do
  checkBrackets location
  checkDelimiters location

/-- The split is refused on account of the network location alone, and else finds
the scheme and the location. -/
theorem splitAddress_cases (input : List Char) :
    (∃ cause, checkLocation (locationOf input) = .error cause ∧
        splitAddress input = .error cause) ∨
      (checkLocation (locationOf input) = .ok () ∧
        ∃ parts, splitAddress input = .ok parts ∧
          parts.scheme = schemeOf input ∧ parts.netloc = locationOf input) := by
  let behind := cutAt '#' (splitNetloc (splitScheme (visible input)).2).2
  let front := cutAt '?' behind.1
  have whole : splitAddress input = (checkBrackets (locationOf input)).bind
      fun _ => (checkDelimiters (locationOf input)).bind fun _ =>
        .ok ⟨schemeOf input, locationOf input, front.1, front.2, behind.2⟩ := rfl
  have checks : checkLocation (locationOf input) =
      (checkBrackets (locationOf input)).bind
        fun _ => checkDelimiters (locationOf input) := rfl
  rw [whole, checks]
  cases checkBrackets (locationOf input) with
  | error cause => exact .inl ⟨cause, rfl, rfl⟩
  | ok =>
      cases checkDelimiters (locationOf input) with
      | error cause => exact .inl ⟨cause, rfl, rfl⟩
      | ok => exact .inr ⟨rfl, _, rfl, rfl, rfl⟩

end AdminGate.Http
