import Mathlib.Data.List.DropRight
import AdminGate.Proofs.HeaderFields
import AdminGate.Proofs.WebAddresses

/-!
# Network locations that can be split

`Splittable` says which network locations a split lets pass: those without a
character that stands for a delimiter, whose brackets, if there are any, hold an
address of version 6 or a future one.  Splitting checks exactly this.
-/

namespace AdminGate.Http

/-! ## Texts between brackets -/

/-- A text that may stand between brackets: a future address, which is a `v`, a
hexadecimal number, a dot and something more, or an address of version 6. -/
inductive Bracketable : List Char → Prop where
  | future {version rest : List Char} : version ≠ [] →
      (∀ digit ∈ version, (Text.hexDigit? digit).isSome = true) → rest ≠ [] →
      Bracketable ('v' :: (version ++ '.' :: rest))
  | address {host : List Char} : host.head? ≠ some 'v' → isIpv4 host = false →
      isIpv6 host = true → Bracketable host

theorem checkBracketed_eq_ok_iff {host : List Char} :
    checkBracketed host = .ok () ↔ Bracketable host := by
  constructor
  · intro accepted
    unfold checkBracketed at accepted
    split at accepted
    · dsimp only at accepted
      split at accepted
      · rename_i first others behind
        split at accepted
        · cases accepted
        · rename_i filled
          obtain ⟨whole, digits, _⟩ := takeWhile_drop_iff.mp ⟨rfl, behind⟩
          rw [whole]
          exact .future (by simpa using filled) digits (List.cons_ne_nil _ _)
      · cases accepted
    · rename_i present
      split at accepted
      · cases accepted
      · rename_i foreign
        split at accepted
        · rename_i isAddress
          refine .address ?_ (by simpa using foreign) isAddress
          intro starts
          obtain ⟨rest, whole⟩ := List.head?_eq_some_iff.mp starts
          exact present rest whole
        · cases accepted
  · intro bracketable
    unfold checkBracketed
    cases bracketable with
    | @future version rest filled digits more =>
        obtain ⟨first, others, rfl⟩ := List.exists_cons_of_ne_nil more
        have cut : (version ++ '.' :: first :: others).takeWhile
              (fun digit => (Text.hexDigit? digit).isSome) = version ∧
            (version ++ '.' :: first :: others).drop version.length =
              '.' :: first :: others :=
          takeWhile_drop_iff.mpr ⟨rfl, digits, by simp [Text.hexDigit?]⟩
        simp [cut.1, filled]
    | address present foreign isAddress =>
        split
        · exact absurd rfl present
        · simp [foreign, isAddress]

/-! ## Cutting a text at a mark -/

theorem takeWhile_mark_iff {mark : Char} {text front rest : List Char} :
    text.takeWhile (· != mark) = front ∧ text.drop front.length = rest ↔
      text = front ++ rest ∧ mark ∉ front ∧
        ∀ first ∈ rest.head?, first = mark := by
  have without : (∀ character ∈ front, (character != mark) = true) ↔
      mark ∉ front := by
    simp only [bne_iff_ne]
    exact ⟨fun inside member => inside mark member rfl,
      fun absent _ member same => absent (same ▸ member)⟩
  rw [takeWhile_drop_iff, without]
  simp only [bne_eq_false_iff_eq]

theorem cutAt_eq_iff {mark : Char} {input front behind : List Char} :
    cutAt mark input = (front, behind) ↔ mark ∉ front ∧
      (input = front ∧ behind = [] ∨ input = front ++ mark :: behind) := by
  constructor
  · intro cut
    dsimp only [cutAt] at cut
    cases rest : input.drop (input.takeWhile (· != mark)).length with
    | nil =>
        obtain ⟨whole, absent, _⟩ := takeWhile_mark_iff.mp ⟨rfl, rest⟩
        rw [rest] at cut
        cases cut
        exact ⟨absent, .inl ⟨by simpa using whole, rfl⟩⟩
    | cons first others =>
        obtain ⟨whole, absent, marked⟩ := takeWhile_mark_iff.mp ⟨rfl, rest⟩
        rw [marked first rfl] at whole
        rw [rest] at cut
        cases cut
        exact ⟨absent, .inr whole⟩
  · rintro ⟨absent, ⟨rfl, rfl⟩ | rfl⟩
    · have cut := takeWhile_mark_iff.mpr
        ⟨(List.append_nil input).symm, absent, nofun⟩
      simp only [cutAt, cut.1, cut.2, List.drop_nil]
    · have cut := takeWhile_mark_iff.mpr
        ⟨(rfl : front ++ mark :: behind = _), absent, by simp⟩
      simp only [cutAt, cut.1, cut.2, List.drop_succ_cons, List.drop_zero]

/-- What stands behind the last `@` of a text, all of it if there is none. -/
structure BehindUser (location place : List Char) : Prop where
  absent : '@' ∉ place
  cut : ∃ user, location = user ++ place ∧ ∀ last ∈ user.getLast?, last = '@'

theorem behindUser_iff {location place : List Char} :
    (location.reverse.takeWhile (· != '@')).reverse = place ↔
      BehindUser location place := by
  -- The last mark of a text is the first one of the reversed text.
  constructor
  · intro cut
    obtain ⟨whole, absent, ends⟩ := takeWhile_mark_iff.mp
      ⟨List.reverse_eq_iff.mp cut, rfl⟩
    have back := congrArg List.reverse whole
    rw [List.reverse_reverse, List.reverse_append, List.reverse_reverse] at back
    exact ⟨by simpa using absent, _, back, by simpa using ends⟩
  · rintro ⟨absent, user, rfl, ends⟩
    have cut := takeWhile_mark_iff.mpr
      ⟨(List.reverse_append : (user ++ place).reverse = _), by simpa using absent,
        by simpa using ends⟩
    rw [cut.1, List.reverse_reverse]

/-! ## Brackets -/

/-- A host with its port, in brackets or not, where brackets are called for. -/
inductive NamesHost : List Char → Prop where
  | closed {host port : List Char} : ']' ∉ host →
      (∀ first ∈ port.head?, first = ':') → Bracketable host →
      NamesHost ('[' :: (host ++ ']' :: port))
  | unclosed {host : List Char} : ']' ∉ host → Bracketable host →
      NamesHost ('[' :: host)
  | unopened {host port : List Char} : '[' ∉ host ++ port → ':' ∉ host →
      (∀ first ∈ port.head?, first = ':') → Bracketable host →
      NamesHost (host ++ port)

theorem namesHost_opened_iff {inside : List Char} :
    NamesHost ('[' :: inside) ↔ ∃ host after, cutAt ']' inside = (host, after) ∧
      (∀ first ∈ after.head?, first = ':') ∧ Bracketable host := by
  constructor
  · intro names
    generalize opened : '[' :: inside = place at names
    cases names with
    | closed closes port address =>
        cases opened
        exact ⟨_, _, cutAt_eq_iff.mpr ⟨closes, .inr rfl⟩, port, address⟩
    | unclosed closes address =>
        cases opened
        exact ⟨_, [], cutAt_eq_iff.mpr ⟨closes, .inl ⟨rfl, rfl⟩⟩, nofun, address⟩
    | unopened opens =>
        rw [← opened] at opens
        exact absurd List.mem_cons_self opens
  · rintro ⟨host, after, cut, port, address⟩
    obtain ⟨closes, ⟨rfl, _⟩ | rfl⟩ := cutAt_eq_iff.mp cut
    · exact .unclosed closes address
    · exact .closed closes port address

theorem namesHost_unopened_iff {place : List Char} (opens : '[' ∉ place) :
    NamesHost place ↔ Bracketable (place.takeWhile (· != ':')) := by
  constructor
  · intro names
    cases names with
    | closed | unclosed => exact absurd List.mem_cons_self opens
    | unopened _ undivided port address =>
        rwa [(takeWhile_mark_iff.mpr ⟨rfl, undivided, port⟩).1]
  · intro address
    obtain ⟨whole, undivided, port⟩ :=
      takeWhile_mark_iff.mp ⟨(rfl : place.takeWhile (· != ':') = _), rfl⟩
    have names := NamesHost.unopened (by rwa [← whole]) undivided port address
    rwa [← whole] at names

theorem not_namesHost_of_before {before inside : List Char} (filled : before ≠ [])
    (closed : '[' ∉ before) : ¬NamesHost (before ++ '[' :: inside) := by
  obtain ⟨first, others, rfl⟩ := List.exists_cons_of_ne_nil filled
  intro names
  generalize given : first :: others ++ '[' :: inside = place at names
  cases names with
  | closed | unclosed =>
      obtain ⟨rfl, _⟩ := List.cons.inj given
      exact closed List.mem_cons_self
  | unopened opens =>
      rw [← given] at opens
      exact opens (by simp)

theorem misplaced_iff {before after : List Char} :
    (!before.isEmpty || (!after.isEmpty && after.head? != some ':')) = true ↔
      ¬(before = [] ∧ ∀ first ∈ after.head?, first = ':') := by
  cases before <;> cases after <;> simp

/-- With a bracket, nothing may stand before it and only a port behind the other
one. -/
theorem namesHost_append_iff {before inside host after : List Char}
    (closed : '[' ∉ before) (cut : cutAt ']' inside = (host, after)) :
    NamesHost (before ++ '[' :: inside) ↔ before = [] ∧
      (∀ first ∈ after.head?, first = ':') ∧ Bracketable host := by
  by_cases filled : before = []
  · subst filled
    rw [List.nil_append, namesHost_opened_iff]
    simp [cut]
  · simp [not_namesHost_of_before filled closed, filled]

theorem checkPlace_eq_ok_iff {before inside host after : List Char}
    (closed : '[' ∉ before) (cut : cutAt ']' inside = (host, after)) :
    (if !before.isEmpty || (!after.isEmpty && after.head? != some ':') then
        .error .unbalancedBrackets
      else checkBracketed host) = .ok () ↔ NamesHost (before ++ '[' :: inside) := by
  rw [namesHost_append_iff closed cut]
  split
  · rename_i misplaced
    rw [misplaced_iff] at misplaced
    exact iff_of_false nofun fun ⟨empty, port, _⟩ => misplaced ⟨empty, port⟩
  · rename_i placed
    rw [misplaced_iff, not_not] at placed
    obtain ⟨empty, port⟩ := placed
    rw [checkBracketed_eq_ok_iff]
    exact ⟨fun address => ⟨empty, port, address⟩, fun ⟨_, _, address⟩ => address⟩

/-- The brackets of a network location are in order: there are none, or an address
stands where they call for it. -/
inductive Bracketed (location : List Char) : Prop where
  | absent : '[' ∉ location → ']' ∉ location → Bracketed location
  | present {place : List Char} : '[' ∈ location → ']' ∈ location →
      BehindUser location place → NamesHost place → Bracketed location

theorem Bracketed.namesHost_iff {location place : List Char}
    (opens : '[' ∈ location) (closes : ']' ∈ location)
    (behind : BehindUser location place) : Bracketed location ↔ NamesHost place := by
  constructor
  · intro bracketed
    cases bracketed with
    | absent unopened => exact absurd opens unopened
    | present _ _ other names =>
        rwa [← behindUser_iff.mpr behind, behindUser_iff.mpr other]
  · exact .present opens closes behind

theorem Bracketed.balanced {location : List Char} (bracketed : Bracketed location) :
    '[' ∈ location ↔ ']' ∈ location := by
  cases bracketed with
  | absent opens closes => exact iff_of_false opens closes
  | present opens closes => exact iff_of_true opens closes

theorem checkBrackets_eq_ok_iff {location : List Char} :
    checkBrackets location = .ok () ↔ Bracketed location := by
  by_cases balanced : '[' ∈ location ↔ ']' ∈ location
  · by_cases opens : '[' ∈ location
    · have closes := balanced.mp opens
      have behind := behindUser_iff.mp
        (rfl : (location.reverse.takeWhile (· != '@')).reverse = _)
      rw [Bracketed.namesHost_iff opens closes behind]
      unfold checkBrackets
      simp only [List.contains_iff_mem.mpr opens, List.contains_iff_mem.mpr closes,
        bne_self_eq_false, Bool.false_eq_true, if_false, if_true]
      -- From here on only the part behind the user matters.
      generalize (location.reverse.takeWhile (· != '@')).reverse = place
      cases rest : place.drop (place.takeWhile (· != '[')).length with
      | nil =>
          obtain ⟨whole, unopened, _⟩ := takeWhile_mark_iff.mp ⟨rfl, rest⟩
          rw [List.append_nil] at whole
          rw [← whole] at unopened
          simp only
          rw [checkBracketed_eq_ok_iff, namesHost_unopened_iff unopened]
      | cons first inside =>
          obtain ⟨whole, unopened, marked⟩ := takeWhile_mark_iff.mp ⟨rfl, rest⟩
          rw [marked first rfl] at whole
          rcases cut : cutAt ']' inside with ⟨host, after⟩
          have names := checkPlace_eq_ok_iff unopened cut
          rw [← whole] at names
          simp only [cut]
          exact names
    · have closes : ']' ∉ location := fun member => opens (balanced.mpr member)
      simp [checkBrackets, opens, closes, Bracketed.absent]
  · have unbalanced : (location.contains '[' != location.contains ']') = true := by
      rw [bne_iff_ne, ne_eq, Bool.eq_iff_iff, List.contains_iff_mem,
        List.contains_iff_mem]
      exact balanced
    rw [checkBrackets, if_pos unbalanced]
    exact ⟨nofun, fun bracketed => absurd bracketed.balanced balanced⟩

/-! ## Splitting -/

/-- A network location that a split lets pass. -/
structure Splittable (location : List Char) : Prop where
  bracketed : Bracketed location
  /-- No character stands for a delimiter. -/
  undisguised : ∀ character ∈ location, character.toNat ∉ hiddenDelimiters

theorem checkDelimiters_eq_ok_iff {location : List Char} :
    checkDelimiters location = .ok () ↔
      ∀ character ∈ location, character.toNat ∉ hiddenDelimiters := by
  simp [checkDelimiters]

theorem checkLocation_eq_ok_iff {location : List Char} :
    checkLocation location = .ok () ↔ Splittable location := by
  constructor
  · intro accepted
    obtain ⟨_, brackets, delimiters⟩ := bind_eq_ok_iff.mp accepted
    exact ⟨checkBrackets_eq_ok_iff.mp brackets,
      checkDelimiters_eq_ok_iff.mp delimiters⟩
  · rintro ⟨bracketed, undisguised⟩
    exact bind_eq_ok_iff.mpr ⟨(), checkBrackets_eq_ok_iff.mpr bracketed,
      checkDelimiters_eq_ok_iff.mpr undisguised⟩

example : Splittable "user@[fe80::1%a]:8080".toList :=
  checkLocation_eq_ok_iff.mp (by decide +kernel)

theorem not_splittable_of_error {location : List Char} {cause : SplitError}
    (refused : checkLocation location = .error cause) : ¬Splittable location := by
  rw [← checkLocation_eq_ok_iff, refused]
  exact nofun

end AdminGate.Http
