import AdminGate.Text.Quoted

/-!
# ASCII texts

Where only ASCII can be sent, a text with other characters is refused; the refusal names the first
run of characters that cannot be sent.
-/

namespace AdminGate.Text

def isAscii (character : Char) : Bool :=
  character.toNat < 128

/-- The first run of characters outside ASCII: the character it starts with, its place and its
length. -/
structure NonAscii where
  character : Char
  position : Nat
  length : Nat
deriving DecidableEq, Repr

def NonAscii.message (run : NonAscii) : String :=
  "'ascii' codec can't encode character" ++
    (if run.length = 1 then
      " '" ++ String.ofList (codeEscape run.character.toNat) ++ "' in position " ++
        toString run.position
    else
      "s in position " ++ toString run.position ++ "-" ++
        toString (run.position + run.length - 1)) ++
    ": ordinal not in range(128)"

/-- The first run of characters outside ASCII, if there is one. -/
def nonAscii? (text : List Char) : Option NonAscii :=
  let before := text.takeWhile isAscii
  match text.drop before.length with
  | [] => none
  | first :: rest => some ⟨first, before.length, 1 + (rest.takeWhile (!isAscii ·)).length⟩

/-- Refuse a text that holds characters outside ASCII. -/
def checkAscii (text : List Char) : Except NonAscii Unit :=
  match nonAscii? text with
  | some run => .error run
  | none => .ok ()

@[elab_as_elim]
theorem forall_ascii {motive : Char → Prop} {character : Char} (ascii : character.toNat < 128)
    (table : ∀ code : Fin 128, motive (Char.ofNat code)) : motive character := by
  have found := table ⟨character.toNat, ascii⟩
  rwa [Char.ofNat_toNat] at found

theorem checkAscii_eq_ok_iff {text : List Char} :
    checkAscii text = .ok () ↔ ∀ character ∈ text, isAscii character := by
  induction text with
  | nil => simp [checkAscii, nonAscii?]
  | cons first rest ih =>
      cases plain : isAscii first with
      | false => simp [checkAscii, nonAscii?, plain]
      | true =>
          have shorter : checkAscii (first :: rest) = .ok () ↔ checkAscii rest = .ok () := by
            simp only [checkAscii, nonAscii?, List.takeWhile_cons, plain, if_true,
              List.length_cons, List.drop_succ_cons]
            cases rest.drop (rest.takeWhile isAscii).length <;> simp
          rw [shorter, ih]
          simp [plain]

end AdminGate.Text
