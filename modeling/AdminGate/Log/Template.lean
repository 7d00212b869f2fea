import AdminGate.Json.Display
import AdminGate.Number.Layout
import AdminGate.Text.Encoding

/-!
# Message templates

A template holds places that arguments are written into, each introduced by a percent sign.  A
place says in which form its argument is written, how wide, and how many places it has; it may name
the field of an object that it takes.  `Template.fill?` fails when places and arguments do not fit.
-/

namespace AdminGate.Template

/-- A number in a place: given there, or taken from the arguments. -/
inductive Extent where
  | missing
  | given (value : Nat)
  | argument
deriving DecidableEq, Repr

structure Place where
  name : Option (List Char)
  flags : List Char
  width : Extent
  precision : Extent
  form : Char
deriving Repr

/-- A template is text and places. -/
inductive Piece where
  | text (character : Char)
  | place (place : Place)
deriving Repr

/-- The arguments that are left, and the object that names are looked up in. -/
structure Supply where
  names : Option Fields
  rest : List Json

/-- A name in parentheses, with the parentheses inside it balanced. -/
def takeName : Nat → List Char → Option (List Char × List Char)
  | _, [] => none
  | depth, character :: rest =>
      if character == ')' && depth == 0 then some ([], rest)
      else
        let depth :=
          if character == '(' then depth + 1 else if character == ')' then depth - 1 else depth
        (takeName depth rest).map fun (name, rest) => (character :: name, rest)

/-- Digits, or a star. -/
def takeExtent (fallback : Extent) (input : List Char) : Extent × List Char :=
  match input with
  | '*' :: rest => (.argument, rest)
  | input =>
      let digits := input.takeWhile Char.isDigit
      (if digits.isEmpty then fallback
        else .given (Text.digitsValue 0 (digits.filterMap Text.basicDigit?)),
        input.drop digits.length)

def takePlace (input : List Char) : Option (Place × List Char) := do
  let (name, input) ← match input with
    | '(' :: rest => (takeName 0 rest).map fun (name, rest) => (some name, rest)
    | input => some (none, input)
  let flags := input.takeWhile fun character => ['-', '+', ' ', '#', '0'].contains character
  let (width, input) := takeExtent .missing (input.drop flags.length)
  let (precision, input) := match input with
    | '.' :: rest => takeExtent (.given 0) rest
    | input => (.missing, input)
  let input := match input with
    | first :: rest => if ['h', 'l', 'L'].contains first then rest else input
    | [] => []
  match input with
  | form :: rest => some (⟨name, flags, width, precision, form⟩, rest)
  | [] => none

/-- The pieces of a template, where two percent signs stand for one; the first argument bounds
their number. -/
def pieces? : Nat → List Char → Option (List Piece)
  | _, [] => some []
  | 0, _ => none
  | bound + 1, '%' :: '%' :: rest => do
      return .text '%' :: (← pieces? bound rest)
  | bound + 1, '%' :: rest => do
      let (place, rest) ← takePlace rest
      return .place place :: (← pieces? bound rest)
  | bound + 1, character :: rest => do
      return .text character :: (← pieces? bound rest)

def Supply.next? (supply : Supply) : Option (Json × Supply) :=
  match supply.rest with
  | [] => none
  | first :: rest => some (first, { supply with rest })

/-- The greatest width and the greatest number of places that a template can ask for. -/
def widthLimit : Int := 0x7FFFFFFFFFFFFFFF

@[inherit_doc widthLimit]
def placesLimit : Int := 0x7FFFFFFF

/-- The greatest width, and the greatest number of places of a number, that is carried out.  It
stands for the memory of the machine, which a longer text would use up. -/
def longestRun : Nat := 1000000

/-- The integer that a value counts as. -/
def whole? : Json → Option Int
  | .int value => some value
  | .bool value => some (if value then 1 else 0)
  | _ => none

/-- The value of an extent up to a limit; one that is taken from the arguments must be an integer
and may lie one further below zero. -/
def Extent.value? (extent : Extent) (limit : Int) (supply : Supply) :
    Option (Option Int × Supply) :=
  match extent with
  | missing => some (none, supply)
  | given value => if value ≤ limit then some (some (value : Int), supply) else none
  | argument => do
      let (next, supply) ← supply.next?
      let value ← whole? next
      guard (-limit - 1 ≤ value ∧ value ≤ limit)
      return (some value, supply)

/-- The integer that is left of a value when its places are dropped. -/
def truncated? : Json → Option Int
  | .float (.finite negative magnitude) =>
      let size : Int := magnitude.units / Magnitude.unit
      some (if negative then -size else size)
  | value => whole? value

/-- The double that a value counts as. -/
def double? : Json → Option Double
  | .float value => some value
  | value => (whole? value).bind fun number =>
      let double := Double.ofInt number
      if double.isFinite then some double else none

def escapedText (input : List Char) : List Char :=
  input.flatMap fun character =>
    if character.toNat < 128 then [character] else Text.codeEscape character.toNat

/-- A written argument: whether it is negative, what stands before its digits, its digits, and
whether signs and zeros apply to it. -/
structure Written where
  negative : Bool
  mark : List Char
  body : List Char
  isNumber : Bool

/-- A text, cut to a number of characters. -/
def ofText (precision : Option Int) (input : List Char) : Written :=
  ⟨false, [], match precision with
    | some length => input.take length.toNat
    | none => input, false⟩

def ofWhole (precision : Option Int) (mark : List Char) (base : Nat) (capital : Bool)
    (value : Int) : Written :=
  let digits := Nat.toDigits base value.natAbs
  let digits := if capital then digits.map Char.toUpper else digits
  ⟨value < 0, mark,
    List.replicate ((precision.getD 0).toNat - digits.length) '0' ++ digits, true⟩

/-- A double in one of the forms for doubles. -/
def ofDouble (precision : Option Int) (keepsPoint : Bool) (form : Char) (value : Double) :
    Written :=
  let places := ((precision.getD 6)).toNat
  let capital := form.isUpper
  let finish := fun text : List Char => if capital then text.map Char.toUpper else text
  match value with
  | .finite negative magnitude =>
      let text := match form.toLower with
        | 'e' => magnitude.exponentialText places keepsPoint
        | 'f' => magnitude.fixedText places keepsPoint
        | _ => magnitude.generalText places keepsPoint
      ⟨negative, [], finish text, true⟩
  | .infinite negative => ⟨negative, [], finish "inf".toList, true⟩
  | .notANumber => ⟨false, [], finish "nan".toList, true⟩

/-- One character, given itself or by its code. -/
def character? : Json → Option (List Char)
  | .text value => if value.length = 1 then some value.toList else none
  | value => (whole? value).bind fun code =>
      if 0 ≤ code && code ≤ 0x10FFFF then some [Text.scalar code.toNat] else none

/-- A number in the form of a place. -/
def number? (place : Place) (precision : Option Int) (value : Json) : Option Written :=
  let alternate := place.flags.contains '#'
  match place.form with
  | 'd' | 'i' | 'u' => (truncated? value).map (ofWhole precision [] 10 false)
  | 'x' => (whole? value).map
      (ofWhole precision (if alternate then "0x".toList else []) 16 false)
  | 'X' => (whole? value).map
      (ofWhole precision (if alternate then "0X".toList else []) 16 true)
  | 'o' => (whole? value).map
      (ofWhole precision (if alternate then "0o".toList else []) 8 false)
  | 'e' | 'E' | 'f' | 'F' | 'g' | 'G' =>
      (double? value).map (ofDouble precision alternate place.form)
  | _ => none

/-- An argument in the form of a place. -/
def written? (place : Place) (precision : Option Int) (value : Json) : Option Written :=
  match place.form with
  | 's' => some (ofText precision value.display)
  | 'r' => some (ofText precision value.inner)
  | 'a' => some (ofText precision (escapedText value.inner))
  | 'c' => (character? value).map (ofText none)
  | _ =>
      if precision.all (·.toNat ≤ longestRun) then number? place precision value else none

/-- A written argument filled up to a width. -/
def Written.padded (written : Written) (flags : List Char) (width : Nat) (toLeft : Bool) :
    List Char :=
  let sign :=
    if !written.isNumber then []
    else if written.negative then ['-']
    else if flags.contains '+' then ['+']
    else if flags.contains ' ' then [' ']
    else []
  let front := sign ++ written.mark
  let missing := width - (front.length + written.body.length)
  if toLeft then front ++ written.body ++ List.replicate missing ' '
  else if written.isNumber && flags.contains '0' then
    front ++ List.replicate missing '0' ++ written.body
  else List.replicate missing ' ' ++ front ++ written.body

/-- What stands in a place.  The lowest width has no opposite and fills nothing. -/
def fillPlace (place : Place) (supply : Supply) : Option (List Char × Supply) := do
  let supply ← match place.name, supply.names with
    | none, _ => some supply
    | some name, some fields =>
        (fields.get? (String.ofList name)).map fun value => { supply with rest := [value] }
    | some _, none => none
  let (width, supply) ← place.width.value? widthLimit supply
  let (precision, supply) ← place.precision.value? placesLimit supply
  let (value, supply) ← supply.next?
  let written ← written? place precision value
  let width := width.getD 0
  let wanted := if width = -widthLimit - 1 then 0 else width.natAbs
  guard (wanted ≤ longestRun)
  return (written.padded place.flags wanted (place.flags.contains '-' || width < 0), supply)

/-- Fill piece after piece; no argument may be left over unless names are looked up. -/
def fillPieces : Supply → List Piece → Option (List Char)
  | supply, [] => if supply.rest.isEmpty || supply.names.isSome then some [] else none
  | supply, .text character :: rest => (fillPieces supply rest).map (character :: ·)
  | supply, .place place :: rest => do
      let (text, supply) ← fillPlace place supply
      return text ++ (← fillPieces supply rest)

/-- A template with its arguments written into it.  Without arguments it is taken as it is; one
object that is not empty is looked up by names. -/
def fill? (template : String) (arguments : List Json) : Option String :=
  if arguments.isEmpty then some template
  else
    let names := match arguments with
      | [.object (first :: rest)] => some (first :: rest)
      | _ => none
    let input := template.toList
    (pieces? (input.length + 1) input).bind fun pieces =>
      (fillPieces ⟨names, arguments⟩ pieces).map String.ofList

end AdminGate.Template
