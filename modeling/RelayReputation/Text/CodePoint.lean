import RelayReputation.Text.Lower
import RelayReputation.Text.Quoted

/-!
# Code points

Texts that may hold surrogates, the halves of pairs that stand for no character by themselves.
An escape can write one; no text that is read or written in any other way holds one. Such a
text is quoted with a numeric escape for each surrogate, and in lower case a surrogate parts
words. Texts are in the order of the numbers of their code points.
-/

namespace RelayReputation.Text

/-! ### Code points -/

/-- A code point: a character, or a surrogate by its distance from the first one. -/
inductive CodePoint
  | char (c : Char)
  | surrogate (place : Fin 0x800)
deriving DecidableEq, Repr

namespace CodePoint

def firstSurrogate : Nat := 0xD800

def limit : Nat := 0x110000

def ofNat? (n : Nat) : Option CodePoint :=
  if limit ≤ n then none
  else if h : firstSurrogate ≤ n ∧ n - firstSurrogate < 0x800 then
    some (.surrogate ⟨n - firstSurrogate, h.2⟩)
  else some (.char (Char.ofNat n))

def number : CodePoint → Nat
  | char c => c.toNat
  | surrogate place => firstSurrogate + place

instance : LT CodePoint := ⟨fun a b => a.number < b.number⟩

instance : DecidableLT CodePoint := fun a b => inferInstanceAs (Decidable (a.number < b.number))

/-- The character that stands for a code point where only characters can stand: itself, or the
replacement character for a surrogate. -/
def toChar : CodePoint → Char
  | char c => c
  | surrogate _ => '\ufffd'

/-- One code point between two `quote`s. -/
def quoted (quote : Char) : CodePoint → List Char
  | char c => quotedChar quote c
  | p => numericEscape p.number

end CodePoint

/-! ### Texts -/

abbrev CodePoints := List CodePoint

namespace CodePoints

def ofChars (cs : List Char) : CodePoints := cs.map .char

def ofString (s : String) : CodePoints := ofChars s.toList

def toChars (t : CodePoints) : List Char := t.map CodePoint.toChar

def toString (t : CodePoints) : String := String.ofList t.toChars

def quote (t : CodePoints) : String :=
  let q := quoteFor t.toChars
  String.ofList (q :: t.flatMap (CodePoint.quoted q) ++ [q])

/-- The lower-case form of a text of which the characters in `run`, the last one first, come
just before. -/
def lowerFrom (run : List Char) : CodePoints → CodePoints
  | [] => ofChars (lowerChars run.reverse)
  | .char c :: t => lowerFrom (c :: run) t
  | .surrogate place :: t =>
    ofChars (lowerChars run.reverse) ++ .surrogate place :: lowerFrom [] t

def lower (t : CodePoints) : CodePoints := lowerFrom [] t

@[simp] theorem toChars_ofChars (cs : List Char) : toChars (ofChars cs) = cs := by
  induction cs with
  | nil => rfl
  | cons c cs ih => exact congrArg (c :: ·) ih

@[simp] theorem toString_ofString (s : String) : toString (ofString s) = s := by
  simp [toString, ofString]

theorem ofString_inj {s t : String} : ofString s = ofString t ↔ s = t :=
  ⟨fun h => by simpa using congrArg toString h, fun h => h ▸ rfl⟩

end CodePoints

end RelayReputation.Text
