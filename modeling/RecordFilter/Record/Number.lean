import RecordFilter.Record.Literal

set_option autoImplicit false

namespace RecordFilter.Record

def isDigitOrGap (char : Char) : Bool := char.isDigit || char = '_'

def endNumber (text : List Char) : Option (List Char) :=
  match text with
  | [] => some []
  | char :: rest =>
    if Text.isNameStart char then some (rest.dropWhile Text.isNameChar)
    else if Text.isNameChar char then none
    else some text

def isDigitOf (base : Nat) (char : Char) : Bool :=
  isDigitOrGap char || (base = 16 && (hexDigit? char).isSome)

def readDigits (base : Nat) (text : List Char) : Option (List Char) :=
  let digits := (text.takeWhile (isDigitOf base)).filterMap hexDigit?
  if digits ≠ [] && digits.all (· < base) then endNumber (text.dropWhile (isDigitOf base)) else none

def readInteger (first : Char) (rest : List Char) : Option (List Char) :=
  match first, rest with
  | '0', 'x' :: more => readDigits 16 more
  | '0', 'o' :: more => readDigits 8 more
  | '0', 'b' :: more => readDigits 2 more
  | _, _ => endNumber (rest.dropWhile isDigitOrGap)

def dropSign : List Char → List Char
  | '+' :: rest | '-' :: rest => rest
  | text => text

def readExponent (text : List Char) : Option (List Char) :=
  match (dropSign (text.dropWhile (· = '_'))).dropWhile (· = '_') with
  | [] => none
  | char :: rest => if char.isDigit then some (rest.dropWhile isDigitOrGap) else none

def dropExponent (text : List Char) : List Char :=
  match text with
  | 'e' :: rest | 'E' :: rest => (readExponent rest).getD text
  | _ => text

def beginsMember : List Char → Bool
  | [] => false
  | char :: _ => char = '.' || Text.isNameStart char

def readDecimal (rest : List Char) : Option (List Char) :=
  match rest.dropWhile isDigitOrGap with
  | '.' :: more => if beginsMember more then none else endNumber (dropExponent (more.dropWhile isDigitOrGap))
  | 'e' :: more | 'E' :: more => (readExponent more).bind endNumber
  | _ => none

def readNumber (first : Char) (rest : List Char) : Option (List Char) :=
  match readDecimal rest with
  | some left => some left
  | none => readInteger first rest

theorem endNumber_suffix {text left : List Char} (read : endNumber text = some left) : left <:+ text := by
  unfold endNumber at read
  split at read
  · cases read
    exact List.suffix_refl []
  · rename_i char rest
    split at read
    · cases read
      exact (List.dropWhile_suffix _).trans (List.suffix_cons char rest)
    split at read
    · cases read
    · cases read
      exact List.suffix_refl _

theorem readDigits_suffix {base : Nat} {text left : List Char} (read : readDigits base text = some left) :
    left <:+ text := by
  unfold readDigits at read
  dsimp only at read
  split at read
  · exact (endNumber_suffix read).trans (List.dropWhile_suffix _)
  · cases read

theorem readInteger_suffix {first : Char} {rest left : List Char} (read : readInteger first rest = some left) :
    left <:+ rest := by
  unfold readInteger at read
  split at read
  iterate 3 exact (readDigits_suffix read).trans (List.suffix_cons _ _)
  · exact (endNumber_suffix read).trans (List.dropWhile_suffix _)

theorem dropSign_suffix (text : List Char) : dropSign text <:+ text := by
  unfold dropSign
  split
  iterate 2 exact List.suffix_cons _ _
  · exact List.suffix_refl _

theorem readExponent_suffix {text left : List Char} (read : readExponent text = some left) : left <:+ text := by
  unfold readExponent at read
  split at read
  · cases read
  · rename_i char rest behind
    split at read
    · cases read
      have signed : char :: rest <:+ dropSign (text.dropWhile (· = '_')) := behind ▸ List.dropWhile_suffix _
      exact (List.dropWhile_suffix _).trans ((List.suffix_cons char rest).trans
        (signed.trans ((dropSign_suffix _).trans (List.dropWhile_suffix _))))
    · cases read

theorem dropExponent_suffix (text : List Char) : dropExponent text <:+ text := by
  have kept : ∀ (mark : Char) (rest : List Char), (readExponent rest).getD (mark :: rest) <:+ mark :: rest := by
    intro mark rest
    cases found : readExponent rest with
    | none => exact List.suffix_refl _
    | some left => exact (readExponent_suffix found).trans (List.suffix_cons mark rest)
  unfold dropExponent
  split
  · exact kept 'e' _
  · exact kept 'E' _
  · exact List.suffix_refl _

theorem readDecimal_suffix {rest left : List Char} (read : readDecimal rest = some left) : left <:+ rest := by
  have inside : ∀ {mark : Char} {more : List Char}, rest.dropWhile isDigitOrGap = mark :: more → more <:+ rest :=
    fun behind => (List.suffix_cons _ _).trans (behind ▸ List.dropWhile_suffix _)
  unfold readDecimal at read
  split at read
  · rename_i more behind
    split at read
    · cases read
    · exact (endNumber_suffix read).trans
        ((dropExponent_suffix _).trans ((List.dropWhile_suffix _).trans (inside behind)))
  iterate 2
    rename_i more behind
    obtain ⟨after, found, closed⟩ := Option.bind_eq_some_iff.mp read
    exact (endNumber_suffix closed).trans ((readExponent_suffix found).trans (inside behind))
  · cases read

theorem readNumber_suffix {first : Char} {rest left : List Char} (read : readNumber first rest = some left) :
    left <:+ rest := by
  unfold readNumber at read
  split at read
  · rename_i after found
    cases read
    exact readDecimal_suffix found
  · exact readInteger_suffix read

end RecordFilter.Record
