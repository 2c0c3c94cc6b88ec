import RecordFilter.Filter

set_option autoImplicit false

namespace RecordFilter

namespace Pattern

def isSpecial (char : Char) : Bool := char = '%' || char = '_' || char = '\\'

inductive Fits : (pattern text : List Char) → Prop where
  | nil : Fits [] []
  | run (skipped : List Char) {pattern text : List Char} (rest : Fits pattern text) : Fits ('%' :: pattern) (skipped ++ text)
  | one (char : Char) {pattern text : List Char} (rest : Fits pattern text) : Fits ('_' :: pattern) (char :: text)
  | escaped (char : Char) {pattern text : List Char} (rest : Fits pattern text) :
    Fits ('\\' :: char :: pattern) (char :: text)
  | same {char : Char} (ordinary : isSpecial char = false) {pattern text : List Char} (rest : Fits pattern text) :
    Fits (char :: pattern) (char :: text)

def IsPlain (pattern : List Char) : Prop := ∀ char ∈ pattern, isSpecial char = false

instance (pattern : List Char) : Decidable (IsPlain pattern) :=
  decidable_of_iff (pattern.all (fun char => !isSpecial char) = true) (by simp [IsPlain])

inductive Whole : (pattern : List Char) → Prop where
  | nil : Whole []
  | escaped (char : Char) {pattern : List Char} (rest : Whole pattern) : Whole ('\\' :: char :: pattern)
  | other {char : Char} (noEscape : char ≠ '\\') {pattern : List Char} (rest : Whole pattern) : Whole (char :: pattern)

variable {front pattern text : List Char}

theorem fits_nil : Fits [] text ↔ text = [] := by
  constructor
  · rintro ⟨⟩
    rfl
  · rintro rfl
    exact .nil

theorem fits_cons {char : Char} : Fits (char :: pattern) text ↔
    (char = '%' ∧ ∃ skipped left, text = skipped ++ left ∧ Fits pattern left) ∨
    (char = '_' ∧ ∃ first left, text = first :: left ∧ Fits pattern left) ∨
    (char = '\\' ∧ ∃ next more left, pattern = next :: more ∧ text = next :: left ∧ Fits more left) ∨
    (isSpecial char = false ∧ ∃ left, text = char :: left ∧ Fits pattern left) := by
  constructor
  · intro fits
    cases fits with
    | run skipped rest => exact .inl ⟨rfl, skipped, _, rfl, rest⟩
    | one first rest => exact .inr (.inl ⟨rfl, first, _, rfl, rest⟩)
    | escaped next rest => exact .inr (.inr (.inl ⟨rfl, next, _, _, rfl, rfl, rest⟩))
    | same ordinary rest => exact .inr (.inr (.inr ⟨ordinary, _, rfl, rest⟩))
  · rintro (⟨rfl, skipped, left, rfl, rest⟩ | ⟨rfl, first, left, rfl, rest⟩ | ⟨rfl, next, more, left, rfl, rfl, rest⟩ |
      ⟨ordinary, left, rfl, rest⟩)
    · exact .run skipped rest
    · exact .one first rest
    · exact .escaped next rest
    · exact .same ordinary rest

theorem fits_run : Fits ('%' :: pattern) text ↔ ∃ core, Fits pattern core ∧ core <:+ text := by
  constructor
  · intro fits
    rcases fits_cons.mp fits with ⟨-, skipped, core, rfl, rest⟩ | ⟨other, -⟩ | ⟨other, -⟩ | ⟨ordinary, -⟩
    · exact ⟨core, rest, List.suffix_append ..⟩
    · exact absurd other (by decide)
    · exact absurd other (by decide)
    · exact absurd ordinary (by decide)
  · rintro ⟨core, rest, skipped, rfl⟩
    exact .run skipped rest

theorem fits_escape : Fits ('\\' :: pattern) text ↔
    ∃ next more left, pattern = next :: more ∧ text = next :: left ∧ Fits more left := by
  constructor
  · intro fits
    rcases fits_cons.mp fits with ⟨other, -⟩ | ⟨other, -⟩ | ⟨-, rest⟩ | ⟨ordinary, -⟩
    · exact absurd other (by decide)
    · exact absurd other (by decide)
    · exact rest
    · exact absurd ordinary (by decide)
  · rintro ⟨next, more, left, rfl, rfl, rest⟩
    exact .escaped next rest

theorem Fits.append {first last : List Char} (fitsFront : Fits front first) (fits : Fits pattern last) :
    Fits (front ++ pattern) (first ++ last) := by
  induction fitsFront with
  | nil => exact fits
  | run skipped rest ih =>
    rw [List.append_assoc]
    exact .run skipped ih
  | one char rest ih => exact .one char ih
  | escaped char rest ih => exact .escaped char ih
  | same ordinary rest ih => exact .same ordinary ih

theorem Whole.fits_append (whole : Whole front) : Fits (front ++ pattern) text ↔
    ∃ first last, text = first ++ last ∧ Fits front first ∧ Fits pattern last := by
  refine ⟨fun fits => ?_, fun ⟨first, last, together, fitsFront, fits⟩ => together ▸ fitsFront.append fits⟩
  induction whole generalizing text with
  | nil => exact ⟨[], text, rfl, .nil, fits⟩
  | escaped char rest ih =>
    obtain ⟨_, _, left, ⟨⟩, rfl, fitsRest⟩ := fits_escape.mp fits
    obtain ⟨first, last, rfl, fitsFront, fitsLast⟩ := ih fitsRest
    exact ⟨char :: first, last, rfl, .escaped char fitsFront, fitsLast⟩
  | other noEscape rest ih =>
    rcases fits_cons.mp fits with ⟨rfl, skipped, left, rfl, fitsRest⟩ | ⟨rfl, char, left, rfl, fitsRest⟩ | ⟨escape, -⟩ |
      ⟨ordinary, left, rfl, fitsRest⟩
    · obtain ⟨first, last, rfl, fitsFront, fitsLast⟩ := ih fitsRest
      exact ⟨skipped ++ first, last, (List.append_assoc ..).symm, .run skipped fitsFront, fitsLast⟩
    · obtain ⟨first, last, rfl, fitsFront, fitsLast⟩ := ih fitsRest
      exact ⟨char :: first, last, rfl, .one char fitsFront, fitsLast⟩
    · exact absurd escape noEscape
    · obtain ⟨first, last, rfl, fitsFront, fitsLast⟩ := ih fitsRest
      exact ⟨_ :: first, last, rfl, .same ordinary fitsFront, fitsLast⟩

theorem fits_everything (text : List Char) : Fits ['%'] text := fits_run.mpr ⟨[], .nil, List.nil_suffix⟩

theorem Whole.fits_before_run (whole : Whole front) :
    Fits (front ++ ['%']) text ↔ ∃ core, Fits front core ∧ core <+: text := by
  rw [whole.fits_append]
  constructor
  · rintro ⟨core, after, rfl, fits, -⟩
    exact ⟨core, fits, List.prefix_append ..⟩
  · rintro ⟨core, fits, after, rfl⟩
    exact ⟨core, after, rfl, fits, fits_everything after⟩

theorem Whole.not_fits_open (whole : Whole front) : ¬ Fits (front ++ ['\\']) text := by
  rw [whole.fits_append]
  rintro ⟨core, after, -, -, fits⟩
  obtain ⟨next, more, left, nothing, -⟩ := fits_escape.mp fits
  cases nothing

theorem Whole.fits_before_sign (whole : Whole front) :
    Fits (front ++ ['\\', '%']) text ↔ ∃ core, Fits front core ∧ text = core ++ ['%'] := by
  rw [whole.fits_append]
  constructor
  · rintro ⟨core, after, rfl, fits, sign⟩
    obtain ⟨_, _, left, ⟨⟩, rfl, fitsNothing⟩ := fits_escape.mp sign
    exact ⟨core, fits, by rw [fits_nil.mp fitsNothing]⟩
  · rintro ⟨core, fits, rfl⟩
    exact ⟨core, ['%'], rfl, fits, .escaped '%' .nil⟩

theorem whole_or_open : (pattern : List Char) → Whole pattern ∨ ∃ front, pattern = front ++ ['\\'] ∧ Whole front
  | [] => .inl .nil
  | [char] => by
    by_cases escape : char = '\\'
    · exact .inr ⟨[], by rw [escape, List.nil_append], .nil⟩
    · exact .inl (.other escape .nil)
  | char :: next :: rest => by
    by_cases escape : char = '\\'
    · subst escape
      rcases whole_or_open rest with whole | ⟨front, rfl, whole⟩
      · exact .inl (.escaped next whole)
      · exact .inr ⟨'\\' :: next :: front, rfl, .escaped next whole⟩
    · rcases whole_or_open (next :: rest) with whole | ⟨front, same, whole⟩
      · exact .inl (.other escape whole)
      · exact .inr ⟨char :: front, by rw [same, List.cons_append], .other escape whole⟩

theorem IsPlain.whole (plain : IsPlain pattern) : Whole pattern := by
  induction pattern with
  | nil => exact .nil
  | cons char rest ih =>
    rw [IsPlain, List.forall_mem_cons] at plain
    refine .other ?_ (ih plain.2)
    rintro rfl
    exact absurd plain.1 (by decide)

theorem IsPlain.fits_iff (plain : IsPlain pattern) : Fits pattern text ↔ text = pattern := by
  induction pattern generalizing text with
  | nil => exact fits_nil
  | cons char rest ih =>
    rw [IsPlain, List.forall_mem_cons] at plain
    have ordinary : char ≠ '%' ∧ char ≠ '_' ∧ char ≠ '\\' := by simpa [isSpecial, and_assoc] using plain.1
    rw [fits_cons]
    simp [ordinary, plain.1, ih plain.2]

-- A shortest text that the pattern fits. It is the pattern only if that is plain: an escape character and a run are left
-- out of the text, and the letter in the place of a single character differs from it.
theorem Whole.shortest (whole : Whole pattern) :
    ∃ core, Fits pattern core ∧ core.length ≤ pattern.length ∧ (core = pattern → IsPlain pattern) := by
  induction whole with
  | nil => exact ⟨[], .nil, Nat.le_refl 0, fun _ _ none => absurd none List.not_mem_nil⟩
  | escaped char rest ih =>
    obtain ⟨core, fits, short, -⟩ := ih
    refine ⟨char :: core, .escaped char fits, by simp only [List.length_cons]; omega, fun same => ?_⟩
    have lengths := congrArg List.length same
    simp only [List.length_cons] at lengths
    omega
  | @other char noEscape pattern rest ih =>
    obtain ⟨core, fits, short, plain⟩ := ih
    by_cases run : char = '%'
    · subst run
      refine ⟨core, .run [] fits, Nat.le_succ_of_le short, fun same => ?_⟩
      have lengths := congrArg List.length same
      rw [List.length_cons] at lengths
      omega
    · by_cases one : char = '_'
      · subst one
        refine ⟨'x' :: core, .one 'x' fits, Nat.succ_le_succ short, fun same => ?_⟩
        exact absurd (List.cons.inj same).1 (by decide)
      · have ordinary : isSpecial char = false := by simp [isSpecial, run, one, noEscape]
        refine ⟨char :: core, .same ordinary fits, Nat.succ_le_succ short, fun same => ?_⟩
        exact List.forall_mem_cons.mpr ⟨ordinary, plain (List.cons.inj same).2⟩

end Pattern

namespace Wildcard

def Finds (core text : List Char) : Wildcard → Prop
  | absence => text = core
  | leading => core <:+ text
  | trailing => core <+: text
  | both => core <:+: text

def isTrailing : Wildcard → Bool
  | absence | leading => false
  | trailing | both => true

def inFront : Wildcard → Wildcard
  | absence | trailing => absence
  | leading | both => leading

variable {fragment front core text : List Char}

theorem finds_self (core : List Char) (wildcard : Wildcard) : wildcard.Finds core core := by
  cases wildcard with
  | absence => rfl
  | leading => exact List.suffix_rfl
  | trailing => exact List.prefix_rfl
  | both => exact List.infix_rfl

theorem Finds.isInfix {wildcard : Wildcard} (found : wildcard.Finds core text) : core <:+: text := by
  cases wildcard with
  | absence => exact found ▸ List.infix_rfl
  | leading => exact List.IsSuffix.isInfix found
  | trailing => exact List.IsPrefix.isInfix found
  | both => exact found

theorem toList_apply (fragment : String) (wildcard : Wildcard) : (wildcard.apply fragment).toList =
    match wildcard with
    | absence => fragment.toList
    | leading => '%' :: fragment.toList
    | trailing => fragment.toList ++ ['%']
    | both => '%' :: (fragment.toList ++ ['%']) := by
  cases wildcard <;> simp [apply]

theorem fits_apply {fragment : String} (whole : Pattern.Whole fragment.toList) (wildcard : Wildcard) (text : List Char) :
    Pattern.Fits (wildcard.apply fragment).toList text ↔
      ∃ core, Pattern.Fits fragment.toList core ∧ wildcard.Finds core text := by
  rw [toList_apply]
  cases wildcard with
  | absence => simp [Finds]
  | leading => exact Pattern.fits_run
  | trailing => exact whole.fits_before_run
  | both =>
    simp only [Pattern.fits_run, whole.fits_before_run, Finds, List.infix_iff_prefix_suffix]
    constructor
    · rintro ⟨middle, ⟨core, fits, begins⟩, ends⟩
      exact ⟨core, fits, middle, begins, ends⟩
    · rintro ⟨core, fits, middle, begins, ends⟩
      exact ⟨middle, ⟨core, fits, begins⟩, ends⟩

theorem fits_apply_open {fragment : String} {front : List Char} (ends : fragment.toList = front ++ ['\\'])
    (whole : Pattern.Whole front) (wildcard : Wildcard) (text : List Char) :
    Pattern.Fits (wildcard.apply fragment).toList text ↔ wildcard.isTrailing = true ∧
      ∃ core, Pattern.Fits front core ∧ wildcard.inFront.Finds (core ++ ['%']) text := by
  rw [toList_apply, ends]
  cases wildcard with
  | absence => simp [whole.not_fits_open, isTrailing]
  | leading => simp [Pattern.fits_run, whole.not_fits_open, isTrailing]
  | trailing => simp [whole.fits_before_sign, isTrailing, inFront, Finds]
  | both =>
    simp only [Pattern.fits_run, List.append_assoc, List.cons_append, List.nil_append, whole.fits_before_sign]
    constructor
    · rintro ⟨_, ⟨core, fits, rfl⟩, ends⟩
      exact ⟨rfl, core, fits, ends⟩
    · rintro ⟨-, core, fits, ends⟩
      exact ⟨_, ⟨core, fits, rfl⟩, ends⟩

theorem Finds.eq_of_length {wildcard : Wildcard} (found : wildcard.Finds core text) (short : text.length ≤ core.length) :
    core = text :=
  found.isInfix.sublist.eq_of_length_le short

theorem finds_fragment_iff (fragment : String) (wildcard : Wildcard) :
    (∀ text, Pattern.Fits (wildcard.apply fragment).toList text ↔ wildcard.Finds fragment.toList text) ↔
      Pattern.IsPlain fragment.toList := by
  constructor
  · intro itself
    rcases Pattern.whole_or_open fragment.toList with whole | ⟨front, ends, whole⟩
    · obtain ⟨core, fits, short, plain⟩ := whole.shortest
      have found := (itself core).mp ((fits_apply whole wildcard core).mpr ⟨core, fits, finds_self core wildcard⟩)
      exact plain (found.eq_of_length short).symm
    · obtain ⟨core, fits, short, -⟩ := whole.shortest
      have open_iff := fits_apply_open ends whole wildcard
      have trailing := ((open_iff _).mp ((itself _).mpr (finds_self fragment.toList wildcard))).1
      have found := (itself _).mp ((open_iff (core ++ ['%'])).mpr ⟨trailing, core, fits, finds_self ..⟩)
      have same := found.eq_of_length (by simpa [ends] using short)
      rw [ends] at same
      exact absurd (List.append_inj_right' same rfl) (by decide)
  · intro plain text
    simp [fits_apply plain.whole, plain.fits_iff]

end Wildcard

/-- The wildcards around a fragment that is looked for with its case say where in a text it stands, and do so for the
fragment itself exactly when it holds no special character. Such a character keeps its meaning: what has to stand there is
a text that the fragment fits as a pattern. Where the fragment ends in an escape character, that one takes the wildcard
behind it for a percent sign, and without one nothing is found. -/
theorem LikeDraft.placement_decides {draft : LikeDraft} {predicate : Predicate} (kept : draft.predicate? = some predicate)
    (cased : draft.ignoreCase = false) :
    ∃ pattern : String,
      (∀ column negated, predicate.test.condition column negated = .like column (.text pattern) false negated) ∧
      ((∀ text, Pattern.Fits pattern.toList text ↔ draft.wildcard.Finds draft.fragment.toList text) ↔
        Pattern.IsPlain draft.fragment.toList) ∧
      (Pattern.Whole draft.fragment.toList → ∀ text, Pattern.Fits pattern.toList text ↔
        ∃ core, Pattern.Fits draft.fragment.toList core ∧ draft.wildcard.Finds core text) ∧
      ∀ front, draft.fragment.toList = front ++ ['\\'] → Pattern.Whole front → ∀ text, Pattern.Fits pattern.toList text ↔
        draft.wildcard.isTrailing = true ∧
          ∃ core, Pattern.Fits front core ∧ draft.wildcard.inFront.Finds (core ++ ['%']) text := by
  have yielded : predicate.test = .like draft.fragment false draft.wildcard := by
    rw [predicate?] at kept
    split at kept
    · cases kept
      rw [cased]
    · cases kept
  refine ⟨draft.wildcard.apply draft.fragment, fun column negated => by rw [yielded]; rfl, ?_, ?_, ?_⟩
  · exact draft.wildcard.finds_fragment_iff draft.fragment
  · exact fun whole => Wildcard.fits_apply whole draft.wildcard
  · exact fun front ends whole => Wildcard.fits_apply_open ends whole draft.wildcard

def titleDraft (fragment : String) (wildcard : Wildcard) : LikeDraft :=
  LikeDraft.start ⟨["title"]⟩ fragment [.ignoreCase false, .wildcard wildcard]

theorem LikeDraft.placement_decides_titles :
    (∃ predicate pattern, (titleDraft "100" .both).predicate? = some predicate ∧
      (∀ column negated, predicate.test.condition column negated = .like column (.text pattern) false negated) ∧
      ∀ text, Pattern.Fits pattern.toList text ↔ "100".toList <:+: text) ∧
    ∃ predicate pattern, (titleDraft "100\\" .trailing).predicate? = some predicate ∧
      (∀ column negated, predicate.test.condition column negated = .like column (.text pattern) false negated) ∧
      ∀ text, Pattern.Fits pattern.toList text ↔ text = "100%".toList := by
  have digits : Pattern.IsPlain "100".toList := by decide
  constructor
  · have kept : (titleDraft "100" .both).predicate? = some ⟨(titleDraft "100" .both).options, .like "100" false .both⟩ := by
      decide
    obtain ⟨pattern, tests, plain, -, -⟩ := placement_decides kept rfl
    exact ⟨_, pattern, kept, tests, plain.mpr digits⟩
  · have kept : (titleDraft "100\\" .trailing).predicate? =
        some ⟨(titleDraft "100\\" .trailing).options, .like "100\\" false .trailing⟩ := by decide
    obtain ⟨pattern, tests, -, -, opened⟩ := placement_decides kept rfl
    refine ⟨_, pattern, kept, tests, fun text => (opened "100".toList (by decide) digits.whole text).trans ?_⟩
    constructor
    · rintro ⟨-, core, fits, found⟩
      rw [digits.fits_iff.mp fits] at found
      exact found
    · rintro rfl
      exact ⟨rfl, _, digits.fits_iff.mpr rfl, rfl⟩

theorem LikeDraft.underscore_finds_any :
    ∃ predicate pattern, (titleDraft "a_c" .absence).predicate? = some predicate ∧
      (titleDraft "a_c" .absence).ignoreCase = false ∧
      (∀ column negated, predicate.test.condition column negated = .like column (.text pattern) false negated) ∧
      ¬ ∀ text, Pattern.Fits pattern.toList text ↔ Wildcard.absence.Finds "a_c".toList text := by
  refine ⟨⟨(titleDraft "a_c" .absence).options, .like "a_c" false .absence⟩, "a_c", by decide, rfl, fun _ _ => rfl, ?_⟩
  intro itself
  have fits : Pattern.Fits "a_c".toList "abc".toList :=
    .same (by decide) (.one 'b' (.same (by decide) .nil))
  have same : "abc".toList = "a_c".toList := (itself "abc".toList).mp fits
  exact absurd same (by decide)

end RecordFilter
