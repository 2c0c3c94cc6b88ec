import RecordFilter.Proofs.Condition.Phrase

set_option autoImplicit false

namespace RecordFilter

def Condition.rendered (condition : Condition) (params : Params) : String × Params := condition.render.run params

def Condition.renderedParts (connector : Connector) (parts : List Condition) (params : Params) : List String × Params :=
  (renderParts connector parts).run params

def boundAll (values : List Value) (params : Params) : List String × Params := (bindAll values).run params

theorem Params.push_extends (value : Value) (params : Params) : params.toList <+: (params.push value).2.toList :=
  ⟨[value], (toList_push value params).symm⟩

theorem boundAll_extends (values : List Value) (params : Params) : params.toList <+: (boundAll values params).2.toList := by
  induction values generalizing params with
  | nil => exact List.prefix_rfl
  | cons value rest ih => exact (params.push_extends value).trans (ih _)

mutual
theorem Condition.rendered_extends (condition : Condition) (params : Params) :
    params.toList <+: (condition.rendered params).2.toList := by
  cases condition with
  | all parts => exact renderedParts_extends .and parts params
  | any parts => exact renderedParts_extends .or parts params
  | negation inner | group inner => exact inner.rendered_extends params
  | compare column operator value => exact params.push_extends value
  | like column pattern upper negated => exact params.push_extends pattern
  | nullness column isNull | always => exact List.prefix_rfl
  | membership column values negated => exact boundAll_extends values params
  | between column low high negated => exact (params.push_extends low).trans (Params.push_extends high _)

theorem Condition.renderedParts_extends (connector : Connector) (parts : List Condition) (params : Params) :
    params.toList <+: (renderedParts connector parts params).2.toList := by
  cases parts with
  | nil => exact List.prefix_rfl
  | cons part rest => exact (part.rendered_extends params).trans (renderedParts_extends connector rest _)
end

section Atoms

variable {values : List Value} {params : Params} {column : Column}

theorem getElem?_push {value : Value} (within : (params.push value).2.toList <+: values) :
    values[params.size]? = some value := by
  obtain ⟨more, rfl⟩ := within
  rw [Params.toList_push, List.append_assoc, ← Params.length_toList, List.getElem?_append_right (Nat.le_refl _),
    Nat.sub_self]
  rfl

theorem readHole_push {value : Value} (within : (params.push value).2.toList <+: values) (rest : List Token) :
    readHole values (.hole (params.size + 1) :: rest) = some (value, rest) := by
  rw [readHole, getElem?_push within, Option.map_some]

theorem readHoles_boundAll {members : List Value} (nonempty : members ≠ [])
    (within : (boundAll members params).2.toList <+: values) (rest : List Token) :
    readHoles values (Token.read (", ".intercalate (boundAll members params).1) ++ .mark ')' :: rest) =
      some (members, .mark ')' :: rest) := by
  induction members generalizing params with
  | nil => exact absurd rfl nonempty
  | cons member others ih =>
    have bound : boundAll (member :: others) params =
        (placeholder (params.size + 1) :: (boundAll others (params.push member).2).1,
          (boundAll others (params.push member).2).2) := rfl
    rw [bound] at within ⊢
    have first := getElem?_push ((boundAll_extends others _).trans within)
    cases others with
    | nil =>
      have last : (boundAll [] (params.push member).2).1 = [] := rfl
      rw [last, String.intercalate_singleton, Token.read_placeholder]
      simp [readHoles, first]
    | cons second more =>
      have onward := ih (by simp) within
      have texts : (boundAll (second :: more) (params.push member).2).1 =
          placeholder ((params.push member).2.size + 1) :: (boundAll more ((params.push member).2.push second).2).1 := rfl
      rw [texts, String.intercalate_cons_cons, Token.read_glued _ _ (by decide), Token.read_placeholder, ← texts]
      have comma : Token.read ", " = [.mark ','] := by decide
      simp [readHoles, comma, first, onward]

theorem ReadsAs.atom {tokens : List Token} {condition : Condition}
    (taken : ∀ rest, readAtom values (tokens ++ rest) = some (condition, rest)) :
    ReadsAs values .operand tokens fun atom => condition.truth atom :=
  fun rest => ⟨condition, .atom _ rest condition (taken rest), fun _ => rfl⟩

structure Column.Readable (column : Column) : Prop where
  source : Identifier.checkPart column.source = .ok ()
  name : Identifier.checkPart column.name = .ok ()
  plain : Keyword.ofWord? column.source = none

def Column.tokens (column : Column) : List Token := [.word column.source, .mark '.', .word column.name]

theorem Column.read_text (readable : column.Readable) : Token.read column.text = column.tokens := by
  rw [text, Token.read_glued _ _ (by decide), Token.read_word readable.source, Token.read_word readable.name]
  rfl

theorem readColumn_tokens (readable : column.Readable) (rest : List Token) :
    readColumn (column.tokens ++ rest) = some (column, rest) := by
  simp [readColumn, Column.tokens, readable.plain]

theorem readAtom_tokens (readable : column.Readable) (rest : List Token) :
    readAtom values (column.tokens ++ rest) = readTest values column rest := by
  have taken := readColumn_tokens readable rest
  simp only [Column.tokens, List.cons_append, List.nil_append] at taken ⊢
  simp [readAtom, taken]

theorem readTest_not (rest : List Token) :
    readTest values column (Keyword.not.token :: rest) = readNegatable values column true rest := by
  rw [readTest, readKeyword_token, if_pos rfl]

theorem readTest_word {keyword : Keyword} (positive : keyword ≠ .not) (rest : List Token) :
    readTest values column (keyword.token :: rest) = (readNullness column (keyword.token :: rest) <|>
      readNegatable values column false (keyword.token :: rest)) := by
  rw [readTest, readKeyword_token, if_neg positive]
  simp [readComparison, Keyword.token]

theorem readNullness_word {keyword : Keyword} (other : keyword ≠ .is) (rest : List Token) :
    readNullness column (keyword.token :: rest) = none := by
  simp [readNullness, readKeyword_token, other]

def optionalNot (negated : Bool) : List Token := if negated then [Keyword.not.token] else []

theorem readTest_optionalNot {keyword : Keyword} (positive : keyword ≠ .not) (other : keyword ≠ .is) (negated : Bool)
    (rest : List Token) : readTest values column (optionalNot negated ++ keyword.token :: rest) =
      readNegatable values column negated (keyword.token :: rest) := by
  cases negated with
  | true => exact readTest_not (keyword.token :: rest)
  | false =>
    rw [optionalNot, if_neg Bool.false_ne_true, List.nil_append, readTest_word positive, readNullness_word other]
    rfl

def comparisons : List String := ["=", "!=", "<", "<=", ">", ">="]

theorem read_comparison {operator : String} (known : operator ∈ comparisons) : Token.read operator = [.operator operator] := by
  simp only [comparisons, List.mem_cons, List.not_mem_nil, or_false] at known
  rcases known with rfl | rfl | rfl | rfl | rfl | rfl <;> decide

theorem read_compare {operator : String} {value : Value} (readable : column.Readable) (known : operator ∈ comparisons) :
    Token.read ((Condition.compare column operator value).rendered params).1 =
      column.tokens ++ [.operator operator, .hole (params.size + 1)] := by
  change Token.read (column.text ++ " " ++ operator ++ " " ++ placeholder (params.size + 1)) = _
  have blank : Token.read " " = [] := by decide
  rw [Token.read_glued _ _ (by decide), Token.read_glued _ _ (by decide), Column.read_text readable,
    read_comparison known, Token.read_placeholder, blank, List.append_nil, List.append_nil, List.append_assoc]
  rfl

theorem compare_reads {operator : String} {value : Value} (readable : column.Readable) (known : operator ∈ comparisons)
    (within : (params.push value).2.toList <+: values) :
    ReadsAs values .operand (Token.read ((Condition.compare column operator value).rendered params).1)
      fun atom => (Condition.compare column operator value).truth atom := by
  refine ReadsAs.atom fun rest => ?_
  rw [read_compare readable known, List.append_assoc, readAtom_tokens readable]
  simp [readTest, readKeyword, Token.keyword?, readComparison, readHole_push within]

theorem read_nullness (isNull : Bool) (readable : column.Readable) :
    Token.read ((Condition.nullness column isNull).rendered params).1 =
      column.tokens ++ Keyword.is.token :: (optionalNot (!isNull) ++ [Keyword.null.token]) := by
  change Token.read (column.text ++ if isNull then " IS NULL" else " IS NOT NULL") = _
  cases isNull <;> rw [Token.read_append (.inr (by decide)), Column.read_text readable] <;>
    exact congrArg (column.tokens ++ ·) (by decide)

theorem nullness_reads (isNull : Bool) (readable : column.Readable) :
    ReadsAs values .operand (Token.read ((Condition.nullness column isNull).rendered params).1)
      fun atom => (Condition.nullness column isNull).truth atom := by
  refine ReadsAs.atom fun rest => ?_
  rw [read_nullness isNull readable, List.append_assoc, readAtom_tokens readable, List.cons_append, readTest_word (by simp)]
  cases isNull <;> simp [readNullness, readKeyword_token, optionalNot]

theorem readLike_push {value : Value} (upper negated : Bool) (within : (params.push value).2.toList <+: values)
    (rest : List Token) :
    readLike values column upper negated (Keyword.like.token :: .hole (params.size + 1) :: rest) =
      some (.like column value upper negated, rest) := by
  simp [readLike, readKeyword_token, readHole_push within]

theorem read_upper (readable : column.Readable) : Token.read ("UPPER" ++ Condition.parenthesized column.text) =
    .word "UPPER" :: .mark '(' :: (column.tokens ++ [.mark ')']) := by
  have opens : (Condition.parenthesized column.text).toList.head?.all Token.isApart = true := by
    simp [Condition.parenthesized]
    decide
  have function : Token.read "UPPER" = [.word "UPPER"] := by decide
  rw [Token.read_append (.inr opens), Token.read_parenthesized, Column.read_text readable, function]
  rfl

theorem readAtom_upper (readable : column.Readable) (rest : List Token) :
    readAtom values (.word "UPPER" :: .mark '(' :: (column.tokens ++ .mark ')' :: rest)) =
      match readKeyword .not rest with
      | some rest => readLike values column true true rest
      | none => readLike values column true false rest := by
  have function : Keyword.upperWord "UPPER" = "UPPER" := by decide
  rw [readAtom, if_pos function, readUpper, readColumn_tokens readable]
  rfl

theorem read_like {pattern : Value} (upper negated : Bool) (readable : column.Readable) :
    Token.read ((Condition.like column pattern upper negated).rendered params).1 =
      (if upper then .word "UPPER" :: .mark '(' :: (column.tokens ++ [.mark ')']) else column.tokens) ++
        (optionalNot negated ++ [Keyword.like.token, .hole (params.size + 1)]) := by
  change Token.read ((if upper then "UPPER" ++ Condition.parenthesized column.text else column.text) ++
    (if negated then " NOT LIKE " else " LIKE ") ++ placeholder (params.size + 1)) = _
  have words : Token.read (if negated then " NOT LIKE " else " LIKE ") = optionalNot negated ++ [Keyword.like.token] := by
    cases negated <;> decide
  have apart : Token.isGlue (if negated then " NOT LIKE " else " LIKE ") = true := by
    cases negated <;> decide
  have subject : Token.read (if upper then "UPPER" ++ Condition.parenthesized column.text else column.text) =
      if upper then .word "UPPER" :: .mark '(' :: (column.tokens ++ [.mark ')']) else column.tokens := by
    cases upper with
    | false => exact Column.read_text readable
    | true => exact read_upper readable
  rw [Token.read_glued _ _ apart, words, Token.read_placeholder, subject]
  simp

theorem like_reads {pattern : Value} (upper negated : Bool) (readable : column.Readable)
    (within : (params.push pattern).2.toList <+: values) :
    ReadsAs values .operand (Token.read ((Condition.like column pattern upper negated).rendered params).1)
      fun atom => (Condition.like column pattern upper negated).truth atom := by
  refine ReadsAs.atom fun rest => ?_
  rw [read_like upper negated readable]
  cases upper with
  | false =>
    rw [if_neg Bool.false_ne_true, List.append_assoc, readAtom_tokens readable, List.append_assoc,
      List.cons_append, readTest_optionalNot (by simp) (by simp), readNegatable, List.cons_append,
      readLike_push false negated within]
    rfl
  | true =>
    rw [if_pos rfl, List.append_assoc, List.append_assoc, List.cons_append, List.cons_append,
      List.append_assoc, List.singleton_append, readAtom_upper readable]
    cases negated <;> simp [optionalNot, readKeyword_token, readLike_push true _ within]

theorem read_membership {members : List Value} (negated : Bool) (readable : column.Readable) :
    Token.read ((Condition.membership column members negated).rendered params).1 =
      column.tokens ++ (optionalNot negated ++ Keyword.in.token :: .mark '(' ::
        (Token.read (", ".intercalate (boundAll members params).1) ++ [.mark ')'])) := by
  change Token.read (column.text ++ (if negated then " NOT IN " else " IN ") ++
    Condition.parenthesized (", ".intercalate (boundAll members params).1)) = _
  have words : Token.read (if negated then " NOT IN " else " IN ") = optionalNot negated ++ [Keyword.in.token] := by
    cases negated <;> decide
  have apart : Token.isGlue (if negated then " NOT IN " else " IN ") = true := by
    cases negated <;> decide
  rw [Token.read_glued _ _ apart, words, Column.read_text readable, Token.read_parenthesized]
  simp

theorem membership_reads {members : List Value} (negated : Bool) (readable : column.Readable) (nonempty : members ≠ [])
    (within : (boundAll members params).2.toList <+: values) :
    ReadsAs values .operand (Token.read ((Condition.membership column members negated).rendered params).1)
      fun atom => (Condition.membership column members negated).truth atom := by
  refine ReadsAs.atom fun rest => ?_
  have listed := readHoles_boundAll nonempty within rest
  rw [read_membership negated readable, List.append_assoc, readAtom_tokens readable, List.append_assoc, List.cons_append,
    readTest_optionalNot (by simp) (by simp), readNegatable]
  simp [readLike, readMembership, readKeyword_token, readMark, listed]

theorem read_between {low high : Value} (negated : Bool) (readable : column.Readable) :
    Token.read ((Condition.between column low high negated).rendered params).1 =
      column.tokens ++ (optionalNot negated ++ [Keyword.between.token, .hole (params.size + 1),
        (Keyword.connector .and).token, .hole ((params.push low).2.size + 1)]) := by
  change Token.read (column.text ++ (if negated then " NOT BETWEEN " else " BETWEEN ") ++ placeholder (params.size + 1) ++
    " AND " ++ placeholder ((params.push low).2.size + 1)) = _
  have words : Token.read (if negated then " NOT BETWEEN " else " BETWEEN ") =
      optionalNot negated ++ [Keyword.between.token] := by
    cases negated <;> decide
  have apart : Token.isGlue (if negated then " NOT BETWEEN " else " BETWEEN ") = true := by
    cases negated <;> decide
  have both : Token.read " AND " = [(Keyword.connector .and).token] := by decide
  rw [Token.read_glued _ _ (by decide), Token.read_glued _ _ apart, words, both, Column.read_text readable,
    Token.read_placeholder, Token.read_placeholder]
  simp

theorem between_reads {low high : Value} (negated : Bool) (readable : column.Readable)
    (within : ((params.push low).2.push high).2.toList <+: values) :
    ReadsAs values .operand (Token.read ((Condition.between column low high negated).rendered params).1)
      fun atom => (Condition.between column low high negated).truth atom := by
  refine ReadsAs.atom fun rest => ?_
  have first := readHole_push ((Params.push_extends high _).trans within)
  rw [read_between negated readable, List.append_assoc, readAtom_tokens readable, List.append_assoc, List.cons_append,
    readTest_optionalNot (by simp) (by simp), readNegatable]
  simp [readLike, readMembership, readBetween, readKeyword_token, first, readHole_push within]

theorem read_always : Token.read (Condition.always.rendered params).1 = [.numeral 1, .operator "=", .numeral 1] := by
  change Token.read "1=1" = _
  decide

theorem always_reads : ReadsAs values .operand (Token.read (Condition.always.rendered params).1)
    fun atom => Condition.always.truth atom := by
  refine ReadsAs.atom fun rest => ?_
  rw [read_always]
  rfl

end Atoms

end RecordFilter
