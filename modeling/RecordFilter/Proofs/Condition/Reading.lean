import RecordFilter.Proofs.Condition.Atom

set_option autoImplicit false

namespace RecordFilter

namespace Condition

mutual
def Readable : Condition → Prop
  | all parts | any parts => parts ≠ [] ∧ ReadableParts parts
  | negation inner | group inner => inner.Readable
  | compare column operator _ => column.Readable ∧ operator ∈ comparisons
  | like column _ _ _ | nullness column _ | between column _ _ _ => column.Readable
  | membership column values _ => column.Readable ∧ values ≠ []
  | always => True

def ReadableParts : List Condition → Prop
  | [] => True
  | part :: rest => part.Readable ∧ ReadableParts rest
end

def level : Condition → Level
  | all _ => .chain .and
  | any _ => .chain .or
  | _ => .operand

end Condition

section Rendered

variable {values : List Value}

theorem ReadsAs.parenthesized {level : Level} {text : String} {meaning : (Condition → Truth) → Truth}
    (phrase : ReadsAs values level (Token.read text) meaning) :
    ReadsAs values .operand (Token.read (Condition.parenthesized text)) meaning := by
  rw [Token.read_parenthesized]
  exact phrase.enclosed

theorem ReadsAs.part {part : Condition} {text : String} {meaning : (Condition → Truth) → Truth} (connector : Connector)
    (phrase : ReadsAs values part.level (Token.read text) meaning) :
    ReadsAs values (.chain connector)
      (Token.read (if part.needsParentheses connector then Condition.parenthesized text else text)) meaning := by
  cases connector with
  | and =>
    cases part with
    | any parts => exact phrase.parenthesized.operand .and
    | all parts => exact phrase
    | _ => exact phrase.operand .and
  | or =>
    cases part with
    | any parts => exact phrase
    | all parts => exact phrase.parenthesized.operand .or
    | _ => exact phrase.operand .or

theorem Connector.separator_glue (connector : Connector) : Token.isGlue connector.separator = true := by
  cases connector <;> decide

theorem Connector.read_separator (connector : Connector) :
    Token.read connector.separator = [(Keyword.connector connector).token] := by
  cases connector <;> decide

theorem Condition.renderedParts_singleton (connector : Connector) (part : Condition) (params : Params) :
    (renderedParts connector [part] params).1 =
      [if part.needsParentheses connector then parenthesized (part.rendered params).1 else (part.rendered params).1] := rfl

theorem Condition.renderedParts_cons (connector : Connector) (part : Condition) (rest : List Condition) (params : Params) :
    (renderedParts connector (part :: rest) params).1 =
      (if part.needsParentheses connector then parenthesized (part.rendered params).1 else (part.rendered params).1) ::
        (renderedParts connector rest (part.rendered params).2).1 := rfl

-- A part is rendered before the whole is done, so the values of the whole begin with those of the part. That is all a
-- part has to know about them.
mutual
theorem Condition.rendered_reads (condition : Condition) (readable : condition.Readable) (params : Params)
    (within : (condition.rendered params).2.toList <+: values) :
    ReadsAs values condition.level (Token.read (condition.rendered params).1) fun atom => condition.truth atom := by
  cases condition with
  | all parts => exact renderedParts_reads .and parts readable.1 readable.2 params within
  | any parts => exact renderedParts_reads .or parts readable.1 readable.2 params within
  | negation inner =>
    have phrase := (inner.rendered_reads readable params within).parenthesized.negated
    have spelled : Token.read ((negation inner).rendered params).1 =
        Keyword.not.token :: Token.read (parenthesized (inner.rendered params).1) := by
      change Token.read ("NOT " ++ parenthesized (inner.rendered params).1) = _
      have word : Token.read "NOT " = [Keyword.not.token] := by decide
      rw [Token.read_append (.inl (by decide)), word, List.singleton_append]
    rw [spelled]
    exact phrase
  | group inner => exact (inner.rendered_reads readable params within).parenthesized
  | compare column operator value => exact compare_reads readable.1 readable.2 within
  | like column pattern upper negated => exact like_reads upper negated readable within
  | nullness column isNull => exact nullness_reads isNull readable
  | membership column members negated => exact membership_reads negated readable.1 readable.2 within
  | between column low high negated => exact between_reads negated readable within
  | always => exact always_reads

theorem Condition.renderedParts_reads (connector : Connector) (parts : List Condition) (nonempty : parts ≠ [])
    (readable : ReadableParts parts) (params : Params)
    (within : (renderedParts connector parts params).2.toList <+: values) :
    ReadsAs values (.chain connector) (Token.read (connector.separator.intercalate (renderedParts connector parts params).1))
      fun atom => connector.joined (truths atom parts) := by
  cases parts with
  | nil => exact absurd rfl nonempty
  | cons part rest =>
    have first := (part.rendered_reads readable.1 params ((renderedParts_extends connector rest _).trans within)).part connector
    cases rest with
    | nil =>
      intro after
      obtain ⟨reading, reads, same⟩ := first after
      refine ⟨reading, ?_, fun atom => (same atom).trans (connector.joined_singleton _).symm⟩
      rwa [renderedParts_singleton, String.intercalate_singleton]
    | cons second more =>
      have others := renderedParts_reads connector (second :: more) (by simp) readable.2 _ within
      rw [renderedParts_cons, renderedParts_cons, String.intercalate_cons_cons, Token.read_glued _ _ connector.separator_glue,
        connector.read_separator, List.append_assoc, List.singleton_append]
      exact first.joined connector others
end

end Rendered

def ReadBack (values : List Value) (text : String) (reading : Condition) : Prop :=
  Reads values (.chain .or) (Token.read text) [] reading

theorem ReadBack.unique {values : List Value} {text : String} {reading other : Condition}
    (reads : ReadBack values text reading) (otherReads : ReadBack values text other) : reading = other :=
  (Reads.unique reads otherReads ⟨rfl, rfl⟩ ⟨rfl, rfl⟩).2

theorem Condition.Readable.readBack {condition : Condition} (readable : condition.Readable) (params : Params) :
    ∃ reading, ReadBack (condition.rendered params).2.toList (condition.rendered params).1 reading ∧
      ∀ atom, reading.truth atom = condition.truth atom := by
  obtain ⟨reading, reads, same⟩ := (condition.rendered_reads readable params List.prefix_rfl).whole []
  rw [List.append_nil] at reads
  exact ⟨reading, reads, same⟩

end RecordFilter
