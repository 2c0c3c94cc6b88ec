import RecordFilter.Proofs.Condition.Reading

set_option autoImplicit false

namespace RecordFilter

def columnsIn : List Token → List Column
  | .word source :: .mark '.' :: .word name :: rest => ⟨source, name⟩ :: columnsIn rest
  | _ :: rest => columnsIn rest
  | [] => []

-- A dot in front would go on with a name before.
structure Names (tokens : List Token) (columns : List Column) : Prop where
  begins : tokens.head? ≠ some (.mark '.')
  columns : ∀ rest, rest.head? ≠ some (.mark '.') → columnsIn (tokens ++ rest) = columns ++ columnsIn rest

namespace Names

variable {tokens left right : List Token} {first second : List Column}

theorem nil : Names [] [] := ⟨nofun, fun _ _ => rfl⟩

theorem append (before : Names left first) (after : Names right second) : Names (left ++ right) (first ++ second) := by
  constructor
  · rw [List.head?_append]
    cases begun : left.head? with
    | none => exact after.begins
    | some token =>
      rw [Option.some_or, ← begun]
      exact before.begins
  · intro rest apart
    have between : (right ++ rest).head? ≠ some (.mark '.') := by
      rw [List.head?_append]
      cases begun : right.head? with
      | none => exact apart
      | some token =>
        rw [Option.some_or, ← begun]
        exact after.begins
    rw [List.append_assoc, before.columns _ between, after.columns rest apart, List.append_assoc]

theorem cons {token : Token} (other : token ≠ .mark '.') (names : Names tokens first) : Names (token :: tokens) first := by
  have single : Names [token] [] := by
    refine ⟨fun same => other (Option.some.inj same), fun rest apart => ?_⟩
    refine columnsIn.eq_2 token rest fun source name more _ same => apart ?_
    rw [same]
    rfl
  exact single.append names

theorem plain (each : ∀ token ∈ tokens, token ≠ .mark '.') : Names tokens [] := by
  induction tokens with
  | nil => exact nil
  | cons token rest ih =>
    rw [List.forall_mem_cons] at each
    exact (ih each.2).cons each.1

theorem column (column : Column) : Names column.tokens [column] := ⟨nofun, fun _ _ => rfl⟩

theorem read_all (names : Names tokens first) : columnsIn tokens = first := by
  have whole := names.columns [] nofun
  rwa [List.append_nil, columnsIn, List.append_nil] at whole

theorem intercalate_cons {separator text : String} {texts : List String} (glue : Token.isGlue separator = true)
    (between : Names (Token.read separator) []) (head : Names (Token.read text) first)
    (tail : Names (Token.read (separator.intercalate texts)) second) :
    Names (Token.read (separator.intercalate (text :: texts))) (first ++ second) := by
  cases texts with
  | nil =>
    obtain rfl : [] = second := tail.read_all
    rwa [String.intercalate_singleton, List.append_nil]
  | cons next more =>
    rw [String.intercalate_cons_cons, Token.read_glued _ _ glue, List.append_assoc]
    exact head.append (between.append tail)

end Names

namespace Condition

mutual
def columns : Condition → List Column
  | all parts | any parts => columnsOf parts
  | negation inner | group inner => inner.columns
  | compare column _ _ | like column _ _ _ | nullness column _ | membership column _ _ | between column _ _ _ => [column]
  | always => []

def columnsOf : List Condition → List Column
  | [] => []
  | part :: rest => part.columns ++ columnsOf rest
end

mutual
def IsSpelled : Condition → Prop
  | all parts | any parts => AreSpelled parts
  | negation inner | group inner => inner.IsSpelled
  | compare column operator _ => column.Readable ∧ operator ∈ comparisons
  | like column _ _ _ | nullness column _ | membership column _ _ | between column _ _ _ => column.Readable
  | always => True

def AreSpelled : List Condition → Prop
  | [] => True
  | part :: rest => part.IsSpelled ∧ AreSpelled rest
end

theorem boundAll_names (values : List Value) (params : Params) :
    Names (Token.read (", ".intercalate (boundAll values params).1)) [] := by
  induction values generalizing params with
  | nil => exact .nil
  | cons value rest ih =>
    have first : Names (Token.read (placeholder (params.size + 1))) [] := by
      rw [Token.read_placeholder]
      exact .plain (by simp)
    exact .intercalate_cons (by decide) (.plain (by decide)) first (ih (params.push value).2)

theorem parenthesized_names {text : String} {columns : List Column} (names : Names (Token.read text) columns) :
    Names (Token.read (parenthesized text)) columns := by
  rw [Token.read_parenthesized]
  have whole := (names.append (.plain (by decide) : Names [.mark ')'] [])).cons (by decide : Token.mark '(' ≠ .mark '.')
  rwa [List.append_nil] at whole

theorem optionalNot_names (negated : Bool) {tokens : List Token} {columns : List Column} (names : Names tokens columns) :
    Names (optionalNot negated ++ tokens) columns := by
  cases negated with
  | false => exact names
  | true => exact names.cons (by decide)

mutual
theorem rendered_names (condition : Condition) (spelled : condition.IsSpelled) (params : Params) :
    Names (Token.read (condition.rendered params).1) condition.columns := by
  cases condition with
  | all parts => exact renderedParts_names .and parts spelled params
  | any parts => exact renderedParts_names .or parts spelled params
  | negation inner =>
    have names := parenthesized_names (inner.rendered_names spelled params)
    change Names (Token.read ("NOT " ++ parenthesized (inner.rendered params).1)) _
    have word : Token.read "NOT " = [Keyword.not.token] := by decide
    rw [Token.read_append (.inl (by decide)), word]
    exact names.cons (by decide)
  | group inner => exact parenthesized_names (inner.rendered_names spelled params)
  | compare column operator value =>
    rw [read_compare spelled.1 spelled.2]
    exact (Names.column column).append (.plain (by simp))
  | like column pattern upper negated =>
    rw [read_like upper negated spelled]
    have subject : Names (if upper then .word "UPPER" :: .mark '(' :: (column.tokens ++ [.mark ')']) else column.tokens)
        [column] := by
      cases upper with
      | false => exact .column column
      | true =>
        have closed := (Names.column column).append (.plain (by decide) : Names [.mark ')'] [])
        exact (closed.cons (by decide)).cons (by decide)
    exact subject.append (optionalNot_names negated (.plain (by simp [Keyword.token])))
  | nullness column isNull =>
    rw [read_nullness isNull spelled]
    exact (Names.column column).append ((optionalNot_names _ (.plain (by decide))).cons (by decide))
  | membership column values negated =>
    rw [read_membership negated spelled]
    have listed := (boundAll_names values params).append (.plain (by decide) : Names [.mark ')'] [])
    refine (Names.column column).append (optionalNot_names negated ?_)
    exact (listed.cons (by decide)).cons (by decide)
  | between column low high negated =>
    rw [read_between negated spelled]
    exact (Names.column column).append (optionalNot_names negated (.plain (by simp [Keyword.token])))
  | always =>
    rw [read_always]
    exact .plain (by decide)

theorem renderedParts_names (connector : Connector) (parts : List Condition) (spelled : AreSpelled parts) (params : Params) :
    Names (Token.read (connector.separator.intercalate (renderedParts connector parts params).1)) (columnsOf parts) := by
  cases parts with
  | nil => exact .nil
  | cons part rest =>
    have first : Names (Token.read (if part.needsParentheses connector then parenthesized (part.rendered params).1
        else (part.rendered params).1)) part.columns := by
      split
      · exact parenthesized_names (part.rendered_names spelled.1 params)
      · exact part.rendered_names spelled.1 params
    rw [renderedParts_cons]
    exact .intercalate_cons connector.separator_glue (.plain (by cases connector <;> decide)) first
      (renderedParts_names connector rest spelled.2 (part.rendered params).2)
end

end Condition

end RecordFilter
