import RecordFilter.Proofs.Condition.Grammar

set_option autoImplicit false

namespace RecordFilter

def ReadsAs (values : List Value) (level : Level) (tokens : List Token) (meaning : (Condition → Truth) → Truth) : Prop :=
  ∀ rest, ∃ reading, Reads values level (tokens ++ rest) rest reading ∧ ∀ atom, reading.truth atom = meaning atom

section Phrases

variable {values : List Value} {tokens left right : List Token} {meaning first second : (Condition → Truth) → Truth}

theorem ReadsAs.single (connector : Connector) (phrase : ReadsAs values connector.operands tokens meaning) :
    ReadsAs values (.chain connector) tokens meaning := by
  intro rest
  obtain ⟨reading, reads, same⟩ := phrase rest
  exact ⟨reading, .single connector _ rest reading reads, same⟩

theorem ReadsAs.operand (connector : Connector) (phrase : ReadsAs values .operand tokens meaning) :
    ReadsAs values (.chain connector) tokens meaning := by
  cases connector with
  | and => exact phrase.single .and
  | or => exact (phrase.single .and).single .or

theorem ReadsAs.whole {level : Level} (phrase : ReadsAs values level tokens meaning) :
    ReadsAs values (.chain .or) tokens meaning := by
  cases level with
  | operand => exact phrase.operand .or
  | chain connector =>
    cases connector with
    | and => exact phrase.single .or
    | or => exact phrase

theorem ReadsAs.enclosed {level : Level} (phrase : ReadsAs values level tokens meaning) :
    ReadsAs values .operand (.mark '(' :: tokens ++ [.mark ')']) meaning := by
  intro rest
  obtain ⟨reading, reads, same⟩ := phrase.whole (.mark ')' :: rest)
  refine ⟨.group reading, ?_, same⟩
  simpa using Reads.group _ rest reading reads

theorem ReadsAs.negated (phrase : ReadsAs values .operand tokens meaning) :
    ReadsAs values .operand (Keyword.not.token :: tokens) fun atom => (meaning atom).neg := by
  intro rest
  obtain ⟨reading, reads, same⟩ := phrase rest
  refine ⟨reading.negate, .negation _ _ rest reading (Keyword.keyword?_token .not) reads, fun atom => ?_⟩
  exact congrArg Truth.neg (same atom)

-- A chain continued after its last operand. The grammar nests chains to the right, so the first one is taken apart.
theorem Reads.continued {connector : Connector} {token : Token} {middle rest : List Token} {others : Condition}
    (word : token.keyword? = some (.connector connector)) (onward : Reads values (.chain connector) middle rest others)
    {level : Level} {input after : List Token} {begun : Condition} (reading : Reads values level input after begun)
    (isChain : level = .chain connector) (stops : after = token :: middle) :
    ∃ whole, Reads values (.chain connector) input rest whole ∧
      ∀ atom, whole.truth atom = connector.truth (begun.truth atom) (others.truth atom) := by
  induction reading with
  | atom | negation | group => cases isChain
  | single same input after begun operand ih =>
    cases isChain
    subst stops
    exact ⟨_, .joined connector token input middle rest begun others word operand onward,
      fun atom => Condition.truth_pair atom connector begun others⟩
  | joined same token' input middle' after left right word' operand more operandIH moreIH =>
    cases isChain
    obtain ⟨whole, reads, means⟩ := moreIH rfl stops
    refine ⟨_, .joined connector token' input middle' rest left whole word' operand reads, fun atom => ?_⟩
    rw [Condition.truth_pair, Condition.truth_pair, means, Connector.truth_assoc]

theorem ReadsAs.joined (connector : Connector) (begun : ReadsAs values (.chain connector) left first)
    (onward : ReadsAs values (.chain connector) right second) :
    ReadsAs values (.chain connector) (left ++ (Keyword.connector connector).token :: right)
      fun atom => connector.truth (first atom) (second atom) := by
  intro rest
  obtain ⟨others, readsOthers, sameOthers⟩ := onward rest
  obtain ⟨start, readsStart, sameStart⟩ := begun ((Keyword.connector connector).token :: (right ++ rest))
  obtain ⟨whole, reads, means⟩ := readsOthers.continued (Keyword.keyword?_token _) readsStart rfl rfl
  refine ⟨whole, by simpa using reads, fun atom => ?_⟩
  rw [means, sameStart, sameOthers]

end Phrases

end RecordFilter
