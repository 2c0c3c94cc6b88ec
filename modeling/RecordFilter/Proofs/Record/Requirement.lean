import RecordFilter.Proofs.Record.Reading

set_option autoImplicit false

namespace RecordFilter.Record

structure Requirement where
  met : Bool
  fault : Fault
deriving DecidableEq

def firstFault (requirements : List Requirement) : Option Fault :=
  (requirements.find? fun requirement => !requirement.met).map Requirement.fault

def AllMet (requirements : List Requirement) : Prop := ∀ requirement ∈ requirements, requirement.met = true

@[simp]
theorem firstFault_nil : firstFault [] = none := rfl

@[simp]
theorem firstFault_cons (requirement : Requirement) (rest : List Requirement) :
    firstFault (requirement :: rest) = if requirement.met then firstFault rest else some requirement.fault := by
  rw [firstFault, List.find?_cons]
  cases met : requirement.met <;> simp [firstFault]

theorem firstFault_append (before after : List Requirement) :
    firstFault (before ++ after) = (firstFault before).or (firstFault after) := by
  simp only [firstFault, List.find?_append, Option.map_or]

@[simp]
theorem allMet_nil : AllMet [] := List.forall_mem_nil _

@[simp]
theorem allMet_cons (requirement : Requirement) (rest : List Requirement) :
    AllMet (requirement :: rest) ↔ requirement.met = true ∧ AllMet rest := List.forall_mem_cons

@[simp]
theorem allMet_append (before after : List Requirement) : AllMet (before ++ after) ↔ AllMet before ∧ AllMet after :=
  List.forall_mem_append

theorem allMet_flatMap {α : Type} (items : List α) (requirements : α → List Requirement) :
    AllMet (items.flatMap requirements) ↔ ∀ item ∈ items, AllMet (requirements item) := by
  simp only [AllMet, List.mem_flatMap]
  exact ⟨fun met item held requirement member => met requirement ⟨item, held, member⟩,
    fun met requirement ⟨item, held, member⟩ => met item held requirement member⟩

theorem firstFault_eq_none (requirements : List Requirement) : firstFault requirements = none ↔ AllMet requirements := by
  simp [firstFault, AllMet]

section Judgement

variable {α β σ : Type}

def faultOf : Except Fault α → Option Fault
  | .ok _ => none
  | .error fault => some fault

@[simp]
theorem faultOf_ok (value : α) : faultOf (.ok value) = none := rfl

@[simp]
theorem faultOf_error (fault : Fault) : faultOf (.error fault : Except Fault α) = some fault := rfl

@[simp]
theorem faultOf_map (value : α → β) (outcome : Except Fault α) : faultOf (value <$> outcome) = faultOf outcome := by
  cases outcome <;> rfl

theorem faultOf_eq_none (outcome : Except Fault α) : faultOf outcome = none ↔ ∃ value, outcome = .ok value := by
  cases outcome <;> simp [faultOf]

theorem faultOf_eq_some (outcome : Except Fault α) (fault : Fault) :
    faultOf outcome = some fault ↔ outcome = .error fault := by
  cases outcome <;> simp [faultOf]

def Judges (requirements : List Requirement) (outcome : Except Fault α) : Prop := faultOf outcome = firstFault requirements

namespace Judges

variable {requirements before after : List Requirement} {outcome : Except Fault α}

theorem accepted (judges : Judges requirements outcome) : (∃ value, outcome = .ok value) ↔ AllMet requirements := by
  rw [← faultOf_eq_none, judges, firstFault_eq_none]

theorem refused (judges : Judges requirements outcome) (fault : Fault) :
    outcome = .error fault ↔ firstFault requirements = some fault := by
  rw [← faultOf_eq_some, judges]

theorem ok (value : α) : Judges [] (.ok value : Except Fault α) := rfl

theorem met (judges : Judges requirements outcome) (fault : Fault) : Judges (⟨true, fault⟩ :: requirements) outcome :=
  judges

theorem unmet (fault : Fault) (requirements : List Requirement) :
    Judges (⟨false, fault⟩ :: requirements) (.error fault : Except Fault α) := rfl

theorem bind {next : α → Except Fault β} (first : Judges before outcome)
    (onward : ∀ value, outcome = .ok value → Judges after (next value)) : Judges (before ++ after) (outcome >>= next) := by
  rw [Judges, firstFault_append, ← first]
  cases outcome with
  | error fault => rfl
  | ok value => exact onward value rfl

theorem map {value : α → β} (first : Judges before outcome) :
    Judges before (do let got ← outcome; return value got) := by
  have whole : Judges (before ++ []) (do let got ← outcome; return value got) := first.bind fun got _ => ok (value got)
  rwa [List.append_nil] at whole

end Judges

end Judgement

def Part.requirements (required : Item → List Requirement) (part : Part) : List Requirement :=
  match Item.ofPart part with
  | .ok item => required item
  | .error fault => [⟨false, fault⟩]

theorem Part.allMet_requirements {required : Item → List Requirement} {part : Part} :
    AllMet (part.requirements required) ↔ ∃ item, Item.ofPart part = .ok item ∧ AllMet (required item) := by
  rw [requirements]
  cases Item.ofPart part <;> simp

namespace Annotation

def isList (note : Annotation) : Bool :=
  match note.tail with
  | .group _ _ :: _ => true
  | _ => false

def requirements (required : Item → List Requirement) (note : Annotation) : List Requirement :=
  ⟨!note.tail.isEmpty, .missingArguments⟩ :: ⟨note.isList, .assignedArguments⟩ ::
    note.parts.flatMap (Part.requirements required)

theorem allMet_requirements {required : Item → List Requirement} {note : Annotation} :
    AllMet (note.requirements required) ↔ note.isList = true ∧
      ∀ part ∈ note.parts, ∃ item, Item.ofPart part = .ok item ∧ AllMet (required item) := by
  have given (bracketed : note.isList = true) : note.tail.isEmpty = false := by
    rw [isList] at bracketed
    split at bracketed
    · rename_i tail
      rw [tail]
      rfl
    · cases bracketed
  simp only [requirements, allMet_cons, allMet_flatMap, Part.allMet_requirements, Bool.not_eq_true']
  exact ⟨fun met => met.2, fun met => ⟨given met.1, met⟩⟩

end Annotation

def requirementsOf (required : Item → List Requirement) (annotations : List Annotation) : List Requirement :=
  (annotations.filter Annotation.isOwn).flatMap fun note => note.requirements required

section Reading

variable {σ : Type} {read : σ → Item → Except Fault σ} {required : Item → List Requirement}

theorem Part.requirements_judged {part : Part} {state : σ}
    (judges : ∀ item, Item.ofPart part = .ok item → Judges (required item) (read state item)) :
    Judges (part.requirements required) (Item.ofPart part >>= read state) := by
  rw [requirements]
  cases opened : Item.ofPart part with
  | error fault => exact .unmet fault []
  | ok item => exact judges item opened

theorem readParts_cons (state : σ) (part : Part) (rest : List Part) :
    readParts read state (part :: rest) = (Item.ofPart part >>= read state) >>= fun next => readParts read next rest := by
  rw [readParts, bind_assoc]

theorem Annotation.arguments_judged (note : Annotation) :
    Judges [⟨!note.tail.isEmpty, .missingArguments⟩, ⟨note.isList, .assignedArguments⟩] note.arguments := by
  obtain ⟨path, tail⟩ := note
  cases tail with
  | nil => rfl
  | cons token rest => cases token <;> rfl

theorem readParts_judged (judges : ∀ state item, Judges (required item) (read state item)) (state : σ)
    (parts : List Part) : Judges (parts.flatMap (Part.requirements required)) (readParts read state parts) := by
  induction parts generalizing state with
  | nil => exact .ok state
  | cons part rest ih =>
    rw [List.flatMap_cons, readParts_cons]
    exact (Part.requirements_judged fun item _ => judges state item).bind fun next _ => ih next

theorem readAnnotations_judged (judges : ∀ state item, Judges (required item) (read state item)) (state : σ)
    (annotations : List Annotation) :
    Judges (requirementsOf required annotations) (readAnnotations read state annotations) := by
  induction annotations generalizing state with
  | nil => exact .ok state
  | cons note rest ih =>
    rw [readAnnotations]
    cases own : note.isOwn with
    | false =>
      rw [requirementsOf, List.filter_cons_of_neg (by simp [own])]
      exact ih state
    | true =>
      rw [requirementsOf, List.filter_cons_of_pos own, List.flatMap_cons, if_pos rfl, ← bind_assoc]
      refine Judges.bind ?_ fun next _ => ih next
      refine note.arguments_judged.bind fun tokens opened => ?_
      rw [readItems, Annotation.arguments_ok opened]
      exact readParts_judged judges state note.parts

end Reading

end RecordFilter.Record
