import LiveLesson.Text.Blank

/-!
Rules on what clients send. A rule that is broken gives a violation: the field, a code, and for some
rules a sentence. Lengths are counted in characters, blanks included.
-/

namespace LiveLesson

inductive RuleCode where
  | range
  | length
  | mustNotBeBlank
  | tooManyOptions
  | optionBlank
  | optionTooLong
  | optionDuplicate
  | choiceRequiresTwoOptions
  | choiceAnswerNotAnOption
  | trueFalseAnswerInvalid
  deriving DecidableEq, Repr

def RuleCode.text : RuleCode → String
  | .range => "range"
  | .length => "length"
  | .mustNotBeBlank => "must_not_be_blank"
  | .tooManyOptions => "too_many_options"
  | .optionBlank => "option_blank"
  | .optionTooLong => "option_too_long"
  | .optionDuplicate => "option_duplicate"
  | .choiceRequiresTwoOptions => "choice_requires_two_options"
  | .choiceAnswerNotAnOption => "choice_answer_not_an_option"
  | .trueFalseAnswerInvalid => "true_false_answer_invalid"

structure Violation where
  field : String
  code : RuleCode
  message : Option String
  deriving DecidableEq, Repr

namespace Violation

/-- The field of a rule on the payload as a whole. -/
def wholePayload : String := "__all__"

def text (v : Violation) : String := v.field ++ ": " ++ v.code.text

end Violation

namespace Rule

def positive (field : String) (n : Int) : List Violation :=
  if 1 ≤ n then [] else [⟨field, .range, some (field ++ " must be a positive integer")⟩]

def lengthWithin (field : String) (least greatest : Nat) (s : String) : List Violation :=
  if least ≤ s.toList.length && s.toList.length ≤ greatest then [] else [⟨field, .length, none⟩]

def notBlank (field : String) (s : String) : List Violation :=
  if Text.isBlankText s then [⟨field, .mustNotBeBlank, none⟩] else []

def textUpTo (field : String) (greatest : Nat) (s : String) : List Violation :=
  lengthWithin field 0 greatest s ++ notBlank field s

/-- Options per question: one per letter. -/
def maxOptions : Nat := 26

def maxOptionLength : Nat := 500

/-- The fault of the first option that has one, given the trimmed options before. -/
def firstOptionFault (seen : List (List Char)) : List String → Option RuleCode
  | [] => none
  | o :: rest =>
    let t := Text.trimChars o.toList
    if t.isEmpty then some .optionBlank
    else if maxOptionLength < t.length then some .optionTooLong
    else if seen.contains t then some .optionDuplicate
    else firstOptionFault (t :: seen) rest

def optionsFault (options : List String) : Option RuleCode :=
  if maxOptions < options.length then some .tooManyOptions else firstOptionFault [] options

def options (field : String) (os : List String) : List Violation :=
  match optionsFault os with
  | some code => [⟨field, code, none⟩]
  | none => []

end Rule

end LiveLesson
