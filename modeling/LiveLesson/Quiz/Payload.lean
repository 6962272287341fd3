import LiveLesson.Quiz.Question
import LiveLesson.Text.Split
import LiveLesson.Validation

/-!
Requests to create a question and to answer one. A request that keeps the rules is stored with
blanks trimmed from its texts. An answer to a choice names options: one of them, or several between
commas.
-/

namespace LiveLesson

structure CreateQuestion where
  courseId : Int
  type : QuestionType
  content : String
  options : List String
  answer : String
  deriving DecidableEq, Repr, Inhabited

structure NewQuestion where
  course : CourseId
  type : QuestionType
  content : String
  options : List String
  answer : String
  deriving DecidableEq, Repr, Inhabited

namespace CreateQuestion

def record : Record CreateQuestion where
  title := "CreateQuestionRequest"
  blank := default
  fields := [
    Field.of "course_id" Wire.int64 courseId fun p x => { p with courseId := x },
    Field.of "type" QuestionType.wire type fun p x => { p with type := x },
    Field.of "content" Wire.string content fun p x => { p with content := x },
    (Field.of "options" (Wire.list Wire.string) options fun p x =>
      { p with options := x }).withDefault,
    Field.of "answer" Wire.string answer fun p x => { p with answer := x }]

def trimmedOptions (p : CreateQuestion) : List (List Char) :=
  p.options.map fun o => Text.trimChars o.toList

def answerUsesOptions (p : CreateQuestion) : Bool :=
  let answer := Text.trimChars p.answer.toList
  if p.type = .multipleChoice then
    (Text.split ',' answer).all fun piece =>
      let choice := Text.trimChars piece
      !choice.isEmpty && p.trimmedOptions.contains choice
  else p.trimmedOptions.contains answer

/-- The rule on the payload as a whole that is broken first. -/
def shapeFault (p : CreateQuestion) : Option RuleCode :=
  let answer := Text.trim p.answer
  if p.type.isChoice && p.options.length < 2 then some .choiceRequiresTwoOptions
  else if p.type.isChoice && !p.answerUsesOptions then some .choiceAnswerNotAnOption
  else if p.type = .trueFalse && !(answer = "true" || answer = "false") then
    some .trueFalseAnswerInvalid
  else none

def fieldViolations (p : CreateQuestion) : List Violation :=
  Rule.textUpTo "answer" 1000 p.answer ++ Rule.textUpTo "content" 4000 p.content ++
    Rule.positive "course_id" p.courseId ++ Rule.options "options" p.options

/-- The payload as a whole is looked at once every field keeps its rules. -/
def violations (p : CreateQuestion) : List Violation :=
  match p.fieldViolations with
  | [] =>
    match p.shapeFault with
    | some code => [⟨Violation.wholePayload, code, none⟩]
    | none => []
  | vs => vs

def toNew (p : CreateQuestion) : NewQuestion where
  course := ⟨p.courseId⟩
  type := p.type
  content := Text.trim p.content
  options := p.options.map Text.trim
  answer := Text.trim p.answer

end CreateQuestion

structure SubmitAnswer where
  questionId : Int
  studentId : Int
  answer : String
  deriving DecidableEq, Repr, Inhabited

structure NewAnswer where
  question : QuestionId
  student : StudentId
  answer : String
  deriving DecidableEq, Repr, Inhabited

namespace SubmitAnswer

def record : Record SubmitAnswer where
  title := "SubmitAnswerRequest"
  blank := default
  fields := [
    Field.of "question_id" Wire.int64 questionId fun p x => { p with questionId := x },
    Field.of "student_id" Wire.int64 studentId fun p x => { p with studentId := x },
    Field.of "answer" Wire.string answer fun p x => { p with answer := x }]

def violations (p : SubmitAnswer) : List Violation :=
  Rule.textUpTo "answer" 1000 p.answer ++ Rule.positive "question_id" p.questionId ++
    Rule.positive "student_id" p.studentId

def toNew (p : SubmitAnswer) : NewAnswer where
  question := ⟨p.questionId⟩
  student := ⟨p.studentId⟩
  answer := Text.trim p.answer

end SubmitAnswer

end LiveLesson
