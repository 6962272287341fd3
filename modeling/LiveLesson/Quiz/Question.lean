import LiveLesson.Identifier
import LiveLesson.Time.Wire
import LiveLesson.Wire.Record

/-!
Quiz questions and what is known of their answers. Students are shown a question without its correct
answer; the result counts the answers given and the correct ones among them.
-/

namespace LiveLesson

inductive QuestionType where
  | singleChoice
  | multipleChoice
  | trueFalse
  | shortAnswer
  deriving DecidableEq, Repr, Inhabited

namespace QuestionType

def text : QuestionType → String
  | .singleChoice => "single_choice"
  | .multipleChoice => "multiple_choice"
  | .trueFalse => "true_false"
  | .shortAnswer => "short_answer"

def named : List (String × QuestionType) := [
  ("single_choice", .singleChoice), ("multiple_choice", .multipleChoice),
  ("true_false", .trueFalse), ("short_answer", .shortAnswer)]

def ofText? (s : String) : Option QuestionType := named.lookup s

def unknownMessage (s : String) : String := "unknown question type: " ++ s

def isChoice : QuestionType → Bool
  | .singleChoice => true
  | .multipleChoice => true
  | _ => false

def wire : Wire QuestionType := Wire.oneOf named text

theorem ofText?_text (t : QuestionType) : ofText? t.text = some t := by cases t <;> rfl

end QuestionType

structure Question where
  id : QuestionId
  course : CourseId
  type : QuestionType
  content : String
  options : List String
  answer : String
  createdAt : Timestamp
  deriving DecidableEq, Repr, Inhabited

namespace Question

def record : Record Question where
  title := "Question"
  blank := default
  fields := [
    Field.of "id" Id.wire id fun q x => { q with id := x },
    Field.of "course_id" Id.wire course fun q x => { q with course := x },
    Field.of "type" QuestionType.wire type fun q x => { q with type := x },
    Field.of "content" Wire.string content fun q x => { q with content := x },
    Field.of "options" (Wire.list Wire.string) options fun q x => { q with options := x },
    Field.of "answer" Wire.string answer fun q x => { q with answer := x },
    Field.of "created_at" Timestamp.wire createdAt fun q x => { q with createdAt := x }]

end Question

structure QuestionView where
  id : QuestionId
  course : CourseId
  type : QuestionType
  content : String
  options : List String
  deriving DecidableEq, Repr, Inhabited

namespace QuestionView

def record : Record QuestionView where
  title := "QuestionPushResponse"
  blank := default
  fields := [
    Field.of "id" Id.wire id fun q x => { q with id := x },
    Field.of "course_id" Id.wire course fun q x => { q with course := x },
    Field.of "type" QuestionType.wire type fun q x => { q with type := x },
    Field.of "content" Wire.string content fun q x => { q with content := x },
    ((Field.of "options" (Wire.list Wire.string) options
      fun q x => { q with options := x }).withDefault).omittedWhen fun q => q.options.isEmpty]

end QuestionView

def Question.view (q : Question) : QuestionView := ⟨q.id, q.course, q.type, q.content, q.options⟩

structure Tally where
  question : QuestionId
  total : Int
  correct : Int
  deriving DecidableEq, Repr, Inhabited

namespace Tally

def record : Record Tally where
  title := "QuestionResult"
  blank := default
  fields := [
    Field.of "question_id" Id.wire question fun t x => { t with question := x },
    Field.of "total" Wire.int64 total fun t x => { t with total := x },
    Field.of "correct" Wire.int64 correct fun t x => { t with correct := x }]

end Tally

end LiveLesson
